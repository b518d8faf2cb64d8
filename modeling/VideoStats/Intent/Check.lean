import VideoStats.Intent.Basic

namespace VideoStats

inductive Violation where
  | rangeReversed
  | windowReversed
  | valueOutOfRange
  | metricWithCount
  | metricMissing
  | publishDaysNeedRange
  | publishDaysNeedPublishScope
  | asOfNeedsRange
  | asOfNeedsSnapshotScope
  | windowNeedsRange
  | windowNeedsSnapshotScope
  | windowNeedsSingleDay
  | windowNeedsDeltaOperation
  | deltaNeedsSnapshotScope
  deriving DecidableEq, Repr

def Violation.message : Violation → String
  | .rangeReversed => "start_date must be <= end_date"
  | .windowReversed => "start_time must be <= end_time"
  | .valueOutOfRange => "value is out of supported BIGINT range"
  | .metricWithCount => "metric must be null for count operations"
  | .metricMissing => "metric is required for metric-based operations"
  | .publishDaysNeedRange => "date_range is required for operation=count_distinct_publish_days"
  | .publishDaysNeedPublishScope =>
    "count_distinct_publish_days requires date_range.scope=videos_published_at"
  | .asOfNeedsRange => "snapshot_as_of thresholds require a date_range"
  | .asOfNeedsSnapshotScope =>
    "snapshot_as_of thresholds require date_range.scope=snapshots_created_at"
  | .windowNeedsRange => "time_window requires a date_range"
  | .windowNeedsSnapshotScope => "time_window requires date_range.scope=snapshots_created_at"
  | .windowNeedsSingleDay => "time_window requires a single-day date_range"
  | .windowNeedsDeltaOperation => "time_window is only supported for snapshot-based operations"
  | .deltaNeedsSnapshotScope => "delta operations require date_range.scope=snapshots_created_at"

def bigintMin : Int := -(Int.pow 2 63)
def bigintMax : Int := Int.pow 2 63 - 1

def DateRange.check (r : DateRange) : Except Violation DateRange :=
  if r.stop < r.start then .error .rangeReversed else .ok r

def TimeWindow.check (w : TimeWindow) : Except Violation TimeWindow :=
  if w.stop < w.start then .error .windowReversed else .ok w

def Threshold.check (t : Threshold) : Except Violation Threshold :=
  if t.value < bigintMin ∨ bigintMax < t.value then .error .valueOutOfRange else .ok t

namespace Intent

def hasAsOf (i : Intent) : Bool := i.filters.thresholds.any (·.basis == .snapshotAsOf)

/-- The first rule of whole intents that `i` breaks. -/
def semanticIssue? (i : Intent) : Option Violation :=
  let scopeIs (s : Scope) : Bool := match i.dateRange with
    | some r => r.scope == s
    | none => false
  if i.operation.isCount && i.metric.isSome then some .metricWithCount
  else if !i.operation.isCount && i.metric.isNone then some .metricMissing
  else if i.operation == .countDistinctPublishDays && i.dateRange.isNone then
    some .publishDaysNeedRange
  else if i.operation == .countDistinctPublishDays && !scopeIs .videosPublishedAt then
    some .publishDaysNeedPublishScope
  else if i.hasAsOf && i.dateRange.isNone then some .asOfNeedsRange
  else if i.hasAsOf && !scopeIs .snapshotsCreatedAt then some .asOfNeedsSnapshotScope
  else if i.timeWindow.isSome && i.dateRange.isNone then some .windowNeedsRange
  else if i.timeWindow.isSome && !scopeIs .snapshotsCreatedAt then some .windowNeedsSnapshotScope
  else if i.timeWindow.isSome && !(i.dateRange.map fun r => r.start == r.stop).getD false then
    some .windowNeedsSingleDay
  else if i.timeWindow.isSome && !i.operation.isDelta then some .windowNeedsDeltaOperation
  else if i.operation.isDelta && i.dateRange.isSome && !scopeIs .snapshotsCreatedAt then
    some .deltaNeedsSnapshotScope
  else none

def checkSemantics (i : Intent) : Except Violation Intent :=
  match i.semanticIssue? with
  | some v => .error v
  | none => .ok i

/-- All rules, in order: the range of days, the window of time, each threshold, the whole. -/
def validate (i : Intent) : Except Violation Intent := do
  if let some r := i.dateRange then discard r.check
  if let some w := i.timeWindow then discard w.check
  for t in i.filters.thresholds do discard t.check
  i.checkSemantics

end Intent

end VideoStats
