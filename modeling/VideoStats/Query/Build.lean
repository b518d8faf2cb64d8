import VideoStats.Query.Basic
import VideoStats.Intent.Check
import VideoStats.DateText.Range
/-!
The query of an intent. Days become half-open intervals of moments; a query that needs the
day after the calendar's last is not built.
-/

namespace VideoStats

namespace Query

inductive BuildError where
  | metricNotExpected (op : Operation)
  | metricRequired (op : Operation)
  | rangeRequired
  | peaksNeedRange
  | peaksNeedSnapshotScope
  | calendar (e : Day.Error)
  deriving Repr

def BuildError.message : BuildError → String
  | .metricNotExpected op => op.name ++ " expects metric=null"
  | .metricRequired op => op.name ++ " requires a metric"
  | .rangeRequired => "count_distinct_publish_days requires a date_range"
  | .peaksNeedRange => "snapshot_as_of thresholds require date_range"
  | .peaksNeedSnapshotScope => "snap_max CTE requires snapshots_created_at scope"
  | .calendar e => e.message

/-- The half-open interval of moments of an inclusive range of days. -/
def interval (r : DateRange) : Except BuildError (Moment × Moment) :=
  (DateText.halfOpen r.start r.stop).mapError .calendar

def peakWindow? (i : Intent) : Except BuildError (Option (Moment × Moment)) :=
  if !i.hasAsOf then pure none
  else match i.dateRange with
    | none => throw .peaksNeedRange
    | some r =>
      if r.scope != .snapshotsCreatedAt then throw .peaksNeedSnapshotScope
      else some <$> interval r

def Threshold.condition (t : Threshold) : Condition :=
  let table := match t.basis with
    | .finalTotal => Alias.videos
    | .snapshotAsOf => Alias.peaks
  .compare ⟨table, t.metric.column⟩ t.op (.int t.value)

def thresholdConditions (i : Intent) : List Condition :=
  ((i.filters.thresholds.filter (·.basis == .finalTotal)) ++
    (i.filters.thresholds.filter (·.basis == .snapshotAsOf))).map Threshold.condition

def creatorCondition (i : Intent) : List Condition :=
  match i.filters.creator with
  | some c => [.compare ⟨.videos, "creator_id"⟩ .eq (.text c)]
  | none => []

def videoDates (i : Intent) (peaks : Bool) : Except BuildError (List Condition) :=
  match i.dateRange with
  | none => pure []
  | some r =>
    match r.scope with
    | .videosPublishedAt => do
      let (lo, hi) ← interval r
      pure [Condition.during ⟨.videos, "video_created_at"⟩ lo hi]
    | .snapshotsCreatedAt =>
      if peaks then pure []
      else do
        let (lo, hi) ← interval r
        pure [Condition.snapshotDuring lo hi]

def overVideos (i : Intent) (agg : Aggregate) : Except BuildError Query := do
  let peaks ← peakWindow? i
  let dates ← videoDates i peaks.isSome
  pure ⟨peaks, agg, .videos, creatorCondition i ++ dates ++ thresholdConditions i⟩

def snapshotDates (i : Intent) : Except BuildError (List Condition) :=
  match i.dateRange with
  | none => pure []
  | some r =>
    match i.timeWindow with
    | none => do
      let (lo, hi) ← interval r
      pure [Condition.during ⟨.snapshots, "created_at"⟩ lo hi]
    | some w =>
      pure [Condition.between ⟨.snapshots, "created_at"⟩ ⟨r.start, w.start⟩ ⟨r.start, w.stop⟩]

def overSnapshots (i : Intent) (first : List Condition) (agg : Aggregate) :
    Except BuildError Query := do
  let peaks ← peakWindow? i
  let dates ← snapshotDates i
  pure ⟨peaks, agg, .snapshots, first ++ dates ++ creatorCondition i ++ thresholdConditions i⟩

def needMetric (i : Intent) : Except BuildError Metric :=
  match i.metric with
  | some m => pure m
  | none => throw (.metricRequired i.operation)

/-- The query of an intent. -/
def build (i : Intent) : Except BuildError Query := do
  match i.operation with
  | .countVideos =>
    if i.metric.isSome then throw (.metricNotExpected .countVideos)
    overVideos i .rows
  | .countDistinctCreators =>
    if i.metric.isSome then throw (.metricNotExpected .countDistinctCreators)
    overVideos i .distinctCreators
  | .countDistinctPublishDays =>
    if i.metric.isSome then throw (.metricNotExpected .countDistinctPublishDays)
    if i.dateRange.isNone then throw .rangeRequired
    overVideos i .distinctPublishDays
  | .sumTotalMetric =>
    let m ← needMetric i
    overVideos i (.total ⟨.videos, m.column⟩)
  | .sumDeltaMetric =>
    let m ← needMetric i
    overSnapshots i [] (.total ⟨.snapshots, m.deltaColumn⟩)
  | .countDistinctVideosWithPositiveDelta =>
    let m ← needMetric i
    overSnapshots i [.sign ⟨.snapshots, m.deltaColumn⟩ .gt] .distinctVideos
  | .countSnapshotsWithNegativeDelta =>
    let m ← needMetric i
    overSnapshots i [.sign ⟨.snapshots, m.deltaColumn⟩ .lt] .rows

end Query

end VideoStats
