import VideoStats.Question.Cue
import VideoStats.Question.Filter
import VideoStats.DateText.Range
import VideoStats.Text.Normal
/-!
Reading a question into an intent by fixed rules. A broken part of the intent, or a day the
calendar lacks, is an error and not a refusal.
-/

namespace VideoStats.Question

open Text Vocabulary

inductive Refusal where
  | empty
  | ambiguousTerm
  | unsupported
  | asOfWithoutDate
  | metricUnclear
  | breaksRule (v : Violation)
  deriving DecidableEq, Repr

def Refusal.message : Refusal → String
  | .empty => "empty input"
  | .ambiguousTerm => "ambiguous/unsupported metric term"
  | .unsupported => "unsupported query"
  | .asOfWithoutDate => "as-of threshold requires a date"
  | .metricUnclear => "metric is required/ambiguous"
  | .breaksRule v => v.message

inductive ReadError where
  | refused (r : Refusal)
  | invalid (v : Violation)
  | calendar (e : Day.Error)
  deriving Repr

def scopeFor (op : Operation) (asOf : Bool) : Scope :=
  if asOf && (op == .countVideos || op == .countDistinctCreators || op == .sumTotalMetric) then
    .snapshotsCreatedAt
  else if op == .countVideos || op == .countDistinctCreators ||
      op == .countDistinctPublishDays || op == .sumTotalMetric then
    .videosPublishedAt
  else .snapshotsCreatedAt

def daysOf (dates : DateText.Parser) (now : Moment) (text t : String) :
    Except ReadError (Option (Day × Day)) :=
  if isAllTime t then pure none else (DateText.dayRange dates now text).mapError .calendar

def rangeFor (op : Operation) (asOf : Bool) :
    Option (Day × Day) → Except ReadError (Option DateRange)
  | some (a, b) => ((DateRange.check ⟨scopeFor op asOf, a, b⟩).map some).mapError .invalid
  | none => if asOf then throw (.refused .asOfWithoutDate) else pure none

def metricFor (op : Operation) (t : String) : Except ReadError (Option Metric) :=
  if op.isCount then pure none
  else match singleMetric? t with
    | some m => pure (some m)
    | none => throw (.refused .metricUnclear)

def windowFor (op : Operation) (t : String) : Except ReadError (Option TimeWindow) :=
  if op.isDelta then (timeWindow? t).mapError .invalid else pure none

/-- Read a question into an intent, with relative dates measured from `now`. -/
def readIntent (dates : DateText.Parser) (now : Moment) (text : String) :
    Except ReadError Intent := do
  let t := normalize text
  if t.isEmpty then throw (.refused .empty)
  if hasAmbiguousTerm t then throw (.refused .ambiguousTerm)
  let some op := operation? t | throw (.refused .unsupported)
  let asOf := isAsOf t
  let ts ← (thresholds (if asOf then .snapshotAsOf else .finalTotal) t).mapError .invalid
  let days ← daysOf dates now text t
  let range ← rangeFor op asOf days
  let metric ← metricFor op t
  let window ← windowFor op t
  let intent : Intent :=
    { operation := op, metric, dateRange := range, timeWindow := window,
      filters := { creator := creator? t, thresholds := ts } }
  (intent.checkSemantics).mapError fun v => .refused (.breaksRule v)

end VideoStats.Question
