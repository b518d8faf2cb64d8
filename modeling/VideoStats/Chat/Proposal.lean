import VideoStats.Intent.Check
import VideoStats.Json.Basic

namespace VideoStats.Chat

/-- An intent as written by the assistant; absent members are `null`, absent filters `none`. -/
structure Proposal where
  operation : Json
  metric : Json := .null
  dateRange : Json := .null
  timeWindow : Json := .null
  filters : Option Json := none
  deriving Inhabited

inductive Rejection where
  | notObject
  | missingOperation
  | breaks (v : Violation)
  deriving DecidableEq, Repr

def Rejection.message : Rejection → String
  | .notObject => "expected dict"
  | .missingOperation => "missing field: operation"
  | .breaks v => v.message

inductive ProposalError where
  | rejected (r : Rejection)
  | unhashable (kind : String)
  | noField (kind field : String)
  deriving DecidableEq, Repr

def ProposalError.message : ProposalError → String
  | .rejected r => r.message
  | .unhashable kind => "unhashable type: '" ++ kind ++ "'"
  | .noField kind field => "'" ++ kind ++ "' object has no attribute '" ++ field ++ "'"

namespace Proposal

def ofJson (j : Json) : Except ProposalError Proposal :=
  match j with
  | .obj ms =>
    match ms.lookup "operation" with
    | none => .error (.rejected .missingOperation)
    | some op =>
      .ok { operation := op,
            metric := (ms.lookup "metric").getD .null,
            dateRange := (ms.lookup "date_range").getD .null,
            timeWindow := (ms.lookup "time_window").getD .null,
            filters := ms.lookup "filters" }
  | _ => .error (.rejected .notObject)

def operation? (p : Proposal) : Option Operation := p.operation.str?.bind Operation.ofName?

def noField {α : Type} (part : Json) (field : String) : Except ProposalError α :=
  .error (.noField part.kindName field)

def checkHashable (operation : Json) : Except ProposalError Unit :=
  match operation with
  | .arr _ => throw (.unhashable "list")
  | .obj _ => throw (.unhashable "dict")
  | _ => pure ()

def checkMetric (isCount : Bool) (metric : Json) : Except ProposalError Unit :=
  if isCount && !metric.isNull then throw (.rejected (.breaks .metricWithCount))
  else if !isCount && metric.isNull then throw (.rejected (.breaks .metricMissing))
  else pure ()

def checkPublishDays (op : Option Operation) (dateRange : Json) : Except ProposalError Unit :=
  if op == some .countDistinctPublishDays then
    if dateRange.isNull then throw (.rejected (.breaks .publishDaysNeedRange))
    else noField dateRange "scope"
  else pure ()

def checkFilters (filters : Option Json) : Except ProposalError Unit :=
  match filters with
  | some f => noField f "thresholds"
  | none => pure ()

def checkWindow (timeWindow dateRange : Json) : Except ProposalError Unit :=
  if !timeWindow.isNull then
    if dateRange.isNull then throw (.rejected (.breaks .windowNeedsRange))
    else noField dateRange "scope"
  else pure ()

def checkDelta (op : Option Operation) (dateRange : Json) : Except ProposalError Unit :=
  if op.any Operation.isDelta && !dateRange.isNull then noField dateRange "scope" else pure ()

def check (p : Proposal) : Except ProposalError Proposal := do
  checkHashable p.operation
  let op := p.operation?
  checkMetric (op.any Operation.isCount) p.metric
  checkPublishDays op p.dateRange
  checkFilters p.filters
  checkWindow p.timeWindow p.dateRange
  checkDelta op p.dateRange
  pure p

def accept (j : Json) : Except ProposalError Proposal := ofJson j >>= check

def toJson (p : Proposal) : Json :=
  .obj [("operation", p.operation), ("metric", p.metric), ("date_range", p.dateRange),
    ("time_window", p.timeWindow),
    ("filters", p.filters.getD (.obj [("creator_id", .null), ("thresholds", .arr [])]))]

/-- The intent of a proposal that gives only known names and no range, window or filters. -/
def intent? (p : Proposal) : Option Intent := do
  let op ← p.operation?
  let metric ← match p.metric with
    | .null => some none
    | .str s => (Metric.ofName? s).map some
    | _ => none
  if p.dateRange.isNull && p.timeWindow.isNull && p.filters.isNone then
    some { operation := op, metric }
  else none

end Proposal

end VideoStats.Chat
