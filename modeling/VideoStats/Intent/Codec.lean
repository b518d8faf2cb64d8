import VideoStats.Intent.Basic
import VideoStats.Json.Basic
import VideoStats.Text.Blank

namespace VideoStats

inductive DecodeProblem where
  | expectedObject
  | expectedList
  | expectedString
  | expectedInteger
  | unknownField (key : String)
  | missing (key : String)
  | invalidValue
  | invalidDate
  | invalidTime
  | inclusiveMustBeTrue
  deriving DecidableEq, Repr

structure DecodeError where
  path : String
  problem : DecodeProblem
  deriving DecidableEq, Repr

def DecodeError.message (e : DecodeError) : String :=
  e.path ++ ": " ++ match e.problem with
    | .expectedObject => "expected object"
    | .expectedList => "expected list"
    | .expectedString => "expected string"
    | .expectedInteger => "expected integer"
    | .unknownField k => "unknown field " ++ k
    | .missing k => "missing " ++ k
    | .invalidValue => "invalid value"
    | .invalidDate => "invalid date"
    | .invalidTime => "invalid time"
    | .inclusiveMustBeTrue => "inclusive must be true"

namespace IntentJson

open Json

def fail {α : Type} (path : String) (p : DecodeProblem) : Except DecodeError α :=
  .error ⟨path, p⟩

def members (path : String) (allowed : List String) (j : Json) :
    Except DecodeError (List (String × Json)) :=
  match j with
  | .obj ms =>
    match ms.find? (fun m => !allowed.contains m.1) with
    | some (k, _) => fail path (.unknownField k)
    | none => .ok ms
  | _ => fail path .expectedObject

def optional (ms : List (String × Json)) (key : String) : Option Json :=
  match ms.lookup key with
  | some .null => none
  | other => other

def required (path : String) (ms : List (String × Json)) (key : String) :
    Except DecodeError Json :=
  match ms.lookup key with
  | some v => .ok v
  | none => fail path (.missing key)

def named {α : Type} (path : String) (ofName? : String → Option α) (j : Json) :
    Except DecodeError α :=
  match j with
  | .str s =>
    match ofName? s with
    | some a => .ok a
    | none => fail path .invalidValue
  | _ => fail path .invalidValue

def day (path : String) (j : Json) : Except DecodeError Day :=
  match j.str?.bind Day.ofIso? with
  | some d => .ok d
  | none => fail path .invalidDate

def time (path : String) (j : Json) : Except DecodeError TimeOfDay :=
  match j.str?.bind TimeOfDay.ofIso? with
  | some t => .ok t
  | none => fail path .invalidTime

def dateRange (j : Json) : Except DecodeError DateRange := do
  let ms ← members "date_range" ["scope", "start_date", "end_date", "inclusive"] j
  let scope ← named "date_range.scope" Scope.ofName? (← required "date_range" ms "scope")
  let start ← day "date_range.start_date" (← required "date_range" ms "start_date")
  let stop ← day "date_range.end_date" (← required "date_range" ms "end_date")
  match ms.lookup "inclusive" with
  | none | some (.bool true) => pure ⟨scope, start, stop⟩
  | some _ => fail "date_range" .inclusiveMustBeTrue

def timeWindow (j : Json) : Except DecodeError TimeWindow := do
  let ms ← members "time_window" ["start_time", "end_time"] j
  let start ← time "time_window.start_time" (← required "time_window" ms "start_time")
  let stop ← time "time_window.end_time" (← required "time_window" ms "end_time")
  pure ⟨start, stop⟩

def threshold (i : Nat) (j : Json) : Except DecodeError Threshold := do
  let path := "filters.thresholds[" ++ toString i ++ "]"
  let ms ← members path ["applies_to", "metric", "op", "value"] j
  let basis ← named (path ++ ".applies_to") Basis.ofName? (← required path ms "applies_to")
  let metric ← named (path ++ ".metric") Metric.ofName? (← required path ms "metric")
  let op ← named (path ++ ".op") Comparator.ofSymbol? (← required path ms "op")
  match ← required path ms "value" with
  | .int n => pure ⟨basis, metric, op, n⟩
  | _ => fail (path ++ ".value") .expectedInteger

def indexed {α : Type} (f : Nat → Json → Except DecodeError α) : Nat → List Json →
    Except DecodeError (List α)
  | _, [] => .ok []
  | i, x :: xs => do
    let a ← f i x
    let rest ← indexed f (i + 1) xs
    pure (a :: rest)

def strip (s : String) : String := String.ofList (Text.trim s.toList)

def filters (j : Json) : Except DecodeError Filters := do
  let ms ← members "filters" ["creator_id", "thresholds"] j
  let creator ← match optional ms "creator_id" with
    | none => pure none
    | some (.str s) => pure (some (strip s))
    | some _ => fail "filters.creator_id" .expectedString
  let ts ← match optional ms "thresholds" with
    | none => pure []
    | some (.arr xs) => indexed threshold 0 xs
    | some _ => fail "filters.thresholds" .expectedList
  pure { creator, thresholds := ts }

def part {α : Type} (f : Json → Except DecodeError α) : Option Json → Except DecodeError (Option α)
  | none => .ok none
  | some j => (f j).map some

def intent (j : Json) : Except DecodeError Intent := do
  let ms ← members "intent" ["operation", "metric", "date_range", "time_window", "filters"] j
  let op ← named "operation" Operation.ofName? (← required "intent" ms "operation")
  let metric ← part (named "metric" Metric.ofName?) (optional ms "metric")
  let range ← part dateRange (optional ms "date_range")
  let window ← part timeWindow (optional ms "time_window")
  let fs ← (part filters (optional ms "filters")).map (·.getD {})
  pure { operation := op, metric, dateRange := range, timeWindow := window, filters := fs }

def nameOr {α : Type} (name : α → String) : Option α → Json
  | some a => .str (name a)
  | none => .null

def ofThreshold (t : Threshold) : Json :=
  .obj [("applies_to", .str t.basis.name), ("metric", .str t.metric.name),
    ("op", .str t.op.symbol), ("value", .int t.value)]

def ofIntent (i : Intent) : Json :=
  .obj [("operation", .str i.operation.name),
    ("metric", nameOr Metric.name i.metric),
    ("date_range", match i.dateRange with
      | some r => .obj [("scope", .str r.scope.name), ("start_date", .str r.start.iso),
          ("end_date", .str r.stop.iso), ("inclusive", .bool true)]
      | none => .null),
    ("time_window", match i.timeWindow with
      | some w => .obj [("start_time", .str w.start.iso), ("end_time", .str w.stop.iso)]
      | none => .null),
    ("filters", .obj [("creator_id", nameOr id i.filters.creator),
      ("thresholds", .arr (i.filters.thresholds.map ofThreshold))])]

end IntentJson

end VideoStats
