import VideoStats.Intent.Check
import VideoStats.Vocabulary
import VideoStats.Text.Pattern

namespace VideoStats.Question

open Text Vocabulary

def metricWords : List (String × Metric) :=
  metricTerms.mergeSort fun a b => phraseBefore a.1 b.1

def groupedNumber : Text.Pattern (List Char) := do
  let first ← Pattern.run isDecimal 1 (some 1)
  let more ← Pattern.run (fun c => isDecimal c || isBlank c || c == '_') 0 none
  pure (first ++ more)

structure ThresholdWords where
  metric : Metric
  op : Comparator
  number : List Char
  deriving Repr

def ThresholdWords.value (w : ThresholdWords) : Int :=
  ((digitsValue? (w.number.filter fun c => c != ' ' && c != '_')).getD 0 : Nat)

def comparisonFirst : Text.Pattern ThresholdWords := do
  Pattern.boundary
  let op ← Pattern.oneOf comparatorPhrases
  Pattern.blanks1
  let n ← groupedNumber
  Pattern.blanks1
  let m ← Pattern.oneOf metricWords
  Pattern.boundary
  pure ⟨m, op, n⟩

def counterFirst : Text.Pattern ThresholdWords := do
  Pattern.boundary
  let m ← Pattern.oneOf metricWords
  Pattern.blanks1
  let op ← Pattern.oneOf comparatorPhrases
  Pattern.blanks1
  let n ← groupedNumber
  Pattern.boundary
  pure ⟨m, op, n⟩

def dedupe {α : Type} [DecidableEq α] (xs : List α) : List α :=
  xs.foldl (fun acc x => if acc.contains x then acc else acc ++ [x]) []

def thresholdWords (t : String) : List ThresholdWords :=
  Pattern.findAll comparisonFirst t.toList ++ Pattern.findAll counterFirst t.toList

/-- The thresholds of a question; a number beyond the signed 64-bit range is an error. -/
def thresholds (basis : Basis) (t : String) : Except Violation (List Threshold) := do
  let ts ← (thresholdWords t).mapM fun w => Threshold.check ⟨basis, w.metric, w.op, w.value⟩
  pure (dedupe ts)

def isIdChar (c : Char) : Bool :=
  ('0' ≤ c && c ≤ '9') || ('a' ≤ c && c ≤ 'z') || c == '_' || c == '-'

def creatorWords : Text.Pattern String := do
  Pattern.boundary
  Pattern.oneOf [("креатора", ()), ("креатор", ()), ("creator", ())]
  discard (Pattern.optional (do Pattern.blanks1; Pattern.word "с"))
  Pattern.blanks0
  discard (Pattern.optional
    (Pattern.oneOf [("id", ()), ("айди", ()), ("идентификатор", ()), ("creator_id", ())]))
  Pattern.blanks0
  discard (Pattern.optional (Pattern.run (fun c => c == '=' || c == ':') 1 (some 1)))
  Pattern.blanks0
  let id ← Pattern.run isIdChar 3 none
  Pattern.boundary
  pure (String.ofList id)

def creator? (t : String) : Option String := Pattern.search? creatorWords t.toList

structure WindowWords where
  fromHour : List Char
  fromMinute : Option (List Char)
  toHour : List Char
  toMinute : Option (List Char)

def windowWords : Text.Pattern WindowWords := do
  Pattern.boundary
  Pattern.word "с"
  Pattern.blanks1
  let h1 ← Pattern.digits 1 2
  let m1 ← Pattern.optional (do Pattern.blanks1; Pattern.digits 2 2)
  Pattern.blanks1
  Pattern.word "до"
  Pattern.blanks1
  let h2 ← Pattern.digits 1 2
  let m2 ← Pattern.optional (do Pattern.blanks1; Pattern.digits 2 2)
  Pattern.boundary
  pure ⟨h1, m1, h2, m2⟩

def clockOf? (hour : List Char) (minute : Option (List Char)) : Option TimeOfDay := do
  let h ← digitsValue? hour
  let m ← match minute with
    | some ds => digitsValue? ds
    | none => some 0
  if h < 24 ∧ m < 60 then some ⟨h, m, 0, 0⟩ else none

def windowOf? (t : String) : Option TimeWindow := do
  let w ← Pattern.search? windowWords t.toList
  let a ← clockOf? w.fromHour w.fromMinute
  let b ← clockOf? w.toHour w.toMinute
  pure ⟨a, b⟩

/-- The window of time a question names; one that runs backwards is an error. -/
def timeWindow? (t : String) : Except Violation (Option TimeWindow) :=
  match windowOf? t with
  | none => .ok none
  | some w => w.check.map some

end VideoStats.Question
