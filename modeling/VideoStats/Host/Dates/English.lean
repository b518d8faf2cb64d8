import VideoStats.Host.Dates.Reader
import VideoStats.Host.Dates.Clean
import VideoStats.Host.Dates.Lexicon
import VideoStats.Text.Case

namespace VideoStats.Host.Dates

open Text

def englishWords : List String :=
  ["january", "february", "march", "april", "may", "june", "july", "august", "september",
   "october", "november", "december", "monday", "tuesday", "wednesday", "thursday", "friday",
   "saturday", "sunday", "decade", "year", "month", "week", "day", "hour", "minute", "second",
   "ago", "in", "am", "pm", "utc", "gmt", "z"]

def englishFillers : List String := ["and", "t"]

inductive Lump where
  | letters
  | digits
  | mark
  | gap
  deriving DecidableEq, Repr

def lumpOf (c : Char) : Lump :=
  if isDecimal c then .digits
  else if isWordChar c && c != '_' then .letters
  else if keptMarks.contains (String.singleton c) then .mark
  else .gap

def lumpStep (c : Char) (acc : List (Lump × List Char)) : List (Lump × List Char) :=
  match lumpOf c, acc with
  | .gap, _ => (.gap, []) :: acc
  | .mark, _ => (.mark, [c]) :: acc
  | k, (k', run) :: rest => if k == k' then (k, c :: run) :: rest else (k, [c]) :: acc
  | k, [] => [(k, [c])]

def lumps (cs : List Char) : List (Lump × List Char) :=
  (cs.foldr lumpStep []).filter (·.1 != .gap)

def asciiDigit (c : Char) : Char :=
  match decimalValue? c with
  | some v => Char.ofNat ('0'.toNat + v)
  | none => c

def englishToken? : Lump × List Char → Option (Option String)
  | (.letters, run) =>
    let w := lowerString (String.ofList run)
    if englishFillers.contains w then some none
    else if englishWords.contains w then some (some w)
    else none
  | (.digits, run) => some (some (String.ofList (run.map asciiDigit)))
  | (_, run) => some (some (String.ofList run))

def joinWords : List String → String
  | [] => ""
  | [t] => t
  | t :: rest@(u :: _) =>
    t ++ (if keptMarks.contains t || keptMarks.contains u then "" else " ") ++ joinWords rest

def translateEnglish? (cs : List Char) : Option String := do
  let toks ← (lumps cs).mapM englishToken?
  pure (joinWords (dropLoneIn (toks.filterMap id)))

def zoneWords : List String := ["UTC", "GMT", "Z", "utc", "gmt", "z"]

def dropZone (s : String) : String :=
  let ws := Text.split s " "
  match ws.find? (zoneWords.contains ·) with
  | some z => " ".intercalate (ws.erase z)
  | none => s

def readEnglish (anchor : Moment) (item : String) : Option Moment :=
  let cs := clean item.toList
  match translateEnglish? cs with
  | none => none
  | some tr =>
    match readEpoch cs with
    | some m => some m
    | none =>
      match readMeasured anchor tr.toList with
      | some m => some m
      | none => readFixed monthFirst (dropZone tr).toList

end VideoStats.Host.Dates
