import VideoStats.Calendar.Clock
import VideoStats.Text.Blank
import VideoStats.Text.Digit
import VideoStats.Text.Word
import VideoStats.Text.Infix

namespace VideoStats.Host.Dates

open Text

inductive Field where
  | day
  | month
  | year
  deriving DecidableEq, Repr

def monthFirst : List Field := [.month, .day, .year]

def dayFirst : List Field := [.day, .month, .year]

inductive TokenKind where
  | number
  | letters
  | other
  deriving DecidableEq, Repr

def kindOf (c : Char) : TokenKind :=
  if ('0' ≤ c && c ≤ '9') || c == ':' then .number
  else if ('a' ≤ c && c ≤ 'z') || ('A' ≤ c && c ≤ 'Z') then .letters
  else .other

def tokenStep (c : Char) : List (List Char × TokenKind) → List (List Char × TokenKind)
  | (run, k) :: rest =>
    if kindOf c == k then (c :: run, k) :: rest else ([c], kindOf c) :: (run, k) :: rest
  | [] => [([c], kindOf c)]

def tokenize (cs : List Char) : Array (String × TokenKind) :=
  ((cs.foldr tokenStep []).map fun (run, k) => (String.ofList (trim run), k)).toArray

def asciiValue? (cs : List Char) : Option Nat :=
  if cs.isEmpty then none
  else cs.foldlM (fun n c => if '0' ≤ c ∧ c ≤ '9' then some (10 * n + (c.toNat - '0'.toNat))
    else none) 0

def dayNumber? (cs : List Char) : Option Nat :=
  match cs with
  | [a] => (asciiValue? [a]).filter (· ≥ 1)
  | [a, b] => (asciiValue? [a, b]).filter fun v => 1 ≤ v ∧ v ≤ 31 ∧ (a ≠ '0' ∨ b ≠ '0')
  | _ => none

def monthNumber? (cs : List Char) : Option Nat :=
  match cs with
  | [_] => (asciiValue? cs).filter (· ≥ 1)
  | [_, _] => (asciiValue? cs).filter fun v => 1 ≤ v ∧ v ≤ 12
  | _ => none

def shortYear? (cs : List Char) : Option Nat :=
  if cs.length = 2 then (asciiValue? cs).map fun v => if v < 69 then 2000 + v else 1900 + v
  else none

def fullYear? (cs : List Char) : Option Nat :=
  if cs.length = 4 then (asciiValue? cs).filter (· ≥ 1) else none

def fieldReadings : Field → List (List Char → Option Nat)
  | .day => [dayNumber?]
  | .month => [monthNumber?]
  | .year => [shortYear?, fullYear?]

structure Fields where
  day : Option Nat := none
  month : Option Nat := none
  year : Option Nat := none
  weekday : Bool := false
  clock : Option String := none
  filled : List Field := []
  yearFixed : Bool := false
  deriving Inhabited

def Fields.get (f : Fields) : Field → Option Nat
  | .day => f.day
  | .month => f.month
  | .year => f.year

def Fields.set (f : Fields) : Field → Nat → Fields
  | .day, v => { f with day := some v }
  | .month, v => { f with month := some v }
  | .year, v => { f with year := some v }

def readNumber (order : List Field) (f : Fields) (tok : List Char) : Option (Fields × Field) :=
  let candidates := order.filter fun fld => !(fld == .year && f.yearFixed)
  (candidates.findSome? fun fld =>
    if (f.get fld).isSome then none
    else ((fieldReadings fld).findSome? fun r => r tok).map fun v => (fld, v)).map
    fun (fld, v) => ({ f.set fld v with filled := f.filled ++ [fld] }, fld)

def monthNames : List (Nat × List String) :=
  [(1, ["january", "jan"]), (2, ["february", "feb"]), (3, ["march", "mar"]),
   (4, ["april", "apr"]), (5, ["may"]), (6, ["june", "jun"]), (7, ["july", "jul"]),
   (8, ["august", "aug"]), (9, ["september", "sep"]), (10, ["october", "oct"]),
   (11, ["november", "nov"]), (12, ["december", "dec"])]

def weekdayNames : List String :=
  ["monday", "mon", "tuesday", "tue", "wednesday", "wed", "thursday", "thu", "friday", "fri",
   "saturday", "sat", "sunday", "sun"]

def monthOfName? (w : String) : Option Nat :=
  (monthNames.find? fun e => e.2.contains w).map (·.1)

def monthToDay : List Field → List Field
  | [] => []
  | .month :: rest => .day :: rest
  | x :: rest => x :: monthToDay rest

def readWord (f : Fields) (tok : String) : Option Fields :=
  let w := String.ofList (tok.toList.map Char.toLower)
  match monthOfName? w with
  | some m =>
    match f.month with
    | none => some { f with month := some m }
    | some earlier =>
      if f.filled.contains .month then
        some { f with month := some m, day := some earlier, filled := monthToDay f.filled }
      else none
  | none =>
    if weekdayNames.contains w && !f.weekday then some { f with weekday := true } else none

def passedWords : List String := ["t", "year", "hour", "minute"]

def clockNumber? (cs : List Char) (max : Nat) : Option Nat :=
  if cs.length = 1 ∨ cs.length = 2 then (asciiValue? cs).filter (· ≤ max) else none

def dialHour? (cs : List Char) : Option Nat :=
  match cs with
  | ['0', _] | [_] | [_, _] => (asciiValue? cs).filter fun v => 1 ≤ v ∧ v ≤ 12
  | _ => none

def meridianOf? (w : List Char) : Option Bool :=
  match w.map Char.toLower with
  | ['a', 'm'] => some false
  | ['p', 'm'] => some true
  | _ => none

def microsOf? (cs : List Char) : Option Nat :=
  if 1 ≤ cs.length ∧ cs.length ≤ 6 then
    (asciiValue? cs).map fun v => v * Nat.pow 10 (6 - cs.length)
  else none

def readClock? (text : String) : Option TimeOfDay :=
  let cs := trim text.toList
  let (body, mer) := match cs.splitOn ' ' with
    | [b] => (b, none)
    | [b, m] => (b, some m)
    | _ => ([], none)
  let (hms, frac) := match body.splitOn '.' with
    | [a] => (a, none)
    | [a, f] => (a, some f)
    | _ => ([], none)
  let parts := hms.splitOn ':'
  let us? : Option Nat := match frac with
    | none => some 0
    | some f => microsOf? f
  let half? : Option (Option Bool) := match mer with
    | none => some none
    | some m => (meridianOf? m).map some
  match us?, half? with
  | some us, some half =>
    let mk (h m s : Nat) : Option TimeOfDay :=
      match TimeOfDay.make h m s us with
      | .ok t => some t
      | .error _ => none
    let dial (h : Nat) (pm : Bool) : Nat := h % 12 + (if pm then 12 else 0)
    match parts, half with
    | [h, m], none => do
      if frac.isSome then none else
      mk (← clockNumber? h 23) (← clockNumber? m 59) 0
    | [h, m, s], none => do mk (← clockNumber? h 23) (← clockNumber? m 59) (← clockNumber? s 61)
    | [h], some pm => do
      if frac.isSome then none else
      mk (dial (← dialHour? h) pm) 0 0
    | [h, m], some pm => do
      if frac.isSome then none else
      match dialHour? h with
      | some hv => mk (dial hv pm) (← clockNumber? m 59) 0
      | none => mk (← clockNumber? h 23) (← clockNumber? m 59) 0
    | [h, m, s], some pm => do
      mk (dial (← dialHour? h) pm) (← clockNumber? m 59) (← clockNumber? s 61)
    | _, _ => none
  | _, _ => none

def isShortClock (cs : List Char) : Bool :=
  match cs.splitOn ':' with
  | [a, b] => (1 ≤ a.length ∧ a.length ≤ 2 ∧ 1 ≤ b.length ∧ b.length ≤ 2 : Bool) &&
      a.all (fun c => '0' ≤ c && c ≤ '9') && b.all (fun c => '0' ≤ c && c ≤ '9')
  | _ => false

def firstDigitRun? (cs : List Char) : Option (List Char) :=
  let rest := cs.dropWhile fun c => !('0' ≤ c && c ≤ '9')
  let run := rest.takeWhile fun c => '0' ≤ c && c ≤ '9'
  if run.isEmpty then none else some (run.take 6)

def hasMeridian (s : String) : Bool := contains s "am" || contains s "pm"

def clockAt (toks : Array (String × TokenKind)) (filt : Array (String × TokenKind × Nat))
    (i : Nat) : Option (String × List Nat) :=
  let (tok0, _, oi) := filt.getD i ("", .other, 0)
  let textAt (j : Nat) : String := (toks.getD j ("", .other)).1
  -- hours and minutes written with a point between them
  let joined : Option String :=
    if textAt (oi + 1) == "." && !(oi != 0 && textAt (oi - 1) == ".") && i + 1 < filt.size then
      let (next, _, ni) := filt.getD (i + 1) ("", .other, 0)
      if i + 1 == filt.size - 1 || textAt (ni + 1) != "." then
        let t := tok0 ++ ":" ++ next
        if isShortClock t.toList then some t else none
      else none
    else none
  let tok := joined.getD tok0
  let meridianAt := if joined.isSome then i + 2 else i + 1
  let micro : Option String :=
    if joined.isNone && contains tok ":" && i + 1 < filt.size &&
        contains (textAt (oi + 1)) "." then
      (firstDigitRun? (filt.getD (i + 1) ("", .other, 0)).1.toList).map String.ofList
    else none
  let mIndex := if micro.isSome then i + 2 else meridianAt
  let meridian : Option String :=
    if mIndex < filt.size then
      let w := (filt.getD mIndex ("", .other, 0)).1
      if contains w "am" then some "am" else if contains w "pm" then some "pm" else none
    else none
  let uses := (if joined.isSome then [i + 1] else [])
  match micro, meridian with
  | some us, some m => some (tok ++ "." ++ us ++ " " ++ m, uses ++ [i + 1, mIndex])
  | some us, none => some (tok ++ "." ++ us, uses ++ [i + 1])
  | none, some m => some (tok ++ " " ++ m, uses ++ [mIndex])
  | none, none => if contains tok ":" then some (tok, uses) else none

def readFrom (order : List Field) (toks : Array (String × TokenKind))
    (filt : Array (String × TokenKind × Nat)) : Nat → Nat → List Nat → Fields → Option Fields
  | 0, _, _, f => some f
  | fuel + 1, i, used, f =>
    if filt.size ≤ i then some f
    else if used.contains i then readFrom order toks filt fuel (i + 1) used f
    else
      let (tok, kind, _) := filt.getD i ("", .other, 0)
      if passedWords.contains tok then readFrom order toks filt fuel (i + 1) used f
      else
        let clock := if f.clock.isNone then clockAt toks filt i else none
        match clock with
        | some (text, more) =>
          readFrom order toks filt fuel (i + 1) (used ++ more) { f with clock := some text }
        | none =>
          match kind with
          | .number => do
            let (f', fld) ← readNumber order f tok.toList
            let f' := if tok.length == 4 && fld == .year then { f' with yearFixed := true } else f'
            readFrom order toks filt fuel (i + 1) used f'
          | _ => do
            let f' ← readWord f tok
            readFrom order toks filt fuel (i + 1) used f'

def readFixed (order : List Field) (cs : List Char) : Option Moment := do
  let toks := tokenize cs
  let filt : Array (String × TokenKind × Nat) :=
    ((List.range toks.size).filterMap fun j =>
      let (t, k) := toks.getD j ("", .other)
      if k == .other then none else some (t, k, j)).toArray
  let f ← readFrom order toks filt (filt.size + 1) 0 [] {}
  let time ← match f.clock with
    | some text => readClock? text
    | none => some TimeOfDay.midnight
  let d ← f.day
  let m ← f.month
  let y ← f.year
  match Day.make y m d with
  | .ok day => some ⟨day, time⟩
  | .error _ => none

def unitNames : List String :=
  ["decade", "year", "month", "week", "day", "hour", "minute", "second"]

def isSpanWord (w : List Char) : Bool :=
  (unitNames ++ ["ago", "in", "am", "pm"]).any (fun u => u.toList.isPrefixOf w) ||
    (match w with
     | c :: _ => isDecimal c || c == ':'
     | [] => false)

def allSpanWords (cs : List Char) : Bool := (wordRuns cs).all isSpanWord

def amountAt? (cs : List Char) : Option ((List Char × String) × List Char) :=
  let digits := cs.takeWhile isDecimal
  if digits.isEmpty then none else
  let afterDigits := cs.drop digits.length
  let (num, afterNum) := match afterDigits with
    | c :: rest => if c == '.' || c == ',' then
        let more := rest.takeWhile isDecimal
        (digits ++ c :: more, rest.drop more.length)
      else (digits, afterDigits)
    | [] => (digits, afterDigits)
  let afterBlank := afterNum.dropWhile isBlank
  let lowered := afterBlank.map Char.toLower
  (unitNames.find? fun u =>
    u.toList.isPrefixOf lowered &&
      !((afterBlank.drop u.length).head?.map isWordChar).getD false).map fun u =>
    ((num, u), afterBlank.drop u.length)

def amounts : Nat → List Char → List (List Char × String)
  | 0, _ => []
  | _ + 1, [] => []
  | fuel + 1, c :: rest =>
    match amountAt? (c :: rest) with
    | some (a, after) => a :: amounts fuel after
    | none => amounts fuel rest

structure Span where
  months : Int
  seconds : Int
  deriving Repr

def unitSeconds : String → Nat
  | "week" => 604800
  | "day" => 86400
  | "hour" => 3600
  | "minute" => 60
  | "second" => 1
  | _ => 0

def spanOf? (cs : List Char) : Option Span := do
  let found := amounts (cs.length + 1) cs
  if found.isEmpty then none else
  let value (u : String) : Option Nat :=
    (found.reverse.find? (·.2 == u)).bind fun (num, _) => digitsValue? num
  if found.any (fun (num, _) => !num.all isDecimal) then none else
  let decades := (value "decade").getD 0
  let years := (value "year").getD 0 + 10 * decades
  let months := (value "month").getD 0
  let secs := ["week", "day", "hour", "minute", "second"].foldl
    (fun acc u => acc + (value u).getD 0 * unitSeconds u) 0
  pure ⟨12 * years + months, secs⟩

def hasWordIn (cs : List Char) : Bool := (wordRuns cs).any (· == ['i', 'n'])

def measure (anchor : Moment) (sp : Span) (forward : Bool) : Option Moment := do
  let sign : Int := if forward then 1 else -1
  let m ← anchor.addMonths (sign * sp.months)
  m.addSeconds (sign * sp.seconds)

def readMeasured (anchor : Moment) (cs : List Char) : Option Moment :=
  if !allSpanWords cs then none
  else (spanOf? cs).bind fun sp => measure anchor sp (hasWordIn cs)

def readEpoch (cs : List Char) : Option Moment :=
  let ds := cs.takeWhile isDecimal
  let ends := match cs.drop ds.length with
    | [] => true
    | c :: _ => c == '.'
  if (ds.length == 10 || ds.length == 13 || ds.length == 16) && ends then
    (digitsValue? (ds.take 10)).bind fun s => Moment.ofSeconds? (719163 * 86400 + s) 0
  else none

end VideoStats.Host.Dates
