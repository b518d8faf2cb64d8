
namespace VideoStats

/-- A day of the calendar: year, month and day of the month. -/
structure Day where
  year : Nat
  month : Nat
  day : Nat
  deriving DecidableEq, Repr, Inhabited

namespace Day

def isLeapYear (y : Nat) : Bool := y % 4 == 0 && (y % 100 != 0 || y % 400 == 0)

def monthLength (y m : Nat) : Nat :=
  match m with
  | 2 => if isLeapYear y then 29 else 28
  | 4 | 6 | 9 | 11 => 30
  | _ => 31

def Valid (d : Day) : Prop :=
  1 ≤ d.year ∧ d.year ≤ 9999 ∧ 1 ≤ d.month ∧ d.month ≤ 12 ∧ 1 ≤ d.day ∧
    d.day ≤ monthLength d.year d.month

instance (d : Day) : Decidable d.Valid := by unfold Valid; infer_instance

inductive Error where
  | yearOutOfRange (year : Int)
  | monthOutOfRange
  | dayOutOfRange
  | pastLastDay
  deriving DecidableEq, Repr

def Error.message : Error → String
  | .yearOutOfRange y => s!"year {y} is out of range"
  | .monthOutOfRange => "month must be in 1..12"
  | .dayOutOfRange => "day is out of range for month"
  | .pastLastDay => "date value out of range"

/-- Form a day, checking the year, then the month, then the day of the month. -/
def make (y m d : Int) : Except Error Day :=
  if y < 1 ∨ 9999 < y then .error (.yearOutOfRange y)
  else if m < 1 ∨ 12 < m then .error .monthOutOfRange
  else if d < 1 ∨ (monthLength y.toNat m.toNat : Int) < d then .error .dayOutOfRange
  else .ok ⟨y.toNat, m.toNat, d.toNat⟩

def key (d : Day) : Nat := (d.year * 16 + d.month) * 32 + d.day

instance : LT Day := ⟨fun a b => a.key < b.key⟩
instance : LE Day := ⟨fun a b => a.key ≤ b.key⟩
instance (a b : Day) : Decidable (a < b) := inferInstanceAs (Decidable (a.key < b.key))
instance (a b : Day) : Decidable (a ≤ b) := inferInstanceAs (Decidable (a.key ≤ b.key))

/-- The day after; the last day of the year 9999 has none. -/
def next (d : Day) : Except Error Day :=
  if d.day < monthLength d.year d.month then .ok { d with day := d.day + 1 }
  else if d.month < 12 then .ok ⟨d.year, d.month + 1, 1⟩
  else if d.year < 9999 then .ok ⟨d.year + 1, 1, 1⟩
  else .error .pastLastDay

def lastOfMonth (y m : Nat) : Day := ⟨y, m, monthLength y m⟩

def padded (width n : Nat) : String :=
  let ds := Nat.toDigits 10 n
  String.ofList (List.replicate (width - ds.length) '0' ++ ds)

def iso (d : Day) : String := s!"{padded 4 d.year}-{padded 2 d.month}-{padded 2 d.day}"

def asciiNumber? (cs : List Char) : Option Nat :=
  if cs.isEmpty then none
  else cs.foldlM (fun n c => if '0' ≤ c ∧ c ≤ '9' then some (10 * n + (c.toNat - '0'.toNat))
    else none) 0

def ofIso? (s : String) : Option Day :=
  match s.toList with
  | [y1, y2, y3, y4, '-', m1, m2, '-', d1, d2] => do
    let y ← asciiNumber? [y1, y2, y3, y4]
    let m ← asciiNumber? [m1, m2]
    let d ← asciiNumber? [d1, d2]
    match make y m d with
    | .ok day => some day
    | .error _ => none
  | _ => none

def daysBeforeYear (y : Nat) : Nat :=
  let p := y - 1
  p * 365 + p / 4 - p / 100 + p / 400

def daysBeforeMonth (y m : Nat) : Nat :=
  ((List.range (m - 1)).map fun i => monthLength y (i + 1)).foldr (· + ·) 0

def ordinal (d : Day) : Nat := daysBeforeYear d.year + daysBeforeMonth d.year d.month + d.day

def monthOfDayInYear (y : Nat) : Nat → Nat → Nat × Nat
  | 0, n => (12, n)
  | fuel + 1, n =>
    let m := 12 - fuel
    if n < monthLength y m then (m, n) else monthOfDayInYear y fuel (n - monthLength y m)

def ofOrdinal? (n : Int) : Option Day :=
  if n < 1 then none else
  let k := n.toNat - 1
  let (c400, r400) := (k / 146097, k % 146097)
  let (c100, r100) := (min (r400 / 36524) 3, r400 - min (r400 / 36524) 3 * 36524)
  let (c4, r4) := (r100 / 1461, r100 % 1461)
  let (c1, r1) := (min (r4 / 365) 3, r4 - min (r4 / 365) 3 * 365)
  let y := c400 * 400 + c100 * 100 + c4 * 4 + c1 + 1
  let (m, d) := monthOfDayInYear y 12 r1
  if 9999 < y then none else some ⟨y, m, d + 1⟩

end Day

end VideoStats
