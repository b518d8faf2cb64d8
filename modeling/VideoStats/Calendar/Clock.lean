import VideoStats.Calendar.Day

namespace VideoStats

structure TimeOfDay where
  hour : Nat
  minute : Nat
  second : Nat := 0
  micro : Nat := 0
  deriving DecidableEq, Repr, Inhabited

namespace TimeOfDay

def midnight : TimeOfDay := ⟨0, 0, 0, 0⟩

def key (t : TimeOfDay) : Nat := ((t.hour * 60 + t.minute) * 60 + t.second) * 1000000 + t.micro

instance : LT TimeOfDay := ⟨fun a b => a.key < b.key⟩
instance : LE TimeOfDay := ⟨fun a b => a.key ≤ b.key⟩
instance (a b : TimeOfDay) : Decidable (a < b) := inferInstanceAs (Decidable (a.key < b.key))
instance (a b : TimeOfDay) : Decidable (a ≤ b) := inferInstanceAs (Decidable (a.key ≤ b.key))

inductive Error where
  | hour
  | minute
  | second
  | micro
  deriving DecidableEq, Repr

def Error.message : Error → String
  | .hour => "hour must be in 0..23"
  | .minute => "minute must be in 0..59"
  | .second => "second must be in 0..59"
  | .micro => "microsecond must be in 0..999999"

def make (h m : Nat) (s : Nat := 0) (us : Nat := 0) : Except Error TimeOfDay :=
  if 23 < h then .error .hour
  else if 59 < m then .error .minute
  else if 59 < s then .error .second
  else if 999999 < us then .error .micro
  else .ok ⟨h, m, s, us⟩

def iso (t : TimeOfDay) : String :=
  let base := s!"{Day.padded 2 t.hour}:{Day.padded 2 t.minute}:{Day.padded 2 t.second}"
  if t.micro = 0 then base else base ++ "." ++ Day.padded 6 t.micro

def fraction? (cs : List Char) : Option Nat :=
  match cs.length with
  | 3 => (Day.asciiNumber? cs).map (· * 1000)
  | 6 => Day.asciiNumber? cs
  | _ => none

def ofIso? (s : String) : Option TimeOfDay := do
  let cs := s.toList
  let (hm, frac) := match cs.splitOn '.' with
    | [a] => (a, none)
    | [a, b] => (a, some b)
    | _ => ([], none)
  let us ← match frac with
    | none => some 0
    | some f => fraction? f
  let (h, m, sec) ← match hm with
    | [h1, h2] => some ([h1, h2], ['0'], ['0'])
    | [h1, h2, ':', m1, m2] => some ([h1, h2], [m1, m2], ['0'])
    | [h1, h2, ':', m1, m2, ':', s1, s2] => some ([h1, h2], [m1, m2], [s1, s2])
    | _ => none
  if frac.isSome ∧ sec == ['0'] then none else
  let h ← Day.asciiNumber? h
  let m ← Day.asciiNumber? m
  let sec ← Day.asciiNumber? sec
  match make h m sec us with
  | .ok t => some t
  | .error _ => none

end TimeOfDay

/-- A moment in coordinated universal time. -/
structure Moment where
  day : Day
  time : TimeOfDay
  deriving DecidableEq, Repr, Inhabited

namespace Moment

def startOf (d : Day) : Moment := ⟨d, TimeOfDay.midnight⟩

def iso (m : Moment) : String := m.day.iso ++ "T" ++ m.time.iso ++ "+00:00"

def seconds (m : Moment) : Int :=
  (m.day.ordinal : Int) * 86400 + ((m.time.hour * 60 + m.time.minute) * 60 + m.time.second : Nat)

def ofSeconds? (s : Int) (micro : Nat) : Option Moment := do
  let d ← Day.ofOrdinal? (s / 86400)
  let r := (s % 86400).toNat
  pure ⟨d, ⟨r / 3600, r / 60 % 60, r % 60, micro⟩⟩

def addSeconds (m : Moment) (k : Int) : Option Moment := ofSeconds? (m.seconds + k) m.time.micro

/-- Move `k` months, falling back to the month's last day when it is shorter. -/
def addMonths (m : Moment) (k : Int) : Option Moment :=
  let index : Int := (m.day.year : Int) * 12 + (m.day.month - 1 : Nat) + k
  let y := index / 12
  let mo := (index % 12).toNat + 1
  if y < 1 ∨ 9999 < y then none
  else some { m with day := ⟨y.toNat, mo, min m.day.day (Day.monthLength y.toNat mo)⟩ }

end Moment

end VideoStats
