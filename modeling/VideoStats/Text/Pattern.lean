import VideoStats.Text.Blank
import VideoStats.Text.Digit
import VideoStats.Text.Word

namespace VideoStats.Text

structure Cursor where
  before : Option Char
  rest : List Char
  deriving Repr

def Cursor.advance : Nat → Cursor → Cursor
  | 0, c => c
  | _ + 1, ⟨b, []⟩ => ⟨b, []⟩
  | n + 1, ⟨_, x :: xs⟩ => Cursor.advance n ⟨some x, xs⟩

/-- A pattern: all ways it matches at a place, most preferred first. -/
def Pattern (α : Type) : Type := Cursor → List (α × Cursor)

namespace Pattern

def unit {α : Type} (a : α) : Pattern α := fun c => [(a, c)]

def andThen {α β : Type} (p : Pattern α) (f : α → Pattern β) : Pattern β :=
  fun c => (p c).flatMap fun (a, c') => f a c'

instance : Monad Pattern where
  pure := unit
  bind := andThen

def fail {α : Type} : Pattern α := fun _ => []

def orElse {α : Type} (p q : Pattern α) : Pattern α := fun c => p c ++ q c

def optional {α : Type} (p : Pattern α) : Pattern (Option α) :=
  orElse (andThen p fun a => unit (some a)) (unit none)

def word (s : String) : Pattern Unit := fun c =>
  if s.toList.isPrefixOf c.rest then [((), c.advance s.length)] else []

def oneOf {α : Type} (ws : List (String × α)) : Pattern α := fun c =>
  ws.flatMap fun (w, a) => if w.toList.isPrefixOf c.rest then [(a, c.advance w.length)] else []

def boundary : Pattern Unit := fun c =>
  if isBoundary c.before c.rest.head? then [((), c)] else []

def notAfter (ok : Option Char → Bool) : Pattern Unit := fun c =>
  if ok c.before then [((), c)] else []

def run (p : Char → Bool) (lo : Nat) (hi : Option Nat) : Pattern (List Char) := fun c =>
  let r := c.rest.takeWhile p
  let r := match hi with
    | some h => r.take h
    | none => r
  ((List.range (r.length + 1)).reverse.filter (lo ≤ ·)).map fun k => (r.take k, c.advance k)

def blanks1 : Pattern Unit := andThen (run isBlank 1 none) fun _ => unit ()

def blanks0 : Pattern Unit := andThen (run isBlank 0 none) fun _ => unit ()

def digits (lo hi : Nat) : Pattern (List Char) := run isDecimal lo (some hi)

def firstFrom {α : Type} (p : Pattern α) : Option Char → List Char → Option (α × Cursor)
  | b, [] => (p ⟨b, []⟩).head?
  | b, x :: xs =>
    match (p ⟨b, x :: xs⟩).head? with
    | some r => some r
    | none => firstFrom p (some x) xs

/-- The first match of `p` in a text. -/
def search? {α : Type} (p : Pattern α) (cs : List Char) : Option α :=
  (firstFrom p none cs).map (·.1)

def allFrom {α : Type} (p : Pattern α) : Nat → Cursor → List α
  | 0, _ => []
  | fuel + 1, c =>
    match firstFrom p c.before c.rest with
    | none => []
    | some (a, after) =>
      if after.rest.length < c.rest.length then a :: allFrom p fuel after
      else
        -- an empty match: step past one character before searching again
        match after.rest with
        | [] => [a]
        | x :: xs => a :: allFrom p fuel ⟨some x, xs⟩

def findAll {α : Type} (p : Pattern α) (cs : List Char) : List α :=
  allFrom p (cs.length + 1) ⟨none, cs⟩

end Pattern

end VideoStats.Text
