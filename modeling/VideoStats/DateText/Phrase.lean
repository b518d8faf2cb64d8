import VideoStats.Calendar.Day
import VideoStats.Text.Blank
import VideoStats.Text.Digit
import VideoStats.Text.Word

namespace VideoStats.DateText

open Text

def genitiveMonths : List String :=
  ["января", "февраля", "марта", "апреля", "мая", "июня", "июля", "августа", "сентября",
   "октября", "ноября", "декабря"]

def prepositionalMonths : List String :=
  ["январе", "феврале", "марте", "апреле", "мае", "июне", "июле", "августе", "сентябре",
   "октябре", "ноябре", "декабре"]

def nominativeMonths : List String :=
  ["январь", "февраль", "март", "апрель", "май", "июнь", "июль", "август", "сентябрь",
   "октябрь", "ноябрь", "декабрь"]

inductive PhraseDate where
  | range (year month1 day1 month2 day2 : Nat)
  | month (year month : Nat)
  deriving DecidableEq, Repr

def blanks1 (cs : List Char) : Option (List Char) :=
  match cs with
  | c :: _ => if isBlank c then some (cs.dropWhile isBlank) else none
  | [] => none

def literal (w : String) (cs : List Char) : Option (List Char) :=
  if w.toList.isPrefixOf cs then some (cs.drop w.length) else none

def dayDigits (cs : List Char) : Option (Nat × List Char) :=
  let ds := cs.takeWhile isDecimal
  if ds.length = 1 ∨ ds.length = 2 then (digitsValue? ds).map fun v => (v, cs.drop ds.length)
  else none

def yearDigits (cs : List Char) : Option Nat :=
  let ds := cs.takeWhile isDecimal
  if ds.length = 4 && !(((cs.drop 4).head?.map isWordChar).getD false) then digitsValue? ds
  else none

def monthName (names : List String) (cs : List Char) : Option (Nat × List Char) :=
  ((names.zip (List.range 12)).find? fun (n, _) => n.toList.isPrefixOf cs).map
    fun (n, i) => (i + 1, cs.drop n.length)

def wordStart (before : Option Char) : Bool := !((before.map isWordChar).getD false)

def sameMonthRangeAt (before : Option Char) (cs : List Char) : Option PhraseDate := do
  if !wordStart before then none
  let cs ← literal "с" cs
  let cs ← blanks1 cs
  let (d1, cs) ← dayDigits cs
  let cs ← blanks1 cs
  let cs ← literal "по" cs
  let cs ← blanks1 cs
  let (d2, cs) ← dayDigits cs
  let cs ← blanks1 cs
  let (m, cs) ← monthName genitiveMonths cs
  let cs ← blanks1 cs
  let y ← yearDigits cs
  pure (.range y m d1 m d2)

def crossMonthRangeAt (before : Option Char) (cs : List Char) : Option PhraseDate := do
  if !wordStart before then none
  let cs ← literal "с" cs
  let cs ← blanks1 cs
  let (d1, cs) ← dayDigits cs
  let cs ← blanks1 cs
  let (m1, cs) ← monthName genitiveMonths cs
  let cs ← blanks1 cs
  let cs ← literal "по" cs
  let cs ← blanks1 cs
  let (d2, cs) ← dayDigits cs
  let cs ← blanks1 cs
  let (m2, cs) ← monthName genitiveMonths cs
  let cs ← blanks1 cs
  let y ← yearDigits cs
  pure (.range y m1 d1 m2 d2)

def monthYearAt (names : List String) (before : Option Char) (cs : List Char) :
    Option PhraseDate := do
  if !wordStart before then none
  let (m, cs) ← monthName names cs
  let cs ← blanks1 cs
  let y ← yearDigits cs
  pure (.month y m)

def inMonthAt (before : Option Char) (cs : List Char) : Option PhraseDate := do
  if !wordStart before then none
  let cs ← literal "в" cs
  let cs ← blanks1 cs
  monthYearAt prepositionalMonths (some ' ') cs

def genitiveMonthAt (before before2 : Option Char) (cs : List Char) : Option PhraseDate :=
  let afterNumber := ((before.map isBlank).getD false) && ((before2.map isDecimal).getD false)
  if afterNumber then none else monthYearAt genitiveMonths before cs

def firstAt {α : Type} (f : Option Char → Option Char → List Char → Option α) :
    Option Char → Option Char → List Char → Option α
  | p1, p2, [] => f p1 p2 []
  | p1, p2, c :: rest =>
    match f p1 p2 (c :: rest) with
    | some a => some a
    | none => firstAt f (some c) p1 rest

/-- The first phrase kind that occurs in the text, at its leftmost occurrence. -/
def phraseDate? (cs : List Char) : Option PhraseDate :=
  let search (f : Option Char → Option Char → List Char → Option PhraseDate) :=
    firstAt f none none cs
  (search fun b _ r => sameMonthRangeAt b r).orElse fun _ =>
  (search fun b _ r => crossMonthRangeAt b r).orElse fun _ =>
  (search fun b _ r => inMonthAt b r).orElse fun _ =>
  (search fun b _ r => monthYearAt nominativeMonths b r).orElse fun _ =>
  search genitiveMonthAt

/-- The inclusive days of a phrase; a day the calendar lacks is an error. -/
def PhraseDate.days : PhraseDate → Except Day.Error (Day × Day)
  | .range y m1 d1 m2 d2 => do
    let a ← Day.make y m1 d1
    let b ← Day.make y m2 d2
    pure (if a ≤ b then (a, b) else (b, a))
  | .month y m => do
    let a ← Day.make y m 1
    let b ← Day.make y m (Day.monthLength y m)
    pure (a, b)

end VideoStats.DateText
