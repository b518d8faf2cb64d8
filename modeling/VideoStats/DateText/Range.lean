import VideoStats.Calendar.Clock
import VideoStats.DateText.Phrase
import VideoStats.Text.Case
/-!
The days a question names: by a fixed phrase, else by the dates the date library finds that
carry a year, else by the whole text read as one date.
-/

namespace VideoStats.DateText

open Text

/-- A date library: the dates found in a text with their words, and a text read as one date. -/
structure Parser where
  searchDates : Moment → String → List (String × Moment)
  parse : Moment → String → Option Moment

/-- The library gives only moments of days the calendar has. -/
def Parser.GivesValidDays (dates : Parser) : Prop :=
  (∀ now text found, found ∈ dates.searchDates now text → found.2.day.Valid) ∧
    ∀ now text m, dates.parse now text = some m → m.day.Valid

def carriesYear (written : String) : Bool :=
  (wordRuns written.toList).any fun w => w.length == 4 && w.all isDecimal

/-- The inclusive range of days a text names, if any. -/
def dayRange (dates : Parser) (now : Moment) (text : String) :
    Except Day.Error (Option (Day × Day)) :=
  let value := lower (trim text.toList)
  if value.isEmpty then .ok none
  else match phraseDate? value with
    | some p => p.days.map some
    | none =>
      match ((dates.searchDates now (String.ofList value)).filter (carriesYear ·.1)).map
          (·.2.day) with
      | a :: b :: _ => .ok (some (a, b))
      | [a] => .ok (some (a, a))
      | [] => .ok ((dates.parse now (String.ofList value)).map fun m => (m.day, m.day))

def halfOpen (first last : Day) : Except Day.Error (Moment × Moment) :=
  (last.next).map fun after => (Moment.startOf first, Moment.startOf after)

end VideoStats.DateText
