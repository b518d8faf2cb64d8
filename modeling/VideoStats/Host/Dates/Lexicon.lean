import VideoStats.Text.Blank

namespace VideoStats.Host.Dates

inductive Rendering where
  | skip
  | word (en : String)
  deriving DecidableEq, Repr

def russianForms : List (String × List String) :=
  [("january", ["янв", "январь", "января"]),
   ("february", ["февр", "февраль", "февраля", "фев"]),
   ("march", ["мар", "март", "марта"]),
   ("april", ["апр", "апрель", "апреля"]),
   ("may", ["май", "мая"]),
   ("june", ["июн", "июнь", "июня"]),
   ("july", ["июл", "июль", "июля"]),
   ("august", ["авг", "август", "августа"]),
   ("september", ["сент", "сентябрь", "сентября", "сен"]),
   ("october", ["окт", "октябрь", "октября"]),
   ("november", ["нояб", "ноябрь", "ноября", "ноя"]),
   ("december", ["дек", "декабрь", "декабря"]),
   ("monday", ["пн", "понедельник"]),
   ("tuesday", ["вт", "вторник"]),
   ("wednesday", ["ср", "среда"]),
   ("thursday", ["чт", "четверг"]),
   ("friday", ["пт", "пятница"]),
   ("saturday", ["сб", "суббота"]),
   ("sunday", ["вс", "воскресенье"]),
   ("am", ["дп"]),
   ("pm", ["пп"]),
   ("year", ["г", "год", "года", "лет"]),
   ("month", ["мес", "месяц", "месяца", "месяцев"]),
   ("week", ["нед", "неделя", "недели", "недель", "неделю"]),
   ("day", ["д", "день", "дн", "дня", "дней"]),
   ("hour", ["ч", "час", "часа", "часов"]),
   ("minute", ["мин", "минута", "минуту", "минуты", "минут"]),
   ("second", ["с", "сек", "секунда", "секунду", "секунды", "секунд"]),
   ("ago", ["назад"]),
   ("in", ["через", "в течение"]),
   ("0 day ago", ["сегодня"]),
   ("0 second ago", ["сейчас"]),
   ("1 day ago", ["вчера"]),
   ("2 day ago", ["позавчера"]),
   ("in 1 day", ["завтра"]),
   ("in 2 day", ["послезавтра"])]

def skippedWords : List String :=
  ["в", "во", "и", "около", "на", "'", ",", ";", "@", "[", "]", "|", "，", "t"]

def keptMarks : List String := ["+", ":", ".", " ", "-", "/"]

def sharedWords : List (String × String) :=
  [("am", "am"), ("pm", "pm"), ("utc", "UTC"), ("gmt", "GMT"), ("z", "Z")]

def foldChar (c : Char) : List Char :=
  let n := c.toNat
  if n < 0x300 then [c]
  else if n ≤ 0x36F then []
  else if c == 'й' then ['и']
  else if c == 'ё' then ['е']
  else if c == 'Й' then ['И']
  else if c == 'Ё' then ['Е']
  else if 0xFF01 ≤ n ∧ n ≤ 0xFF5E then [Char.ofNat (n - 0xFEE0)]
  else if 0x1D7CE ≤ n ∧ n ≤ 0x1D7FF then [Char.ofNat ('0'.toNat + (n - 0x1D7CE) % 10)]
  else [c]

def fold (cs : List Char) : List Char := cs.flatMap foldChar

def render? (w : String) : Option Rendering :=
  if keptMarks.contains w then some (.word w)
  else match sharedWords.lookup w with
    | some en => some (.word en)
    | none =>
      match (russianForms.find? fun e => e.2.any fun f => String.ofList (fold f.toList) == w) with
      | some e => some (.word e.1)
      | none => if skippedWords.contains w then some .skip else none

def unitWords : List String := ["day", "week", "month", "year", "hour", "minute", "second"]

def dropLoneIn (ws : List String) : List String :=
  if ws.contains "in" && !(ws.any (unitWords.contains ·)) then ws.erase "in" else ws

end VideoStats.Host.Dates
