import VideoStats.Vocabulary
import VideoStats.Text.Pattern

namespace VideoStats.Question

open Text Vocabulary

def padded (t : String) : String := " " ++ t ++ " "

def hasPhrase (t p : String) : Bool := contains (padded t) p

def hasStem (t stem : String) : Bool := (wordsOf t).any (stem.isPrefixOf ·)

def hasWord (t w : String) : Bool := (wordsOf t).contains w

def isAllTime (t : String) : Bool :=
  [" за все время ", " за всё время ", " за весь период ", " all time "].any (hasPhrase t ·)

def byDayNumber : Text.Pattern Unit := do
  Pattern.boundary
  Pattern.word "к"
  Pattern.blanks1
  discard (Pattern.digits 1 2)
  discard (Pattern.run isBlank 1 (some 1))

def isAsOf (t : String) : Bool :=
  hasPhrase t " на тот момент " || hasPhrase t " на дату " ||
    (Pattern.search? byDayNumber t.toList).isSome

def mentionsSnapshots (t : String) : Bool :=
  ["замер", "измер", "снимк", "снапш"].any (hasStem t ·) || hasWord t "snapshot" ||
    hasWord t "snapshots"

def mentionsDecrease (t : String) : Bool :=
  contains t "отриц" ||
    [" стало меньше ", " уменьш", " сниз", " упал ", " упало ", " паден"].any (hasPhrase t ·)

def isCountWord (w : String) : Bool :=
  "скольк".isPrefixOf w || w == "количество" || w == "число"

def countBefore (t : String) (reach : Nat) (stems : List String) : Bool :=
  let ws := wordsOf t
  (List.range ws.length).any fun i =>
    isCountWord (ws.getD i "") &&
      ((ws.drop (i + 1)).take reach).any fun w => stems.any (·.isPrefixOf w)

def asksVideoCount (t : String) : Bool := countBefore t 3 ["видео", "ролик"]

def asksCreatorCount (t : String) : Bool := countBefore t 4 ["креатор", "creator", "автор"]

def hasCountWord (t : String) : Bool :=
  hasStem t "скольк" || hasWord t "количество" || hasWord t "число"

def asksPublishDays (t : String) : Bool :=
  hasCountWord t && hasStem t "дн" && hasStem t "видео" &&
    (contains t "публик" || contains t "опублик" || contains t "выш") &&
    (contains t "календар" || hasWord t "разных" || contains t "различ")

def asksGrowth (t : String) : Bool :=
  [" на сколько ", " насколько ", " прирост ", " вырос ", " выросли ", " увеличил"].any
    (hasPhrase t ·)

def asksTotal (t : String) : Bool :=
  contains (padded t) "в сумме" || contains t "суммар" ||
    ["общее", "итого", "всего", "сколько", "количество"].any (hasWord t ·)

/-- The operation a question asks for, if the cues tell one. -/
def operation? (t : String) : Option Operation :=
  if mentionsSnapshots t && mentionsDecrease t &&
      (hasWord t "сколько" || hasWord t "количество" || hasWord t "число") then
    some .countSnapshotsWithNegativeDelta
  else if asksGrowth t then some .sumDeltaMetric
  else if hasWord t "сколько" && hasWord t "видео" && hasStem t "нов" then
    some .countDistinctVideosWithPositiveDelta
  else if asksPublishDays t then some .countDistinctPublishDays
  else if asksVideoCount t then some .countVideos
  else if asksCreatorCount t then some .countDistinctCreators
  else if (singleMetric? t).isSome && asksTotal t then some .sumTotalMetric
  else if hasCountWord t &&
      (hasStem t "видео" || ["ролик", "ролика", "ролики", "роликов"].any (hasWord t ·)) then
    some .countVideos
  else none

end VideoStats.Question
