import VideoStats.Workload.Basic
import VideoStats.Question.Read
import VideoStats.Question.Statement
import VideoStats.Intent.Codec
import VideoStats.DateText.Range

namespace VideoStats.Workload

open Question Vocabulary

def cueQuestions : List String :=
  ["сколько видео на тот момент", "сколько видео есть в системе", "количество роликов",
   "сколько креаторов на дату", "сколько разных календарных дней публиковались видео",
   "суммарно просмотров на дату", "привет как дела", "на сколько выросли просмотры",
   "прирост лайков", "сколько видео получили новые просмотры",
   "сколько замеров с отрицательным приростом просмотров", "сколько видео за всё время",
   "число видео", "сколько видео у креаторов на дату", "итого лайков к 5 декабря",
   "насколько увеличились комментарии", "количество различных дней когда вышли видео",
   "сколько видео у креаторов", "всего жалоб", "покажи просмотры на тот момент",
   "лайки к 3 числу", "количество видео за все время", "на сколько выросли лайки на дату",
   "сколько роликов", "сколько снимков где просмотры стало меньше",
   "количество замеров с уменьшением лайков", "сколько всего роликов вышло",
   "сколько snapshots с падением комментариев", "покажи лайки за весь период"]

def cueResult (t : String) : Json :=
  .arr [match operation? t with
      | some op => .str op.name
      | none => .null,
    .bool (mentionsSnapshots t), .bool (mentionsDecrease t), .bool (isAllTime t),
    .bool (isAsOf t), .bool (asksCreatorCount t), .bool (asksPublishDays t)]

def operationCues : Bench where
  defaultSize := 500
  run _ _ n := results ((cycle cueQuestions n.toNat).map cueResult)

def commonQuestions : List String :=
  ["сколько видео больше 100 просмотров и больше 10 лайков и больше 1 комментариев и " ++
     "меньше 5 жалоб",
   "сколько креаторов не менее 50 просмотров и не более 999 лайков и ровно 3 комментариев",
   "сколько реакций", "привет",
   "сколько видео у креатора abc_123 в июне 2024 больше 100 просмотров и больше 10 лайков",
   "", "сколько просмотров и лайков",
   "сколько видео не менее 1 просмотров и не более 50 комментариев и ровно 0 жалоб"]

def rarerQuestions : List String :=
  ["сколько видео больше 1000 просмотров и не менее 50 лайков и меньше 2 жалоб",
   "сколько видео вышло с 1 по 15 марта 2024",
   "сколько видео у креатора abc_123 в марте 2024 больше 1000 просмотров",
   "сколько креаторов больше 5 лайков и не более 100 комментариев",
   "сколько разных дней публиковались видео в январе 2024",
   "суммарно просмотров у креатора xyz-42 не менее 10 просмотров",
   "сколько реакций за день",
   "на сколько выросли просмотры 10 марта 2024",
   "на сколько выросли лайки 10 марта 2024 с 10:00 до 15:00",
   "сколько видео получили новые комментарии 5 февраля 2024",
   "сколько замеров с отрицательным приростом жалоб 7 апреля 2024",
   "сколько видео имели не менее 10000 просмотров на тот момент 1 марта 2024",
   "сколько видео вышло с 1 января по 31 декабря 2024",
   "сколько видео не более 5 комментариев",
   "сколько всего жалоб",
   "прирост комментариев у креатора zzz 12 мая 2024",
   "количество различных календарных дней публикации видео в июне 2024",
   "сколько видео вышло в феврале 2024",
   "суммарно просмотров видео опубликованных в апреле 2024",
   "сколько лайков на дату",
   "   ",
   "сколько реакций и лайков",
   "как дела",
   "сколько просмотров лайков и жалоб"]

def ruleQuestions : List String :=
  (List.replicate 6 commonQuestions).flatten ++ rarerQuestions

def readErrorClass : ReadError → String
  | .refused _ => "RulesParserError"
  | .invalid _ => "ValidationError"
  | .calendar _ => "ValueError"

def queryResult (q : Query) : Json :=
  .arr [.str q.sql, .arr (q.params.map Query.Param.toJson)]

def ruleResult (dates : DateText.Parser) (now : Moment) (t : String) : Json :=
  match statementFor dates now t with
  | .ok q => queryResult q
  | .error (.read e) => .str (readErrorClass e)
  | .error (.build _) => .str "SQLBuilderError"

def ruleQueries : Bench where
  defaultSize := 100
  run dates now n := results ((cycle ruleQuestions n.toNat).map (ruleResult dates now))

def thresholdQuestions : List String :=
  ["больше 500 просмотров и не менее 3 комментариев и больше 1000 просмотров и " ++
     "не менее 50 лайков и меньше 2 жалоб и не более 10 комментариев и ровно 7 лайков",
   "больше 10000 просмотров и не более 5 комментариев и ровно 1 жалоб и больше 200 лайков и " ++
     "не более 9 жалоб и не менее 1 комментариев",
   "ровно 7 лайков и меньше 2 жалоб и не менее 3 комментариев и больше 50 просмотров и " ++
     "ровно 100 просмотров и меньше 9 лайков"]

def thresholdResult (t : String) : Json :=
  match thresholds .finalTotal t with
  | .ok ts => .arr (ts.map IntentJson.ofThreshold)
  | .error v => .str v.message

def questionThresholds : Bench where
  defaultSize := 200
  run _ _ n := results ((cycle thresholdQuestions n.toNat).map thresholdResult)

def vocabularyTexts : List String :=
  ["просмотры лайки комментарии жалобы", "реакции больше", "просмотров не менее",
   "лайков ровно", "привет", "жалоб меньше"]

def vocabularyResult (t : String) : Json :=
  .arr [.arr ((findMetrics t).map fun m => .str m.name), .bool (hasAmbiguousTerm t),
    match singleMetric? t with
    | some m => .str m.name
    | none => .null,
    match comparator? t with
    | some c => .str c.symbol
    | none => .null]

def vocabularyLookup : Bench where
  defaultSize := 1000
  run _ _ n := results ((cycle vocabularyTexts n.toNat).map vocabularyResult)

def rangeTexts : List String :=
  ["с 1 по 15 марта 2024", "с 5 по 10 июня 2024", "с 3 августа по 28 августа 2023",
   "12 мая 2022", "с 7 по 9 ноября 2021"]

def rangeResult (dates : DateText.Parser) (now : Moment) (t : String) : Json :=
  match DateText.dayRange dates now t with
  | .ok (some (a, b)) =>
    match DateText.halfOpen a b with
    | .ok (lo, hi) => .arr [.obj [("datetime", .str lo.iso)], .obj [("datetime", .str hi.iso)]]
    | .error e => .str e.message
  | .ok none => .null
  | .error e => .str e.message

def dayRanges : Bench where
  defaultSize := 100
  run dates now n := results ((cycle rangeTexts n.toNat).map (rangeResult dates now))

end VideoStats.Workload
