import VideoStats.Intent.Basic
import VideoStats.Text.Blank
import VideoStats.Text.Infix

namespace VideoStats.Vocabulary

open Text

def metricTerms : List (String × Metric) :=
  [("просмотры", .views), ("просмотр", .views), ("просмотров", .views), ("views", .views),
   ("лайки", .likes), ("лайк", .likes), ("лайков", .likes), ("нравится", .likes),
   ("сердечки", .likes),
   ("комментарии", .comments), ("комментарий", .comments), ("коммент", .comments),
   ("комменты", .comments), ("комментариев", .comments),
   ("жалобы", .reports), ("жалоба", .reports), ("жалоб", .reports), ("пожаловаться", .reports),
   ("репорт", .reports), ("репорты", .reports)]

def ambiguousTerms : List String := ["реакции", "реакция", "реакций"]

def comparatorTerms : List (String × Comparator) :=
  [("больше чем", .gt), ("более чем", .gt), ("свыше", .gt), ("больше", .gt),
   ("по меньшей мере", .ge), ("как минимум", .ge), ("не меньше", .ge), ("не менее", .ge),
   ("меньше чем", .lt), ("менее чем", .lt), ("меньше", .lt),
   ("не превышает", .le), ("не больше", .le), ("не более", .le), ("максимум", .le),
   ("равняется", .eq), ("равно", .eq), ("ровно", .eq)]

def phraseBefore (a b : String) : Bool :=
  a.length > b.length || (a.length == b.length && decide (a ≤ b))

def comparatorPhrases : List (String × Comparator) :=
  comparatorTerms.mergeSort fun a b => phraseBefore a.1 b.1

def metricOfTerm? (w : String) : Option Metric := metricTerms.lookup w

def metricsByName : List Metric := [.comments, .likes, .reports, .views]

def wordsOf (text : String) : List String := (words text.toList).map String.ofList

def findMetrics (text : String) : List Metric :=
  let found := (wordsOf text).filterMap metricOfTerm?
  metricsByName.filter (found.contains ·)

/-- The one counter the text mentions, if it mentions exactly one. -/
def singleMetric? (text : String) : Option Metric :=
  match findMetrics text with
  | [m] => some m
  | _ => none

def hasAmbiguousTerm (text : String) : Bool :=
  (wordsOf text).any (ambiguousTerms.contains ·)

def comparator? (text : String) : Option Comparator :=
  let padded := " " ++ text ++ " "
  (comparatorPhrases.find? fun p => contains padded (" " ++ p.1 ++ " ")).map (·.2)

end VideoStats.Vocabulary
