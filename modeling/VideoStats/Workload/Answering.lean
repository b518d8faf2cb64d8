import VideoStats.Workload.Reading
import VideoStats.Question.Understand
import VideoStats.Intent.Check
import VideoStats.Json.Write

namespace VideoStats.Workload

open Question

def replyWith (content : String) : String :=
  Json.write (.obj [("choices", .arr [.obj [("message", .obj [("content", .str content)])]])])

def countVideosProposal : String :=
  Json.write (.obj [("operation", .str "count_videos"), ("metric", .null)])

def countingAssistant : Assistant where
  apiKey := some "k"
  service := fun _ => .body (replyWith countVideosProposal)

def understoodQuestions : List String :=
  (List.replicate 6 commonQuestions).flatten ++ rarerQuestions.take 20

def understandResult (dates : DateText.Parser) (now : Moment) (i : Nat) (t : String) : Json :=
  let assistant := if i % 10 == 0 then some countingAssistant else none
  match understand dates now assistant t with
  | .error (.rules _) => .str "IntentParserError"
  | .error (.exchange _) => .str "AttributeError"
  | .error (.proposal _) => .str "TypeError"
  | .ok (src, u) =>
    match u.intent? with
    | none => .str "ValidationError"
    | some intent =>
      match Query.build intent with
      | .error _ => .str "SQLBuilderError"
      | .ok q => .arr [.str src.name, .str intent.operation.name, .int q.params.length,
          .str (String.ofList (q.sql.toList.take 20))]

def understoodQueries : Bench where
  defaultSize := 100
  run dates now n :=
    let rs := (cycle understoodQuestions n.toNat).zipIdx.map fun (t, i) =>
      understandResult dates now i t
    match rs with
    | first :: _ =>
      let op := match first with
        | .arr (_ :: o :: _) => o
        | other => other
      results (rs ++ [op])
    | [] => .error .noFirstInput

def onDay (y m d : Nat) : Day := ⟨y, m, d⟩

def published (a b : Day) : Option DateRange := some ⟨.videosPublishedAt, a, b⟩

def taken (a b : Day) : Option DateRange := some ⟨.snapshotsCreatedAt, a, b⟩

def onFinal (m : Metric) (op : Comparator) (v : Int) : Threshold := ⟨.finalTotal, m, op, v⟩

def sampleIntents : List Intent :=
  [{ operation := .countVideos,
     filters := { thresholds := [onFinal .views .gt 1000, onFinal .likes .ge 50,
                                 onFinal .reports .lt 2] } },
   { operation := .countVideos, dateRange := published (onDay 2024 3 1) (onDay 2024 3 15) },
   { operation := .countVideos, dateRange := published (onDay 2024 3 1) (onDay 2024 3 31),
     filters := { creator := some "abc_123", thresholds := [onFinal .views .gt 1000] } },
   { operation := .countDistinctCreators,
     filters := { thresholds := [onFinal .likes .gt 5, onFinal .comments .le 100] } },
   { operation := .countDistinctPublishDays,
     dateRange := published (onDay 2024 1 1) (onDay 2024 1 31) },
   { operation := .sumTotalMetric, metric := some .views,
     filters := { creator := some "xyz-42", thresholds := [onFinal .views .ge 10] } },
   { operation := .sumDeltaMetric, metric := some .views,
     dateRange := taken (onDay 2024 3 10) (onDay 2024 3 10) },
   { operation := .sumDeltaMetric, metric := some .likes,
     dateRange := taken (onDay 2024 3 10) (onDay 2024 3 10),
     timeWindow := some ⟨⟨10, 0, 0, 0⟩, ⟨15, 0, 0, 0⟩⟩ },
   { operation := .countDistinctVideosWithPositiveDelta, metric := some .comments,
     dateRange := taken (onDay 2024 2 5) (onDay 2024 2 5) },
   { operation := .countSnapshotsWithNegativeDelta, metric := some .reports,
     dateRange := taken (onDay 2024 4 7) (onDay 2024 4 7) },
   { operation := .countVideos, dateRange := taken (onDay 2024 3 1) (onDay 2024 3 1),
     filters := { thresholds := [⟨.snapshotAsOf, .views, .ge, 10000⟩] } },
   { operation := .countVideos, dateRange := published (onDay 2024 1 1) (onDay 2024 12 31) },
   { operation := .countVideos, filters := { thresholds := [onFinal .comments .le 5] } },
   { operation := .sumTotalMetric, metric := some .reports },
   { operation := .sumDeltaMetric, metric := some .comments,
     dateRange := taken (onDay 2024 5 12) (onDay 2024 5 12),
     filters := { creator := some "zzz" } },
   { operation := .countDistinctPublishDays,
     dateRange := published (onDay 2024 6 1) (onDay 2024 6 30) },
   { operation := .countVideos, dateRange := published (onDay 2024 2 1) (onDay 2024 2 29) },
   { operation := .sumTotalMetric, metric := some .views,
     dateRange := published (onDay 2024 4 1) (onDay 2024 4 30) },
   { operation := .countVideos, dateRange := taken (onDay 2024 3 1) (onDay 2024 3 1) }]

def buildResult (i : Intent) : Json :=
  match Query.build i with
  | .ok q => .arr [.str q.sql, .int q.params.length]
  | .error e => .str e.message

def builtQueries : Bench where
  defaultSize := 300
  run _ _ n := results ((cycle sampleIntents n.toNat).map buildResult)

def checkedIntents : List Intent :=
  [{ operation := .countVideos },
   { operation := .sumTotalMetric, metric := some .views },
   { operation := .sumDeltaMetric, metric := some .likes,
     dateRange := taken (onDay 2024 3 10) (onDay 2024 3 10) },
   { operation := .countDistinctPublishDays,
     dateRange := published (onDay 2024 1 1) (onDay 2024 1 31) },
   { operation := .countVideos, filters := { creator := some "abc" } },
   { operation := .countVideos, metric := some .views },
   { operation := .sumTotalMetric },
   { operation := .countDistinctPublishDays },
   { operation := .countDistinctPublishDays,
     dateRange := taken (onDay 2024 1 1) (onDay 2024 1 31) },
   { operation := .countVideos, filters := { thresholds := [⟨.snapshotAsOf, .views, .ge, 1⟩] } },
   { operation := .countVideos, dateRange := published (onDay 2024 3 1) (onDay 2024 3 1),
     filters := { thresholds := [⟨.snapshotAsOf, .views, .ge, 1⟩] } },
   { operation := .sumDeltaMetric, metric := some .views,
     timeWindow := some ⟨⟨10, 0, 0, 0⟩, ⟨15, 0, 0, 0⟩⟩ },
   { operation := .sumDeltaMetric, metric := some .views,
     dateRange := published (onDay 2024 3 1) (onDay 2024 3 1),
     timeWindow := some ⟨⟨10, 0, 0, 0⟩, ⟨15, 0, 0, 0⟩⟩ },
   { operation := .sumDeltaMetric, metric := some .views,
     dateRange := taken (onDay 2024 3 1) (onDay 2024 3 2),
     timeWindow := some ⟨⟨10, 0, 0, 0⟩, ⟨15, 0, 0, 0⟩⟩ },
   { operation := .countVideos, dateRange := taken (onDay 2024 3 1) (onDay 2024 3 1),
     timeWindow := some ⟨⟨10, 0, 0, 0⟩, ⟨15, 0, 0, 0⟩⟩ },
   { operation := .sumDeltaMetric, metric := some .views,
     dateRange := published (onDay 2024 3 1) (onDay 2024 3 1) }]

def brokenParts : List Intent :=
  [{ operation := .countVideos, dateRange := published (onDay 2024 3 2) (onDay 2024 3 1) },
   { operation := .sumDeltaMetric, metric := some .views,
     dateRange := taken (onDay 2024 3 1) (onDay 2024 3 1),
     timeWindow := some ⟨⟨15, 0, 0, 0⟩, ⟨10, 0, 0, 0⟩⟩ },
   { operation := .countVideos, filters := { thresholds := [onFinal .views .gt (Int.pow 2 63)] } },
   { operation := .countVideos }]

def checkResult (i : Intent) : Json :=
  match i.validate with
  | .ok v => .str v.operation.name
  | .error _ => .str "E"

def intentChecks : Bench where
  defaultSize := 400
  run _ _ n := results ((cycle checkedIntents n.toNat ++ brokenParts).map checkResult)

def assistantReplies : List String :=
  [replyWith countVideosProposal,
   replyWith ("```json\n" ++ countVideosProposal ++ "\n```"),
   "not json",
   replyWith "no json here"]

def fencedContents : List String :=
  ["```json\n" ++ Json.write (.obj [("a", .int 1)]) ++ "\n```",
   "```" ++ Json.write (.obj [("b", .int 2)]) ++ "```",
   "plain text", "  spaced  ", "```X```"]

def serviceBases : List String := ["http://h/v1/", "https://api.x.com/v1", "http://a/b/c///"]

def localConfig : Chat.Config := { apiKey := "k", model := "m", apiBase := "http://h/v1" }

def assistantRound (i : Nat) : Json :=
  let reply := match Chat.answerOf (.body (assistantReplies.getD (i % 4) "")) with
    | .ok j => j
    | .error _ => .str "E"
  let four {α : Type} (xs : List α) : List α := xs.flatMap fun x => [x, x, x, x]
  .arr (reply :: (four fencedContents).map (fun c => .str (Chat.unfence c)) ++
    (four serviceBases).map fun b => .str (Chat.completionsUrl b))

def assistantRounds : Bench where
  defaultSize := 400
  run _ _ n := results ((List.range n.toNat).map assistantRound ++ [.str localConfig.model])

end VideoStats.Workload
