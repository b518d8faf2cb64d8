import VideoStats.Workload.Basic
import VideoStats.Bot.Main
import VideoStats.Service.Load
import VideoStats.Service.Migrate
import VideoStats.Json.Write

namespace VideoStats.Workload

open Service VideoStats.Bot

def sampleMessages : List Message :=
  [{ text := some "сколько всего видео" },
   { text := some "сколько видео вышло в ноябре 2025" },
   { caption := some "сколько креаторов" },
   { text := some "сколько видео больше 1000 просмотров" },
   { text := some "на сколько выросли просмотры 28 ноября 2025" },
   { text := some "суммарно лайков" },
   { text := some "/start" },
   { text := some "сколько видео у креатора abc" },
   { text := some "сколько разных дней публиковались видео в ноябре 2025" },
   { text := some "сколько замеров с отрицательным приростом просмотров" },
   { text := some "сколько видео получили новые лайки 28 ноября 2025" },
   { text := some "количество роликов" },
   { text := some "итого комментариев" },
   { text := some "сколько видео за всё время" },
   { text := some "всего жалоб" },
   { text := some "сколько видео с 1 по 5 ноября 2025" },
   { text := some "прирост лайков 27 ноября 2025" },
   { text := some "число видео" },
   { text := some "сколько креаторов больше 100 просмотров" },
   {},
   { text := some "привет" },
   { text := some "   " },
   { text := some "сколько роликов вышло в мае 2025" }]

def handlerSettings : Config.Settings :=
  { telegramBotToken := .str "t", databaseUrl := .str "postgresql://x" }

def pooledWorld (row : Json) : World :=
  { database := { row }, pool := some { init := { conninfo := .str "postgresql://x",
                                                  options := some {} } } }

def handledMessages : Bench where
  defaultSize := 100
  run dates now n :=
    let handled :=
      (cycle sampleMessages n.toNat).forM (handleMessage dates handlerSettings now)
    let replies := match handled.run (pooledWorld (.arr [.int 7])) with
      | .ok _ w | .error _ w => w.calls.filterMap fun
        | .reply t => some (Json.str t)
        | _ => none
    results (replies ++ (["42", "-7", "abc", " 13 "].map fun t => .str (sanitize t)) ++
      [.bool (isCommand "/help")])

def sampleRows : List Json := [.arr [.int 42], .null, .arr [.null]]

def scalarResult (row : Json) : Json :=
  match (fetchScalarInt "SELECT 1" []).run (pooledWorld row) with
  | .ok v _ => .int v
  | .error f _ => .str f.message

def scalarQueries : Bench where
  defaultSize := 300
  run _ _ n :=
    let pool := match (createPool (.str "postgresql://x") {}).run {} with
      | .ok p _ => [(p.options.map (·.minSize)).getD .null, p.conninfo]
      | .error f _ => [.str f.message]
    results ((cycle sampleRows n.toNat).map scalarResult ++ pool ++ [.str poolKindName])

def sampleSnapshot (i j : Nat) : Json :=
  .obj [("id", .str ("s" ++ toString i ++ "_" ++ toString j)),
    ("video_id", .str ("v" ++ toString i)),
    ("views_count", .int (i + j)), ("likes_count", .int j), ("comments_count", .int 0),
    ("reports_count", .int 0), ("delta_views_count", .int j), ("delta_likes_count", .int 1),
    ("delta_comments_count", .int 0), ("delta_reports_count", .int 0),
    ("created_at", .str "2025-11-01T10:00:00+00:00"),
    ("updated_at", .str "2025-11-01T10:00:00+00:00")]

def sampleVideo (i : Nat) : Json :=
  .obj [("id", .str ("v" ++ toString i)), ("creator_id", .str ("c" ++ toString (i % 10))),
    ("video_created_at", .str "2025-11-01T00:00:00+00:00"),
    ("views_count", .int (10 * i)), ("likes_count", .int i), ("comments_count", .int (i % 5)),
    ("reports_count", .int 0), ("created_at", .str "2025-11-01T00:00:00+00:00"),
    ("updated_at", .str "2025-11-01T00:00:00+00:00"),
    ("snapshots", .arr ((List.range 4).map (sampleSnapshot i)))]

def sampleVideos (n : Nat) : List Json := (List.range n).map sampleVideo

def datasetRowCounts : Bench where
  defaultSize := 150
  run _ _ n :=
    let videos := Json.arr (sampleVideos n.toNat)
    let count (r : Except Json.UseError (List (List Json))) (batch : Nat) : Json :=
      match r with
      | .ok rows => .int ((Dataset.batches batch rows).foldl (· + ·.length) 0)
      | .error e => .str e.message
    results [count (Dataset.videoRows videos) 1000, count (Dataset.snapshotRows videos) 100]

def statementCount (w : World) : Nat :=
  (w.calls.filter fun
    | .execute _ _ | .executeMany _ _ => true
    | _ => false).length

def labelled (label : String) (r : EStateM.Result Fault World Json) : Json :=
  match r with
  | .ok v _ => v
  | .error _ _ => .str label

def loadAndMigrate : Bench where
  defaultSize := 200
  run _ _ n :=
    let videos := sampleVideos n.toNat
    match videos with
    | [] => .error .noFirstInput
    | first :: _ =>
      let files : Host.Files := ({} : Host.Files)
        |>.add "videos.json" (.file (Json.write (.obj [("videos", .arr videos)])))
        |>.add "bad.json" (.file (Json.write (.obj [("videos", first)])))
      let world : World := { env := ⟨[("DATABASE_URL", "postgresql://x")]⟩, files }
      let load (path : String) (batch : Int) : Act Json := do
        loadDataset { path := some path, batchSize := batch }
        pure (.int (statementCount (← get)))
      let applied : Act Json := do
        migrate .bundled false
        pure (.int ((← get).calls.filter fun
          | .execute sql _ => sql == markAppliedSql
          | _ => false).length)
      results [labelled "load" ((load "videos.json" 200).run world),
        labelled "bad-shape" ((load "bad.json" 200).run world),
        labelled "bad-bs" ((load "videos.json" 0).run world),
        labelled "migrate" (applied.run world)]

def sampleEnvironments : List Host.Environment :=
  let base := [("TELEGRAM_BOT_TOKEN", "t"), ("DATABASE_URL", "postgresql://x")]
  [⟨base⟩, ⟨base ++ [("DB_TIMEZONE", "Europe/Moscow")]⟩, ⟨base ++ [("LLM_ENABLED", "true")]⟩,
   ⟨base ++ [("LLM_ENABLED", "true"), ("LLM_API_KEY", "k"), ("DB_TIMEZONE", "utc")]⟩]

def settingsResult (env : Host.Environment) : Json :=
  match Config.Settings.load [] env with
  | .ok s => .arr [s.dbTimezone, s.llmEnabled]
  | .error _ => .str "bad"

def settingsReads : Bench where
  defaultSize := 800
  run _ _ n := results ((cycle sampleEnvironments n.toNat).map settingsResult ++
    [.str appName, .str routerName])

end VideoStats.Workload
