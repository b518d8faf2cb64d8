import VideoStats.Service.Direct
import VideoStats.Dataset.Rows
import VideoStats.Json.Read

namespace VideoStats.Service

structure LoadRequest where
  path : Option String := none
  url : Option String := none
  truncate : Bool := false
  batchSize : Int := 1000
  deriving Repr

def truncateSql : String := "TRUNCATE video_snapshots, videos"

def videoUpsertSql : String :=
  "\n".intercalate [
    "",
    "                    INSERT INTO videos (id,",
    "                                        creator_id,",
    "                                        video_created_at,",
    "                                        views_count,",
    "                                        likes_count,",
    "                                        comments_count,",
    "                                        reports_count,",
    "                                        created_at,",
    "                                        updated_at)",
    "                    VALUES (%s, %s, %s, %s, %s, %s, %s, %s, %s) ON CONFLICT (id) DO",
    "                    UPDATE SET",
    "                        creator_id = EXCLUDED.creator_id,",
    "                        video_created_at = EXCLUDED.video_created_at,",
    "                        views_count = EXCLUDED.views_count,",
    "                        likes_count = EXCLUDED.likes_count,",
    "                        comments_count = EXCLUDED.comments_count,",
    "                        reports_count = EXCLUDED.reports_count,",
    "                        created_at = EXCLUDED.created_at,",
    "                        updated_at = EXCLUDED.updated_at",
    "                    "]

def snapshotUpsertSql : String :=
  "\n".intercalate [
    "",
    "                        INSERT INTO video_snapshots (id,",
    "                                                     video_id,",
    "                                                     views_count,",
    "                                                     likes_count,",
    "                                                     comments_count,",
    "                                                     reports_count,",
    "                                                     delta_views_count,",
    "                                                     delta_likes_count,",
    "                                                     delta_comments_count,",
    "                                                     delta_reports_count,",
    "                                                     created_at,",
    "                                                     updated_at)",
    "                        VALUES (%s, %s, %s, %s, %s, %s, %s, %s, %s, %s, %s, %s) ON CONFLICT (id) DO",
    "                        UPDATE SET",
    "                            video_id = EXCLUDED.video_id,",
    "                            views_count = EXCLUDED.views_count,",
    "                            likes_count = EXCLUDED.likes_count,",
    "                            comments_count = EXCLUDED.comments_count,",
    "                            reports_count = EXCLUDED.reports_count,",
    "                            delta_views_count = EXCLUDED.delta_views_count,",
    "                            delta_likes_count = EXCLUDED.delta_likes_count,",
    "                            delta_comments_count = EXCLUDED.delta_comments_count,",
    "                            delta_reports_count = EXCLUDED.delta_reports_count,",
    "                            created_at = EXCLUDED.created_at,",
    "                            updated_at = EXCLUDED.updated_at",
    "                        "]

def given (t : Option String) : Bool := (t.filter (!·.isEmpty)).isSome

def fetchDataset (path url : Option String) : Act String := do
  if given path == given url then throw .sourceNotSingle
  match path.filter (!·.isEmpty) with
  | some p =>
    match (← get).files.readRaw p with
    | .ok t => pure t
    | .error e => throw (.file e)
  | none =>
    let u := url.getD ""
    record (.urlOpen u)
    match (← get).urls.lookup u with
    | some body => pure body
    | none => throw .unreachable

def readDocument (text : String) : Act Json :=
  let doc := Json.withoutMark text
  match Json.read doc with
  | .ok j => pure j
  | .error e => throw (.notJson (e.message doc))

def datasetVideos (payload : Json) : Act Json :=
  match payload.field? "videos" with
  | some (.arr vs) => pure (.arr vs)
  | _ => throw .datasetShape

def upsertSnapshots (size : Nat) (videos : Json) : Act Unit := do
  let (rows, failure) := Dataset.snapshotRowStream videos
  let all := Dataset.batches size rows
  let written := match failure with
    | some _ => all.take (rows.length / (size - 1 + 1))
    | none => all
  for batch in written do executeMany snapshotUpsertSql batch
  if let some e := failure then throw (.value e)

/-- The checks and reads before connecting: batch size, database address, videos. -/
def prepareLoad (req : LoadRequest) : Act (String × Json) := do
  if req.batchSize ≤ 0 then throw .batchSizeNotPositive
  loadDotenv
  let url ← requireDatabaseUrl
  let text ← fetchDataset req.path req.url
  let payload ← readDocument text
  let videos ← datasetVideos payload
  pure (url, videos)

def writeRows (truncate : Bool) (size : Nat) (videos : Json) : Act Unit := do
  if truncate then execute truncateSql
  let rows ← match Dataset.videoRows videos with
    | .ok rs => pure rs
    | .error e => throw (.value e)
  executeMany videoUpsertSql rows
  upsertSnapshots size videos

/-- Load a dataset into the database. -/
def loadDataset (req : LoadRequest) : Act Unit := do
  let (url, videos) ← prepareLoad req
  connectUtc url
  withConnection (transaction (writeRows req.truncate req.batchSize.toNat videos))

end VideoStats.Service
