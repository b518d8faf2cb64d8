import VideoStats.Service.Direct

namespace VideoStats.Service

def bundledMigrations : List (String × String) :=
  [("001_create_tables.sql",
    "\n".intercalate [
      "CREATE TABLE IF NOT EXISTS videos (",
      "    id TEXT PRIMARY KEY,",
      "    creator_id TEXT NOT NULL,",
      "    video_created_at TIMESTAMPTZ NOT NULL,",
      "    views_count BIGINT NOT NULL,",
      "    likes_count BIGINT NOT NULL,",
      "    comments_count BIGINT NOT NULL,",
      "    reports_count BIGINT NOT NULL,",
      "    created_at TIMESTAMPTZ NOT NULL,",
      "    updated_at TIMESTAMPTZ NOT NULL",
      ");",
      "",
      "CREATE TABLE IF NOT EXISTS video_snapshots (",
      "    id TEXT PRIMARY KEY,",
      "    video_id TEXT NOT NULL REFERENCES videos(id) ON DELETE CASCADE,",
      "    views_count BIGINT NOT NULL,",
      "    likes_count BIGINT NOT NULL,",
      "    comments_count BIGINT NOT NULL,",
      "    reports_count BIGINT NOT NULL,",
      "    delta_views_count BIGINT NOT NULL,",
      "    delta_likes_count BIGINT NOT NULL,",
      "    delta_comments_count BIGINT NOT NULL,",
      "    delta_reports_count BIGINT NOT NULL,",
      "    created_at TIMESTAMPTZ NOT NULL,",
      "    updated_at TIMESTAMPTZ NOT NULL",
      ");",
      "",
      ""]),
   ("002_create_indexes.sql",
    "\n".intercalate [
      "CREATE INDEX IF NOT EXISTS idx_videos_creator_id__video_created_at",
      "    ON videos(creator_id, video_created_at);",
      "",
      "CREATE INDEX IF NOT EXISTS idx_video_snapshots_created_at",
      "    ON video_snapshots(created_at);",
      "",
      "CREATE INDEX IF NOT EXISTS idx_video_snapshots_video_id__created_at",
      "    ON video_snapshots(video_id, created_at);",
      "",
      ""])]

def migrationsTableSql : String :=
  "\n".intercalate [
    "",
    "        CREATE TABLE IF NOT EXISTS schema_migrations",
    "        (",
    "            filename",
    "            TEXT",
    "            PRIMARY",
    "            KEY,",
    "            applied_at",
    "            TIMESTAMPTZ",
    "            NOT",
    "            NULL",
    "            DEFAULT",
    "            NOW",
    "        (",
    "        )",
    "            );",
    "        "]

def dropTablesSql : String :=
  "\n".intercalate [
    "",
    "                DROP TABLE IF EXISTS video_snapshots;",
    "                DROP TABLE IF EXISTS videos;",
    "                DROP TABLE IF EXISTS schema_migrations;",
    "                "]

def appliedSql : String := "SELECT filename FROM schema_migrations"

def markAppliedSql : String := "INSERT INTO schema_migrations(filename) VALUES (%s)"

inductive MigrationSource where
  | bundled
  | directory (path : String)
  deriving DecidableEq, Repr

def suffix (name : String) : String :=
  let cs := name.toList
  let afterDot := (cs.reverse.takeWhile (· != '.')).reverse
  let dot := cs.length - afterDot.length - 1
  if afterDot.length < cs.length && 0 < dot && !afterDot.isEmpty then
    String.ofList ('.' :: afterDot)
  else ""

def isMigrationFile (name : String) : Bool := suffix name == ".sql"

def migrationNames (fs : Host.Files) : MigrationSource → Except Fault (List String)
  | .bundled => pure (bundledMigrations.map (·.1))
  | .directory dir => do
    if !fs.exists? dir then throw (.migrationsMissing (Host.showPath dir))
    let entries ← match fs.list dir with
      | .ok es => pure es
      | .error e => throw (.file e)
    let names := ((entries.filter fun e => e.2 && isMigrationFile e.1).map (·.1)).mergeSort
      fun a b => a < b || a == b
    if names.isEmpty then throw (.noMigrationFiles (Host.showPath dir))
    pure names

def migrationText (fs : Host.Files) (source : MigrationSource) (name : String) :
    Except Fault String :=
  match source with
  | .bundled =>
    match bundledMigrations.lookup name with
    | some text => .ok text
    | none => .error (.file (.notFound name))
  | .directory dir => (fs.readText (dir ++ "/" ++ name)).mapError .file

def listMigrations (source : MigrationSource) : Act (List String) := do
  match migrationNames (← get).files source with
  | .ok names => pure names
  | .error e => throw e

def readMigration (source : MigrationSource) (name : String) : Act String := do
  match migrationText (← get).files source name with
  | .ok text => pure text
  | .error e => throw e

def applyMigration (name text : String) : Act Unit :=
  transaction do
    execute text
    execute markAppliedSql (some [.str name])

/-- Apply the migrations not applied yet, in order, reading each text when its turn comes. -/
def applyPending (source : MigrationSource) (applied names : List String) : Act Unit :=
  for name in names do
    if !applied.contains name then
      let text ← readMigration source name
      applyMigration name text

def migrateOn (source : MigrationSource) (names : List String) (recreate : Bool) : Act Unit := do
  if recreate then execute dropTablesSql
  execute migrationsTableSql
  execute appliedSql
  let applied := (← get).database.applied
  applyPending source applied names

/-- Apply the migrations not applied yet, after dropping the tables when `recreate` holds. -/
def migrate (source : MigrationSource) (recreate : Bool) : Act Unit := do
  loadDotenv
  let url ← requireDatabaseUrl
  let names ← listMigrations source
  connectUtc url
  withConnection (migrateOn source names recreate)

end VideoStats.Service
