import VideoStats.Host.Environment
import VideoStats.Host.Files
import VideoStats.Json.Convert
import VideoStats.Chat.Exchange
import VideoStats.Config.Settings
import VideoStats.Config.Logging
/-!
The world the services run in, and services as programs over it that may fail and keep
a record of every call they make.
-/

namespace VideoStats.Service

open Host

structure PoolOptions where
  minSize : Json := .int 1
  maxSize : Json := .null
  timeout : Json := .num 30.0
  openNow : Bool := false
  utcOnConnect : Bool := true
  deriving Inhabited

structure PoolInit where
  conninfo : Json
  options : Option PoolOptions
  deriving Inhabited

inductive Call where
  | connect (url : String)
  | execute (sql : String) (params : Option (List Json))
  | executeMany (sql : String) (rows : List (List Json))
  | begin
  | commit
  | rollback
  | close (committed : Bool)
  | poolInit (p : PoolInit)
  | poolOpen (wait : Bool)
  | poolClose
  | poolNewConnection
  | poolAcquire
  | poolRelease
  | includeRouter (name : String) (handlers : List String)
  | startPolling (token : Json) (parseMode : Option String) (extras : List String)
  | urlOpen (url : String)
  | reply (text : String)
  deriving Inhabited

/-- How the database answers. -/
structure Database where
  applied : List String := []
  failOn : Option String := none
  row : Json := .null
  error : Option String := none
  deriving Inhabited

structure PoolState where
  init : PoolInit
  connected : Bool := false
  deriving Inhabited

/-- The world services run in. -/
structure World where
  env : Environment := {}
  files : Files := {}
  dotenv : Files → Environment → Environment := fun _ env => env
  urls : List (String × String) := []
  database : Database := {}
  chat : Chat.Request → Chat.Response := fun _ => .body ""
  calls : List Call := []
  pool : Option PoolState := none

inductive Fault where
  | database (message : String)
  | databaseUrlMissing
  | migrationsMissing (dir : String)
  | noMigrationFiles (dir : String)
  | file (e : FileError)
  | batchSizeNotPositive
  | sourceNotSingle
  | notJson (message : String)
  | datasetShape
  | value (e : Json.UseError)
  | unreachable
  | settings (e : Config.SettingsError)
  | logLevel (e : Config.UnknownLevel)
  | logLevelNotText (kind : String)
  | polling (message : String)
  deriving Repr

def Fault.className : Fault → String
  | .database _ => "DatabaseError"
  | .databaseUrlMissing | .migrationsMissing _ | .noMigrationFiles _ | .polling _ => "RuntimeError"
  | .file e => e.className
  | .batchSizeNotPositive | .sourceNotSingle | .datasetShape | .logLevel _ => "ValueError"
  | .notJson _ => "JSONDecodeError"
  | .value e => e.className
  | .unreachable => "URLError"
  | .settings e => if e.isRule then "RuntimeError" else "AttributeError"
  | .logLevelNotText _ => "AttributeError"

def Fault.message : Fault → String
  | .database m => m
  | .databaseUrlMissing => "DATABASE_URL is required (set it in .env or environment)"
  | .migrationsMissing dir => "Migrations directory does not exist: " ++ dir
  | .noMigrationFiles dir => "No .sql migration files found in " ++ dir
  | .file e => e.message
  | .batchSizeNotPositive => "--batch-size must be a positive integer"
  | .sourceNotSingle => "Exactly one of --path or --url must be provided"
  | .notJson m => m
  | .datasetShape =>
    "Unexpected dataset format: expected object with key 'videos' containing a list"
  | .value e => e.message
  | .unreachable => "<urlopen error unreachable>"
  | .settings e =>
    if e.isRule then "Invalid environment configuration: " ++ e.message else e.message
  | .logLevel e => e.message
  | .logLevelNotText kind => "'" ++ kind ++ "' object has no attribute 'upper'"
  | .polling m => m

/-- A service: a program over the world that may fail, keeping its calls either way. -/
abbrev Act (α : Type) := EStateM Fault World α

def record (c : Call) : Act Unit :=
  modify fun w => { w with calls := w.calls ++ [c] }

def always {α : Type} (body : Act α) (last : Act Unit) : Act α := do
  let r ← tryCatch (Except.ok <$> body) fun e => pure (Except.error e)
  last
  match r with
  | .ok a => pure a
  | .error e => throw e

def onFailure {α : Type} (body : Act α) (handler : Act Unit) : Act α :=
  tryCatch body fun e => do handler; throw e

/-- A loader of the environment file that keeps every variable already set. -/
def KeepsSet (load : Files → Environment → Environment) : Prop :=
  ∀ files env name value, env.get? name = some value → (load files env).get? name = some value

def loadDotenv : Act Unit :=
  modify fun w => { w with env := w.dotenv w.files w.env }

def requireDatabaseUrl : Act String := do
  match (← get).env.nonEmpty? "DATABASE_URL" with
  | some url => pure url
  | none => throw .databaseUrlMissing

end VideoStats.Service
