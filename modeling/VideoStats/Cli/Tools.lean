import VideoStats.Cli.Args
import VideoStats.Service.Migrate
import VideoStats.Service.Load

namespace VideoStats.Cli

open Service

def layoutWidth : Nat := 78

def migrateParser : Parser :=
  { prog := "migrate.py", description := "Apply SQL migrations to Postgres.",
    options := [helpOpt,
      { flags := ["--recreate"], dest := "recreate",
        help := "Drop existing tables and re-apply all migrations (destructive)." }] }

def loadParser : Parser :=
  { prog := "load_json.py", description := "Load the provided videos dataset into Postgres.",
    options := [helpOpt,
      { flags := ["--path"], dest := "path", takesValue := true,
        help := "Path to the dataset JSON file (e.g. videos.json)." },
      { flags := ["--url"], dest := "url", takesValue := true,
        help := "URL to download the dataset JSON." },
      { flags := ["--truncate"], dest := "truncate",
        help := "TRUNCATE target tables before loading (destructive)." },
      { flags := ["--batch-size"], dest := "batch_size", takesValue := true, integer := true,
        help := "Number of snapshot rows per insert batch." }],
    groups := [{ dests := ["path", "url"], required := true }] }

structure Ending where
  status : Option Nat := none
  stdout : String := ""
  stderr : String := ""
  deriving Repr

def runTool (p : Parser) (args : List String) (service : List (String × Given) → Act Unit) :
    Act Ending :=
  match p.parse args with
  | .help => pure { status := some 0, stdout := p.helpText layoutWidth }
  | .error m =>
    pure { status := some 2
           stderr := p.usageText layoutWidth ++ p.prog ++ ": error: " ++ m ++ "\n" }
  | .values vs => do
    service vs
    pure {}

def textValue (vs : List (String × Given)) (dest : String) : Option String :=
  match vs.lookup dest with
  | some (.text s) => some s
  | _ => none

def switchGiven (vs : List (String × Given)) (dest : String) : Bool :=
  vs.lookup dest == some .switch

def migrateTool (source : MigrationSource) (args : List String) : Act Ending :=
  runTool migrateParser args fun vs => migrate source (switchGiven vs "recreate")

def loadTool (args : List String) : Act Ending :=
  runTool loadParser args fun vs =>
    loadDataset { path := textValue vs "path", url := textValue vs "url",
                  truncate := switchGiven vs "truncate",
                  batchSize := match vs.lookup "batch_size" with
                    | some (.number n) => n
                    | _ => 1000 }

def datasetPath? (args : List String) : Option String :=
  match loadParser.parse args with
  | .values vs => textValue vs "path"
  | _ => none

end VideoStats.Cli
