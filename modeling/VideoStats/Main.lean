import VideoStats.Cli.Tools
import VideoStats.Host.Dates.Search
import VideoStats.Host.Dates.Whole
import VideoStats.Host.Dotenv
import VideoStats.Question.Statement
import VideoStats.Service.Trace

namespace VideoStats.Main

open Service

/-- The date library questions are read with. -/
def dates : DateText.Parser := ⟨Host.Dates.searchDates, Host.Dates.readRussian⟩

def usage : String :=
  "usage: videostats ask YYYY-MM-DD | migrate [--recreate] | " ++
    "load_json (--path PATH | --url URL) [--truncate] [--batch-size N]"

def readIfPresent (path : String) : IO (Option String) := do
  try
    let text ← IO.FS.readFile path
    pure (some text)
  catch _ =>
    pure none

def worldFor (paths : List String) : IO World := do
  let url ← IO.getEnv "DATABASE_URL"
  let env : Host.Environment := ⟨match url with
    | some u => [("DATABASE_URL", u)]
    | none => []⟩
  let mut files : Host.Files := {}
  for p in ".env" :: paths do
    if let some text ← readIfPresent p then
      files := files.add p (.file text)
  pure { env := env, files := files, dotenv := fun fs env => env.loadDotenv fs }

def runTool (tool : Act Cli.Ending) (paths : List String) : IO UInt32 := do
  let world ← worldFor paths
  let stdout ← IO.getStdout
  let stderr ← IO.getStderr
  match tool.run world with
  | .ok ending w =>
    for line in w.trace do
      stdout.putStrLn line
    stdout.putStr ending.stdout
    stderr.putStr ending.stderr
    pure (ending.status.getD 0).toUInt32
  | .error fault w =>
    for line in w.trace do
      stdout.putStrLn line
    stderr.putStrLn (fault.className ++ ": " ++ fault.message)
    pure 1

partial def answerLines (now : Moment) (stdin : IO.FS.Stream) (stdout : IO.FS.Stream) :
    IO Unit := do
  let line ← stdin.getLine
  if line.isEmpty then return
  let text := String.ofList (line.toList.filter fun c => c != '\n' && c != '\r')
  stdout.putStrLn (Json.write (Question.statementJson dates now text))
  stdout.flush
  answerLines now stdin stdout

end VideoStats.Main

open VideoStats VideoStats.Main in
/-- Run the command named by the first argument. -/
def main (args : List String) : IO UInt32 := do
  match args with
  | ["ask", day] =>
    match Day.ofIso? day with
    | some d =>
      answerLines (Moment.startOf d) (← IO.getStdin) (← IO.getStdout)
      pure 0
    | none =>
      IO.eprintln usage
      pure 2
  | "migrate" :: rest => runTool (Cli.migrateTool .bundled rest) []
  | "load_json" :: rest => runTool (Cli.loadTool rest) (Cli.datasetPath? rest).toList
  | _ =>
    IO.eprintln usage
    pure 2
