import VideoStats.Service.World
import VideoStats.Json.Write

namespace VideoStats.Service

def Call.describe : Call → String
  | .connect url => "connect " ++ url
  | .execute sql ps =>
    "execute " ++ Text.squeeze sql ++ match ps with
      | some xs => " " ++ Json.write (.arr xs)
      | none => ""
  | .executeMany sql rows =>
    "executemany " ++ Text.squeeze sql ++ " (" ++ toString rows.length ++ " rows)"
  | .begin => "begin"
  | .commit => "commit"
  | .rollback => "rollback"
  | .close committed => "close after " ++ if committed then "commit" else "rollback"
  | .poolInit p => "pool init " ++ Json.write p.conninfo
  | .poolOpen wait => "pool open" ++ if wait then " (waiting)" else ""
  | .poolClose => "pool close"
  | .poolNewConnection => "pool new connection"
  | .poolAcquire => "pool acquire"
  | .poolRelease => "pool release"
  | .includeRouter name handlers => "include router " ++ name ++ " " ++ ", ".intercalate handlers
  | .startPolling _ _ _ => "start polling"
  | .urlOpen url => "urlopen " ++ url
  | .reply text => "reply " ++ text

def World.trace (w : World) : List String := w.calls.map Call.describe

end VideoStats.Service
