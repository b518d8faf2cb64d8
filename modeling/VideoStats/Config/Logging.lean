import VideoStats.Text.Case
import VideoStats.Text.Quote

namespace VideoStats.Config

inductive Level where
  | notset
  | debug
  | info
  | warning
  | error
  | critical
  deriving DecidableEq, Repr

def Level.name : Level → String
  | .notset => "NOTSET"
  | .debug => "DEBUG"
  | .info => "INFO"
  | .warning => "WARNING"
  | .error => "ERROR"
  | .critical => "CRITICAL"

def Level.ofName? : String → Option Level
  | "CRITICAL" | "FATAL" => some .critical
  | "ERROR" => some .error
  | "WARNING" | "WARN" => some .warning
  | "INFO" => some .info
  | "DEBUG" => some .debug
  | "NOTSET" => some .notset
  | _ => none

structure LoggingSetup where
  rootLevel : Level
  eventLevel : Level := .warning
  handlers : List String := ["StreamHandler"]
  formats : List String := ["%(asctime)s %(levelname)s %(name)s %(message)s"]
  deriving Repr

structure UnknownLevel where
  name : String
  deriving DecidableEq, Repr

def UnknownLevel.message (u : UnknownLevel) : String :=
  "Unknown level: " ++ Text.quoteLiteral u.name

def LoggingSetup.named (name : String) : Except UnknownLevel LoggingSetup :=
  let upper := Text.upperString name
  match Level.ofName? upper with
  | some l => .ok { rootLevel := l }
  | none => .error ⟨upper⟩

end VideoStats.Config
