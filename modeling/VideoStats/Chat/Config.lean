import VideoStats.Host.Environment
import VideoStats.Decimal.Read
import VideoStats.Text.Quote

namespace VideoStats.Chat

structure Config where
  apiKey : String
  model : String := "gpt-4o-mini"
  apiBase : String := "https://api.openai.com/v1"
  timeout : Float := 30.0
  deriving Repr, Inhabited

inductive Failure where
  | noKey
  | httpStatus (code : Int)
  | unreachable
  | unexpectedReply
  | notJson
  deriving DecidableEq, Repr

def Failure.message : Failure → String
  | .noKey => "LLM_API_KEY is required"
  | .httpStatus code => "LLM HTTP error: " ++ toString code
  | .unreachable => "LLM connection error"
  | .unexpectedReply => "Unexpected LLM response format"
  | .notJson => "LLM did not return valid JSON"

inductive ConfigError where
  | failure (f : Failure)
  | badTimeout (text : String)
  deriving DecidableEq, Repr

def ConfigError.message : ConfigError → String
  | .failure f => f.message
  | .badTimeout text => "could not convert string to float: " ++ Text.quoteLiteral text

def Config.fromEnvironment (env : Host.Environment) (apiKey : Option String) :
    Except ConfigError Config := do
  let key := match apiKey.filter (!·.isEmpty) with
    | some k => k
    | none => (env.nonEmpty? "LLM_API_KEY").getD ""
  if key.isEmpty then throw (.failure .noKey)
  let timeoutText := (env.nonEmpty? "LLM_TIMEOUT_S").getD "30"
  let some timeout := Decimal.readFloat? timeoutText | throw (.badTimeout timeoutText)
  pure { apiKey := key,
         model := (env.nonEmpty? "LLM_MODEL").getD "gpt-4o-mini",
         apiBase := (env.nonEmpty? "LLM_API_BASE").getD "https://api.openai.com/v1",
         timeout }

end VideoStats.Chat
