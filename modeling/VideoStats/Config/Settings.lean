import VideoStats.Host.Environment
import VideoStats.Json.Basic
import VideoStats.Text.Case
import VideoStats.Text.Blank

namespace VideoStats.Config

open Host

structure Settings where
  telegramBotToken : Json
  databaseUrl : Json
  dbTimezone : Json := .str "UTC"
  llmEnabled : Json := .bool false
  llmApiKey : Json := .null
  deriving Inhabited

inductive SettingsError where
  | missing (field : String)
  | timezoneNotUtc
  | keyRequired
  | timezoneNotText (kind : String)
  deriving DecidableEq, Repr

def SettingsError.message : SettingsError → String
  | .missing field => "missing field: " ++ field
  | .timezoneNotUtc => "DB_TIMEZONE must be UTC"
  | .keyRequired => "LLM_API_KEY is required when LLM_ENABLED=true"
  | .timezoneNotText kind => "'" ++ kind ++ "' object has no attribute 'upper'"

def SettingsError.isRule : SettingsError → Bool
  | .timezoneNotText _ => false
  | _ => true

def envValue (raw : String) : Json :=
  let low := String.ofList (Text.lower (Text.trim raw.toList))
  if low == "true" || low == "1" then .bool true
  else if low == "false" || low == "0" then .bool false
  else .str raw

def fieldValue (given : List (String × Json)) (env : Environment) (field var : String) :
    Option Json :=
  match given.lookup field with
  | some v => some v
  | none =>
    match given.lookup var with
    | some v => some v
    | none => (env.get? var).map envValue

/-- The time zone, which must be UTC whatever its case. -/
def checkTimezone (v : Json) : Except SettingsError Json :=
  match v with
  | .str s => if Text.upperString s == "UTC" then .ok (.str "UTC") else .error .timezoneNotUtc
  | other => .error (.timezoneNotText other.kindName)

/-- The settings from values given by name, the environment filling the others. -/
def Settings.load (given : List (String × Json)) (env : Environment) :
    Except SettingsError Settings := do
  let value := fieldValue given env
  let some token := value "telegram_bot_token" "TELEGRAM_BOT_TOKEN"
    | throw (.missing "telegram_bot_token")
  let some url := value "database_url" "DATABASE_URL" | throw (.missing "database_url")
  let zone ← checkTimezone ((value "db_timezone" "DB_TIMEZONE").getD (.str "UTC"))
  let enabled := (value "llm_enabled" "LLM_ENABLED").getD (.bool false)
  let key := (value "llm_api_key" "LLM_API_KEY").getD .null
  if enabled.isGiven && !key.isGiven then throw .keyRequired
  pure { telegramBotToken := token, databaseUrl := url, dbTimezone := zone, llmEnabled := enabled,
         llmApiKey := key }

end VideoStats.Config
