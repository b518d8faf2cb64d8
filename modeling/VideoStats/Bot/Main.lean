import VideoStats.Bot.Handler

namespace VideoStats.Bot

open Service

def routerName : String := "root"

def appName : String := "App"

def handlerNames : List String := ["handle_message"]

def loadSettings : Act Config.Settings := do
  match Config.Settings.load [] (← get).env with
  | .ok s => pure s
  | .error e => throw (.settings e)

def configureLogging (level : Json) : Act Config.LoggingSetup := do
  let name ← match level with
    | .str s => if s.isEmpty then pure none else pure (some s)
    | other => if other.isGiven then throw (.logLevelNotText other.kindName) else pure none
  let name := name.getD (((← get).env.nonEmpty? "LOG_LEVEL").getD "INFO")
  match Config.LoggingSetup.named name with
  | .ok setup => pure setup
  | .error e => throw (.logLevel e)

def createApp (settings : Config.Settings) : Act PoolInit :=
  createPool settings.databaseUrl { maxSize := .int 10 }

/-- Run the bot over the messages polling delivers; polling may end with an error. -/
def runBot (dates : DateText.Parser) (now : Moment) (messages : List Message)
    (pollingError : Option String) : Act Unit := do
  let settings ← loadSettings
  discard (configureLogging .null)
  discard (createApp settings)
  record (.poolOpen true)
  record (.includeRouter routerName handlerNames)
  always
    (do
      record (.startPolling settings.telegramBotToken none ["app"])
      for m in messages do handleMessage dates settings now m
      if let some e := pollingError then throw (.polling e))
    (record .poolClose)

end VideoStats.Bot
