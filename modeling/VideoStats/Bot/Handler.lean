import VideoStats.Bot.Reply
import VideoStats.Service.Pool
import VideoStats.Question.Understand
import VideoStats.Query.Build

namespace VideoStats.Bot

open Service

structure Message where
  text : Option String := none
  caption : Option String := none
  deriving Repr, Inhabited

def Message.question (m : Message) : String :=
  match m.text.filter (!·.isEmpty) with
  | some t => t
  | none => (m.caption.filter (!·.isEmpty)).getD ""

def assistantKey (v : Json) : Option String :=
  match v with
  | .str s => if s.isEmpty then none else some s
  | other => if other.isGiven then some other.text else none

def assistantFor (settings : Config.Settings) (w : World) : Option Question.Assistant :=
  if settings.llmEnabled.isGiven then
    some { env := w.env, apiKey := assistantKey settings.llmApiKey, service := w.chat }
  else none

/-- The answer to a question, as text: `0` whenever no value is computed. -/
def computeAnswer (dates : DateText.Parser) (settings : Config.Settings) (now : Moment)
    (question : String) : Act String := do
  let w ← get
  match Question.understand dates now (assistantFor settings w) question with
  | .error _ => pure "0"
  | .ok (_, u) =>
    match u.intent?.map Query.build with
    | some (.ok q) =>
      tryCatch
        (withPooledConnection do
          let v ← fetchScalarInt q.sql (q.params.map Query.Param.toJson)
          pure (toString v))
        fun _ => pure "0"
    | _ => pure "0"

/-- Reply to a message exactly once. -/
def handleMessage (dates : DateText.Parser) (settings : Config.Settings) (now : Moment)
    (m : Message) : Act Unit := do
  let q := m.question
  let answer ← if Text.trim q.toList |>.isEmpty then pure "0"
    else if isCommand q then pure "0"
    else computeAnswer dates settings now q
  record (.reply (sanitize answer))

end VideoStats.Bot
