import VideoStats.Question.Read
import VideoStats.Chat.Exchange
import VideoStats.Chat.Proposal
import VideoStats.Intent.Codec

namespace VideoStats.Question

inductive Source where
  | assistant
  | rules
  deriving DecidableEq, Repr

def Source.name : Source → String
  | .assistant => "llm"
  | .rules => "rules"

inductive Understanding where
  | proposed (p : Chat.Proposal)
  | read (i : Intent)
  deriving Inhabited

def Understanding.toJson : Understanding → Json
  | .proposed p => p.toJson
  | .read i => IntentJson.ofIntent i

def Understanding.intent? : Understanding → Option Intent
  | .proposed p => p.intent?
  | .read i => some i

/-- The assistant: the environment and key its configuration is read from, and its service. -/
structure Assistant where
  env : Host.Environment := {}
  apiKey : Option String
  service : Chat.Request → Chat.Response

inductive UnderstandError where
  | exchange (e : Chat.ExchangeError)
  | proposal (e : Chat.ProposalError)
  | rules (e : ReadError)
  deriving Repr

def ask (a : Assistant) (text : String) : Except UnderstandError (Option Chat.Proposal) :=
  match Chat.Config.fromEnvironment a.env a.apiKey with
  | .error _ => .ok none
  | .ok cfg =>
    match Chat.answerOf (a.service (cfg.request text)) with
    | .error (.failed _) => .ok none
    | .error e => .error (.exchange e)
    | .ok j =>
      match Chat.Proposal.accept j with
      | .ok p => .ok (some p)
      | .error (.rejected _) => .ok none
      | .error e => .error (.proposal e)

/-- Understand a question, asking the assistant first when there is one. -/
def understand (dates : DateText.Parser) (now : Moment) (assistant : Option Assistant)
    (text : String) :
    Except UnderstandError (Source × Understanding) := do
  let proposed ← match assistant with
    | some a => ask a text
    | none => pure none
  match proposed with
  | some p => pure (.assistant, .proposed p)
  | none =>
    match readIntent dates now text with
    | .ok i => pure (.rules, .read i)
    | .error e => throw (.rules e)

end VideoStats.Question
