import VideoStats.Chat.Config
import VideoStats.Json.Read
import VideoStats.Json.Convert
import VideoStats.Text.Infix

namespace VideoStats.Chat

open Text

def completionsUrl (base : String) : String :=
  String.ofList (base.toList.reverse.dropWhile (· == '/')).reverse ++ "/chat/completions"

structure Request where
  url : String
  method : String := "POST"
  authorization : String
  timeout : Float
  model : String
  temperature : Nat := 0
  roles : List String := ["system", "user"]
  question : String
  deriving Repr

def Config.request (c : Config) (question : String) : Request :=
  { url := completionsUrl c.apiBase, authorization := "Bearer " ++ c.apiKey,
    timeout := c.timeout, model := c.model, question }

inductive Response where
  | status (code : Int)
  | unreachable
  | body (text : String)
  deriving Repr

inductive ExchangeError where
  | failed (f : Failure)
  | notText (kind : String)
  deriving DecidableEq, Repr

def ExchangeError.message : ExchangeError → String
  | .failed f => f.message
  | .notText kind => "'" ++ kind ++ "' object has no attribute 'strip'"

def readBody (text : String) : Option Json :=
  match Json.read (Json.withoutMark text) with
  | .ok j => some j
  | .error _ => none

def content? (body : Json) : Option Json := do
  let first ← ((body.field? "choices").bind Json.arr?).bind List.head?
  (first.field? "message").bind (·.field? "content")

/-- Trim a text and strip a code fence around it, with its `json` tag. -/
def unfence (s : String) : String :=
  let tick := Char.ofNat 96
  let v := trim s.toList
  if v.take 3 == [tick, tick, tick] then
    let inner := stripAny [tick] (String.ofList v)
    let untagged := if inner.startsWith "json" then String.ofList (inner.toList.drop 4) else inner
    String.ofList (trim untagged.toList)
  else String.ofList v

def contentText (c : Json) : Except ExchangeError String :=
  match c.strippable with
  | .ok s => .ok (unfence s)
  | .error _ => .error (.notText c.kindName)

/-- The JSON value of the content of the service's response. -/
def answerOf : Response → Except ExchangeError Json
  | .status code => .error (.failed (.httpStatus code))
  | .unreachable => .error (.failed .unreachable)
  | .body text => do
    let some c := (readBody text).bind content? | throw (.failed .unexpectedReply)
    let s ← contentText c
    match Json.read s.toList with
    | .ok v => pure v
    | .error _ => throw (.failed .notJson)

end VideoStats.Chat
