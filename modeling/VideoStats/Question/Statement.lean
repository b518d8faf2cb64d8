import VideoStats.Question.Read
import VideoStats.Query.Build

namespace VideoStats.Question

def ReadError.message : ReadError → String
  | .refused r => r.message
  | .invalid v => v.message
  | .calendar e => e.message

inductive PlanError where
  | read (e : ReadError)
  | build (e : Query.BuildError)
  deriving Repr

def PlanError.message : PlanError → String
  | .read e => e.message
  | .build e => e.message

def statementFor (dates : DateText.Parser) (now : Moment) (text : String) :
    Except PlanError Query := do
  let i ← (readIntent dates now text).mapError .read
  (Query.build i).mapError .build

/-- The statement answering a question and its parameters, or the refusal, as JSON. -/
def statementJson (dates : DateText.Parser) (now : Moment) (text : String) : Json :=
  match statementFor dates now text with
  | .ok q => .obj [("sql", .str q.sql), ("params", .arr (q.params.map Query.Param.toJson))]
  | .error e => .obj [("error", .str e.message)]

end VideoStats.Question
