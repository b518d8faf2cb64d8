import VideoStats.Json.Basic
import VideoStats.DateText.Range
/-!
Workloads: fixed inputs run at a size, taken round and round.
-/

namespace VideoStats.Workload

/-- The first `n` items of `xs` taken round and round. -/
def cycle {α : Type} (xs : List α) (n : Nat) : List α :=
  (List.range n).filterMap fun i => xs[i % xs.length]?

inductive Failure where
  | noFirstInput
  deriving DecidableEq, Repr

def Failure.className : Failure → String
  | .noFirstInput => "IndexError"

def Failure.message : Failure → String
  | .noFirstInput => "list index out of range"

/-- A benchmark: its default size, and its results at a size. -/
structure Bench where
  defaultSize : Nat
  run : DateText.Parser → Moment → Int → Except Failure Json

def results (xs : List Json) : Except Failure Json := .ok (.arr xs)

end VideoStats.Workload
