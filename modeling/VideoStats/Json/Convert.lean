import VideoStats.Json.Basic
import VideoStats.Decimal.Shortest
import VideoStats.Text.Quote
import VideoStats.Text.Digit

namespace VideoStats.Json

inductive UseError where
  | missingKey (key : String)
  | notSubscriptable (kind : String)
  | indexedByName (kind : String)
  | notIterable (kind : String)
  | noInteger (kind : String)
  | notWholeNumber (text : String)
  | integerOfNaN
  | integerOfInfinity
  | noMethod (kind name : String)
  deriving DecidableEq, Repr

def UseError.className : UseError → String
  | .missingKey _ => "KeyError"
  | .notSubscriptable _ | .indexedByName _ | .notIterable _ | .noInteger _ => "TypeError"
  | .notWholeNumber _ | .integerOfNaN => "ValueError"
  | .integerOfInfinity => "OverflowError"
  | .noMethod _ _ => "AttributeError"

def UseError.message : UseError → String
  | .missingKey k => k
  | .notSubscriptable kind => "'" ++ kind ++ "' object is not subscriptable"
  | .indexedByName kind =>
    if kind == "list" then "list indices must be integers or slices, not str"
    else "string indices must be integers, not 'str'"
  | .notIterable kind => "'" ++ kind ++ "' object is not iterable"
  | .noInteger kind =>
    "int() argument must be a string, a bytes-like object or a real number, not '" ++ kind ++ "'"
  | .notWholeNumber t => "invalid literal for int() with base 10: " ++ Text.quoteLiteral t
  | .integerOfNaN => "cannot convert float NaN to integer"
  | .integerOfInfinity => "cannot convert float infinity to integer"
  | .noMethod kind name => "'" ++ kind ++ "' object has no attribute '" ++ name ++ "'"

mutual
def literal : Json → String
  | .str s => Text.quoteLiteral s
  | .arr xs => "[" ++ literalItems xs ++ "]"
  | .obj ms => "\x7b" ++ literalMembers ms ++ "\x7d"
  | .null => "None"
  | .bool b => if b then "True" else "False"
  | .int n => toString n
  | .num x => Decimal.repr x

def literalItems : List Json → String
  | [] => ""
  | [x] => literal x
  | x :: xs => literal x ++ ", " ++ literalItems xs

def literalMembers : List (String × Json) → String
  | [] => ""
  | [(k, v)] => Text.quoteLiteral k ++ ": " ++ literal v
  | (k, v) :: ms => Text.quoteLiteral k ++ ": " ++ literal v ++ ", " ++ literalMembers ms
end

def text : Json → String
  | .str s => s
  | j => literal j

def truncate (x : Float) : Except UseError Int :=
  match Decimal.classify x with
  | .nan => .error .integerOfNaN
  | .infinite _ => .error .integerOfInfinity
  | .zero _ => .ok 0
  | .finite neg b =>
    let n : Nat := if b.exp ≥ 0 then b.mant * Nat.pow 2 b.exp.toNat else b.mant / Nat.pow 2 (-b.exp).toNat
    .ok (if neg then -(n : Int) else n)

def integer : Json → Except UseError Int
  | .bool b => .ok (if b then 1 else 0)
  | .int n => .ok n
  | .num x => truncate x
  | .str s =>
    match Text.readInteger? s.toList with
    | some n => .ok n
    | none => .error (.notWholeNumber s)
  | j => .error (.noInteger j.kindName)

def items : Json → Except UseError (List Json)
  | .arr xs => .ok xs
  | .obj ms => .ok (ms.map fun m => .str m.1)
  | .str s => .ok (s.toList.map fun c => .str (String.singleton c))
  | j => .error (.notIterable j.kindName)

def strippable (j : Json) : Except UseError String :=
  match j.textOrEmpty? with
  | some s => .ok s
  | none => .error (.noMethod j.kindName "strip")

def member (j : Json) (key : String) : Except UseError Json :=
  match j with
  | .obj ms =>
    match ms.lookup key with
    | some v => .ok v
    | none => .error (.missingKey key)
  | .arr _ => .error (.indexedByName "list")
  | .str _ => .error (.indexedByName "str")
  | _ => .error (.notSubscriptable j.kindName)

def memberOr (j : Json) (key : String) (dflt : Json) : Except UseError Json :=
  match j with
  | .obj ms => .ok ((ms.lookup key).getD dflt)
  | _ => .error (.noMethod j.kindName "get")

end VideoStats.Json
