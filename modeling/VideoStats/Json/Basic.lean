
namespace VideoStats

/-- A JSON value. -/
inductive Json where
  | null
  | bool (b : Bool)
  | int (n : Int)
  | num (x : Float)
  | str (s : String)
  | arr (items : List Json)
  | obj (members : List (String × Json))
  deriving Inhabited

namespace Json

def field? (j : Json) (key : String) : Option Json :=
  match j with
  | .obj ms => ms.lookup key
  | _ => none

def hasField (j : Json) (key : String) : Bool := (j.field? key).isSome

def str? : Json → Option String
  | .str s => some s
  | _ => none

def int? : Json → Option Int
  | .int n => some n
  | _ => none

def bool? : Json → Option Bool
  | .bool b => some b
  | _ => none

def arr? : Json → Option (List Json)
  | .arr xs => some xs
  | _ => none

def obj? : Json → Option (List (String × Json))
  | .obj ms => some ms
  | _ => none

def isNull : Json → Bool
  | .null => true
  | _ => false

def kindName : Json → String
  | .null => "NoneType"
  | .bool _ => "bool"
  | .int _ => "int"
  | .num _ => "float"
  | .str _ => "str"
  | .arr _ => "list"
  | .obj _ => "dict"

def isGiven : Json → Bool
  | .null => false
  | .bool b => b
  | .int n => n != 0
  | .num x => x != 0.0
  | .str s => !s.isEmpty
  | .arr xs => !xs.isEmpty
  | .obj ms => !ms.isEmpty

def textOrEmpty? : Json → Option String
  | .str s => some s
  | j => if j.isGiven then none else some ""

def setMember (ms : List (String × Json)) (key : String) (v : Json) : List (String × Json) :=
  if ms.any (·.1 == key) then ms.map fun m => if m.1 == key then (key, v) else m
  else ms ++ [(key, v)]

end Json

end VideoStats
