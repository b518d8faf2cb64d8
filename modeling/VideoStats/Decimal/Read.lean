import VideoStats.Text.Blank
import VideoStats.Text.Digit
import VideoStats.Text.Case

namespace VideoStats.Decimal

open Text

def digitCount (n : Nat) : Nat :=
  if n < 10 then 1 else digitCount (n / 10) + 1
termination_by n
decreasing_by omega

def infinity : Float := 1.0 / 0.0

def notANumber : Float := 0.0 / 0.0

def ofDecimal (neg : Bool) (m : Nat) (e : Int) : Float :=
  let lead : Int := e + digitCount m
  let x : Float :=
    if m = 0 then 0.0
    else if lead > 311 then infinity
    else if lead < -326 then 0.0
    else if e < 0 then Float.ofScientific m true e.natAbs
    else Float.ofScientific m false e.toNat
  if neg then -x else x

def digitPart? (cs : List Char) : Option (List Nat) :=
  let groups := cs.splitOn '_'
  if cs.isEmpty || groups.any (·.isEmpty) then none
  else groups.flatten.mapM decimalValue?

def valueOf (ds : List Nat) : Nat := ds.foldl (fun n d => 10 * n + d) 0

def signOf (cs : List Char) : Bool × List Char :=
  match cs with
  | '-' :: r => (true, r)
  | '+' :: r => (false, r)
  | r => (false, r)

def readUnsigned? (cs : List Char) : Option (Nat × Int) := do
  let isExp (c : Char) : Bool := c == 'e' || c == 'E'
  let mant := cs.takeWhile (!isExp ·)
  let expPart := cs.drop mant.length
  let (whole, frac) ← match mant.splitOn '.' with
    | [w] => some (w, [])
    | [w, f] => some (w, f)
    | _ => none
  let wds ← if whole.isEmpty then some [] else digitPart? whole
  let fds ← if frac.isEmpty then some [] else digitPart? frac
  if wds.isEmpty && fds.isEmpty then none
  let e ← match expPart with
    | [] => some (0 : Int)
    | _ :: rest =>
      let (eneg, eds) := signOf rest
      (digitPart? eds).map fun ds => if eneg then -(valueOf ds : Int) else valueOf ds
  pure (valueOf (wds ++ fds), e - fds.length)

/-- Read decimal text as a double, if it is one. -/
def readFloat? (s : String) : Option Float :=
  let (neg, body) := signOf (trim s.toList)
  let word := String.ofList (lower body)
  if word == "inf" || word == "infinity" then some (if neg then -infinity else infinity)
  else if word == "nan" then some notANumber
  else (readUnsigned? body).map fun (m, e) => ofDecimal neg m e

end VideoStats.Decimal
