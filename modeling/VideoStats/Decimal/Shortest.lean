
namespace VideoStats.Decimal

structure Binary where
  mant : Nat
  exp : Int
  narrowBelow : Bool

inductive Kind where
  | nan
  | infinite (neg : Bool)
  | zero (neg : Bool)
  | finite (neg : Bool) (b : Binary)

def classify (x : Float) : Kind :=
  let bits : Nat := x.toBits.toNat
  let neg : Bool := bits / Nat.pow 2 63 % 2 == 1
  let biased : Nat := bits / Nat.pow 2 52 % Nat.pow 2 11
  let frac : Nat := bits % Nat.pow 2 52
  if biased = 2047 then (if frac = 0 then .infinite neg else .nan)
  else if biased = 0 then
    (if frac = 0 then .zero neg else .finite neg ⟨frac, -1074, false⟩)
  else .finite neg ⟨Nat.pow 2 52 + frac, (biased : Int) - 1075, frac = 0 ∧ biased > 1⟩

def cmpScaled (c : Nat) (k : Int) (a : Nat) (p : Int) : Ordering :=
  compare (c * Nat.pow 10 k.toNat * Nat.pow 2 (-p).toNat)
    (a * Nat.pow 2 p.toNat * Nat.pow 10 (-k).toNat)

def floorScaled (m : Nat) (e k : Int) : Nat :=
  (m * Nat.pow 2 e.toNat * Nat.pow 10 (-k).toNat) / (Nat.pow 2 (-e).toNat * Nat.pow 10 k.toNat)

def leadExponent (m : Nat) (e : Int) : Int :=
  -- a first guess from the bit length, then exact corrections
  let bits : Int := (Nat.log2 m : Int) + 1 + e
  let guess : Int := (bits * 30103) / 100000
  let above (t : Int) : Bool := cmpScaled 1 t m e != .gt  -- 10^t ≤ m·2^e
  let g1 := if above guess then guess else guess - 1
  let g2 := if above g1 then g1 else g1 - 1
  let g3 := if above (g2 + 1) then g2 + 1 else g2
  if above (g3 + 1) then g3 + 1 else g3

def readsBack (b : Binary) (c : Nat) (k : Int) : Bool :=
  -- the value is `4m · 2^(e-2)`; the interval is `[4m - d, 4m + 2] · 2^(e-2)`
  let p := b.exp - 2
  let low := 4 * b.mant - (if b.narrowBelow then 1 else 2)
  let high := 4 * b.mant + 2
  let inclusive := b.mant % 2 = 0
  let aboveLow := match cmpScaled c k low p with
    | .gt => true
    | .eq => inclusive
    | .lt => false
  let belowHigh := match cmpScaled c k high p with
    | .lt => true
    | .eq => inclusive
    | .gt => false
  aboveLow && belowHigh

def nearer (b : Binary) (lo : Nat) (k : Int) : Nat :=
  -- compare (x - lo·10^k) with ((lo+1)·10^k - x), that is 2x with (2lo + 1)·10^k
  match cmpScaled (2 * lo + 1) k (2 * b.mant) b.exp with
  | .gt => lo
  | .lt => lo + 1
  | .eq => if lo % 2 = 0 then lo else lo + 1

def shortestFrom (b : Binary) (lead : Int) : Nat → Nat → Nat × Int
  | 0, _ => (b.mant, 0)
  | fuel + 1, n =>
    let k := lead - (n : Int) + 1
    let lo := floorScaled b.mant b.exp k
    let loOk := readsBack b lo k
    let hiOk := readsBack b (lo + 1) k
    if loOk && hiOk then (nearer b lo k, k)
    else if loOk then (lo, k)
    else if hiOk then (lo + 1, k)
    else shortestFrom b lead fuel (n + 1)

def trimZeros : Nat → Nat → Int → Nat × Int
  | 0, c, k => (c, k)
  | fuel + 1, c, k => if c ≠ 0 ∧ c % 10 = 0 then trimZeros fuel (c / 10) (k + 1) else (c, k)

def shortestDigits (b : Binary) : List Char × Int :=
  let (c, k) := shortestFrom b (leadExponent b.mant b.exp) 17 1
  let (c, k) := trimZeros 400 c k
  let ds := Nat.toDigits 10 c
  (ds, k + ds.length)

def exponentText (e : Int) : String :=
  let ds := Nat.toDigits 10 e.natAbs
  (if e < 0 then "-" else "+") ++ (if ds.length < 2 then "0" else "") ++ String.ofList ds

/-- The shortest text of a double that reads back, positional or scientific. -/
def repr (x : Float) : String :=
  match classify x with
  | .nan => "nan"
  | .infinite neg => if neg then "-inf" else "inf"
  | .zero neg => if neg then "-0.0" else "0.0"
  | .finite neg b =>
    let (ds, point) := shortestDigits b
    let sign := if neg then "-" else ""
    let n := ds.length
    if point ≤ -4 ∨ point > 16 then
      let mant := match ds with
        | d :: rest => if rest.isEmpty then String.ofList [d] else String.ofList (d :: '.' :: rest)
        | [] => "0"
      sign ++ mant ++ "e" ++ exponentText (point - 1)
    else if point ≤ 0 then
      sign ++ "0." ++ String.ofList (List.replicate point.natAbs '0' ++ ds)
    else if point.toNat ≥ n then
      sign ++ String.ofList (ds ++ List.replicate (point.toNat - n) '0') ++ ".0"
    else
      sign ++ String.ofList (ds.take point.toNat ++ '.' :: ds.drop point.toNat)

end VideoStats.Decimal
