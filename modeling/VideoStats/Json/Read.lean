import VideoStats.Json.Basic
import VideoStats.Decimal.Read

namespace VideoStats.Json

inductive Fault where
  | expectingValue
  | expectingComma
  | expectingColon
  | expectingName
  | unterminatedString
  | controlCharacter
  | badEscape
  | badUnicodeEscape
  | extraData
  | byteOrderMark
  deriving DecidableEq, Repr

def Fault.text : Fault → String
  | .expectingValue => "Expecting value"
  | .expectingComma => "Expecting ',' delimiter"
  | .expectingColon => "Expecting ':' delimiter"
  | .expectingName => "Expecting property name enclosed in double quotes"
  | .unterminatedString => "Unterminated string starting at"
  | .controlCharacter => "Invalid control character at"
  | .badEscape => "Invalid \\escape"
  | .badUnicodeEscape => "Invalid \\uXXXX escape"
  | .extraData => "Extra data"
  | .byteOrderMark => "Unexpected UTF-8 BOM (decode using utf-8-sig)"

structure ReadError where
  fault : Fault
  pos : Nat
  deriving DecidableEq, Repr

def ReadError.message (e : ReadError) (doc : List Char) : String :=
  let before := doc.take e.pos
  let line := before.count '\n' + 1
  let column := (before.reverse.takeWhile (· != '\n')).length + 1
  s!"{e.fault.text}: line {line} column {column} (char {e.pos})"

def isSpace (c : Char) : Bool := c == ' ' || c == '\t' || c == '\n' || c == '\r'

abbrev Input := List Char × Nat

def skipSpace : Input → Input
  | (c :: rest, pos) => if isSpace c then skipSpace (rest, pos + 1) else (c :: rest, pos)
  | ([], pos) => ([], pos)

def hexValue? (c : Char) : Option Nat :=
  if '0' ≤ c ∧ c ≤ '9' then some (c.toNat - '0'.toNat)
  else if 'a' ≤ c ∧ c ≤ 'f' then some (c.toNat - 'a'.toNat + 10)
  else if 'A' ≤ c ∧ c ≤ 'F' then some (c.toNat - 'A'.toNat + 10)
  else none

def hex4? (a b c d : Char) : Option Nat := do
  let a ← hexValue? a
  let b ← hexValue? b
  let c ← hexValue? c
  let d ← hexValue? d
  pure (((a * 16 + b) * 16 + c) * 16 + d)

def codePoint (n : Nat) : Char :=
  if n < 0xD800 ∨ (0xDFFF < n ∧ n < 0x110000) then Char.ofNat n else '�'

def simpleEscape? : Char → Option Char
  | '"' => some '"'
  | '\\' => some '\\'
  | '/' => some '/'
  | 'b' => some '\x08'
  | 'f' => some '\x0c'
  | 'n' => some '\n'
  | 'r' => some '\r'
  | 't' => some '\t'
  | _ => none

def escapedUnit (hi : Nat) (rest : List Char) (pos : Nat) : Except ReadError (Char × Nat) :=
  if 0xD800 ≤ hi ∧ hi ≤ 0xDBFF then
    match rest with
    | '\\' :: 'u' :: f :: g :: h :: i :: _ :: _ =>
      match hex4? f g h i with
      | none => .error ⟨.badUnicodeEscape, pos + 7⟩
      | some lo =>
        if 0xDC00 ≤ lo ∧ lo ≤ 0xDFFF then
          .ok (Char.ofNat (0x10000 + (hi - 0xD800) * 0x400 + (lo - 0xDC00)), 6)
        else .ok (codePoint hi, 0)
    | _ => .ok (codePoint hi, 0)
  else .ok (codePoint hi, 0)

def readString (start : Nat) : List Char → Nat → List Char → Except ReadError (String × Input)
  | [], _, _ => .error ⟨.unterminatedString, start⟩
  | '"' :: rest, pos, acc => .ok (String.ofList acc.reverse, (rest, pos + 1))
  | ['\\'], _, _ => .error ⟨.unterminatedString, start⟩
  | '\\' :: 'u' :: a :: b :: c :: d :: rest, pos, acc =>
    if rest.isEmpty then .error ⟨.badUnicodeEscape, pos + 1⟩ else
    match hex4? a b c d with
    | none => .error ⟨.badUnicodeEscape, pos + 1⟩
    | some hi =>
      match escapedUnit hi rest pos with
      | .error e => .error e
      | .ok (ch, used) => readString start (rest.drop used) (pos + 6 + used) (ch :: acc)
  | '\\' :: 'u' :: _, pos, _ => .error ⟨.badUnicodeEscape, pos + 1⟩
  | '\\' :: e :: after, pos, acc =>
    match simpleEscape? e with
    | some c => readString start after (pos + 2) (c :: acc)
    | none => .error ⟨.badEscape, pos⟩
  | c :: rest, pos, acc =>
    if c.toNat ≤ 0x1f then .error ⟨.controlCharacter, pos⟩
    else readString start rest (pos + 1) (c :: acc)
termination_by cs => cs.length
decreasing_by all_goals simp <;> omega

def isDigit (c : Char) : Bool := '0' ≤ c && c ≤ '9'

def spanDigits (cs : List Char) : List Char × List Char :=
  (cs.takeWhile isDigit, cs.dropWhile isDigit)

def numberValue (neg : Bool) (whole frac : List Char) (exp : Option (Bool × List Char)) : Json :=
  let digitsNat (ds : List Char) : Nat := ds.foldl (fun n d => 10 * n + (d.toNat - '0'.toNat)) 0
  match frac, exp with
  | [], none =>
    let n := (digitsNat whole : Int)
    .int (if neg then -n else n)
  | _, _ =>
    let mantissa := digitsNat (whole ++ frac)
    let e : Int := (match exp with
      | some (eneg, ds) => if eneg then -(digitsNat ds : Int) else digitsNat ds
      | none => 0) - frac.length
    .num (Decimal.ofDecimal neg mantissa e)

def readNumber (inp : Input) : Option (Json × Input) :=
  let (cs, pos) := inp
  let (neg, afterSign) := match cs with
    | '-' :: r => (true, r)
    | r => (false, r)
  let signLen := if neg then 1 else 0
  let whole? : Option (List Char × List Char) := match afterSign with
    | '0' :: r => some (['0'], r)
    | c :: r => if '1' ≤ c ∧ c ≤ '9' then
        let (ds, r') := spanDigits r
        some (c :: ds, r')
      else none
    | [] => none
  match whole? with
  | none => none
  | some (whole, r1) =>
    let (frac, r2) := match r1 with
      | '.' :: d :: r => if isDigit d then
          let (ds, r') := spanDigits r
          (d :: ds, r')
        else ([], r1)
      | _ => ([], r1)
    let fracLen := if frac.isEmpty then 0 else frac.length + 1
    let (exp, r3, expLen) : Option (Bool × List Char) × List Char × Nat := match r2 with
      | e :: next :: r =>
        if e == 'e' || e == 'E' then
          let (eneg, hasSign, body) :=
            if (next == '-' || next == '+') && !r.isEmpty then (next == '-', true, r)
            else (false, false, next :: r)
          let (ds, r') := spanDigits body
          if ds.isEmpty then (none, r2, 0)
          else (some (eneg, ds), r', 1 + (if hasSign then 1 else 0) + ds.length)
        else (none, r2, 0)
      | _ => (none, r2, 0)
    some (numberValue neg whole frac exp,
      (r3, pos + signLen + whole.length + fracLen + expLen))

mutual
def readValue : Nat → Input → Except ReadError (Json × Input)
  | 0, (_, pos) => .error ⟨.expectingValue, pos⟩
  | fuel + 1, (cs, pos) =>
    match cs with
    | '"' :: rest => do
      let (s, inp) ← readString pos rest (pos + 1) []
      pure (.str s, inp)
    | '{' :: rest => readMembers fuel (skipSpace (rest, pos + 1)) [] true
    | '[' :: rest => readItems fuel (skipSpace (rest, pos + 1)) [] true
    | 'n' :: 'u' :: 'l' :: 'l' :: rest => .ok (.null, (rest, pos + 4))
    | 't' :: 'r' :: 'u' :: 'e' :: rest => .ok (.bool true, (rest, pos + 4))
    | 'f' :: 'a' :: 'l' :: 's' :: 'e' :: rest => .ok (.bool false, (rest, pos + 5))
    | 'N' :: 'a' :: 'N' :: rest => .ok (.num (0.0 / 0.0), (rest, pos + 3))
    | 'I' :: 'n' :: 'f' :: 'i' :: 'n' :: 'i' :: 't' :: 'y' :: rest =>
      .ok (.num (1.0 / 0.0), (rest, pos + 8))
    | '-' :: 'I' :: 'n' :: 'f' :: 'i' :: 'n' :: 'i' :: 't' :: 'y' :: rest =>
      .ok (.num (-1.0 / 0.0), (rest, pos + 9))
    | _ => match readNumber (cs, pos) with
      | some r => .ok r
      | none => .error ⟨.expectingValue, pos⟩

def readItems : Nat → Input → List Json → Bool → Except ReadError (Json × Input)
  | 0, (_, pos), _, _ => .error ⟨.expectingValue, pos⟩
  | fuel + 1, (cs, pos), acc, first =>
    match cs, first with
    | ']' :: rest, true => .ok (.arr [], (rest, pos + 1))
    | _, _ => do
      let (v, inp) ← readValue fuel (cs, pos)
      match skipSpace inp with
      | (']' :: rest, p) => pure (.arr (acc ++ [v]), (rest, p + 1))
      | (',' :: rest, p) => readItems fuel (skipSpace (rest, p + 1)) (acc ++ [v]) false
      | (_, p) => .error ⟨.expectingComma, p⟩

def readMembers : Nat → Input → List (String × Json) → Bool → Except ReadError (Json × Input)
  | 0, (_, pos), _, _ => .error ⟨.expectingValue, pos⟩
  | fuel + 1, (cs, pos), acc, first =>
    match cs, first with
    | '}' :: rest, true => .ok (.obj [], (rest, pos + 1))
    | '"' :: rest, _ => do
      let (key, inp) ← readString pos rest (pos + 1) []
      match skipSpace inp with
      | (':' :: rest2, p) =>
        let (v, inp2) ← readValue fuel (skipSpace (rest2, p + 1))
        let acc := setMember acc key v
        match skipSpace inp2 with
        | ('}' :: rest3, p3) => pure (.obj acc, (rest3, p3 + 1))
        | (',' :: rest3, p3) => readMembers fuel (skipSpace (rest3, p3 + 1)) acc false
        | (_, p3) => .error ⟨.expectingComma, p3⟩
      | (_, p) => .error ⟨.expectingColon, p⟩
    | _, _ => .error ⟨.expectingName, pos⟩
end

/-- Read a whole document: one value with only white space around it. -/
def read (doc : List Char) : Except ReadError Json :=
  match doc with
  | '\uFEFF' :: _ => .error ⟨.byteOrderMark, 0⟩
  | _ => do
    let (v, inp) ← readValue (4 * doc.length + 4) (skipSpace (doc, 0))
    match skipSpace inp with
    | ([], _) => pure v
    | (_, p) => .error ⟨.extraData, p⟩

/-- The characters of a document, without a byte order mark in front. -/
def withoutMark (text : String) : List Char :=
  match text.toList with
  | '\uFEFF' :: rest => rest
  | cs => cs

def readString? (s : String) : Except ReadError Json := read s.toList

end VideoStats.Json
