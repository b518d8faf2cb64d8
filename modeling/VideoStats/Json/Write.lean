import VideoStats.Json.Basic
import VideoStats.Decimal.Shortest

namespace VideoStats.Json

def hexDigit (n : Nat) : Char :=
  if n < 10 then Char.ofNat ('0'.toNat + n) else Char.ofNat ('a'.toNat + n - 10)

def escapeChar (c : Char) : List Char :=
  match c with
  | '"' => ['\\', '"']
  | '\\' => ['\\', '\\']
  | '\n' => ['\\', 'n']
  | '\r' => ['\\', 'r']
  | '\t' => ['\\', 't']
  | c => if c.toNat < 0x20 then
      ['\\', 'u', '0', '0', hexDigit (c.toNat / 16), hexDigit (c.toNat % 16)]
    else [c]

def quote (s : String) : String :=
  String.ofList ('"' :: s.toList.flatMap escapeChar ++ ['"'])

mutual
/-- The compact text of a value. -/
def write : Json → String
  | .null => "null"
  | .bool b => if b then "true" else "false"
  | .int n => toString n
  | .num x => Decimal.repr x
  | .str s => quote s
  | .arr xs => "[" ++ writeItems xs ++ "]"
  | .obj ms => "\x7b" ++ writeMembers ms ++ "\x7d"

def writeItems : List Json → String
  | [] => ""
  | [x] => write x
  | x :: xs => write x ++ "," ++ writeItems xs

def writeMembers : List (String × Json) → String
  | [] => ""
  | [(k, v)] => quote k ++ ":" ++ write v
  | (k, v) :: ms => quote k ++ ":" ++ write v ++ "," ++ writeMembers ms
end

end VideoStats.Json
