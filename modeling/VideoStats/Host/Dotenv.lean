import VideoStats.Host.Environment
import VideoStats.Host.Files
import VideoStats.Text.Blank
/-!
Environment files: `NAME=value` bindings with quoting, comments and `${NAME:-default}`
references. Loading a file sets the variables it binds that are not set yet.
-/

namespace VideoStats.Host

open Text

def isInlineBlank (c : Char) : Bool := isBlank c && c != '\n' && c != '\r'

def skipInline (cs : List Char) : List Char := cs.dropWhile isInlineBlank

def lineEnd? (cs : List Char) : Option (List Char) :=
  match skipInline cs with
  | [] => some []
  | '\r' :: '\n' :: rest => some rest
  | '\n' :: rest => some rest
  | '\r' :: rest => some rest
  | _ => none

def dropComment (cs : List Char) : List Char :=
  match skipInline cs with
  | '#' :: rest => rest.dropWhile fun c => c != '\r' && c != '\n'
  | _ => cs

def skipLine (cs : List Char) : List Char :=
  match cs.dropWhile fun c => c != '\r' && c != '\n' with
  | '\r' :: rest => rest
  | '\n' :: rest => rest
  | rest => rest

def quotedBody (q : Char) : List Char → List Char → Option (List Char × List Char) →
    Option (List Char × List Char)
  | acc, '\\' :: c :: rest, fallback =>
    if c == q then quotedBody q (acc ++ ['\\', c]) rest (some (acc ++ ['\\'], rest))
    else quotedBody q (acc ++ ['\\']) (c :: rest) fallback
  | acc, c :: rest, fallback =>
    if c == q then some (acc, rest) else quotedBody q (acc ++ [c]) rest fallback
  | _, [], fallback => fallback

def unescape (escapes : List (Char × Char)) : List Char → List Char
  | '\\' :: c :: rest =>
    match escapes.lookup c with
    | some d => d :: unescape escapes rest
    | none => '\\' :: unescape escapes (c :: rest)
  | c :: rest => c :: unescape escapes rest
  | [] => []

def singleEscapes : List (Char × Char) := [('\\', '\\'), ('\'', '\'')]

def doubleEscapes : List (Char × Char) :=
  [('\\', '\\'), ('\'', '\''), ('"', '"'), ('a', '\x07'), ('b', '\x08'), ('f', '\x0c'),
    ('n', '\n'), ('r', '\r'), ('t', '\t'), ('v', '\x0b')]

def cutComment : List Char → List Char
  | [] => []
  | c :: rest =>
    if isBlank c then
      match rest.dropWhile isBlank with
      | '#' :: _ => []
      | _ => c :: cutComment rest
    else c :: cutComment rest

def readValue? (cs : List Char) : Option (String × List Char) :=
  match cs with
  | '\'' :: rest =>
    (quotedBody '\'' [] rest none).map fun (b, r) => (String.ofList (unescape singleEscapes b), r)
  | '"' :: rest =>
    (quotedBody '"' [] rest none).map fun (b, r) => (String.ofList (unescape doubleEscapes b), r)
  | _ =>
    let line := cs.takeWhile fun c => c != '\r' && c != '\n'
    let rest := cs.dropWhile fun c => c != '\r' && c != '\n'
    let v := (cutComment line).reverse.dropWhile isBlank |>.reverse
    some (String.ofList v, rest)

def dropExport (cs : List Char) : List Char :=
  match cs with
  | 'e' :: 'x' :: 'p' :: 'o' :: 'r' :: 't' :: c :: rest =>
    if isInlineBlank c then skipInline rest else cs
  | _ => cs

def readName? (cs : List Char) : Option (Option String × List Char) :=
  match cs with
  | '#' :: _ => some (none, cs)
  | '\'' :: rest =>
    let name := rest.takeWhile (· != '\'')
    match rest.dropWhile (· != '\'') with
    | '\'' :: after => if name.isEmpty then none else some (some (String.ofList name), after)
    | _ => none
  | _ =>
    let name := cs.takeWhile fun c => c != '=' && c != '#' && !isBlank c
    if name.isEmpty then none else some (some (String.ofList name), cs.drop name.length)

def readBinding (cs : List Char) :
    Except (List Char) ((Option String × Option String) × List Char) := do
  let r0 := dropExport cs
  let some (name, r1) := readName? r0 | throw r0
  let r2 := skipInline r1
  let (value, r3) ← match r2 with
    | '=' :: r =>
      match readValue? (skipInline r) with
      | some (v, r') => pure (some v, r')
      | none => throw (skipInline r)
    | _ => pure (none, r2)
  let r4 := dropComment r3
  let some r5 := lineEnd? r4 | throw r4
  pure ((name, value), r5)

def bindingsFrom : Nat → List Char → List (String × Option String)
  | 0, _ => []
  | fuel + 1, cs =>
    match cs.dropWhile isBlank with
    | [] => []
    | line =>
      match readBinding line with
      | .ok ((some k, v), rest) => (k, v) :: bindingsFrom fuel rest
      | .ok ((none, _), rest) => bindingsFrom fuel rest
      | .error stopped => bindingsFrom fuel (skipLine stopped)

def bindings (text : String) : List (String × Option String) :=
  bindingsFrom (text.length + 1) text.toList

inductive ValuePart where
  | literal (text : List Char)
  | variable (name : List Char) (dflt : Option (List Char))

def readReference? (cs : List Char) : Option (ValuePart × List Char) :=
  let name := cs.takeWhile fun c => c != '}' && c != ':'
  match cs.drop name.length with
  | '}' :: rest => some (.variable name none, rest)
  | ':' :: '-' :: rest =>
    let dflt := rest.takeWhile (· != '}')
    match rest.drop dflt.length with
    | '}' :: after => some (.variable name (some dflt), after)
    | _ => none
  | _ => none

def valueParts : Nat → List Char → List Char → List ValuePart
  | 0, acc, _ => if acc.isEmpty then [] else [.literal acc]
  | fuel + 1, acc, cs =>
    match cs with
    | '$' :: '{' :: rest =>
      match readReference? rest with
      | some (ref, after) =>
        (if acc.isEmpty then [] else [.literal acc]) ++ ref :: valueParts fuel [] after
      | none => valueParts fuel (acc ++ ['$']) ('{' :: rest)
    | c :: rest => valueParts fuel (acc ++ [c]) rest
    | [] => if acc.isEmpty then [] else [.literal acc]

def expand (env : Environment) (before : List (String × Option String)) (v : String) : String :=
  let lookup (name : String) : Option (Option String) :=
    match env.get? name with
    | some x => some (some x)
    | none => before.lookup name
  String.join ((valueParts (v.length + 1) [] v.toList).map fun
    | .literal t => String.ofList t
    | .variable n d =>
      match lookup (String.ofList n) with
      | some (some x) => x
      | some none => ""
      | none => String.ofList (d.getD []))

def expandedBindings (env : Environment) (text : String) : List (String × Option String) :=
  (bindings text).foldl (fun acc (k, v) =>
    let v' := v.map (expand env acc)
    if acc.any (·.1 == k) then acc.map fun m => if m.1 == k then (k, v') else m
    else acc ++ [(k, v')]) []

def Environment.loadFile (env : Environment) (text : String) : Environment :=
  (expandedBindings env text).foldl (fun e (k, v) =>
    match v with
    | some x => if env.isSet k then e else e.set k x
    | none => e) env

/-- Load `.env` of the working directory, when it is a file. -/
def Environment.loadDotenv (env : Environment) (fs : Files) : Environment :=
  match fs.readText ".env" with
  | .ok text => env.loadFile text
  | .error _ => env

end VideoStats.Host
