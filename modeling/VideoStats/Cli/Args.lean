import VideoStats.Text.Blank
import VideoStats.Text.Case
import VideoStats.Text.Digit
import VideoStats.Text.Quote
import VideoStats.Text.Infix

namespace VideoStats.Cli

structure Opt where
  flags : List String
  dest : String
  takesValue : Bool := false
  integer : Bool := false
  isHelp : Bool := false
  help : String
  deriving Repr, Inhabited

structure Exclusive where
  dests : List String
  required : Bool
  deriving Repr

structure Parser where
  prog : String
  description : String
  options : List Opt
  groups : List Exclusive := []
  deriving Repr

inductive Given where
  | switch
  | text (s : String)
  | number (n : Int)
  deriving DecidableEq, Repr

def helpOpt : Opt :=
  { flags := ["-h", "--help"], dest := "help", isHelp := true,
    help := "show this help message and exit" }

namespace Opt

def metavar (o : Opt) : String := Text.upperString o.dest

def name (o : Opt) : String := "/".intercalate o.flags

def invocation (o : Opt) : String :=
  if o.takesValue then ", ".intercalate (o.flags.map (· ++ " " ++ o.metavar))
  else ", ".intercalate o.flags

def usage (o : Opt) : String :=
  let f := o.flags.headD ""
  if o.takesValue then f ++ " " ++ o.metavar else f

end Opt

def wrap (width : Nat) (text : String) : List String :=
  let words := (Text.words text.toList).map String.ofList
  let step (acc : List String × String) (w : String) : List String × String :=
    if acc.2.isEmpty then (acc.1, w)
    else if acc.2.length + 1 + w.length ≤ width then (acc.1, acc.2 ++ " " ++ w)
    else (acc.1 ++ [acc.2], w)
  let (lines, last) := words.foldl step ([], "")
  if last.isEmpty then lines else lines ++ [last]

def Parser.groupOf? (p : Parser) (o : Opt) : Option Exclusive :=
  p.groups.find? (·.dests.contains o.dest)

def Parser.usageParts (p : Parser) : List String :=
  let step (acc : List (Option Exclusive × List String)) (o : Opt) :
      List (Option Exclusive × List String) :=
    match p.groupOf? o, acc.getLast? with
    | some g, some (some g', us) =>
      if g.dests == g'.dests then acc.dropLast ++ [(some g', us ++ [o.usage])]
      else acc ++ [(some g, [o.usage])]
    | some g, _ => acc ++ [(some g, [o.usage])]
    | none, _ => acc ++ [(none, [o.usage])]
  (p.options.foldl step []).map fun (g, us) =>
    match g with
    | some g => if g.required then "(" ++ " | ".intercalate us ++ ")"
      else "[" ++ " | ".intercalate us ++ "]"
    | none => "[" ++ " ".intercalate us ++ "]"

def Parser.usageLines (p : Parser) (width : Nat) : List String :=
  let prefixLen := "usage: ".length
  let full := " ".intercalate (p.prog :: p.usageParts)
  if prefixLen + full.length ≤ width then [full]
  else
    let indent := String.ofList (List.replicate (prefixLen + p.prog.length + 1) ' ')
    let step (acc : List (List String) × List String × Nat) (part : String) :=
      let (lines, line, len) := acc
      if len + 1 + part.length > width && !line.isEmpty then
        (lines ++ [line], [part], indent.length - 1 + part.length + 1)
      else (lines, line ++ [part], len + part.length + 1)
    let (lines, last, _) := (p.prog :: p.usageParts).foldl step ([], [], prefixLen - 1)
    let all := if last.isEmpty then lines else lines ++ [last]
    match all.map (" ".intercalate) with
    | first :: more => first :: more.map (indent ++ ·)
    | [] => []

def Parser.usageText (p : Parser) (width : Nat) : String :=
  "usage: " ++ "\n".intercalate (p.usageLines width) ++ "\n"

def helpEntry (width column : Nat) (o : Opt) : String :=
  let spaces (n : Nat) : String := String.ofList (List.replicate n ' ')
  let head := o.invocation
  let lines := wrap (max (width - column) 11) o.help
  let rest := String.join (lines.drop 1 |>.map fun l => spaces column ++ l ++ "\n")
  let first := lines.headD ""
  if head.length ≤ column - 4 then
    "  " ++ head ++ spaces (column - 2 - head.length) ++ first ++ "\n" ++ rest
  else
    "  " ++ head ++ "\n" ++ spaces column ++ first ++ "\n" ++ rest

def Parser.helpText (p : Parser) (width : Nat) : String :=
  let longest := (p.options.map fun o => o.invocation.length + 2).foldl max 0
  let column := min (longest + 2) 24
  p.usageText width ++ "\n" ++ "\n".intercalate (wrap width p.description) ++ "\n\n" ++
    "options:\n" ++ String.join (p.options.map (helpEntry width column))

inductive Token where
  | marker
  | plain (s : String)
  | option (o : Option Opt) (written : String) (attached : Option String)
  deriving Repr

def isNegativeNumber (s : String) : Bool :=
  match s.toList with
  | '-' :: rest =>
    let digit (c : Char) : Bool := '0' ≤ c && c ≤ '9'
    let intPart := rest.takeWhile digit
    match rest.drop intPart.length with
    | [] => !intPart.isEmpty
    | '.' :: frac => !frac.isEmpty && frac.all digit
    | _ => false
  | _ => false

def Parser.byFlag? (p : Parser) (flag : String) : Option Opt :=
  p.options.find? (·.flags.contains flag)

def Parser.flags (p : Parser) : List (String × Opt) :=
  p.options.flatMap fun o => o.flags.map (·, o)

/-- The options an argument may abbreviate, or stand for with its value attached. -/
def Parser.prefixMatches (p : Parser) (arg : String) : List (Opt × String × Option String) :=
  match arg.toList with
  | '-' :: '-' :: _ =>
    let (pre, attached) := match (Text.split arg "=") with
      | k :: v :: more => (k, some ("=".intercalate (v :: more)))
      | _ => (arg, none)
    (p.flags.filter fun (f, _) => f.startsWith pre).map fun (f, o) => (o, f, attached)
  | '-' :: c :: rest =>
    p.flags.filterMap fun (f, o) =>
      if f == String.ofList ['-', c] then some (o, f, some (String.ofList rest))
      else if f.startsWith arg then some (o, f, none)
      else none
  | _ => []

def Parser.readArg (p : Parser) (arg : String) : Except String Token :=
  match arg.toList with
  | [] => .ok (.plain arg)
  | c :: _ =>
    if c != '-' then .ok (.plain arg)
    else if let some o := p.byFlag? arg then .ok (.option (some o) arg none)
    else if arg.length == 1 then .ok (.plain arg)
    else
      let direct : Option Token := match Text.split arg "=" with
        | k :: v :: more =>
          (p.byFlag? k).map fun o => .option (some o) k (some ("=".intercalate (v :: more)))
        | _ => none
      match direct with
      | some t => .ok t
      | none =>
        match p.prefixMatches arg with
        | [(o, f, attached)] => .ok (.option (some o) f attached)
        | _ :: _ :: _ =>
          .error ("ambiguous option: " ++ arg ++ " could match " ++
            ", ".intercalate ((p.prefixMatches arg).map (·.2.1)))
        | [] =>
          if isNegativeNumber arg then .ok (.plain arg)
          else if arg.toList.contains ' ' then .ok (.plain arg)
          else .ok (.option none arg none)

def Parser.readArgs (p : Parser) : List String → Except String (List Token)
  | [] => .ok []
  | "--" :: rest => .ok (.marker :: rest.map .plain)
  | a :: rest => do
    let t ← p.readArg a
    let ts ← p.readArgs rest
    pure (t :: ts)

def Token.text : Token → String
  | .marker => "--"
  | .plain s => s
  | .option _ w attached =>
    match attached with
    | some v => w ++ "=" ++ v
    | none => w

inductive Outcome where
  | values (vs : List (String × Given))
  | help
  | error (message : String)
  deriving Repr

structure Reading where
  values : List (String × Given) := []
  given : List String := []
  extras : List String := []
  deriving Repr

def Parser.take (p : Parser) (r : Reading) (o : Opt) (arg : Option String) :
    Except String Reading := do
  let v ← match arg with
    | none => pure Given.switch
    | some s =>
      if o.integer then
        match Text.readInteger? s.toList with
        | some n => pure (Given.number n)
        | none =>
          throw ("argument " ++ o.name ++ ": invalid int value: " ++ Text.quoteLiteral s)
      else pure (Given.text s)
  match p.groupOf? o with
  | some g =>
    match (g.dests.filter (· != o.dest)).find? (r.given.contains ·) with
    | some other =>
      let otherName := ((p.options.find? (·.dest == other)).map Opt.name).getD other
      throw ("argument " ++ o.name ++ ": not allowed with argument " ++ otherName)
    | none => pure ()
  | none => pure ()
  pure { r with values := (r.values.filter (·.1 != o.dest)) ++ [(o.dest, v)],
                given := if r.given.contains o.dest then r.given else r.given ++ [o.dest] }

def ignored (o : Opt) (v : String) : String :=
  "argument " ++ o.name ++ ": ignored explicit argument " ++ Text.quoteLiteral v

def Parser.expand (p : Parser) : Nat → Opt → String → Option String → List Token →
    Except String (List (Opt × Option String) × List Token)
  | _, o, _, none, rest =>
    if o.takesValue then
      match rest with
      | .plain s :: more => .ok ([(o, some s)], more)
      | _ => .error ("argument " ++ o.name ++ ": expected one argument")
    else .ok ([(o, none)], rest)
  | 0, o, _, some v, _ => .error (ignored o v)
  | fuel + 1, o, written, some v, rest =>
    if o.takesValue then .ok ([(o, some v)], rest)
    else if (written.toList.drop 1).headD '-' != '-' && !v.isEmpty then
      let next := String.ofList ['-', v.toList.headD ' ']
      let more := String.ofList (v.toList.drop 1)
      match p.byFlag? next with
      | some o' => do
        let (xs, r) ← p.expand fuel o' next (if more.isEmpty then none else some more) rest
        pure ((o, none) :: xs, r)
      | none => .error (ignored o v)
    else .error (ignored o v)

def Parser.takeAll (p : Parser) : Reading → List (Opt × Option String) →
    Except String (Reading × Bool)
  | r, [] => .ok (r, false)
  | r, (o, v) :: more =>
    if o.isHelp then .ok (r, true)
    else do p.takeAll (← p.take r o v) more

def Parser.consume (p : Parser) : Nat → Reading → List Token → Except String (Reading × Bool)
  | 0, r, _ => .ok (r, false)
  | _, r, [] => .ok (r, false)
  | fuel + 1, r, t :: rest =>
    match t with
    | .option (some o) w a => do
      let (acts, after) ← p.expand (w.length + 1) o w a rest
      let (r, helped) ← p.takeAll r acts
      if helped then pure (r, true) else p.consume fuel r after
    | other => p.consume fuel { r with extras := r.extras ++ [other.text] } rest

/-- Read a command line. -/
def Parser.parse (p : Parser) (args : List String) : Outcome :=
  match p.readArgs args >>= p.consume (args.length + 1) {} with
  | .error m => .error m
  | .ok (_, true) => .help
  | .ok (r, false) =>
    match p.groups.find? fun g => g.required && !g.dests.any (r.given.contains ·) with
    | some g =>
      let names := g.dests.filterMap fun d => (p.options.find? (·.dest == d)).map (·.flags.headD d)
      .error ("one of the arguments " ++ " ".intercalate names ++ " is required")
    | none =>
      if r.extras.isEmpty then .values r.values
      else .error ("unrecognized arguments: " ++ " ".intercalate r.extras)

end VideoStats.Cli
