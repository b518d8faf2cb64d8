import VideoStats.Host.Dates.English

namespace VideoStats.Host.Dates

open Text

def knownWords : List (List Char) :=
  let all := keptMarks ++ sharedWords.map (·.1) ++ skippedWords ++
    russianForms.flatMap (·.2)
  (all.map fun w => fold w.toList).mergeSort fun a b => b.length ≤ a.length

def isWordEdge (c : Char) : Bool := !isWordChar c || c == '_' || isDecimal c

def endsWord (rest : List Char) : Bool :=
  match rest with
  | [] => true
  | c :: _ => isWordEdge c

def findKnown : Option Char → List Char → Option (List Char × List Char × List Char)
  | prev, cs =>
    let here :=
      if (prev.map isWordEdge).getD true then
        (knownWords.find? fun w => w.isPrefixOf cs && endsWord (cs.drop w.length)).map
          fun w => ([], w, cs.drop w.length)
      else none
    match here, cs with
    | some r, _ => some r
    | none, [] => none
    | none, c :: rest => (findKnown (some c) rest).map fun (a, w, b) => (c :: a, w, b)

def isKeptPiece (t : List Char) : Bool :=
  keptMarks.contains (String.ofList t) || t.any fun c => isWordChar c && c != '_'

def numeralStep (c : Char) : List (List Char) → List (List Char)
  | (d :: run) :: rest =>
    if isDecimal c == isDecimal d then (c :: d :: run) :: rest else [c] :: (d :: run) :: rest
  | _ => [[c]]

def numeralRuns (cs : List Char) : List (List Char) :=
  (cs.foldr numeralStep []).filter isKeptPiece

def splitKnown : Nat → List Char → List (List Char)
  | 0, _ => []
  | _, [] => []
  | fuel + 1, cs =>
    match findKnown none cs with
    | none => if isKeptPiece cs then numeralRuns cs else []
    | some (before, w, after) =>
      (if !before.isEmpty && isKeptPiece before then numeralRuns before else []) ++
        (if isKeptPiece w then [w] else []) ++ splitKnown fuel after

def russianToken? (t : List Char) : Option (Option String) :=
  if !t.isEmpty && t.all isDigitLike then some (some (String.ofList t))
  else match render? (String.ofList t) with
    | some .skip => some none
    | some (.word en) => some (some en)
    | none => none

def translateRussian? (cs : List Char) : Option String := do
  let folded := fold (cs.map asciiDigit)
  let toks ← (splitKnown (folded.length + 1) folded).mapM russianToken?
  pure (joinWords (dropLoneIn (toks.filterMap id)))

/-- The moment a whole Russian text names, if it names one. -/
def readRussian (now : Moment) (text : String) : Option Moment :=
  let cs := clean text.toList
  match translateRussian? cs with
  | none => none
  | some tr =>
    match readEpoch cs with
    | some m => some m
    | none =>
      match readMeasured now tr.toList with
      | some m => some m
      | none => readFixed dayFirst (dropZone tr).toList

end VideoStats.Host.Dates
