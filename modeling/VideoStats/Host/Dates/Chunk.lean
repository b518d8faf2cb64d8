import VideoStats.Host.Dates.Lexicon
import VideoStats.Text.Digit

namespace VideoStats.Host.Dates

open Text

def isSentenceStop (c : Char) : Bool :=
  c == '.' || c == '!' || c == '?' || c == ';' || c == '…' || c == '\r' || c == '\n'

def sentenceStep (c : Char) (acc : List (List Char)) : List (List Char) :=
  if isSentenceStop c then [] :: acc
  else match acc with
    | s :: rest => (c :: s) :: rest
    | [] => [[c]]

def sentences (cs : List Char) : List (List Char) := cs.foldr sentenceStep [[]]

structure Chunk where
  rendered : String
  written : String
  deriving Repr, Inhabited

def dashes : List String := ["-", "——", "—", "～"]

def isWrapper (c : Char) : Bool :=
  c == '(' || c == ')' || c == '"' || c == '{' || c == '}' || c == '[' || c == ']' || c == ',' ||
    c == '.' || c == '،'

def unwrap (cs : List Char) : List Char :=
  ((cs.dropWhile isWrapper).reverse.dropWhile isWrapper).reverse

abbrev Piece := Option String × String

def pieceOf? (folded : List Char) (written : String) : Option Piece :=
  let w := String.ofList folded
  if dashes.contains w then
    (if folded.any isDecimal then some (some w, written) else none)
  else match render? w with
    | some .skip => some (none, written)
    | some (.word en) => some (some en, written)
    | none =>
      let inner := unwrap folded
      match render? (String.ofList inner) with
      | some .skip => some (none, written)
      | some (.word en) =>
        let tail := folded.drop inner.length
        some (some (en ++ String.ofList tail), written)
      | none => if folded.any isDecimal then some (some w, written) else none

def joinedPiece? (f : List Char) (w : String) : List (List Char × String) → Option Piece
  | (f2, w2) :: _ =>
    if dashes.contains (String.ofList f) then none
    else match render? (String.ofList (f ++ ' ' :: f2)) with
      | some .skip => some (none, w ++ " " ++ w2)
      | some (.word en) => some (some en, w ++ " " ++ w2)
      | none => none
  | [] => none

def chunkWords : List (List Char × String) → List Piece → List (List Piece) → List (List Piece)
  | [], open_, done => if open_.isEmpty then done else open_.reverse :: done
  | (f, w) :: rest, open_, done =>
    match joinedPiece? f w rest with
    | some p => chunkWords rest.tail (p :: open_) done
    | none =>
      match pieceOf? f w with
      | some p => chunkWords rest (p :: open_) done
      | none =>
        if open_.isEmpty then chunkWords rest [] done
        else chunkWords rest [] (open_.reverse :: done)
termination_by ws => ws.length
decreasing_by all_goals (simp only [List.length_tail, List.length_cons]; omega)

def Chunk.ofPieces (ps : List Piece) : Chunk :=
  let rendered := dropLoneIn (ps.filterMap (·.1))
  ⟨" ".intercalate (rendered.filter (· ≠ "")), " ".intercalate (ps.map (·.2) |>.filter (· ≠ ""))⟩

def chunks (text : List Char) : List Chunk :=
  (sentences text).flatMap fun s =>
    let ws := (words s).map fun w => (fold w, String.ofList w)
    (chunkWords ws [] []).reverse.map Chunk.ofPieces

end VideoStats.Host.Dates
