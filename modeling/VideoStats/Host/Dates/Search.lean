import VideoStats.Host.Dates.Chunk
import VideoStats.Host.Dates.English
import VideoStats.Text.Infix
/-!
A date library for Russian text, the one `Main.dates` gives the core: dates are found chunk
by chunk and read as English date text.
-/

namespace VideoStats.Host.Dates

open Text

structure Reading where
  moment : Option Moment
  relative : Bool
  written : String
  deriving Repr

def relativeMarks : List String := ["ago", "in", "from now", "tomorrow", "today", "yesterday"]

def isRelativeText (s : String) : Bool := relativeMarks.any (contains s ·)

def fixedAnchor? (rs : List Reading) : Option Moment :=
  (rs.reverse.find? (!·.relative)).bind (·.moment)

def readItem (anchor : Moment) (before : List Reading) (item : String) : Option Moment × Moment :=
  let anchor := (fixedAnchor? before).getD anchor
  (readEnglish anchor (replace (replace item "ngày" "") "am" ""), anchor)

def chunkTrim : List Char := [' ', '.', ',', ':', '(', ')', '[', ']', '-', '\'']

def pieceTrim : List Char := [' ', '.', ',', ':', '(', ')', '[', ']', '-']

def splitters : List String := [",", "،", "——", "—", "～", ".", " "]

def groupsOf {α : Type} (k : Nat) : List α → List (List α)
  | [] => []
  | x :: xs => (x :: xs).take (k + 1) :: groupsOf k ((x :: xs).drop (k + 1))
termination_by xs => xs.length
decreasing_by simp only [List.length_drop, List.length_cons]; omega

def splitBy (item written sep : String) : List (List (String × String)) :=
  let a := split item sep
  let b := split written sep
  if count item sep ≤ 2 then [a.zip b]
  else
    [a.zip b] ++ [1, 2].map fun k =>
      ((groupsOf k a).map (sep.intercalate ·)).zip ((groupsOf k b).map (sep.intercalate ·))

def splitsOf (item written : String) : List (List (String × String)) :=
  splitters.flatMap fun sep =>
    if count item sep > 0 && count item sep == count written sep then splitBy item written sep
    else []

def readPieces (anchor : Moment) : List (String × String) → List Reading → List Reading × Moment
  | [], done => (done, anchor)
  | (item, written) :: rest, done =>
    if item.length ≤ 2 then readPieces anchor rest done
    else
      let (m, anchor) := readItem anchor done item
      readPieces anchor rest (done ++ [⟨m, isRelativeText item, stripAny pieceTrim written⟩])

def readSplits (anchor : Moment) : List (List (String × String)) → List (List Reading) × Moment
  | [] => ([], anchor)
  | s :: rest =>
    let (rs, anchor) := readPieces anchor s []
    let (rss, anchor) := readSplits anchor rest
    (rs :: rss, anchor)

structure Share where
  count : Nat
  total : Nat
  deriving Repr

def Share.lt (a b : Share) : Bool :=
  let n1 := if a.count = 0 then 0 else a.count
  let d1 := if a.count = 0 then 1 else a.total
  let n2 := if b.count = 0 then 0 else b.count
  let d2 := if b.count = 0 then 1 else b.total
  n1 * d2 < n2 * d1

def Share.same (a b : Share) : Bool := !(a.lt b) && !(b.lt a)

structure Rating where
  unread : Share
  pieces : Nat
  digitless : Share
  deriving Repr

def Rating.of (rs : List Reading) : Rating :=
  { unread := ⟨(rs.filter (·.moment.isNone)).length, rs.length⟩
    pieces := rs.length
    digitless := ⟨(rs.filter fun r => !r.written.toList.any isDigitLike).length, rs.length⟩ }

def Rating.better (a b : Rating) : Bool :=
  a.unread.lt b.unread ||
    (a.unread.same b.unread && (a.pieces < b.pieces ||
      (a.pieces == b.pieces && a.digitless.lt b.digitless)))

def bestSplit : List (List Reading) → List Reading
  | [] => []
  | r :: rs => rs.foldl (fun best s => if (Rating.of s).better (Rating.of best) then s else best) r

structure Search where
  found : List Reading
  anchor : Moment

def Search.step (st : Search) (c : Chunk) : Search :=
  if c.rendered.length ≤ 2 then st
  else
    let (m, anchor) := readItem st.anchor st.found c.rendered
    match m with
    | some _ =>
      { found := st.found ++ [⟨m, isRelativeText c.rendered, stripAny chunkTrim c.written⟩]
        anchor }
    | none =>
      let splits := splitsOf c.rendered c.written
      if splits.isEmpty then { st with anchor }
      else
        let (tried, anchor) := readSplits anchor splits
        { found := st.found ++ (bestSplit tried).filter (·.moment.isSome), anchor }

/-- The dates found in a text, each with its words, in the order found. -/
def searchDates (now : Moment) (text : String) : List (String × Moment) :=
  ((chunks text.toList).foldl Search.step ⟨[], now⟩).found.filterMap fun r =>
    r.moment.map fun m => (r.written, m)

end VideoStats.Host.Dates
