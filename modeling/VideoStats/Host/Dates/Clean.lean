import VideoStats.Text.Blank
import VideoStats.Text.Digit
import VideoStats.Text.Word

namespace VideoStats.Host.Dates

open Text

def isStray (c : Char) : Bool :=
  c == '\t' || c == '\n' || c == '\r' || c == '»' || c == '‎' || c == '·' ||
    c == '‏' || c == 'َ' || c == 'ُ'

def wordEnds (rest : List Char) : Bool :=
  match rest with
  | [] => true
  | c :: _ => !isWordChar c

def blankThenV (rest : List Char) : Bool :=
  match rest with
  | b :: 'в' :: more => isBlank b && wordEnds more
  | _ => false

def blankStrays : List Char → List Char
  | [] => []
  | c :: rest =>
    if c == ',' && blankThenV rest then ' ' :: blankStrays (rest.drop 2)
    else (if isStray c then ' ' else c) :: blankStrays rest
termination_by cs => cs.length
decreasing_by all_goals (simp only [List.length_drop, List.length_cons]; omega)

def yearMarkNext (rest : List Char) : Bool :=
  match rest with
  | g :: '.' :: _ => g == 'г' || g == 'Г'
  | _ => false

def dropYearMarks : List Char → List Char
  | [] => []
  | c :: rest =>
    if (!isWordChar c || isDecimal c) && yearMarkNext rest then
      c :: ' ' :: dropYearMarks (rest.drop 2)
    else c :: dropYearMarks rest
termination_by cs => cs.length
decreasing_by all_goals (simp only [List.length_drop, List.length_cons]; omega)

def dropWordPoints : Option Char → List Char → List Char
  | _, [] => []
  | before, c :: rest =>
    let keep := c != '.' || match before with
      | none => true
      | some b => b.isDigit || isBlank b
    if keep then c :: dropWordPoints (some c) rest else dropWordPoints (some c) rest

def afterOnLabel : List Char → Option (List Char)
  | [] => none
  | c :: rest =>
    match c, rest with
    | 'o', 'n' :: ':' :: b :: more =>
      if isBlank b then some (more.dropWhile isBlank) else afterOnLabel rest
    | _, _ => afterOnLabel rest

def dropTrailingColons (cs : List Char) : List Char :=
  let lead := cs.takeWhile isBlank
  match cs.drop lead.length with
  | [] => cs
  | c :: rest => lead ++ c :: (rest.reverse.dropWhile (· == ':')).reverse

def apostropheLike : List Char :=
  ['’', 'ʼ', 'ʻ', '՚', 'ꞌ', '′', '‵', 'ʹ', '＇']

def tidyBlanks (cs : List Char) : List Char :=
  let cs := collapseBlanks (cs.map fun c => if isBlank c then ' ' else c)
  match cs with
  | ' ' :: rest =>
    if rest.getLast? == some ' ' && rest.any (· != ' ') then rest.dropLast else cs
  | _ => cs

def clean (cs : List Char) : List Char :=
  let cs := tidyBlanks (dropYearMarks (blankStrays cs))
  let cs := dropWordPoints none cs
  let cs := (afterOnLabel cs).getD cs
  let cs := dropTrailingColons cs
  trim (cs.map fun c => if apostropheLike.contains c then '\'' else c)

end VideoStats.Host.Dates
