
namespace VideoStats.Text

def inRanges (rs : List (Nat × Nat)) (n : Nat) : Bool :=
  rs.any fun r => r.1 ≤ n && n ≤ r.2

def blankRanges : List (Nat × Nat) := [
  (9, 13), (28, 32), (133, 133), (160, 160), (5760, 5760), (8192, 8202),
  (8232, 8233), (8239, 8239), (8287, 8287), (12288, 12288)]

def isBlank (c : Char) : Bool := inRanges blankRanges c.toNat

def trim (cs : List Char) : List Char :=
  ((cs.dropWhile isBlank).reverse.dropWhile isBlank).reverse

def trimLeft (cs : List Char) : List Char := cs.dropWhile isBlank

def wordStep (c : Char) (acc : List Char × List (List Char)) : List Char × List (List Char) :=
  if isBlank c then
    ([], if acc.1.isEmpty then acc.2 else acc.1 :: acc.2)
  else
    (c :: acc.1, acc.2)

def words (cs : List Char) : List (List Char) :=
  let acc := cs.foldr wordStep ([], [])
  if acc.1.isEmpty then acc.2 else acc.1 :: acc.2

def collapseStep (c : Char) (acc : List Char) : List Char :=
  if isBlank c then
    match acc with
    | ' ' :: _ => acc
    | _ => ' ' :: acc
  else c :: acc

def collapseBlanks (cs : List Char) : List Char := cs.foldr collapseStep []

def squeeze (s : String) : String :=
  String.ofList (trim (collapseBlanks s.toList))

def unwords (ws : List (List Char)) : List Char := List.intercalate [' '] ws

end VideoStats.Text
