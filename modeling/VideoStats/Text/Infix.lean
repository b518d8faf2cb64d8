
namespace VideoStats.Text

def occursIn (needle : List Char) : List Char → Bool
  | [] => needle.isEmpty
  | c :: rest => needle.isPrefixOf (c :: rest) || occursIn needle rest

def contains (hay needle : String) : Bool := occursIn needle.toList hay.toList

def countFrom (n : Char) (ns : List Char) : List Char → Nat
  | [] => 0
  | c :: rest =>
    if (n :: ns).isPrefixOf (c :: rest) then countFrom n ns (rest.drop ns.length) + 1
    else countFrom n ns rest
termination_by cs => cs.length
decreasing_by all_goals (simp only [List.length_drop, List.length_cons]; omega)

def splitFrom (n : Char) (ns : List Char) (cur : List Char) : List Char → List (List Char)
  | [] => [cur.reverse]
  | c :: rest =>
    if (n :: ns).isPrefixOf (c :: rest) then cur.reverse :: splitFrom n ns [] (rest.drop ns.length)
    else splitFrom n ns (c :: cur) rest
termination_by cs => cs.length
decreasing_by all_goals (simp only [List.length_drop, List.length_cons]; omega)

def count (hay needle : String) : Nat :=
  match needle.toList with
  | [] => hay.length + 1
  | n :: ns => countFrom n ns hay.toList

def split (hay sep : String) : List String :=
  match sep.toList with
  | [] => [hay]
  | n :: ns => (splitFrom n ns [] hay.toList).map String.ofList

def replace (hay pat by_ : String) : String := by_.intercalate (split hay pat)

def stripAny (set : List Char) (s : String) : String :=
  String.ofList (((s.toList.dropWhile set.contains).reverse.dropWhile set.contains).reverse)

end VideoStats.Text
