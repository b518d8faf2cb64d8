import Mathlib
import VideoStats.Proofs.Comparisons
import VideoStats.Proofs.TimeWindow

set_option autoImplicit false

namespace VideoStats

namespace Text

def isLowerLetter (c : Char) : Bool := ('a' ≤ c && c ≤ 'z') || ('а' ≤ c && c ≤ 'я')

theorem isLowerLetter_toNat {c : Char} (h : isLowerLetter c = true) :
    (97 ≤ c.toNat ∧ c.toNat ≤ 122) ∨ (1072 ≤ c.toNat ∧ c.toNat ≤ 1103) := by
  simpa only [isLowerLetter, Bool.or_eq_true, Bool.and_eq_true, decide_eq_true_eq, Char.le_def,
    UInt32.le_iff_toNat_le, Char.toNat_val, Char.reduceToNat] using h

theorem isBlank_of_isLowerLetter {c : Char} (h : isLowerLetter c = true) : isBlank c = false := by
  have hc := isLowerLetter_toNat h
  simp only [isBlank, inRanges, blankRanges, List.any_cons, List.any_nil, Bool.or_false,
    Bool.or_eq_false_iff, Bool.and_eq_false_imp, decide_eq_true_eq, decide_eq_false_iff_not,
    Nat.not_le]
  omega

theorem decimalRanges_apart : ∀ r ∈ decimalRanges, r.2 < 97 ∨ 1103 < r.1 := by decide

theorem isDecimal_of_isLowerLetter {c : Char} (h : isLowerLetter c = true) :
    isDecimal c = false := by
  have hc := isLowerLetter_toNat h
  have hnone : decimalRanges.find? (fun r => r.1 ≤ c.toNat && c.toNat ≤ r.2) = none := by
    refine List.find?_eq_none.2 fun r hr => ?_
    have := decimalRanges_apart r hr
    simp only [Bool.and_eq_true, decide_eq_true_eq]
    omega
  have hascii : ¬ ('0' ≤ c ∧ c ≤ '9') := by
    simp only [Char.le_def, UInt32.le_iff_toNat_le, Char.toNat_val, Char.reduceToNat]
    omega
  simp [isDecimal, decimalValue?, hascii, hnone]

theorem cyrillic_alnum : (1015, 1153) ∈ alnumRanges := by decide

theorem isWordChar_of_isLowerLetter {c : Char} (h : isLowerLetter c = true) :
    isWordChar c = true := by
  rcases isLowerLetter_toNat h with hc | hc
  · have hascii : c.toNat < 128 := by omega
    have hlower : c.isLower = true := by
      simp only [Char.isLower, Bool.and_eq_true, decide_eq_true_eq, ge_iff_le,
        UInt32.le_iff_toNat_le, Char.toNat_val, Char.reduceToNat]
      omega
    simp [isWordChar, isAlnum, hascii, Char.isAlphanum, Char.isAlpha, hlower]
  · have hwide : ¬ c.toNat < 128 := by omega
    have hin : (1015 ≤ c.toNat && c.toNat ≤ 1153) = true := by
      simp only [Bool.and_eq_true, decide_eq_true_eq]
      omega
    simp only [isWordChar, isAlnum, hwide, if_false, Bool.or_eq_true]
    exact .inr (List.any_eq_true.2 ⟨_, cyrillic_alnum, hin⟩)

theorem isBoundary_of_isLowerLetter {b : Option Char} {x : Char}
    (hb : ∀ y ∈ b, isWordChar y = false) (hx : isLowerLetter x = true) :
    isBoundary b (some x) = true := by
  cases b with
  | none => simp [isBoundary, isWordChar_of_isLowerLetter hx]
  | some y => simp [isBoundary, hb y rfl, isWordChar_of_isLowerLetter hx]

theorem not_numberChar_of_isLowerLetter {c : Char} (h : isLowerLetter c = true) :
    (isDecimal c || isBlank c || c == '_') = false := by
  have hc := isLowerLetter_toNat h
  have hnot : c ≠ '_' := fun heq => by rw [heq] at hc; simp at hc
  simp [isDecimal_of_isLowerLetter h, isBlank_of_isLowerLetter h, hnot]

theorem isLowerLetter_of_isDigit {c : Char} (h : c.isDigit = true) : isLowerLetter c = false := by
  have hc : 48 ≤ c.toNat ∧ c.toNat ≤ 57 := Char.isDigit_iff_toNat.1 h
  cases hl : isLowerLetter c
  · rfl
  · have := isLowerLetter_toNat hl
    omega

namespace Pattern

variable {α : Type}

theorem rest_of_mem_oneOf {ws : List (String × α)} {a : α} {c c' : Cursor}
    (h : (a, c') ∈ oneOf ws c) : ∃ w, (w, a) ∈ ws ∧ c.rest = w.toList ++ c'.rest := by
  obtain ⟨w, hw, hpre, rfl⟩ := mem_oneOf.1 h
  refine ⟨w, hw, ?_⟩
  rw [← String.length_toList]
  exact Cursor.rest_eq_of_prefix hpre

theorem rest_of_mem_run {p : Char → Bool} {lo : Nat} {hi : Option Nat} {r : List Char}
    {c c' : Cursor} (h : (r, c') ∈ run p lo hi c) :
    lo ≤ r.length ∧ (∀ x ∈ r, p x = true) ∧ c.rest = r ++ c'.rest := by
  obtain ⟨hlo, hpre, hp, rfl⟩ := mem_run h
  exact ⟨hlo, hp, Cursor.rest_eq_of_prefix hpre⟩

theorem prefix_of_prefix_append_cons {x l ys : List Char} {c : Char} (hc : c ∉ x)
    (h : x <+: l ++ c :: ys) : x <+: l := by
  have hlc : l ++ [c] <+: l ++ c :: ys := ⟨ys, by simp⟩
  have hc' : c ∈ l ++ [c] := List.mem_append_right l (List.mem_singleton_self c)
  rcases List.prefix_or_prefix_of_prefix h hlc with hx | hx
  · rcases List.prefix_concat_iff.1 hx with rfl | hx
    · exact absurd hc' hc
    · exact hx
  · exact absurd (hx.subset hc') hc

theorem head?_oneOf_of_find? {ws : List (String × α)} {w : String} {a : α} {b : Option Char}
    {zs ys : List Char} {c : Char}
    (hfind : ws.find? (fun x => x.1.toList.isPrefixOf (w.toList ++ zs)) = some (w, a))
    (hc : ∀ x ∈ ws, c ∉ x.1.toList) :
    (oneOf ws ⟨b, w.toList ++ (zs ++ c :: ys)⟩).head? =
      some (a, ⟨w.toList.getLast?.or b, zs ++ c :: ys⟩) := by
  obtain ⟨-, front, back, hws, hfront⟩ := List.find?_eq_some_iff_append.1 hfind
  have hnot : ∀ x ∈ front, ¬ x.1.toList <+: w.toList ++ (zs ++ c :: ys) := by
    intro x hx hpre
    have hshort : x.1.toList <+: w.toList ++ zs :=
      prefix_of_prefix_append_cons (hc x (hws ▸ List.mem_append_left _ hx)) (by simpa using hpre)
    simpa [List.isPrefixOf_iff_prefix.2 hshort] using hfront x hx
  rw [head?_oneOf hws hnot (List.prefix_append _ _), ← String.length_toList,
    Cursor.advance_append]

end Pattern

end Text

namespace Question

open Text Pattern Vocabulary

theorem metricWords_letters : ∀ w ∈ metricWords, ∀ c ∈ w.1.toList, isLowerLetter c = true := by
  have hall : (metricOrder.all fun w => w.1.toList.all isLowerLetter) = true := by decide +kernel
  rw [metricWords_eq]
  intro w hw
  exact List.all_eq_true.1 (List.all_eq_true.1 hall w hw)

theorem comparatorPhrases_letters :
    ∀ p ∈ comparatorPhrases, ∀ c ∈ p.1.toList, isLowerLetter c = true ∨ c = ' ' := by
  have hall : (comparatorOrder.all fun p => p.1.toList.all fun c => isLowerLetter c || c == ' ') =
      true := by
    decide +kernel
  rw [comparatorPhrases_eq]
  intro p hp c hc
  simpa using List.all_eq_true.1 (List.all_eq_true.1 hall p hp) c hc

theorem comparatorPhrases_head :
    ∀ p ∈ comparatorPhrases, p.1.toList.head?.map isLowerLetter = some true := by
  rw [comparatorPhrases_eq]
  decide +kernel

theorem metricWords_starts {word : String} {m : Metric} (h : (word, m) ∈ metricWords) :
    ∃ x xs, word.toList = x :: xs ∧ isLowerLetter x = true := by
  obtain ⟨x, xs, hx⟩ := List.exists_cons_of_ne_nil (toList_ne_nil_of_mem metricWords_nonempty h)
  exact ⟨x, xs, hx, metricWords_letters _ h x (by rw [hx]; exact List.mem_cons_self)⟩

theorem comparatorPhrases_starts {phrase : String} {op : Comparator}
    (h : (phrase, op) ∈ comparatorPhrases) :
    ∃ x xs, phrase.toList = x :: xs ∧ isLowerLetter x = true := by
  obtain ⟨x, xs, hx⟩ :=
    List.exists_cons_of_ne_nil (toList_ne_nil_of_mem comparatorPhrases_nonempty h)
  have hhead := comparatorPhrases_head _ h
  rw [hx] at hhead
  exact ⟨x, xs, hx, by simpa using hhead⟩

theorem metricWords_no_blank : ∀ w ∈ metricWords, ' ' ∉ w.1.toList := fun w hw hin =>
  absurd (metricWords_letters w hw ' ' hin) (by decide)

theorem comparatorPhrases_no_digit {d : Char} (hd : d.isDigit = true) :
    ∀ p ∈ comparatorPhrases, d ∉ p.1.toList := by
  intro p hp hin
  rcases comparatorPhrases_letters p hp d hin with hl | rfl
  · rw [isLowerLetter_of_isDigit hd] at hl
    cases hl
  · exact absurd hd (by decide)

theorem comparatorPhrases_nonword {phrase : String} {op : Comparator}
    (h : (phrase, op) ∈ comparatorPhrases) {x : Char} (hx : x ∈ phrase.toList)
    (hw : isWordChar x = false) : x = ' ' := by
  rcases comparatorPhrases_letters _ h x hx with hl | hs
  · rw [isWordChar_of_isLowerLetter hl] at hw
    cases hw
  · exact hs

theorem metricWords_first :
    ∀ w ∈ metricWords, metricWords.find? (fun x => x.1.toList.isPrefixOf w.1.toList) = some w := by
  rw [metricWords_eq]
  decide +kernel

theorem comparatorPhrases_first : ∀ p ∈ comparatorPhrases,
    comparatorPhrases.find? (fun x => x.1.toList.isPrefixOf (p.1.toList ++ [' '])) = some p := by
  rw [comparatorPhrases_eq]
  decide +kernel

theorem comparatorPhrases_not_before_counter : ∀ p ∈ comparatorPhrases,
    ∀ k < p.1.toList.length, (k = 0 ∨ p.1.toList[k - 1]? = some ' ') → ∀ w ∈ metricWords,
      ¬ p.1.toList.drop k <+: w.1.toList ++ [' '] ∧ ¬ w.1.toList ++ [' '] <+: p.1.toList.drop k := by
  rw [comparatorPhrases_eq, metricWords_eq]
  decide +kernel

/-- `ds` writes `n` in ASCII digits, possibly in groups separated by blanks. -/
structure GroupedNumeral (ds : List Char) (n : Nat) : Prop where
  first : ∃ d ds', ds = d :: ds' ∧ d.isDigit = true
  digit_or_blank : ∀ x ∈ ds, x.isDigit = true ∨ x = ' '
  value : digitsValue? (ds.filter fun c => c != ' ' && c != '_') = some n

theorem GroupedNumeral.run_with_day {d : Char} {N' D : List Char} {n day : Nat}
    (hN : GroupedNumeral (d :: N') n) (hD : ShortNumeral D day) :
    ∀ z ∈ N' ++ ' ' :: (D ++ [' ']), (isDecimal z || isBlank z || z == '_') = true := by
  intro z hz
  simp only [List.mem_append, List.mem_cons, List.not_mem_nil, or_false] at hz
  rcases hz with hz | rfl | hz | rfl
  · rcases hN.digit_or_blank z (List.mem_cons_of_mem d hz) with hz | rfl
    · simp [Bot.isDecimal_of_isDigit hz]
    · decide
  · decide
  · simp [Bot.isDecimal_of_isDigit (hD.digit z hz)]
  · decide

theorem foldlM_digits_from (ys : List Char) (a : Nat) :
    ys.foldlM (fun acc c => (decimalValue? c).map fun d => 10 * acc + d) a =
      (ys.foldlM (fun acc c => (decimalValue? c).map fun d => 10 * acc + d) 0).map
        (a * 10 ^ ys.length + ·) := by
  induction ys generalizing a with
  | nil => simp
  | cons y ys ih =>
    cases hy : decimalValue? y with
    | none => simp [hy]
    | some d =>
      simp only [List.foldlM_cons, hy, Option.map_some, Option.bind_eq_bind, Option.bind_some]
      rw [ih, ih (10 * 0 + d), Option.map_map]
      congr 1
      funext v
      simp only [Function.comp_apply, List.length_cons, Nat.pow_succ]
      grind

theorem digitsValue?_append {xs ys : List Char} {a b : Nat} (hx : digitsValue? xs = some a)
    (hy : digitsValue? ys = some b) : digitsValue? (xs ++ ys) = some (a * 10 ^ ys.length + b) := by
  unfold digitsValue? at hx hy ⊢
  rw [List.foldlM_append, hx, Option.bind_eq_bind, Option.bind_some, foldlM_digits_from, hy]
  rfl

theorem head?_groupedNumber {b : Option Char} {d : Char} {ds ys : List Char} {y : Char}
    (hd : isDecimal d = true) (hds : ∀ x ∈ ds, (isDecimal x || isBlank x || x == '_') = true)
    (hy : (isDecimal y || isBlank y || y == '_') = false) :
    (groupedNumber ⟨b, d :: (ds ++ y :: ys)⟩).head? =
      some (d :: ds, ⟨ds.getLast?.or (some d), y :: ys⟩) := by
  have hfirst : ((d :: (ds ++ y :: ys)).takeWhile isDecimal).take 1 = [d] := by
    rw [List.takeWhile_cons_of_pos (by simpa using hd)]
    rfl
  have hmore : (ds ++ y :: ys).takeWhile (fun c => isDecimal c || isBlank c || c == '_') = ds :=
    takeWhile_stop hds hy
  have hd₁ : (run isDecimal 1 (some 1) ⟨b, d :: (ds ++ y :: ys)⟩).head? =
      some ([d], ⟨some d, ds ++ y :: ys⟩) := by
    simp only [run, hfirst]
    rw [head?_run_of_le (by simp)]
    rfl
  have hds₁ : (run (fun c => isDecimal c || isBlank c || c == '_') 0 none
      ⟨some d, ds ++ y :: ys⟩).head? = some (ds, ⟨ds.getLast?.or (some d), y :: ys⟩) := by
    simp only [run, hmore]
    rw [head?_run_of_le (Nat.zero_le _), Cursor.advance_append]
  simp only [groupedNumber, bind_eq, pure_eq]
  exact head?_andThen hd₁ (head?_andThen hds₁ (head?_unit _ _))

theorem value_with_day {m : Metric} {op : Comparator} {N D : List Char} {n day : Nat}
    (hN : GroupedNumeral N n) (hD : ShortNumeral D day) :
    ThresholdWords.value ⟨m, op, N ++ ' ' :: (D ++ [' '])⟩ = ((n * 10 ^ D.length + day : Nat) : Int) := by
  have hDkept : D.filter (fun c => c != ' ' && c != '_') = D := by
    refine List.filter_eq_self.2 fun c hc => ?_
    have hc' : 48 ≤ c.toNat ∧ c.toNat ≤ 57 := Char.isDigit_iff_toNat.1 (hD.digit c hc)
    have hspace : c ≠ ' ' := fun h => by rw [h] at hc'; simp at hc'
    have hunder : c ≠ '_' := fun h => by rw [h] at hc'; simp at hc'
    simp [hspace, hunder]
  have hfilter : (N ++ ' ' :: (D ++ [' '])).filter (fun c => c != ' ' && c != '_') =
      N.filter (fun c => c != ' ' && c != '_') ++ D := by
    simp [List.filter_append, hDkept]
  simp only [ThresholdWords.value, hfilter, digitsValue?_append hN.value hD.value, Option.getD_some]

theorem counterFirst_reads {w : ThresholdWords} {c₀ c : Cursor} (h : (w, c) ∈ counterFirst c₀) :
    ∃ word bl₁ phrase bl₂, (word, w.metric) ∈ metricWords ∧ (phrase, w.op) ∈ comparatorPhrases ∧
      (∀ x ∈ bl₁, isBlank x = true) ∧ (∀ x ∈ bl₂ ++ w.number,
        (isDecimal x || isBlank x || x == '_') = true) ∧
      c₀.rest = word.toList ++ bl₁ ++ (phrase.toList ++ (bl₂ ++ w.number ++ c.rest)) := by
  simp only [counterFirst, groupedNumber, blanks1, bind_eq, pure_eq, mem_andThen, mem_boundary,
    mem_unit] at h
  obtain ⟨_, _, ⟨-, rfl⟩, m, c₁, hm, _, _, ⟨bl₁, c₂, hb₁, -, rfl⟩, op, c₃, hop, _, _,
    ⟨bl₂, c₄, hb₂, -, rfl⟩, n, _, ⟨d, c₅, hd, more, c₆, hmore, rfl, rfl⟩, _, _, ⟨-, rfl⟩, rfl,
    rfl⟩ := h
  obtain ⟨word, hword, h₀⟩ := rest_of_mem_oneOf hm
  obtain ⟨-, hbl₁, h₁⟩ := rest_of_mem_run hb₁
  obtain ⟨phrase, hphrase, h₂⟩ := rest_of_mem_oneOf hop
  obtain ⟨-, hbl₂, h₃⟩ := rest_of_mem_run hb₂
  obtain ⟨-, hdigit, h₄⟩ := rest_of_mem_run hd
  obtain ⟨-, hmoreChars, h₅⟩ := rest_of_mem_run hmore
  refine ⟨word, bl₁, phrase, bl₂, hword, hphrase, hbl₁, fun x hx => ?_, ?_⟩
  · simp only [List.mem_append] at hx
    rcases hx with hx | hx | hx
    · simp [hbl₂ x hx]
    · simp [hdigit x hx]
    · exact hmoreChars x hx
  · rw [h₀, h₁, h₂, h₃, h₄, h₅]
    simp only [List.append_assoc]

theorem phrase_not_before_counter {phrase : String} {op : Comparator} {x y ys : List Char}
    {word : String} {m : Metric} (hphrase : (phrase, op) ∈ comparatorPhrases)
    (hsplit : phrase.toList = x ++ y) (hy : y ≠ []) (hx : x = [] ∨ x.getLast? = some ' ')
    (hword : (word, m) ∈ metricWords) : ¬ y <+: word.toList ++ ' ' :: ys := by
  intro hpre
  have hk : x.length < phrase.toList.length := by
    rw [hsplit, List.length_append]
    have := List.length_pos_iff.2 hy
    omega
  have hdrop : phrase.toList.drop x.length = y := by rw [hsplit, List.drop_left]
  have hbefore : x.length = 0 ∨ phrase.toList[x.length - 1]? = some ' ' := by
    rcases hx with rfl | hlast
    · exact .inl rfl
    · right
      have hne : x ≠ [] := by
        rintro rfl
        cases hlast
      have hlen : x.length - 1 < x.length := by
        have := List.length_pos_iff.2 hne
        omega
      rw [hsplit, List.getElem?_append_left hlen, ← List.getLast?_eq_getElem?]
      exact hlast
  obtain ⟨hshort, hlong⟩ := comparatorPhrases_not_before_counter _ hphrase _ hk hbefore _ hword
  rw [hdrop] at hshort hlong
  rcases List.prefix_or_prefix_of_prefix hpre (⟨ys, by simp⟩ : word.toList ++ [' '] <+: _) with
    h | h
  · exact hshort h
  · exact hlong h

theorem reads_not_across_counter {P Y ys bl₁ C : List Char} {word word' phrase' : String}
    {m m' : Metric} {op' : Comparator} {y : Char}
    (hP : ∀ x ∈ P.getLast?, isWordChar x = false) (hPne : P ≠ [])
    (hY : Y.head? = some y) (hYX : Y <+: word.toList ++ ' ' :: ys)
    (hword : (word, m) ∈ metricWords) (hy : isLowerLetter y = true)
    (hword' : (word', m') ∈ metricWords) (hbl₁ : ∀ x ∈ bl₁, isBlank x = true)
    (hphrase' : (phrase', op') ∈ comparatorPhrases)
    (hC : ∀ x ∈ C, (isDecimal x || isBlank x || x == '_') = true)
    (hsplit : P ++ Y = word'.toList ++ bl₁ ++ (phrase'.toList ++ C)) : False := by
  have hYne : Y ≠ [] := fun h => by rw [h] at hY; cases hY
  -- the letter after the place stops the number
  have hnotC : ∀ C', C = C' ++ Y → False := by
    intro C' hC'
    have hyC : y ∈ C := by
      rw [hC']
      exact List.mem_append_right _ (List.mem_of_head? hY)
    have := hC y hyC
    rw [not_numberChar_of_isLowerLetter hy] at this
    cases this
  rcases List.append_eq_append_iff.1 hsplit with ⟨a, hfront, hback⟩ | ⟨c, hfront, hback⟩
  · cases a with
    | nil =>
      -- the place is where the phrase starts
      rw [List.nil_append] at hback
      exact phrase_not_before_counter hphrase' (List.nil_append _).symm
        (toList_ne_nil_of_mem comparatorPhrases_nonempty hphrase') (.inl rfl) hword
        ((hback ▸ List.prefix_append _ _ : phrase'.toList <+: Y).trans hYX)
    | cons z zs =>
      have hz : z = y := by
        rw [hback, List.cons_append, List.head?_cons, Option.some.injEq] at hY
        exact hY
      subst hz
      rcases List.append_eq_append_iff.1 hfront with ⟨u, hP', hbl⟩ | ⟨u, hw, -⟩
      · -- the place is within the blanks after the counter word
        have := hbl₁ z (by rw [hbl]; exact List.mem_append_right _ List.mem_cons_self)
        rw [isBlank_of_isLowerLetter hy] at this
        cases this
      · -- the place is within the counter word
        obtain ⟨x, hx⟩ := Option.isSome_iff_exists.1 (List.getLast?_isSome.2 hPne)
        have hxw : x ∈ word'.toList := by
          rw [hw]
          exact List.mem_append_left _ (List.mem_of_getLast? hx)
        have := hP x hx
        rw [isWordChar_of_isLowerLetter (metricWords_letters _ hword' x hxw)] at this
        cases this
  · rcases List.append_eq_append_iff.1 hback with ⟨a, -, hC'⟩ | ⟨d, hphrase, hY'⟩
    · exact hnotC a hC'
    · cases d with
      | nil => exact hnotC [] (by simp [hY'])
      | cons z zs =>
        -- the place is within the phrase, after a blank of it
        have hlast : c = [] ∨ c.getLast? = some ' ' := by
          rcases List.eq_nil_or_concat c with rfl | ⟨c', x, rfl⟩
          · exact .inl rfl
          · right
            rw [List.concat_eq_append] at hfront hphrase ⊢
            have hxP : P.getLast? = some x := by
              rw [hfront, ← List.append_assoc, List.getLast?_concat]
            rw [List.getLast?_concat,
              comparatorPhrases_nonword hphrase' (by rw [hphrase]; simp) (hP x hxP)]
        exact phrase_not_before_counter hphrase' hphrase (List.cons_ne_nil z zs) hlast hword
          ((hY' ▸ List.prefix_append _ _ : z :: zs <+: Y).trans hYX)

theorem counterFirst_stops_before_counter {cs pre ys : List Char} {word : String} {m : Metric}
    (hcs : cs = pre ++ (word.toList ++ ' ' :: ys)) (hword : (word, m) ∈ metricWords)
    (hstart : ∀ x ∈ pre.getLast?, isWordChar x = false) {i e : Nat} (hi : i < pre.length)
    (he : e ≤ cs.length) {w : ThresholdWords}
    (hmem : (w, Cursor.at cs e) ∈ counterFirst (Cursor.at cs i)) : e ≤ pre.length := by
  obtain ⟨word', bl₁, phrase', bl₂, hword', hphrase', hbl₁, hC, hrest⟩ := counterFirst_reads hmem
  obtain ⟨w₀, ws, hws, hw₀⟩ := metricWords_starts hword
  refine Nat.le_of_not_lt fun hlate => ?_
  -- the match passes over what is left of `pre`, then a part `Y` of the counter word's text
  have hdrop : cs.drop i = pre.drop i ++ (word.toList ++ ' ' :: ys) := by
    rw [hcs, List.drop_append_of_le_length (Nat.le_of_lt hi)]
  have hshort : (cs.drop e).length < (word.toList ++ ' ' :: ys).length := by
    rw [List.length_drop]
    rw [hcs, List.length_append] at he ⊢
    omega
  rw [Cursor.at_rest, Cursor.at_rest, hdrop] at hrest
  have hM : pre.drop i ++ (word.toList ++ ' ' :: ys) =
      (word'.toList ++ bl₁ ++ (phrase'.toList ++ (bl₂ ++ w.number))) ++ cs.drop e := by
    rw [hrest]
    simp only [List.append_assoc]
  rcases List.append_eq_append_iff.1 hM with ⟨Y, hsplit, hX⟩ | ⟨c, -, hR⟩
  · have hYne : Y ≠ [] := by
      rintro rfl
      rw [List.nil_append] at hX
      rw [hX] at hshort
      exact Nat.lt_irrefl _ hshort
    have hY : Y.head? = some w₀ := by
      obtain ⟨y, Y', rfl⟩ := List.exists_cons_of_ne_nil hYne
      rw [hws, List.cons_append, List.cons_append, List.cons.injEq] at hX
      rw [hX.1]
      rfl
    have hlast : (pre.drop i).getLast? = pre.getLast? := by
      rw [List.getLast?_drop, if_neg (by omega)]
    have hPne : pre.drop i ≠ [] := by
      simp only [ne_eq, List.drop_eq_nil_iff, Nat.not_le]
      exact hi
    exact reads_not_across_counter (hlast ▸ hstart) hPne hY ⟨_, hX.symm⟩ hword hw₀ hword' hbl₁
      hphrase' hC hsplit.symm
  · rw [hR, List.length_append] at hshort
    omega

theorem head?_counterFirst {b : Option Char} {word phrase : String} {m : Metric}
    {op : Comparator} {N D rest : List Char} {x : Char} {n day : Nat}
    (hb : ∀ y ∈ b, isWordChar y = false) (hword : (word, m) ∈ metricWords)
    (hphrase : (phrase, op) ∈ comparatorPhrases) (hN : GroupedNumeral N n)
    (hD : ShortNumeral D day) (hx : isLowerLetter x = true) :
    ∃ c, (counterFirst ⟨b, word.toList ++ ' ' ::
      (phrase.toList ++ ' ' :: (N ++ ' ' :: (D ++ ' ' :: x :: rest)))⟩).head? =
        some (⟨m, op, N ++ ' ' :: (D ++ [' '])⟩, c) := by
  obtain ⟨w₀, ws, hws, hw₀⟩ := metricWords_starts hword
  obtain ⟨p₀, ps, hps, hp₀⟩ := comparatorPhrases_starts hphrase
  obtain ⟨d, N', rfl, hd⟩ := hN.first
  have hnumber : (d :: N') ++ ' ' :: (D ++ ' ' :: x :: rest) =
      d :: ((N' ++ ' ' :: (D ++ [' '])) ++ x :: rest) := by
    simp
  have hblank : (N' ++ ' ' :: (D ++ [' '])).getLast? = some ' ' := by
    rw [show N' ++ ' ' :: (D ++ [' ']) = (N' ++ ' ' :: D) ++ [' '] by simp, List.getLast?_concat]
  rw [hnumber]
  simp only [counterFirst, bind_eq, pure_eq]
  apply Exists.intro
  -- the counter word starts a word and is the first of the vocabulary the text starts with
  refine head?_andThen (head?_boundary ?_) ?_
  · show isBoundary b (word.toList ++ _).head? = true
    rw [hws]
    exact isBoundary_of_isLowerLetter hb hw₀
  refine head?_andThen (head?_oneOf_of_find?
    (by rw [List.append_nil]; exact metricWords_first _ hword :
      metricWords.find? (fun x => x.1.toList.isPrefixOf (word.toList ++ [])) = some (word, m))
    metricWords_no_blank) ?_
  refine head?_andThen (head?_blanks1_single space_isBlank ?_) ?_
  · rw [hps]
    exact not_blank_head (isBlank_of_isLowerLetter hp₀)
  -- the phrase, followed by a blank and a digit, is the first of the vocabulary there
  refine head?_andThen (head?_oneOf_of_find? (comparatorPhrases_first _ hphrase)
    (comparatorPhrases_no_digit hd)) ?_
  refine head?_andThen (head?_blanks1_single space_isBlank
    (not_blank_head (Bot.isBlank_of_isDigit hd))) ?_
  -- the number runs up to the letter, and a word starts there
  refine head?_andThen (head?_groupedNumber (Bot.isDecimal_of_isDigit hd) (hN.run_with_day hD)
    (not_numberChar_of_isLowerLetter hx)) ?_
  refine head?_andThen (head?_boundary ?_) (head?_unit _ _)
  show isBoundary ((N' ++ ' ' :: (D ++ [' '])).getLast?.or (some d)) (some x) = true
  rw [hblank, Option.some_or]
  refine isBoundary_of_isLowerLetter (fun y hy => ?_) hx
  rw [Option.mem_some_iff] at hy
  rw [← hy]
  exact space_not_word

theorem threshold_reads_day_into_number {t : String} {pre rest N D : List Char}
    {word phrase : String} {m : Metric} {op : Comparator} {x : Char} {n day : Nat}
    (ht : t.toList = pre ++ word.toList ++ ' ' ::
      (phrase.toList ++ ' ' :: (N ++ ' ' :: (D ++ ' ' :: x :: rest))))
    (hstart : ∀ y ∈ pre.getLast?, isWordChar y = false)
    (hword : (word, m) ∈ metricTerms) (hphrase : (phrase, op) ∈ comparatorTerms)
    (hN : GroupedNumeral N n) (hD : ShortNumeral D day) (hx : isLowerLetter x = true) :
    (⟨m, op, N ++ ' ' :: (D ++ [' '])⟩ : ThresholdWords) ∈ thresholdWords t ∧
      ∀ basis ts, thresholds basis t = .ok ts →
        (⟨basis, m, op, ((n * 10 ^ D.length + day : Nat) : Int)⟩ : Threshold) ∈ ts := by
  have hword' : (word, m) ∈ metricWords := List.mem_mergeSort.2 hword
  have hphrase' : (phrase, op) ∈ comparatorPhrases := mem_comparatorPhrases.2 hphrase
  have hcs : t.toList = pre ++ (word.toList ++ ' ' ::
      (phrase.toList ++ ' ' :: (N ++ ' ' :: (D ++ ' ' :: x :: rest)))) := by
    rw [ht, List.append_assoc]
  obtain ⟨c, hhead⟩ : ∃ c, (counterFirst (Cursor.at t.toList pre.length)).head? =
      some (⟨m, op, N ++ ' ' :: (D ++ [' '])⟩, c) := by
    rw [hcs, Cursor.at_append]
    exact head?_counterFirst hstart hword' hphrase' hN hD hx
  -- the scan reports the first way at the counter word: no match further left reaches past it
  have hmem : (⟨m, op, N ++ ' ' :: (D ++ [' '])⟩ : ThresholdWords) ∈ thresholdWords t := by
    refine List.mem_append_right _ (mem_findAll_of_first counterFirst_consumes ?_ hhead ?_)
    · rw [hcs, List.length_append]
      omega
    · intro i hi w e he hmatch
      exact counterFirst_stops_before_counter hcs hword' hstart hi he hmatch
  refine ⟨hmem, fun basis ts hts => ?_⟩
  unfold thresholds at hts
  obtain ⟨found, hfound, hts⟩ := Except.bind_eq_ok.1 hts
  cases hts
  obtain ⟨th, hth, hcheck⟩ := mem_mapM_ok hfound hmem
  obtain rfl := Threshold.check_eq_ok hcheck
  rw [value_with_day hN hD] at hth
  exact mem_dedupe_of_mem hth

theorem viewsBeforeDate_read_with_day :
    (⟨.views, .gt, ['1', '0', '0', ' ', '0', '0', '0', ' ', '2', '8', ' ']⟩ : ThresholdWords) ∈
        thresholdWords "просмотров больше 100 000 28 ноября" ∧
      ∀ basis ts, thresholds basis "просмотров больше 100 000 28 ноября" = .ok ts →
        (⟨basis, .views, .gt, 10000028⟩ : Threshold) ∈ ts := by
  have ht : "просмотров больше 100 000 28 ноября".toList = [] ++ "просмотров".toList ++ ' ' ::
      ("больше".toList ++ ' ' :: (['1', '0', '0', ' ', '0', '0', '0'] ++ ' ' ::
        (['2', '8'] ++ ' ' :: 'н' :: "оября".toList))) := by
    simp only [String.reduceToList]
    rfl
  have hgroups : ∀ x ∈ ['1', '0', '0', ' ', '0', '0', '0'], x.isDigit = true ∨ x = ' ' := by
    intro x hx
    simp only [List.mem_cons, List.not_mem_nil, or_false] at hx
    rcases hx with rfl | rfl | rfl | rfl | rfl | rfl | rfl <;> decide
  have hN : GroupedNumeral ['1', '0', '0', ' ', '0', '0', '0'] 100000 :=
    ⟨⟨'1', _, rfl, by decide⟩, hgroups, by decide⟩
  have hD : ShortNumeral ['2', '8'] 28 := ⟨by simp, by simp, List.all_eq_true.1 rfl, rfl⟩
  exact threshold_reads_day_into_number ht (fun _ h => by cases h) (by decide) (by decide) hN hD
    (by decide)

end Question

end VideoStats
