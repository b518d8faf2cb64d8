import Mathlib
import VideoStats.Text.Normal

set_option autoImplicit false

namespace VideoStats.Text

def missesRanges (rs : List (Nat × Nat)) (a b : Nat) : Bool :=
  rs.all fun r => b < r.1 || r.2 < a

theorem inRanges_eq_false_of_misses {rs : List (Nat × Nat)} {a b n : Nat}
    (h : missesRanges rs a b = true) (ha : a ≤ n) (hb : n ≤ b) : inRanges rs n = false := by
  simp only [missesRanges, List.all_eq_true, Bool.or_eq_true, decide_eq_true_eq] at h
  simp only [inRanges, List.any_eq_false, Bool.and_eq_true, decide_eq_true_eq, not_and,
    Nat.not_le]
  intro r hr hlo
  rcases h r hr with h | h <;> omega

def keptCapitals : List (Nat × Nat) := [(65, 90), (304, 304), (1040, 1071), (8490, 8490)]

def keptLowerRanges : List (Nat × Nat) := [
  (133, 133), (160, 160), (305, 305), (383, 383), (1072, 1103), (5760, 5760), (7296, 7302),
  (8192, 8202), (8232, 8233), (8239, 8239), (8287, 8287), (12288, 12288)]

theorem inRanges_keptLower {c : Char} (hkept : isKept c = true) (hbig : 128 ≤ c.toNat)
    (hcap : inRanges keptCapitals c.toNat = false) : inRanges keptLowerRanges c.toNat = true := by
  have hcode : ∀ d : Char, c = d ↔ c.toNat = d.toNat := fun d => Char.toNat_inj.symm
  simp only [isKept, isBlank, inRanges, blankRanges, Bool.or_eq_true, beq_iff_eq, hcode,
    Bool.and_eq_true, decide_eq_true_eq, Char.le_def, UInt32.le_iff_toNat_le, Char.toNat_val,
    List.any_cons, List.any_nil, Bool.or_false, Char.reduceToNat] at hkept
  simp only [inRanges, keptCapitals, List.any_cons, List.any_nil, Bool.or_false,
    Bool.or_eq_false_iff, Bool.and_eq_false_iff, decide_eq_false_iff_not, Nat.not_le] at hcap
  simp only [inRanges, keptLowerRanges, List.any_cons, List.any_nil, Bool.or_false,
    Bool.or_eq_true, Bool.and_eq_true, decide_eq_true_eq]
  omega

theorem CaseRun.image?_eq_some {r : CaseRun} {n m : Nat} (h : r.image? n = some m) :
    r.lo ≤ n ∧ n ≤ r.hi ∧ m = (n + r.shift).toNat := by
  unfold CaseRun.image? at h
  split at h
  · rename_i hin
    exact ⟨hin.1, hin.2.1, (Option.some.inj h).symm⟩
  · cases h

theorem lowerRuns_miss_capitals :
    ∀ r ∈ lowerRuns, missesRanges keptCapitals (r.lo + r.shift).toNat (r.hi + r.shift).toNat = true :=
  List.all_eq_true.1 (by decide +kernel)

theorem lowerRuns_miss_keptLower : ∀ r ∈ lowerRuns, missesRanges keptLowerRanges r.lo r.hi = true :=
  List.all_eq_true.1 (by decide +kernel)

theorem mapByRuns_keptLower {n : Nat} (h : inRanges keptLowerRanges n = true) :
    mapByRuns lowerRuns n = none := by
  simp only [mapByRuns, List.findSome?_eq_none_iff]
  intro r hr
  cases him : r.image? n with
  | none => rfl
  | some m =>
    obtain ⟨hlo, hhi, -⟩ := CaseRun.image?_eq_some him
    rw [inRanges_eq_false_of_misses (lowerRuns_miss_keptLower r hr) hlo hhi] at h
    cases h

theorem toNat_toLower (c : Char) :
    c.toLower.toNat = if 65 ≤ c.toNat ∧ c.toNat ≤ 90 then c.toNat + 32 else c.toNat := by
  unfold Char.toLower
  split <;> rename_i h <;> simp only [ge_iff_le, UInt32.le_iff_toNat_le, Char.toNat_val] at h
  · have hcap : 65 ≤ c.toNat ∧ c.toNat ≤ 90 := h
    rw [if_pos hcap]
    show (c.val + ('a'.val - 'A'.val)).toNat = c.toNat + 32
    have h32 : ('a'.val - 'A'.val).toNat = 32 := by decide
    rw [UInt32.toNat_add, Char.toNat_val, h32]
    exact Nat.mod_eq_of_lt (by omega)
  · have hcap : ¬ (65 ≤ c.toNat ∧ c.toNat ≤ 90) := h
    rw [if_neg hcap]

theorem toNat_ofNat_char (n : Nat) : (Char.ofNat n).toNat = n ∨ (Char.ofNat n).toNat = 0 := by
  unfold Char.ofNat
  split
  · exact .inl (by simp [Char.ofNatAux, Char.toNat])
  · exact .inr rfl

theorem lowerChar_of_kept {c : Char} (hkept : isKept c = true)
    (hcap : inRanges keptCapitals c.toNat = false) : lowerChar c = [c] := by
  have hcap' := hcap
  simp only [inRanges, keptCapitals, List.any_cons, List.any_nil, Bool.or_false,
    Bool.or_eq_false_iff, Bool.and_eq_false_iff, decide_eq_false_iff_not, Nat.not_le] at hcap'
  unfold lowerChar
  split
  · -- an ASCII character that is no capital is left as it is
    have hsame : c.toLower.toNat = c.toNat := by
      rw [toNat_toLower, if_neg (by omega)]
    rw [Char.toNat_inj.1 hsame]
  · rw [if_neg (by omega), mapByRuns_keptLower (inRanges_keptLower hkept (by omega) hcap)]

theorem lowerChar_stable {c d : Char} (h : c ∈ lowerChar d) (hkept : isKept c = true) :
    lowerChar c = [c] := by
  unfold lowerChar at h
  split at h
  · -- an ASCII character becomes a small letter or stays as it is, no capital either way
    rw [List.mem_singleton] at h
    subst h
    refine lowerChar_of_kept hkept ?_
    have hlow := toNat_toLower d
    simp only [inRanges, keptCapitals, List.any_cons, List.any_nil, Bool.or_false,
      Bool.or_eq_false_iff, Bool.and_eq_false_iff, decide_eq_false_iff_not, Nat.not_le]
    split at hlow <;> omega
  · rename_i hbig
    split at h
    · -- `İ` becomes `i` and a combining dot, which is not kept
      simp only [List.mem_cons, List.not_mem_nil, or_false] at h
      rcases h with rfl | rfl
      · decide
      · exact absurd hkept (by decide)
    · rename_i hdot
      split at h
      · -- moved by a run, which lands on no capital
        rename_i m hm
        rw [List.mem_singleton] at h
        subst h
        obtain ⟨r, hr, him⟩ := List.exists_of_findSome?_eq_some hm
        obtain ⟨hlo, hhi, rfl⟩ := CaseRun.image?_eq_some him
        refine lowerChar_of_kept hkept ?_
        rcases toNat_ofNat_char ((d.toNat : Int) + r.shift).toNat with hn | hn <;> rw [hn]
        · exact inRanges_eq_false_of_misses (lowerRuns_miss_capitals r hr)
            (Int.toNat_le_toNat (by omega)) (Int.toNat_le_toNat (by omega))
        · decide
      · -- moved by no run: the character is its own lowercase
        rename_i hnone
        rw [List.mem_singleton] at h
        subst h
        unfold lowerChar
        rw [if_neg hbig, if_neg hdot, hnone]

structure Spaced (cs : List Char) : Prop where
  blank_space : ∀ c ∈ cs, isBlank c = true → c = ' '
  single : cs.IsChain fun a b => a = ' ' → b ≠ ' '

theorem Spaced.within {cs l : List Char} (h : Spaced cs) (hl : l <:+: cs) : Spaced l :=
  ⟨fun c hc => h.blank_space c (hl.subset hc), h.single.infix hl⟩

theorem collapseBlanks_cons (c : Char) (cs : List Char) :
    collapseBlanks (c :: cs) = collapseStep c (collapseBlanks cs) :=
  rfl

theorem space_isBlank : isBlank ' ' = true := by decide

theorem collapseStep_of_blank {c : Char} {acc : List Char} (h : isBlank c = true) :
    collapseStep c acc = if acc.head? = some ' ' then acc else ' ' :: acc := by
  unfold collapseStep
  rw [if_pos h]
  split
  · rfl
  · rename_i hne
    cases acc with
    | nil => rfl
    | cons y ys =>
      have hy : y ≠ ' ' := fun hy => hne ys (by rw [hy])
      simp [hy]

theorem collapseStep_of_not_blank {c : Char} {acc : List Char} (h : isBlank c = false) :
    collapseStep c acc = c :: acc := by
  simp [collapseStep, h]

theorem mem_collapseBlanks {c : Char} {cs : List Char} (h : c ∈ collapseBlanks cs) :
    c ∈ cs ∨ c = ' ' := by
  induction cs with
  | nil => simp [collapseBlanks] at h
  | cons x xs ih =>
    rw [collapseBlanks_cons] at h
    cases hx : isBlank x with
    | true =>
      rw [collapseStep_of_blank hx] at h
      split at h
      · exact (ih h).imp_left (List.mem_cons_of_mem x)
      · rcases List.mem_cons.1 h with rfl | h
        · exact .inr rfl
        · exact (ih h).imp_left (List.mem_cons_of_mem x)
    | false =>
      rw [collapseStep_of_not_blank hx] at h
      rcases List.mem_cons.1 h with rfl | h
      · exact .inl List.mem_cons_self
      · exact (ih h).imp_left (List.mem_cons_of_mem x)

theorem spaced_collapseBlanks (cs : List Char) : Spaced (collapseBlanks cs) := by
  induction cs with
  | nil => exact ⟨by simp [collapseBlanks], by simp [collapseBlanks]⟩
  | cons x xs ih =>
    rw [collapseBlanks_cons]
    cases hx : isBlank x with
    | true =>
      rw [collapseStep_of_blank hx]
      split
      · exact ih
      · -- a run's space goes in front of text that does not start with a space
        rename_i hhead
        refine ⟨fun c hc hb => ?_, List.isChain_cons.2 ⟨fun b hb _ hsp => ?_, ih.single⟩⟩
        · rcases List.mem_cons.1 hc with rfl | hc
          · rfl
          · exact ih.blank_space c hc hb
        · subst hsp
          exact hhead hb
    | false =>
      rw [collapseStep_of_not_blank hx]
      refine ⟨fun c hc hb => ?_, List.isChain_cons.2 ⟨fun b _ hsp => ?_, ih.single⟩⟩
      · rcases List.mem_cons.1 hc with rfl | hc
        · rw [hx] at hb
          cases hb
        · exact ih.blank_space c hc hb
      · subst hsp
        rw [space_isBlank] at hx
        cases hx

theorem collapseBlanks_eq_self {cs : List Char} (h : Spaced cs) : collapseBlanks cs = cs := by
  induction cs with
  | nil => rfl
  | cons x xs ih =>
    have htail : Spaced xs := h.within (List.suffix_cons x xs).isInfix
    rw [collapseBlanks_cons, ih htail]
    cases hx : isBlank x with
    | true =>
      have hsp : x = ' ' := h.blank_space x List.mem_cons_self hx
      subst hsp
      -- the text after a space does not start with another
      have hnext := (List.isChain_cons.1 h.single).1
      rw [collapseStep_of_blank hx,
        if_neg (show ¬ xs.head? = some ' ' from fun hhead => hnext ' ' hhead rfl rfl)]
    | false => rw [collapseStep_of_not_blank hx]

structure Trimmed (cs : List Char) : Prop where
  first : ∀ c ∈ cs.head?, isBlank c = false
  last : ∀ c ∈ cs.getLast?, isBlank c = false

theorem trim_within (cs : List Char) : trim cs <:+: cs := by
  have hfront : (cs.dropWhile isBlank).reverse.dropWhile isBlank <:+
      (cs.dropWhile isBlank).reverse :=
    List.dropWhile_suffix isBlank
  have hback : trim cs <+: cs.dropWhile isBlank := by
    simpa [trim] using List.reverse_prefix.2 hfront
  exact hback.isInfix.trans (List.dropWhile_suffix isBlank).isInfix

theorem head?_dropWhile_blank {cs : List Char} {c : Char}
    (h : c ∈ (cs.dropWhile isBlank).head?) : isBlank c = false := by
  have hnot := List.head?_dropWhile_not isBlank cs
  rw [Option.mem_def.1 h] at hnot
  exact hnot

theorem trimmed_trim (cs : List Char) : Trimmed (trim cs) := by
  -- the text without its leading blanks, and that text reversed without its trailing ones
  set front := cs.dropWhile isBlank
  set back := front.reverse.dropWhile isBlank
  have htrim : trim cs = back.reverse := rfl
  refine ⟨fun c hc => ?_, fun c hc => ?_⟩
  · -- the first character is the last one kept from the back, so the first of the front
    rw [htrim, List.head?_reverse] at hc
    have hlast : front.reverse.getLast? = some c := by
      rw [← List.takeWhile_append_dropWhile (p := isBlank) (l := front.reverse),
        List.getLast?_append, Option.mem_def.1 hc, Option.some_or]
    rw [List.getLast?_reverse] at hlast
    exact head?_dropWhile_blank hlast
  · rw [htrim, List.getLast?_reverse] at hc
    exact head?_dropWhile_blank hc

theorem dropWhile_blank_eq_self {cs : List Char} (h : ∀ c ∈ cs.head?, isBlank c = false) :
    cs.dropWhile isBlank = cs := by
  cases cs with
  | nil => rfl
  | cons c rest =>
    have hc : isBlank c = false := h c rfl
    rw [List.dropWhile_cons_of_neg (by simp [hc])]

theorem trim_eq_self {cs : List Char} (h : Trimmed cs) : trim cs = cs := by
  have hback : ∀ c ∈ cs.reverse.head?, isBlank c = false := by
    rw [List.head?_reverse]
    exact h.last
  rw [trim, dropWhile_blank_eq_self h.first, dropWhile_blank_eq_self hback, List.reverse_reverse]

theorem mem_lower {c : Char} {cs : List Char} : c ∈ lower cs ↔ ∃ d ∈ cs, c ∈ lowerChar d :=
  List.mem_flatMap

theorem lower_eq_self {cs : List Char} (h : ∀ c ∈ cs, lowerChar c = [c]) : lower cs = cs := by
  induction cs with
  | nil => rfl
  | cons c rest ih =>
    rw [lower, List.flatMap_cons, h c List.mem_cons_self, ← lower,
      ih fun d hd => h d (List.mem_cons_of_mem c hd)]
    rfl

theorem isKept_respell (c : Char) : isKept (respell c) = true := by
  unfold respell
  split
  · decide
  · split
    · decide
    · split
      · assumption
      · decide

theorem respell_of_isKept {c : Char} (h : isKept c = true) : respell c = c := by
  -- `ё` and the long dashes are not kept
  have hyo : c ≠ 'ё' := by rintro rfl; exact absurd h (by decide)
  have hem : c ≠ '—' := by rintro rfl; exact absurd h (by decide)
  have hen : c ≠ '–' := by rintro rfl; exact absurd h (by decide)
  simp [respell, hyo, hem, hen, h]

theorem lowerChar_respell {c d : Char} (h : c ∈ lowerChar d) :
    lowerChar (respell c) = [respell c] := by
  unfold respell
  split
  · decide
  · split
    · decide
    · split
      · exact lowerChar_stable h ‹_›
      · decide

/-- Kept lowercase characters, single spaces, and no blank at either end. -/
structure NormalForm (cs : List Char) : Prop where
  kept : ∀ c ∈ cs, isKept c = true
  lowercase : ∀ c ∈ cs, lowerChar c = [c]
  spaced : Spaced cs
  trimmed : Trimmed cs

theorem normalForm_normalize (s : String) : NormalForm (normalize s).toList := by
  rw [normalize, String.toList_ofList]
  -- the respelled lowercase: every character kept and its own lowercase
  set respelled := (lower (trim s.toList)).map respell
  have hrespelled : ∀ c ∈ respelled, isKept c = true ∧ lowerChar c = [c] := by
    intro c hc
    obtain ⟨e, he, rfl⟩ := List.mem_map.1 hc
    obtain ⟨d, -, hd⟩ := mem_lower.1 he
    exact ⟨isKept_respell e, lowerChar_respell hd⟩
  -- collapsing adds only spaces, and trimming keeps a piece of the text
  have hcollapsed : ∀ c ∈ trim (collapseBlanks respelled), isKept c = true ∧ lowerChar c = [c] := by
    intro c hc
    rcases mem_collapseBlanks ((trim_within _).subset hc) with hc | rfl
    · exact hrespelled c hc
    · decide
  exact ⟨fun c hc => (hcollapsed c hc).1, fun c hc => (hcollapsed c hc).2,
    (spaced_collapseBlanks _).within (trim_within _), trimmed_trim _⟩

theorem normalize_eq_self {s : String} (h : NormalForm s.toList) : normalize s = s := by
  have hrespell : s.toList.map respell = s.toList :=
    (List.map_congr_left fun c hc => respell_of_isKept (h.kept c hc)).trans (List.map_id' _)
  rw [normalize, trim_eq_self h.trimmed, lower_eq_self h.lowercase, hrespell,
    collapseBlanks_eq_self h.spaced, trim_eq_self h.trimmed, String.ofList_toList]

def replacedChars : List Char := ['ё', '–', '—', Char.ofNat 34, Char.ofNat 39, Char.ofNat 96]

theorem normalize_stable (s : String) :
    normalize (normalize s) = normalize s ∧ NormalForm (normalize s).toList ∧
      ∀ c ∈ (normalize s).toList, c ∉ replacedChars := by
  have hnormal := normalForm_normalize s
  refine ⟨normalize_eq_self hnormal, hnormal, fun c hc hrep => ?_⟩
  -- checked as one boolean over the characters, as deciding a statement over characters would
  -- range over all of them
  have hnot : (replacedChars.all fun d => !isKept d) = true := by decide
  have hkept := hnormal.kept c hc
  have hdrop := List.all_eq_true.1 hnot c hrep
  rw [hkept] at hdrop
  cases hdrop

end VideoStats.Text
