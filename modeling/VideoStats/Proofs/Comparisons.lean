import VideoStats.Proofs.Scanning
import VideoStats.Proofs.Reading
import VideoStats.Proofs.DayRange

set_option autoImplicit false

namespace VideoStats

namespace Vocabulary

open Text

theorem phraseBefore_total (a b : String) : (phraseBefore a b || phraseBefore b a) = true := by
  simp only [phraseBefore, Bool.or_eq_true, decide_eq_true_eq, Bool.and_eq_true, beq_iff_eq]
  rcases Nat.lt_trichotomy a.length b.length with h | h | h
  · exact .inr (.inl h)
  · rcases String.le_total a b with hab | hba
    · exact .inl (.inr ⟨h, hab⟩)
    · exact .inr (.inr ⟨h.symm, hba⟩)
  · exact .inl (.inl h)

theorem phraseBefore_trans {a b c : String} (hab : phraseBefore a b = true)
    (hbc : phraseBefore b c = true) : phraseBefore a c = true := by
  simp only [phraseBefore, Bool.or_eq_true, decide_eq_true_eq, Bool.and_eq_true,
    beq_iff_eq] at hab hbc ⊢
  rcases hab with hab | ⟨hl, hab⟩ <;> rcases hbc with hbc | ⟨hl', hbc⟩
  · exact .inl (Nat.lt_trans hbc hab)
  · exact .inl (by omega)
  · exact .inl (by omega)
  · exact .inr ⟨hl.trans hl', String.le_trans hab hbc⟩

theorem mergeSort_phraseBefore_eq {α : Type} {xs ys : List (String × α)}
    (hsame : ∀ a ∈ xs, ∀ b ∈ ys, phraseBefore a.1 b.1 = true → phraseBefore b.1 a.1 = true →
      a = b)
    (hsorted : ys.Pairwise fun a b => phraseBefore a.1 b.1 = true) (hperm : xs.Perm ys) :
    xs.mergeSort (fun a b => phraseBefore a.1 b.1) = ys := by
  have hsortedMerge := List.pairwise_mergeSort
    (fun (a b c : String × α) => @phraseBefore_trans a.1 b.1 c.1)
    (fun a b => phraseBefore_total a.1 b.1) xs
  have hpermMerge := (List.mergeSort_perm xs fun a b => phraseBefore a.1 b.1).trans hperm
  exact List.Perm.eq_of_pairwise (fun a b ha hb => hsame a (List.mem_mergeSort.1 ha) b hb)
    hsortedMerge hsorted hpermMerge

def comparatorOrder : List (String × Comparator) :=
  [("по меньшей мере", .ge), ("не превышает", .le), ("как минимум", .ge), ("больше чем", .gt),
   ("меньше чем", .lt), ("более чем", .gt), ("менее чем", .lt), ("не больше", .le),
   ("не меньше", .ge), ("равняется", .eq), ("максимум", .le), ("не более", .le),
   ("не менее", .ge), ("больше", .gt), ("меньше", .lt), ("равно", .eq), ("ровно", .eq),
   ("свыше", .gt)]

theorem comparatorPhrases_eq : comparatorPhrases = comparatorOrder :=
  mergeSort_phraseBefore_eq (by decide +kernel) (by decide +kernel) (by decide +kernel)

end Vocabulary

namespace Question

open Text Vocabulary

def metricOrder : List (String × Metric) :=
  [("комментариев", .comments), ("пожаловаться", .reports), ("комментарии", .comments),
   ("комментарий", .comments), ("просмотров", .views), ("просмотры", .views),
   ("комменты", .comments), ("нравится", .likes), ("просмотр", .views), ("сердечки", .likes),
   ("коммент", .comments), ("репорты", .reports), ("жалоба", .reports), ("жалобы", .reports),
   ("лайков", .likes), ("репорт", .reports), ("views", .views), ("жалоб", .reports),
   ("лайки", .likes), ("лайк", .likes)]

theorem metricWords_eq : metricWords = metricOrder :=
  mergeSort_phraseBefore_eq (by decide +kernel) (by decide +kernel) (by decide +kernel)

theorem comparatorPhrases_nonempty : ∀ w ∈ comparatorPhrases, w.1 ≠ "" := by
  intro w hw
  rw [comparatorPhrases, List.mem_mergeSort] at hw
  revert w
  decide +kernel

theorem metricWords_nonempty : ∀ w ∈ metricWords, w.1 ≠ "" := by
  intro w hw
  rw [metricWords, List.mem_mergeSort] at hw
  revert w
  decide +kernel

theorem metricWords_last : ∀ w ∈ metricWords, ∀ x ∈ w.1.toList.getLast?,
    x ≠ 'н' ∧ x ≠ 'е' ∧ x ≠ ' ' := by
  -- checked as one boolean over the counter words as written
  have hall : (metricTerms.all fun w => w.1.toList.getLast?.all fun x =>
      x != 'н' && x != 'е' && x != ' ') = true := by
    decide +kernel
  intro w hw x hx
  rw [metricWords, List.mem_mergeSort] at hw
  have hlast := List.all_eq_true.1 hall w hw
  rw [Option.mem_def.1 hx] at hlast
  simpa [and_assoc] using hlast

def numberAndCounter : Text.Pattern (List Char × Metric) := do
  Pattern.blanks1
  let n ← groupedNumber
  Pattern.blanks1
  let m ← Pattern.oneOf metricWords
  Pattern.boundary
  pure (n, m)

theorem comparisonFirst_eq : comparisonFirst =
    Pattern.andThen Pattern.boundary fun _ =>
      Pattern.andThen (Pattern.oneOf comparatorPhrases) fun op =>
        Pattern.andThen numberAndCounter fun nm => Pattern.unit ⟨nm.2, op, nm.1⟩ := by
  simp only [comparisonFirst, numberAndCounter, Pattern.bind_eq, Pattern.pure_eq,
    Pattern.andThen_assoc, Pattern.unit_andThen]

theorem mem_comparisonFirst {w : ThresholdWords} {c₀ c : Cursor} :
    (w, c) ∈ comparisonFirst c₀ ↔ isBoundary c₀.before c₀.rest.head? = true ∧
      ∃ phrase, (phrase, w.op) ∈ comparatorPhrases ∧ phrase.toList <+: c₀.rest ∧
        ((w.number, w.metric), c) ∈ numberAndCounter (c₀.advance phrase.length) := by
  obtain ⟨m, op, n⟩ := w
  simp only [comparisonFirst_eq, Pattern.mem_andThen, Pattern.mem_boundary, Pattern.mem_oneOf,
    Pattern.mem_unit, ThresholdWords.mk.injEq]
  constructor
  · rintro ⟨_, _, ⟨hb, rfl⟩, _, _, ⟨phrase, hphrase, hpre, rfl⟩, ⟨n', m'⟩, _, hrest,
      ⟨rfl, rfl, rfl⟩, rfl⟩
    exact ⟨hb, phrase, hphrase, hpre, hrest⟩
  · rintro ⟨hb, phrase, hphrase, hpre, hrest⟩
    exact ⟨(), c₀, ⟨hb, rfl⟩, op, _, ⟨phrase, hphrase, hpre, rfl⟩, (n, m), c, hrest,
      ⟨rfl, rfl, rfl⟩, rfl⟩

theorem groupedNumber_forward : groupedNumber.Forward := by
  simp only [groupedNumber, Pattern.bind_eq, Pattern.pure_eq]
  exact Pattern.andThen_forward (Pattern.run_forward _ _ _) fun _ =>
    Pattern.andThen_forward (Pattern.run_forward _ _ _) fun _ => Pattern.unit_forward _

theorem numberAndCounter_forward : numberAndCounter.Forward := by
  simp only [numberAndCounter, Pattern.bind_eq, Pattern.pure_eq]
  exact Pattern.andThen_forward Pattern.blanks1_forward fun _ =>
    Pattern.andThen_forward groupedNumber_forward fun _ =>
    Pattern.andThen_forward Pattern.blanks1_forward fun _ =>
    Pattern.andThen_forward (Pattern.oneOf_forward _) fun _ =>
    Pattern.andThen_forward Pattern.boundary_forward fun _ => Pattern.unit_forward _

theorem comparisonFirst_consumes : comparisonFirst.Consumes := by
  rw [comparisonFirst_eq]
  exact Pattern.andThen_consumes_right Pattern.boundary_forward fun _ =>
    Pattern.andThen_consumes_left (Pattern.oneOf_consumes comparatorPhrases_nonempty) fun _ =>
    Pattern.andThen_forward numberAndCounter_forward fun _ => Pattern.unit_forward _

theorem counterFirst_consumes : counterFirst.Consumes := by
  simp only [counterFirst, Pattern.bind_eq, Pattern.pure_eq]
  exact Pattern.andThen_consumes_right Pattern.boundary_forward fun _ =>
    Pattern.andThen_consumes_left (Pattern.oneOf_consumes metricWords_nonempty) fun _ =>
    Pattern.andThen_forward Pattern.blanks1_forward fun _ =>
    Pattern.andThen_forward (Pattern.oneOf_forward _) fun _ =>
    Pattern.andThen_forward Pattern.blanks1_forward fun _ =>
    Pattern.andThen_forward groupedNumber_forward fun _ =>
    Pattern.andThen_forward Pattern.boundary_forward fun _ => Pattern.unit_forward _

theorem toList_ne_nil_of_mem {α : Type} {ws : List (String × α)} (hws : ∀ w ∈ ws, w.1 ≠ "")
    {w : String} {a : α} (h : (w, a) ∈ ws) : w.toList ≠ [] := by
  rw [ne_eq, String.toList_eq_nil_iff]
  exact hws _ h

theorem numberAndCounter_end {n : List Char} {m : Metric} {c₀ c : Cursor}
    (h : ((n, m), c) ∈ numberAndCounter c₀) : ∃ w ∈ metricWords, c.before = w.1.toList.getLast? := by
  simp only [numberAndCounter, Pattern.bind_eq, Pattern.pure_eq, Pattern.mem_andThen,
    Pattern.mem_oneOf, Pattern.mem_boundary, Pattern.mem_unit] at h
  obtain ⟨_, _, -, _, _, -, _, c₃, -, m', _, ⟨word, hword, hpre, rfl⟩, _, _, ⟨-, rfl⟩, -, rfl⟩ := h
  refine ⟨(word, m'), hword, ?_⟩
  rw [← @String.length_toList word]
  exact Cursor.advance_before hpre (toList_ne_nil_of_mem metricWords_nonempty hword)

theorem counterFirst_phrase {w : ThresholdWords} {c₀ c : Cursor} (h : (w, c) ∈ counterFirst c₀) :
    ∃ word blanks phrase, (word, w.metric) ∈ metricWords ∧ (phrase, w.op) ∈ comparatorPhrases ∧
      blanks ≠ [] ∧ (∀ x ∈ blanks, isBlank x = true) ∧
      word.toList ++ blanks ++ phrase.toList <+: c₀.rest := by
  simp only [counterFirst, Pattern.blanks1, Pattern.bind_eq, Pattern.pure_eq, Pattern.mem_andThen,
    Pattern.mem_oneOf, Pattern.mem_boundary, Pattern.mem_unit] at h
  obtain ⟨_, c₁, ⟨-, hc₁⟩, m, _, ⟨word, hword, hwpre, rfl⟩, _, _, ⟨r, _, hrun, -, rfl⟩, op, _,
    ⟨phrase, hphrase, hppre, rfl⟩, _, _, -, n, _, -, _, _, -, rfl, -⟩ := h
  subst c₁
  obtain ⟨hlen, hrpre, hblank, rfl⟩ := Pattern.mem_run hrun
  -- the counter word, the blanks and the phrase follow one another in the text
  have hread : word.toList ++ r <+: c₀.rest :=
    Cursor.prefix_advance hwpre (by rwa [String.length_toList])
  refine ⟨word, r, phrase, hword, hphrase, List.ne_nil_of_length_pos hlen, hblank,
    Cursor.prefix_advance hread ?_⟩
  simpa [Cursor.advance_rest, List.drop_drop, Nat.add_comm, String.length_toList] using hppre

/-- The text so far ends with the word `не` and one blank. -/
def AfterNegation (pre : List Char) : Prop :=
  ∃ pre', pre = pre' ++ ['н', 'е', ' '] ∧ isBoundary pre'.getLast? (some 'н') = true

theorem comparisonFirst_end {w : ThresholdWords} {c₀ c : Cursor} (h : (w, c) ∈ comparisonFirst c₀) :
    ∃ word ∈ metricWords, c.before = word.1.toList.getLast? := by
  obtain ⟨-, _, -, -, hrest⟩ := mem_comparisonFirst.1 h
  exact numberAndCounter_end hrest

theorem comparisonFirst_at_negation {pre rest : List Char} {phrase : String} {op : Comparator}
    {n : List Char} {m : Metric} {c : Cursor}
    (hbound : isBoundary pre.getLast? (some 'н') = true)
    (hneg : ("не " ++ phrase, op) ∈ comparatorPhrases) (hpre : phrase.toList <+: rest)
    (hrest : ((n, m), c) ∈ numberAndCounter
      ((Cursor.at (pre ++ ['н', 'е', ' '] ++ rest) (pre.length + 3)).advance phrase.length)) :
    (⟨m, op, n⟩, c) ∈ comparisonFirst (Cursor.at (pre ++ ['н', 'е', ' '] ++ rest) pre.length) := by
  have hat : Cursor.at (pre ++ ['н', 'е', ' '] ++ rest) pre.length =
      ⟨pre.getLast?, 'н' :: 'е' :: ' ' :: rest⟩ := by
    simp [Cursor.at]
  have hlen : ("не " ++ phrase).length = 3 + phrase.length := by
    rw [String.length_append]
    rfl
  refine mem_comparisonFirst.2 ⟨by rw [hat]; exact hbound, "не " ++ phrase, hneg, ?_, ?_⟩
  · rw [hat, String.toList_append]
    simpa using hpre
  · rwa [hlen, Cursor.advance_at, ← Nat.add_assoc, ← Cursor.advance_at]

theorem not_afterNegation_of_blanks {word blanks : List Char}
    (hword : ∀ x ∈ word.getLast?, x ≠ 'е') (hne : blanks ≠ [])
    (hblank : ∀ x ∈ blanks, isBlank x = true) : ¬ AfterNegation (word ++ blanks) := by
  rintro ⟨pre, h, -⟩
  obtain ⟨front, b, rfl⟩ := List.eq_nil_or_concat blanks |>.resolve_left hne
  rw [List.concat_eq_append] at h hblank
  rw [← List.append_assoc, show pre ++ ['н', 'е', ' '] = (pre ++ ['н', 'е']) ++ [' '] by simp] at h
  obtain ⟨hfront, -⟩ := List.append_inj' h rfl
  rcases List.eq_nil_or_concat front with rfl | ⟨front, x, rfl⟩
  · -- one blank: the word itself ends in е
    simp only [List.append_nil] at hfront
    exact hword 'е' (by rw [hfront]; simp) rfl
  · -- two or more: the blank before the last is е
    rw [List.concat_eq_append] at hfront hblank
    rw [← List.append_assoc, show pre ++ ['н', 'е'] = (pre ++ ['н']) ++ ['е'] by simp] at hfront
    obtain ⟨-, hx⟩ := List.append_inj' hfront rfl
    simp only [List.cons.injEq, and_true] at hx
    have := hblank x (by simp)
    rw [hx] at this
    exact absurd this (by decide)

theorem scanStart_not_in_negation {pre rest : List Char} {s : Nat}
    (hstart : comparisonFirst.ScanStart (pre ++ ['н', 'е', ' '] ++ rest) s)
    (hlo : pre.length < s) (hhi : s ≤ pre.length + 3) : False := by
  rcases hstart with rfl | ⟨i, a, -, hend⟩
  · exact absurd hlo (Nat.not_lt_zero _)
  · obtain ⟨word, hword, hbefore⟩ := comparisonFirst_end hend
    have hlast := metricWords_last word hword
    rw [Cursor.at_before] at hbefore
    rcases (by omega : s = pre.length + 1 ∨ s = pre.length + 2 ∨ s = pre.length + 3) with
      rfl | rfl | rfl <;> simp [List.take_append] at hbefore
    · exact (hlast _ hbefore.symm).1 rfl
    · exact (hlast _ hbefore.symm).2.1 rfl
    · exact (hlast _ hbefore.symm).2.2 rfl

theorem comparisonFirst_found_phrase {cs : List Char} {w : ThresholdWords}
    (h : w ∈ Pattern.findAll comparisonFirst cs) :
    ∃ j phrase, (phrase, w.op) ∈ comparatorPhrases ∧ phrase.toList <+: cs.drop j ∧
      (AfterNegation (cs.take j) → ∀ op, ("не " ++ phrase, op) ∉ comparatorPhrases) := by
  obtain ⟨s, j, c, hstart, hfound⟩ := Pattern.mem_findAll comparisonFirst_consumes h
  obtain ⟨-, phrase, hphrase, hpre, hrest⟩ := mem_comparisonFirst.1 hfound.mem
  refine ⟨j, phrase, hphrase, hpre, ?_⟩
  rintro ⟨pre, htake, hbound⟩ op hneg
  -- the text is what stands before не, then не and a blank, then the phrase
  have hj : j = pre.length + 3 := by
    have hlen := congrArg List.length htake
    simp only [List.length_take, List.length_append, List.length_cons, List.length_nil] at hlen
    have := hfound.le_length
    omega
  obtain ⟨rest, rfl⟩ : ∃ rest, cs = pre ++ ['н', 'е', ' '] ++ rest :=
    ⟨cs.drop j, by rw [← htake, List.take_append_drop]⟩
  subst hj
  have hdrop : (pre ++ ['н', 'е', ' '] ++ rest).drop (pre.length + 3) = rest :=
    List.drop_left' (by simp)
  rw [Cursor.at_rest, hdrop] at hpre
  -- read with the negated phrase, the same threshold matches at не, before the one found
  have hearlier := comparisonFirst_at_negation hbound hneg hpre hrest
  have hs : pre.length < s := by
    rcases Nat.lt_or_ge pre.length s with hlt | hge
    · exact hlt
    · rw [hfound.none_before pre.length hge (by omega)] at hearlier
      exact absurd hearlier List.not_mem_nil
  -- so the search started inside не and its blank
  exact scanStart_not_in_negation hstart hs hfound.start_le

theorem counterFirst_found_phrase {cs : List Char} {w : ThresholdWords}
    (h : w ∈ Pattern.findAll counterFirst cs) :
    ∃ j phrase, (phrase, w.op) ∈ comparatorPhrases ∧ phrase.toList <+: cs.drop j ∧
      ¬ AfterNegation (cs.take j) := by
  obtain ⟨_, i, c, -, hfound⟩ := Pattern.mem_findAll counterFirst_consumes h
  obtain ⟨word, blanks, phrase, hword, hphrase, hne, hblank, hread⟩ := counterFirst_phrase hfound.mem
  obtain ⟨rest, hrest⟩ := hread
  rw [Cursor.at_rest] at hrest
  -- the text is what stands before the counter word, the word, the blanks, then the phrase
  have hcs : cs = (cs.take i ++ word.toList ++ blanks) ++ (phrase.toList ++ rest) := by
    conv => lhs; rw [← List.take_append_drop i cs, ← hrest]
    simp only [List.append_assoc]
  have hlen : (cs.take i ++ word.toList ++ blanks).length = i + word.length + blanks.length := by
    simp [List.length_take, Nat.min_eq_left hfound.le_length, String.length_toList, Nat.add_assoc]
  refine ⟨i + word.length + blanks.length, phrase, hphrase, ?_, ?_⟩
  · rw [hcs, List.drop_left' hlen]
    exact List.prefix_append _ _
  · rw [hcs, List.take_left' hlen]
    refine not_afterNegation_of_blanks (fun x hx => ?_) hne hblank
    -- the counter word, not empty, ends the text before the blanks
    have hw : word.toList ≠ [] := toList_ne_nil_of_mem metricWords_nonempty hword
    obtain ⟨y, hy⟩ := Option.isSome_iff_exists.1 (List.getLast?_isSome.2 hw)
    rw [List.getLast?_append, hy, Option.some_or, Option.mem_some_iff] at hx
    subst hx
    exact (metricWords_last _ hword _ hy).2.1

theorem mem_of_mapM_ok {α β ε : Type} {f : α → Except ε β} {xs : List α} {ys : List β}
    (h : xs.mapM f = .ok ys) {y : β} (hy : y ∈ ys) : ∃ x ∈ xs, f x = .ok y := by
  induction xs generalizing ys with
  | nil =>
    cases h
    simp at hy
  | cons a rest ih =>
    simp only [List.mapM_cons] at h
    obtain ⟨b, hb, htail⟩ := Except.bind_eq_ok.1 h
    obtain ⟨bs, hbs, hys⟩ := Except.bind_eq_ok.1 htail
    cases hys
    rcases List.mem_cons.1 hy with rfl | hy
    · exact ⟨a, List.mem_cons_self, hb⟩
    · obtain ⟨x, hx, hfx⟩ := ih hbs hy
      exact ⟨x, List.mem_cons_of_mem a hx, hfx⟩

theorem mem_mapM_ok {α β ε : Type} {f : α → Except ε β} {xs : List α} {ys : List β}
    (h : xs.mapM f = .ok ys) {x : α} (hx : x ∈ xs) : ∃ y ∈ ys, f x = .ok y := by
  induction xs generalizing ys with
  | nil => cases hx
  | cons a rest ih =>
    simp only [List.mapM_cons] at h
    obtain ⟨b, hb, htail⟩ := Except.bind_eq_ok.1 h
    obtain ⟨bs, hbs, hys⟩ := Except.bind_eq_ok.1 htail
    cases hys
    rcases List.mem_cons.1 hx with rfl | hx
    · exact ⟨b, List.mem_cons_self, hb⟩
    · obtain ⟨y, hy, hfy⟩ := ih hbs hx
      exact ⟨y, List.mem_cons_of_mem b hy, hfy⟩

theorem mem_thresholds {basis : Basis} {t : String} {ts : List Threshold} {th : Threshold}
    (h : thresholds basis t = .ok ts) (hth : th ∈ ts) :
    ∃ w ∈ thresholdWords t, th = ⟨basis, w.metric, w.op, w.value⟩ := by
  unfold thresholds at h
  obtain ⟨found, hfound, hts⟩ := Except.bind_eq_ok.1 h
  cases hts
  obtain ⟨w, hw, hcheck⟩ := mem_of_mapM_ok hfound (mem_of_mem_dedupe hth)
  exact ⟨w, hw, Threshold.check_eq_ok hcheck⟩

theorem mem_comparatorPhrases {p : String × Comparator} :
    p ∈ comparatorPhrases ↔ p ∈ comparatorTerms :=
  List.mem_mergeSort

theorem threshold_phrase_not_negated_tail {basis : Basis} {t : String} {ts : List Threshold}
    (h : thresholds basis t = .ok ts) {th : Threshold} (hth : th ∈ ts) :
    ∃ pre phrase rest, t.toList = pre ++ phrase.toList ++ rest ∧
      (phrase, th.op) ∈ comparatorTerms ∧
      (AfterNegation pre → ∀ op, ("не " ++ phrase, op) ∉ comparatorTerms) := by
  obtain ⟨w, hw, rfl⟩ := mem_thresholds h hth
  -- a phrase found at a place splits the text around it
  have split : ∀ j (phrase : String), phrase.toList <+: t.toList.drop j →
      ∃ rest, t.toList = t.toList.take j ++ phrase.toList ++ rest := by
    rintro j phrase ⟨rest, hrest⟩
    exact ⟨rest, by rw [List.append_assoc, hrest, List.take_append_drop]⟩
  rcases List.mem_append.1 hw with hw | hw
  · obtain ⟨j, phrase, hphrase, hpre, hneg⟩ := comparisonFirst_found_phrase hw
    obtain ⟨rest, hrest⟩ := split j phrase hpre
    exact ⟨_, phrase, rest, hrest, mem_comparatorPhrases.1 hphrase,
      fun hafter op hop => hneg hafter op (mem_comparatorPhrases.2 hop)⟩
  · obtain ⟨j, phrase, hphrase, hpre, hnot⟩ := counterFirst_found_phrase hw
    obtain ⟨rest, hrest⟩ := split j phrase hpre
    exact ⟨_, phrase, rest, hrest, mem_comparatorPhrases.1 hphrase,
      fun hafter => absurd hafter hnot⟩

theorem atMostPhrase_read_whole :
    thresholds .finalTotal "не больше 5 просмотров" = .ok [⟨.finalTotal, .views, .le, 5⟩] ∧
      ∃ pre phrase rest, "не больше 5 просмотров".toList = pre ++ phrase.toList ++ rest ∧
        (phrase, Comparator.le) ∈ comparatorTerms ∧
        (AfterNegation pre → ∀ op, ("не " ++ phrase, op) ∉ comparatorTerms) := by
  have h : thresholds .finalTotal "не больше 5 просмотров" =
      .ok [⟨.finalTotal, .views, .le, 5⟩] := by
    apply DateText.eq_ok_of_toOption
    simp only [thresholds, thresholdWords, comparisonFirst, counterFirst, comparatorPhrases_eq,
      metricWords_eq]
    decide +kernel
  exact ⟨h, threshold_phrase_not_negated_tail h (List.mem_singleton_self _)⟩

-- a negation the vocabulary lacks is read as the comparison it negates
example : (thresholds .finalTotal "не больше чем 3 лайков").toOption =
    some [⟨.finalTotal, .likes, .gt, 3⟩] := by
  simp only [thresholds, thresholdWords, comparisonFirst, counterFirst, comparatorPhrases_eq,
    metricWords_eq]
  decide +kernel

end Question

end VideoStats
