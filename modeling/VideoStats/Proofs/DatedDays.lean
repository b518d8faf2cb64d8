import VideoStats.Proofs.DayRange
import VideoStats.Proofs.Scanning

set_option autoImplicit false

namespace VideoStats.DateText

open Text

def FollowsDayNumber (pre : List Char) : Prop :=
  pre.getLast?.any isBlank = true ∧ pre.dropLast.getLast?.any isDecimal = true

instance : DecidablePred FollowsDayNumber := fun _ => inferInstanceAs (Decidable (_ ∧ _))

/-- Every genitive month name stands right after a day's number and one blank. -/
def DatedGenitives (cs : List Char) : Prop :=
  ∀ k ∈ List.range (cs.length + 1), ∀ name ∈ genitiveMonths, name.toList <+: cs.drop k →
    FollowsDayNumber (cs.take k)

instance (cs : List Char) : Decidable (DatedGenitives cs) :=
  inferInstanceAs (Decidable (∀ k ∈ _, _))

theorem firstAt_at {α : Type} {f : Option Char → Option Char → List Char → Option α}
    {cs : List Char} {a : α} {s : Nat} (hs : s ≤ cs.length)
    (h : firstAt f (cs.take s).getLast? (cs.take s).dropLast.getLast? (cs.drop s) = some a) :
    ∃ k, k ≤ cs.length ∧ f (cs.take k).getLast? (cs.take k).dropLast.getLast? (cs.drop k) = some a := by
  generalize hr : cs.drop s = rest at h
  induction rest generalizing s with
  | nil => exact ⟨s, hs, by rw [hr]; exact h⟩
  | cons c rest ih =>
    simp only [firstAt] at h
    split at h
    · -- the reading succeeds right here
      rename_i a' ha
      cases h
      exact ⟨s, hs, by rw [hr]; exact ha⟩
    · -- the search goes on from the next place, one character further
      obtain ⟨hlt, htake, hdrop⟩ := take_drop_succ hr
      have hbefore : (cs.take (s + 1)).getLast? = some c := by
        rw [htake]
        exact List.getLast?_concat
      have hbefore₂ : (cs.take (s + 1)).dropLast.getLast? = (cs.take s).getLast? := by
        rw [htake, List.dropLast_concat]
      rw [← hbefore, ← hbefore₂] at h
      exact ih (by omega) hdrop h

theorem firstAt_none_none {α : Type} {f : Option Char → Option Char → List Char → Option α}
    {cs : List Char} {a : α} (h : firstAt f none none cs = some a) :
    ∃ k, k ≤ cs.length ∧ f (cs.take k).getLast? (cs.take k).dropLast.getLast? (cs.drop k) = some a :=
  firstAt_at (Nat.zero_le _) (by simpa using h)

theorem monthName_reads_name {names : List String} {cs rest : List Char} {m : Nat}
    (h : monthName names cs = some (m, rest)) : ∃ name ∈ names, name.toList <+: cs := by
  simp only [monthName, Option.map_eq_some_iff] at h
  obtain ⟨⟨n, i⟩, hfind, -⟩ := h
  refine ⟨n, (List.of_mem_zip (List.mem_of_find?_eq_some hfind)).1, ?_⟩
  have hstarts := List.find?_some hfind
  exact List.isPrefixOf_iff_prefix.1 hstarts

theorem monthYearAt_reads_name {names : List String} {before : Option Char} {cs : List Char}
    {p : PhraseDate} (h : monthYearAt names before cs = some p) :
    ∃ name ∈ names, name.toList <+: cs := by
  unfold monthYearAt at h
  split at h
  · cases h
  · rcases hname : monthName names cs with _ | ⟨m, rest⟩
    · simp [hname] at h
    · exact monthName_reads_name hname

theorem inMonthAt_reads_name {before : Option Char} {cs : List Char} {p : PhraseDate}
    (h : inMonthAt before cs = some p) : ∃ name ∈ prepositionalMonths, name.toList <:+: cs := by
  unfold inMonthAt at h
  split at h
  · cases h
  · simp only [Option.bind_eq_bind, Option.bind_eq_some_iff] at h
    obtain ⟨cs₁, hword, cs₂, hblanks, hmonth⟩ := h
    obtain ⟨name, hname, hpre⟩ := monthYearAt_reads_name hmonth
    -- the month name stands after в and blanks, inside the text
    have hsuffix₁ : cs₁ <:+ cs := by
      simp only [literal] at hword
      split at hword
      · cases hword
        exact List.drop_suffix _ _
      · cases hword
    have hsuffix₂ : cs₂ <:+ cs₁ := by
      simp only [blanks1] at hblanks
      split at hblanks
      · split at hblanks
        · cases hblanks
          exact List.dropWhile_suffix _
        · cases hblanks
      · cases hblanks
    exact ⟨name, hname, hpre.isInfix.trans (hsuffix₂.trans hsuffix₁).isInfix⟩

theorem any_eq_map_getD {α : Type} (o : Option α) (f : α → Bool) :
    (o.map f).getD false = o.any f := by
  cases o <;> rfl

theorem genitiveMonthAt_reads_name {cs : List Char} {k : Nat} {p : PhraseDate}
    (h : genitiveMonthAt (cs.take k).getLast? (cs.take k).dropLast.getLast? (cs.drop k) = some p) :
    ¬ FollowsDayNumber (cs.take k) ∧ ∃ name ∈ genitiveMonths, name.toList <+: cs.drop k := by
  unfold genitiveMonthAt at h
  dsimp only at h
  split at h
  · cases h
  · rename_i hafter
    refine ⟨fun hfollows => hafter ?_, monthYearAt_reads_name h⟩
    rw [any_eq_map_getD, any_eq_map_getD, hfollows.1, hfollows.2]
    rfl

theorem genitiveSearch_skips_dated {cs : List Char} (h : DatedGenitives cs) :
    firstAt genitiveMonthAt none none cs = none := by
  cases hs : firstAt genitiveMonthAt none none cs with
  | none => rfl
  | some p =>
    obtain ⟨k, hk, hat⟩ := firstAt_none_none hs
    obtain ⟨hnot, name, hname, hpre⟩ := genitiveMonthAt_reads_name hat
    exact absurd (h k (List.mem_range.2 (by omega)) name hname hpre) hnot

theorem datedDay_never_widened {cs : List Char} (h : DatedGenitives cs) :
    firstAt genitiveMonthAt none none cs = none ∧
      ∀ y m, phraseDate? cs = some (.month y m) →
        ∃ name ∈ prepositionalMonths ++ nominativeMonths, name.toList <:+: cs := by
  have hgen := genitiveSearch_skips_dated h
  refine ⟨hgen, fun y m hphrase => ?_⟩
  unfold phraseDate? at hphrase
  rcases orElse_eq_some hphrase with hphrase | hphrase
  · obtain ⟨_, _, _, hf⟩ := firstAt_eq_some hphrase
    exact absurd hf sameMonthRangeAt_ne_month
  rcases orElse_eq_some hphrase with hphrase | hphrase
  · obtain ⟨_, _, _, hf⟩ := firstAt_eq_some hphrase
    exact absurd hf crossMonthRangeAt_ne_month
  rcases orElse_eq_some hphrase with hphrase | hphrase
  · -- в and a prepositional name
    obtain ⟨k, -, hf⟩ := firstAt_none_none hphrase
    obtain ⟨name, hname, hinside⟩ := inMonthAt_reads_name hf
    exact ⟨name, List.mem_append_left _ hname, hinside.trans (List.drop_suffix k cs).isInfix⟩
  rcases orElse_eq_some hphrase with hphrase | hphrase
  · -- a nominative name
    obtain ⟨k, -, hf⟩ := firstAt_none_none hphrase
    obtain ⟨name, hname, hpre⟩ := monthYearAt_reads_name hf
    exact ⟨name, List.mem_append_right _ hname, hpre.isInfix.trans (List.drop_suffix k cs).isInfix⟩
  · have hfound : firstAt genitiveMonthAt none none cs = some (.month y m) := hphrase
    rw [hgen] at hfound
    cases hfound

theorem novemberDay_not_widened :
    DatedGenitives "28 ноября 2025".toList ∧
      firstAt genitiveMonthAt none none "28 ноября 2025".toList = none ∧
      ∀ y m, phraseDate? "28 ноября 2025".toList = some (.month y m) →
        ∃ name ∈ prepositionalMonths ++ nominativeMonths, name.toList <:+: "28 ноября 2025".toList :=
  have h : DatedGenitives "28 ноября 2025".toList := by decide +kernel
  ⟨h, datedDay_never_widened h⟩

-- with two blanks before the month the day is no longer seen, and the month is read whole
example : phraseDate? "28  ноября 2025".toList = some (.month 2025 11) := by decide

end VideoStats.DateText
