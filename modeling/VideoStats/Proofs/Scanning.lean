import VideoStats.Text.Pattern

set_option autoImplicit false

namespace VideoStats.Text

def Cursor.at (cs : List Char) (n : Nat) : Cursor := ⟨(cs.take n).getLast?, cs.drop n⟩

@[simp] theorem Cursor.at_rest (cs : List Char) (n : Nat) : (Cursor.at cs n).rest = cs.drop n :=
  rfl

@[simp] theorem Cursor.at_before (cs : List Char) (n : Nat) :
    (Cursor.at cs n).before = (cs.take n).getLast? :=
  rfl

theorem Cursor.at_zero (cs : List Char) : Cursor.at cs 0 = ⟨none, cs⟩ := by
  simp [Cursor.at]

theorem take_drop_succ {α : Type} {cs xs : List α} {n : Nat} {x : α} (h : cs.drop n = x :: xs) :
    n < cs.length ∧ cs.take (n + 1) = cs.take n ++ [x] ∧ cs.drop (n + 1) = xs := by
  have hx : cs[n]? = some x := by
    rw [← List.head?_drop, h]
    rfl
  refine ⟨?_, by rw [List.take_add_one, hx, Option.toList_some],
    by rw [← List.drop_drop, h, List.drop_one, List.tail_cons]⟩
  have hlen := congrArg List.length h
  simp only [List.length_drop, List.length_cons] at hlen
  omega

theorem Cursor.at_succ {cs : List Char} {n : Nat} {x : Char} {xs : List Char}
    (h : cs.drop n = x :: xs) : Cursor.at cs (n + 1) = ⟨some x, xs⟩ := by
  obtain ⟨-, htake, hdrop⟩ := take_drop_succ h
  simp only [Cursor.at, htake, hdrop, List.getLast?_concat]

theorem Cursor.at_of_length_le {cs : List Char} {n : Nat} (h : cs.length ≤ n) :
    Cursor.at cs n = Cursor.at cs cs.length := by
  simp [Cursor.at, List.take_of_length_le h, List.drop_of_length_le h]

theorem Cursor.advance_at (cs : List Char) (i n : Nat) :
    (Cursor.at cs i).advance n = Cursor.at cs (i + n) := by
  induction n generalizing i with
  | zero => rfl
  | succ n ih =>
    cases h : cs.drop i with
    | nil =>
      -- past the end of the text every place is its end
      have hend : cs.length ≤ i := List.drop_eq_nil_iff.1 h
      have hat : Cursor.at cs i = ⟨(cs.take i).getLast?, []⟩ := by simp [Cursor.at, h]
      rw [hat, Cursor.advance, ← hat, Cursor.at_of_length_le hend,
        Cursor.at_of_length_le (by omega : cs.length ≤ i + (n + 1))]
    | cons x xs =>
      have hat : Cursor.at cs i = ⟨(cs.take i).getLast?, x :: xs⟩ := by simp [Cursor.at, h]
      rw [hat, Cursor.advance, ← Cursor.at_succ h, ih, Nat.add_right_comm, Nat.add_assoc]

theorem Cursor.advance_rest (c : Cursor) (n : Nat) : (c.advance n).rest = c.rest.drop n := by
  induction n generalizing c with
  | zero => rfl
  | succ n ih =>
    obtain ⟨b, rest⟩ := c
    cases rest with
    | nil => simp [Cursor.advance]
    | cons x xs => simp [Cursor.advance, ih]

theorem Cursor.advance_before {c : Cursor} {w : List Char} (hw : w <+: c.rest) (hne : w ≠ []) :
    (c.advance w.length).before = w.getLast? := by
  induction w generalizing c with
  | nil => exact absurd rfl hne
  | cons x xs ih =>
    obtain ⟨b, rest⟩ := c
    obtain ⟨r, rfl⟩ : ∃ r, rest = x :: r := by
      obtain ⟨t, ht⟩ := hw
      exact ⟨xs ++ t, ht.symm⟩
    have hxs : xs <+: r := (List.cons_prefix_cons.1 hw).2
    rw [List.length_cons, Cursor.advance]
    cases xs with
    | nil => rfl
    | cons y ys =>
      rw [ih hxs (List.cons_ne_nil y ys), List.getLast?_cons_cons]

theorem Cursor.prefix_advance {c : Cursor} {a b : List Char} (ha : a <+: c.rest)
    (hb : b <+: (c.advance a.length).rest) : a ++ b <+: c.rest := by
  rw [Cursor.advance_rest] at hb
  rw [← List.prefix_iff_eq_append.1 ha]
  exact (List.prefix_append_right_inj a).2 hb

theorem Cursor.at_append (pre ys : List Char) :
    Cursor.at (pre ++ ys) pre.length = ⟨pre.getLast?, ys⟩ := by
  simp [Cursor.at]

theorem Cursor.advance_append (b : Option Char) (xs ys : List Char) :
    (Cursor.mk b (xs ++ ys)).advance xs.length = ⟨xs.getLast?.or b, ys⟩ := by
  induction xs generalizing b with
  | nil => rfl
  | cons x xs ih =>
    rw [List.cons_append, List.length_cons, Cursor.advance, ih]
    cases xs with
    | nil => rfl
    | cons y ys' => rfl

theorem Cursor.rest_eq_of_prefix {c : Cursor} {xs : List Char} (h : xs <+: c.rest) :
    c.rest = xs ++ (c.advance xs.length).rest := by
  obtain ⟨t, ht⟩ := h
  rw [Cursor.advance_rest, ← ht, List.drop_left]

namespace Pattern

theorem bind_eq {α β : Type} (p : Pattern α) (f : α → Pattern β) : p >>= f = andThen p f := rfl

theorem pure_eq {α : Type} (a : α) : (pure a : Pattern α) = unit a := rfl

theorem andThen_assoc {α β γ : Type} (p : Pattern α) (f : α → Pattern β) (g : β → Pattern γ) :
    andThen (andThen p f) g = andThen p fun a => andThen (f a) g := by
  funext c
  simp [andThen, List.flatMap_assoc]

theorem unit_andThen {α β : Type} (a : α) (f : α → Pattern β) : andThen (unit a) f = f a := by
  funext c
  simp [andThen, unit]

@[simp] theorem mem_unit {α : Type} {a b : α} {c c' : Cursor} :
    (b, c') ∈ unit a c ↔ b = a ∧ c' = c := by
  simp [unit]

@[simp] theorem mem_andThen {α β : Type} {p : Pattern α} {f : α → Pattern β} {b : β}
    {c c' : Cursor} : (b, c') ∈ andThen p f c ↔ ∃ a c₁, (a, c₁) ∈ p c ∧ (b, c') ∈ f a c₁ := by
  simp [andThen, List.mem_flatMap]

@[simp] theorem mem_boundary {u : Unit} {c c' : Cursor} :
    (u, c') ∈ boundary c ↔ isBoundary c.before c.rest.head? = true ∧ c' = c := by
  unfold boundary
  split <;> simp_all

@[simp] theorem mem_oneOf {α : Type} {ws : List (String × α)} {a : α} {c c' : Cursor} :
    (a, c') ∈ oneOf ws c ↔
      ∃ w, (w, a) ∈ ws ∧ w.toList <+: c.rest ∧ c' = c.advance w.length := by
  simp only [oneOf, List.mem_flatMap]
  constructor
  · rintro ⟨⟨w, a'⟩, hw, hmem⟩
    split at hmem
    · rename_i hpre
      simp only [List.mem_singleton, Prod.mk.injEq] at hmem
      obtain ⟨rfl, rfl⟩ := hmem
      exact ⟨w, hw, List.isPrefixOf_iff_prefix.1 hpre, rfl⟩
    · simp at hmem
  · rintro ⟨w, hw, hpre, rfl⟩
    exact ⟨(w, a), hw, by simp [List.isPrefixOf_iff_prefix.2 hpre]⟩

theorem mem_run_of {p : Char → Bool} {lo : Nat} {rs r : List Char} {c c' : Cursor}
    (hrs : rs <+: c.rest.takeWhile p)
    (h : (r, c') ∈ ((List.range (rs.length + 1)).reverse.filter (lo ≤ ·)).map
      fun k => (rs.take k, c.advance k)) :
    lo ≤ r.length ∧ r <+: c.rest ∧ (∀ x ∈ r, p x = true) ∧ c' = c.advance r.length := by
  simp only [List.mem_map, List.mem_filter, List.mem_reverse, List.mem_range,
    decide_eq_true_eq, Prod.mk.injEq] at h
  obtain ⟨k, ⟨hk, hlo⟩, rfl, rfl⟩ := h
  have hpre : rs.take k <+: c.rest.takeWhile p := (List.take_prefix k rs).trans hrs
  have hlen : (rs.take k).length = k := by
    rw [List.length_take]
    omega
  refine ⟨by omega, hpre.trans (List.takeWhile_prefix p), ?_, by rw [hlen]⟩
  intro x hx
  exact List.all_eq_true.1 List.all_takeWhile x (hpre.subset hx)

theorem mem_run {p : Char → Bool} {lo : Nat} {hi : Option Nat} {r : List Char}
    {c c' : Cursor} (h : (r, c') ∈ run p lo hi c) :
    lo ≤ r.length ∧ r <+: c.rest ∧ (∀ x ∈ r, p x = true) ∧ c' = c.advance r.length := by
  cases hi with
  | none => exact mem_run_of (List.prefix_refl _) h
  | some n => exact mem_run_of (List.take_prefix n _) h

end Pattern

def Pattern.Forward {α : Type} (p : Pattern α) : Prop :=
  ∀ (cs : List Char) (i : Nat) (a : α) (c : Cursor), i ≤ cs.length →
    (a, c) ∈ p (Cursor.at cs i) → ∃ j, i ≤ j ∧ j ≤ cs.length ∧ c = Cursor.at cs j

/-- Matching at a place of a text, `p` stops at a later place of that text. -/
def Pattern.Consumes {α : Type} (p : Pattern α) : Prop :=
  ∀ (cs : List Char) (i : Nat) (a : α) (c : Cursor), i ≤ cs.length →
    (a, c) ∈ p (Cursor.at cs i) → ∃ j, i < j ∧ j ≤ cs.length ∧ c = Cursor.at cs j

namespace Pattern

variable {α β : Type}

theorem Consumes.forward {p : Pattern α} (hp : p.Consumes) : p.Forward := by
  intro cs i a c hi hmem
  obtain ⟨j, hij, hj, rfl⟩ := hp cs i a c hi hmem
  exact ⟨j, Nat.le_of_lt hij, hj, rfl⟩

theorem unit_forward (a : α) : (unit a).Forward := by
  intro cs i b c hi hmem
  obtain ⟨-, rfl⟩ := mem_unit.1 hmem
  exact ⟨i, Nat.le_refl i, hi, rfl⟩

theorem boundary_forward : boundary.Forward := by
  intro cs i u c hi hmem
  obtain ⟨-, rfl⟩ := mem_boundary.1 hmem
  exact ⟨i, Nat.le_refl i, hi, rfl⟩

theorem advance_word {cs w : List Char} {i : Nat} (hi : i ≤ cs.length) (hw : w <+: cs.drop i) :
    (Cursor.at cs i).advance w.length = Cursor.at cs (i + w.length) ∧
      i + w.length ≤ cs.length := by
  have hlen := hw.length_le
  rw [List.length_drop] at hlen
  exact ⟨Cursor.advance_at cs i w.length, by omega⟩

theorem oneOf_forward (ws : List (String × α)) : (oneOf ws).Forward := by
  intro cs i a c hi hmem
  obtain ⟨w, -, hpre, rfl⟩ := mem_oneOf.1 hmem
  obtain ⟨hat, hle⟩ := advance_word hi hpre
  rw [String.length_toList] at hat hle
  exact ⟨i + w.length, Nat.le_add_right i _, hle, hat⟩

theorem oneOf_consumes {ws : List (String × α)} (hws : ∀ w ∈ ws, w.1 ≠ "") :
    (oneOf ws).Consumes := by
  intro cs i a c hi hmem
  obtain ⟨w, hw, hpre, rfl⟩ := mem_oneOf.1 hmem
  obtain ⟨hat, hle⟩ := advance_word hi hpre
  rw [String.length_toList] at hat hle
  have hpos : 0 < w.length := by
    have hne : w ≠ "" := hws _ hw
    rw [ne_eq, ← String.length_eq_zero_iff] at hne
    omega
  exact ⟨i + w.length, by omega, hle, hat⟩

theorem run_forward (p : Char → Bool) (lo : Nat) (hi : Option Nat) : (run p lo hi).Forward := by
  intro cs i r c hi hmem
  obtain ⟨-, hpre, -, rfl⟩ := mem_run hmem
  obtain ⟨hat, hle'⟩ := advance_word hi hpre
  exact ⟨i + r.length, Nat.le_add_right i _, hle', hat⟩

theorem andThen_forward {p : Pattern α} {f : α → Pattern β} (hp : p.Forward)
    (hf : ∀ a, (f a).Forward) : (andThen p f).Forward := by
  intro cs i b c hi hmem
  obtain ⟨a, c₁, h₁, h₂⟩ := mem_andThen.1 hmem
  obtain ⟨j, hij, hj, rfl⟩ := hp cs i a c₁ hi h₁
  obtain ⟨k, hjk, hk, rfl⟩ := hf a cs j b c hj h₂
  exact ⟨k, Nat.le_trans hij hjk, hk, rfl⟩

theorem andThen_consumes_left {p : Pattern α} {f : α → Pattern β} (hp : p.Consumes)
    (hf : ∀ a, (f a).Forward) : (andThen p f).Consumes := by
  intro cs i b c hi hmem
  obtain ⟨a, c₁, h₁, h₂⟩ := mem_andThen.1 hmem
  obtain ⟨j, hij, hj, rfl⟩ := hp cs i a c₁ hi h₁
  obtain ⟨k, hjk, hk, rfl⟩ := hf a cs j b c hj h₂
  exact ⟨k, Nat.lt_of_lt_of_le hij hjk, hk, rfl⟩

theorem andThen_consumes_right {p : Pattern α} {f : α → Pattern β} (hp : p.Forward)
    (hf : ∀ a, (f a).Consumes) : (andThen p f).Consumes := by
  intro cs i b c hi hmem
  obtain ⟨a, c₁, h₁, h₂⟩ := mem_andThen.1 hmem
  obtain ⟨j, hij, hj, rfl⟩ := hp cs i a c₁ hi h₁
  obtain ⟨k, hjk, hk, rfl⟩ := hf a cs j b c hj h₂
  exact ⟨k, Nat.lt_of_le_of_lt hij hjk, hk, rfl⟩

theorem blanks1_forward : blanks1.Forward :=
  andThen_forward (run_forward _ _ _) fun _ => unit_forward ()

end Pattern

namespace Pattern

variable {α : Type}

/-- A search from `s` finds the match `(a, c)` of `p` at `j`, and none before. -/
structure FoundFrom (p : Pattern α) (cs : List Char) (s j : Nat) (a : α) (c : Cursor) : Prop where
  start_le : s ≤ j
  le_length : j ≤ cs.length
  mem : (a, c) ∈ p (Cursor.at cs j)
  none_before : ∀ k, s ≤ k → k < j → p (Cursor.at cs k) = []

theorem FoundFrom.here {p : Pattern α} {cs : List Char} {s : Nat} {a : α} {c : Cursor}
    (hs : s ≤ cs.length) (h : (a, c) ∈ p (Cursor.at cs s)) : FoundFrom p cs s s a c :=
  ⟨Nat.le_refl s, hs, h, fun _ hk hk' => absurd hk' (Nat.not_lt.2 hk)⟩

theorem FoundFrom.of_succ {p : Pattern α} {cs : List Char} {s j : Nat} {a : α} {c : Cursor}
    (hf : FoundFrom p cs (s + 1) j a c) (hnone : p (Cursor.at cs s) = []) :
    FoundFrom p cs s j a c where
  start_le := Nat.le_of_succ_le hf.start_le
  le_length := hf.le_length
  mem := hf.mem
  none_before k hk hkj := by
    rcases Nat.eq_or_lt_of_le hk with rfl | hk
    · exact hnone
    · exact hf.none_before k hk hkj

theorem firstFrom_found {p : Pattern α} {cs : List Char} {s : Nat} {a : α} {c : Cursor}
    (hs : s ≤ cs.length)
    (h : firstFrom p (Cursor.at cs s).before (Cursor.at cs s).rest = some (a, c)) :
    ∃ j, FoundFrom p cs s j a c := by
  simp only [Cursor.at_before, Cursor.at_rest] at h
  generalize hr : cs.drop s = rest at h
  induction rest generalizing s with
  | nil =>
    have hat : Cursor.at cs s = ⟨(cs.take s).getLast?, []⟩ := by simp [Cursor.at, hr]
    refine ⟨s, FoundFrom.here hs ?_⟩
    rw [hat]
    exact List.mem_of_head? h
  | cons x xs ih =>
    have hat : Cursor.at cs s = ⟨(cs.take s).getLast?, x :: xs⟩ := by simp [Cursor.at, hr]
    simp only [firstFrom] at h
    split at h
    · -- the pattern matches right here
      rename_i r hr'
      cases h
      refine ⟨s, FoundFrom.here hs ?_⟩
      rw [hat]
      exact List.mem_of_head? hr'
    · -- no match here: the search goes on from the next place
      rename_i hnone
      obtain ⟨hlt, htake, hdrop⟩ := take_drop_succ hr
      have hbefore : (cs.take (s + 1)).getLast? = some x := by
        rw [htake]
        exact List.getLast?_concat
      rw [← hbefore] at h
      obtain ⟨j, hfound⟩ := ih (by omega) hdrop h
      refine ⟨j, hfound.of_succ ?_⟩
      rw [hat]
      exact List.head?_eq_none_iff.1 hnone

def ScanStart (p : Pattern α) (cs : List Char) (s : Nat) : Prop :=
  s = 0 ∨ ∃ i a, i ≤ cs.length ∧ (a, Cursor.at cs s) ∈ p (Cursor.at cs i)

theorem mem_allFrom {p : Pattern α} (hp : p.Consumes) {cs : List Char} {a : α} :
    ∀ (fuel s : Nat), s ≤ cs.length → p.ScanStart cs s → a ∈ allFrom p fuel (Cursor.at cs s) →
      ∃ s' j c, p.ScanStart cs s' ∧ FoundFrom p cs s' j a c := by
  intro fuel
  induction fuel with
  | zero => intro s _ _ h; simp [allFrom] at h
  | succ fuel ih =>
    intro s hs hstart h
    simp only [allFrom] at h
    split at h
    · simp at h
    · rename_i a' after hfirst
      obtain ⟨j, hfound⟩ := firstFrom_found hs hfirst
      -- the match passes over at least one character, so the scan goes on from its end
      obtain ⟨j', hjj', hj', rfl⟩ := hp cs j a' after hfound.le_length hfound.mem
      have hshorter : (Cursor.at cs j').rest.length < (Cursor.at cs s).rest.length := by
        simp only [Cursor.at_rest, List.length_drop]
        have := hfound.start_le
        omega
      rw [if_pos hshorter] at h
      rcases List.mem_cons.1 h with rfl | h
      · exact ⟨s, j, _, hstart, hfound⟩
      · exact ih j' hj' (.inr ⟨j, a', hfound.le_length, hfound.mem⟩) h

theorem mem_findAll {p : Pattern α} (hp : p.Consumes) {cs : List Char} {a : α}
    (h : a ∈ findAll p cs) : ∃ s j c, p.ScanStart cs s ∧ FoundFrom p cs s j a c := by
  unfold findAll at h
  rw [← Cursor.at_zero] at h
  exact mem_allFrom hp _ 0 (Nat.zero_le _) (.inl rfl) h

end Pattern

end VideoStats.Text
