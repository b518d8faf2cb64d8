import VideoStats.Proofs.Scanning

set_option autoImplicit false

namespace VideoStats.Text

namespace Pattern

variable {α β : Type}

theorem head?_andThen {p : Pattern α} {f : α → Pattern β} {c c₁ : Cursor} {a : α}
    {r : β × Cursor} (hp : (p c).head? = some (a, c₁)) (hf : (f a c₁).head? = some r) :
    (andThen p f c).head? = some r := by
  unfold andThen
  cases hpc : p c with
  | nil =>
    rw [hpc] at hp
    cases hp
  | cons x xs =>
    rw [hpc, List.head?_cons, Option.some.injEq] at hp
    subst hp
    rw [List.flatMap_cons, List.head?_append, hf]
    rfl

theorem andThen_eq_nil {p : Pattern α} {f : α → Pattern β} {c : Cursor} (hp : p c = []) :
    andThen p f c = [] := by
  simp [andThen, hp]

theorem andThen_eq_nil_of_forall {p : Pattern α} {f : α → Pattern β} {c : Cursor}
    (hf : ∀ x ∈ p c, f x.1 x.2 = []) : andThen p f c = [] := by
  unfold andThen
  exact List.flatMap_eq_nil_iff.2 hf

theorem head?_unit (a : α) (c : Cursor) : (unit a c).head? = some (a, c) :=
  rfl

theorem head?_optional_of_head {p : Pattern α} {c c₁ : Cursor} {a : α}
    (hp : (p c).head? = some (a, c₁)) : (optional p c).head? = some (some a, c₁) := by
  have hsome : (andThen p (fun a => unit (some a)) c).head? = some (some a, c₁) :=
    head?_andThen hp (head?_unit _ _)
  unfold optional orElse
  rw [List.head?_append, hsome]
  rfl

theorem head?_optional_of_nil {p : Pattern α} {c : Cursor} (hp : p c = []) :
    (optional p c).head? = some (none, c) := by
  simp [optional, orElse, andThen, hp, unit]

theorem head?_boundary {c : Cursor} (h : isBoundary c.before c.rest.head? = true) :
    (boundary c).head? = some ((), c) := by
  simp [boundary, h]

theorem head?_word {s : String} {c : Cursor} (h : s.toList <+: c.rest) :
    (word s c).head? = some ((), c.advance s.length) := by
  simp [word, List.isPrefixOf_iff_prefix.2 h]

theorem head?_oneOf {ws front back : List (String × α)} {w : String} {a : α} {c : Cursor}
    (hws : ws = front ++ (w, a) :: back) (hfront : ∀ x ∈ front, ¬ x.1.toList <+: c.rest)
    (hw : w.toList <+: c.rest) : (oneOf ws c).head? = some (a, c.advance w.length) := by
  subst hws
  have hnone : front.flatMap (fun x : String × α =>
      if x.1.toList.isPrefixOf c.rest then [(x.2, c.advance x.1.length)] else []) = [] := by
    refine List.flatMap_eq_nil_iff.2 fun x hx => ?_
    rw [if_neg fun hpre => hfront x hx (List.isPrefixOf_iff_prefix.1 hpre)]
  simp only [oneOf, List.flatMap_append, List.flatMap_cons]
  rw [hnone, List.nil_append, List.head?_append, if_pos (List.isPrefixOf_iff_prefix.2 hw)]
  rfl

theorem head?_run_of_le {lo : Nat} {rs : List Char} {c : Cursor}
    (hlo : lo ≤ rs.length) :
    (((List.range (rs.length + 1)).reverse.filter (lo ≤ ·)).map
      fun k => (rs.take k, c.advance k)).head? = some (rs, c.advance rs.length) := by
  rw [List.range_succ, List.reverse_append, List.reverse_singleton, List.singleton_append,
    List.filter_cons_of_pos (by simpa using hlo), List.map_cons, List.head?_cons, List.take_length]

theorem run_eq_nil_of_lt {lo : Nat} {rs : List Char} {c : Cursor}
    (hlt : rs.length < lo) :
    ((List.range (rs.length + 1)).reverse.filter (lo ≤ ·)).map
      (fun k => (rs.take k, c.advance k)) = [] := by
  rw [List.map_eq_nil_iff, List.filter_eq_nil_iff]
  intro k hk
  simp only [List.mem_reverse, List.mem_range] at hk
  simp only [decide_eq_true_eq]
  omega

theorem run_of_eq {lo : Nat} {rs : List Char} {c : Cursor}
    (hlo : rs.length = lo) :
    ((List.range (rs.length + 1)).reverse.filter (lo ≤ ·)).map
      (fun k => (rs.take k, c.advance k)) = [(rs, c.advance lo)] := by
  rw [List.range_succ, List.reverse_append, List.reverse_singleton, List.singleton_append,
    List.filter_cons_of_pos (by simp [hlo])]
  have hrest : (List.range rs.length).reverse.filter (lo ≤ ·) = [] := by
    rw [List.filter_eq_nil_iff]
    intro k hk
    simp only [List.mem_reverse, List.mem_range] at hk
    simp only [decide_eq_true_eq]
    omega
  rw [hrest, List.map_cons, List.map_nil, List.take_length, hlo]

theorem firstFrom_stops {p : Pattern α} {cs : List Char} {s j : Nat} (hsj : s ≤ j)
    (hj : j ≤ cs.length) (hmatch : p (Cursor.at cs j) ≠ []) :
    ∃ k, s ≤ k ∧ k ≤ j ∧ p (Cursor.at cs k) ≠ [] ∧
      firstFrom p (Cursor.at cs s).before (Cursor.at cs s).rest = (p (Cursor.at cs k)).head? := by
  induction hn : j - s generalizing s with
  | zero =>
    obtain rfl : s = j := by omega
    refine ⟨s, Nat.le_refl s, Nat.le_refl s, hmatch, ?_⟩
    cases hrest : cs.drop s with
    | nil =>
      have hat : Cursor.at cs s = ⟨(cs.take s).getLast?, []⟩ := by simp [Cursor.at, hrest]
      rw [hat]
      rfl
    | cons x xs =>
      have hat : Cursor.at cs s = ⟨(cs.take s).getLast?, x :: xs⟩ := by simp [Cursor.at, hrest]
      obtain ⟨r, hr⟩ := Option.isSome_iff_exists.1 (List.isSome_head?.2 (hat ▸ hmatch))
      rw [hat]
      simp only [firstFrom, hr]
  | succ n ih =>
    have hlt : s < j := by omega
    have hs : s < cs.length := by omega
    obtain ⟨x, xs, hrest⟩ : ∃ x xs, cs.drop s = x :: xs := by
      cases h : cs.drop s with
      | nil => exact absurd (List.drop_eq_nil_iff.1 h) (by omega)
      | cons x xs => exact ⟨x, xs, rfl⟩
    have hat : Cursor.at cs s = ⟨(cs.take s).getLast?, x :: xs⟩ := by simp [Cursor.at, hrest]
    by_cases hhere : p (Cursor.at cs s) = []
    · -- nothing matches here: the search goes on from the next place
      obtain ⟨k, hk, hkj, hkmatch, hfirst⟩ := ih (Nat.succ_le_of_lt hlt) (by omega)
      refine ⟨k, Nat.le_of_succ_le hk, hkj, hkmatch, ?_⟩
      rw [hat]
      rw [hat] at hhere
      simp only [firstFrom, hhere, List.head?_nil]
      rw [← hfirst, Cursor.at_succ hrest]
    · obtain ⟨r, hr⟩ := Option.isSome_iff_exists.1 (List.isSome_head?.2 hhere)
      refine ⟨s, Nat.le_refl s, Nat.le_of_lt hlt, hhere, ?_⟩
      rw [hat] at hr ⊢
      simp only [firstFrom, hr]

theorem search?_of_first {p : Pattern α} {cs : List Char} {j : Nat} {a : α} {c : Cursor}
    (hj : j ≤ cs.length) (hnone : ∀ k < j, p (Cursor.at cs k) = [])
    (hhead : (p (Cursor.at cs j)).head? = some (a, c)) : search? p cs = some a := by
  have hmatch : p (Cursor.at cs j) ≠ [] := fun h => by rw [h] at hhead; cases hhead
  obtain ⟨k, -, hkj, hkmatch, hfirst⟩ := firstFrom_stops (Nat.zero_le j) hj hmatch
  obtain rfl : k = j := by
    rcases Nat.lt_or_ge k j with hk | hk
    · exact absurd (hnone k hk) hkmatch
    · omega
  rw [Cursor.at_zero] at hfirst
  rw [search?, hfirst, hhead]
  rfl

theorem mem_findAll_of_first {p : Pattern α} (hp : p.Consumes) {cs : List Char} {j : Nat}
    {a : α} {c : Cursor} (hj : j ≤ cs.length) (hhead : (p (Cursor.at cs j)).head? = some (a, c))
    (hsep : ∀ i < j, ∀ b e, e ≤ cs.length → (b, Cursor.at cs e) ∈ p (Cursor.at cs i) → e ≤ j) :
    a ∈ findAll p cs := by
  have hmatch : p (Cursor.at cs j) ≠ [] := fun h => by rw [h] at hhead; cases hhead
  -- each search from a place at or before `j` stops at `j` or at a match ending at or before it
  have hscan : ∀ fuel s, s ≤ j → j - s < fuel → a ∈ allFrom p fuel (Cursor.at cs s) := by
    intro fuel
    induction fuel with
    | zero => intro s _ hlt; omega
    | succ fuel ih =>
      intro s hsj hlt
      obtain ⟨k, hk, hkj, hkmatch, hfirst⟩ := firstFrom_stops hsj hj hmatch
      obtain ⟨⟨a', c'⟩, hr⟩ := Option.isSome_iff_exists.1 (List.isSome_head?.2 hkmatch)
      -- the match found passes over at least one character, and ends at or before `j`
      obtain ⟨e, hke, he, rfl⟩ := hp cs k a' c' (Nat.le_trans hkj hj) (List.mem_of_head? hr)
      have hshorter : (Cursor.at cs e).rest.length < (Cursor.at cs s).rest.length := by
        simp only [Cursor.at_rest, List.length_drop]
        omega
      simp only [allFrom]
      rw [hfirst, hr]
      simp only [if_pos hshorter]
      rcases Nat.lt_or_ge k j with hkj' | hkj'
      · have hej : e ≤ j := hsep k hkj' a' e he (List.mem_of_head? hr)
        exact List.mem_cons_of_mem a' (ih e hej (by omega))
      · -- the search stopped at `j` itself, with the first way there
        obtain rfl : k = j := by omega
        rw [hhead, Option.some.injEq, Prod.mk.injEq] at hr
        rw [← hr.1]
        exact List.mem_cons_self
  rw [findAll, ← Cursor.at_zero]
  exact hscan _ 0 (Nat.zero_le j) (by omega)

end Pattern

theorem takeWhile_stop {p : Char → Bool} {xs ys : List Char} {y : Char}
    (hxs : ∀ x ∈ xs, p x = true) (hy : p y = false) : (xs ++ y :: ys).takeWhile p = xs := by
  rw [List.takeWhile_append_of_pos hxs, List.takeWhile_cons_of_neg (by simp [hy]),
    List.append_nil]

end VideoStats.Text
