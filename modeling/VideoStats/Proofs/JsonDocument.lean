import Mathlib
import VideoStats.Proofs.JsonTokens

set_option autoImplicit false

namespace VideoStats.Json

/-- Whatever `R` reads ends with a character that satisfies `p`. -/
structure Cuts (R : Input → Except ReadError (Json × Input)) (p : Char → Bool) : Prop where
  cut : ∀ {inp : Input} {v : Json} {out : Input}, R inp = .ok (v, out) → CutAfter p inp.1 out.1

theorem closesValue_of_beq {d : Char} (hd : closesValue d = true) :
    ∀ c, (c == d) = true → closesValue c = true := by
  intro c hc
  simp only [beq_iff_eq] at hc
  subst hc
  exact hd

theorem readValue_cuts_succ {f : Nat}
    (hI : ∀ acc first, Cuts (fun inp => readItems f inp acc first) (· == ']'))
    (hM : ∀ acc first, Cuts (fun inp => readMembers f inp acc first) (· == '}')) :
    Cuts (readValue (f + 1)) closesValue := by
  constructor
  rintro ⟨cs, pos⟩ v out h
  rw [readValue.eq_def] at h
  dsimp only at h
  split at h
  · -- a string ends at its closing quote
    simp only [Except.bind_eq_ok] at h
    obtain ⟨⟨s, inp⟩, hs, h⟩ := h
    simp only [Except.pure_eq_ok, Prod.mk.injEq] at h
    obtain ⟨-, rfl⟩ := h
    exact ((readString_cut hs).prepend ['"']).mono (closesValue_of_beq rfl)
  · exact ((cut_skipSpace ((hM _ _).cut h)).prepend ['{']).mono (closesValue_of_beq rfl)
  · exact ((cut_skipSpace ((hI _ _).cut h)).prepend ['[']).mono (closesValue_of_beq rfl)
  · cases h; exact ⟨['n', 'u', 'l'], 'l', rfl, rfl⟩
  · cases h; exact ⟨['t', 'r', 'u'], 'e', rfl, rfl⟩
  · cases h; exact ⟨['f', 'a', 'l', 's'], 'e', rfl, rfl⟩
  · cases h; exact ⟨['N', 'a'], 'N', rfl, rfl⟩
  · cases h; exact ⟨['I', 'n', 'f', 'i', 'n', 'i', 't'], 'y', rfl, rfl⟩
  · cases h; exact ⟨['-', 'I', 'n', 'f', 'i', 'n', 'i', 't'], 'y', rfl, rfl⟩
  · split at h
    · rename_i r hr
      cases h
      exact (readNumber_cut hr).2.mono fun c hc => by simp [closesValue, hc]
    · cases h

theorem readItems_cuts_succ {f : Nat} (hV : Cuts (readValue f) closesValue)
    (hI : ∀ acc first, Cuts (fun inp => readItems f inp acc first) (· == ']'))
    (acc : List Json) (first : Bool) :
    Cuts (fun inp => readItems (f + 1) inp acc first) (· == ']') := by
  constructor
  rintro ⟨cs, pos⟩ v out h
  rw [readItems.eq_def] at h
  dsimp only at h
  split at h
  · cases h; exact ⟨[], ']', rfl, rfl⟩
  · simp only [Except.bind_eq_ok] at h
    obtain ⟨⟨v1, inp1⟩, hv, h⟩ := h
    dsimp only at h
    split at h
    · rename_i rest2 p2 hsk
      simp only [Except.pure_eq_ok, Prod.mk.injEq] at h
      obtain ⟨-, rfl⟩ := h
      exact (hV.cut hv).trans (cut_of_skipSpace_eq hsk)
    · rename_i rest2 p2 hsk
      exact (hV.cut hv).trans ((cut_of_skipSpace_eq hsk).trans (cut_skipSpace ((hI _ _).cut h)))
    · cases h

theorem readMembers_cuts_succ {f : Nat} (hV : Cuts (readValue f) closesValue)
    (hM : ∀ acc first, Cuts (fun inp => readMembers f inp acc first) (· == '}'))
    (acc : List (String × Json)) (first : Bool) :
    Cuts (fun inp => readMembers (f + 1) inp acc first) (· == '}') := by
  constructor
  rintro ⟨cs, pos⟩ v out h
  rw [readMembers.eq_def] at h
  dsimp only at h
  split at h
  · cases h; exact ⟨[], '}', rfl, rfl⟩
  · simp only [Except.bind_eq_ok] at h
    obtain ⟨⟨key, inp⟩, hs, h⟩ := h
    dsimp only at h
    split at h
    · rename_i rest2 p2 hsk
      simp only [Except.bind_eq_ok] at h
      obtain ⟨⟨v2, inp2⟩, hv, h⟩ := h
      dsimp only at h
      -- the name, the colon and the value come before what ends the member
      have hkey := (((readString_cut hs).prepend ['"']).trans (cut_of_skipSpace_eq hsk)).trans
          (cut_skipSpace (hV.cut hv))
      split at h
      · rename_i rest3 p3 hsk3
        simp only [Except.pure_eq_ok, Prod.mk.injEq] at h
        obtain ⟨-, rfl⟩ := h
        exact hkey.trans (cut_of_skipSpace_eq hsk3)
      · rename_i rest3 p3 hsk3
        exact hkey.trans ((cut_of_skipSpace_eq hsk3).trans (cut_skipSpace ((hM _ _).cut h)))
      · cases h
    · cases h
  · cases h

theorem read_cut (f : Nat) :
    Cuts (readValue f) closesValue ∧
      (∀ acc first, Cuts (fun inp => readItems f inp acc first) (· == ']')) ∧
      (∀ acc first, Cuts (fun inp => readMembers f inp acc first) (· == '}')) := by
  induction f with
  | zero =>
    refine ⟨⟨?_⟩, fun acc first => ⟨?_⟩, fun acc first => ⟨?_⟩⟩
    · rintro ⟨cs, pos⟩ v out h; rw [readValue.eq_1] at h; cases h
    · rintro ⟨cs, pos⟩ v out h; rw [readItems.eq_1] at h; cases h
    · rintro ⟨cs, pos⟩ v out h; rw [readMembers.eq_1] at h; cases h
  | succ f ih =>
    obtain ⟨hV, hI, hM⟩ := ih
    exact ⟨readValue_cuts_succ hI hM, readItems_cuts_succ hV hI, readMembers_cuts_succ hV hM⟩

theorem readValue_head {f : Nat} {cs : List Char} {pos : Nat} {v : Json} {out : Input}
    (h : readValue f (cs, pos) = .ok (v, out)) :
    ∃ c rest, cs = c :: rest ∧ opensValue c = true := by
  cases f with
  | zero => rw [readValue.eq_1] at h; cases h
  | succ f =>
    rw [readValue.eq_def] at h
    dsimp only at h
    split at h
    case h_10 =>
      split at h
      · exact (readNumber_cut ‹_›).1
      · cases h
    all_goals exact ⟨_, _, rfl, rfl⟩

/-- White space after what `R` reads is never part of it. -/
structure KeepsAfter (t : List Char) (R : Input → Except ReadError (Json × Input))
    (R' : Nat → Input → Except ReadError (Json × Input)) : Prop where
  keep : ∀ {cs : List Char} {pos : Nat} {v : Json} {r : List Char} {p : Nat},
    R (cs ++ t, pos) = .ok (v, (r ++ t, p)) →
    ∀ g pos', cs.length ≤ g + r.length → ∃ p', R' g (cs, pos') = .ok (v, (r, p'))

variable {t : List Char}

theorem KeepsAfter.skip (ht : Blank t) {R : Input → Except ReadError (Json × Input)}
    {R' : Nat → Input → Except ReadError (Json × Input)} {q : Char → Bool} (hcut : Cuts R q)
    (hR : KeepsAfter t R R') {x : List Char} {pos : Nat} {v : Json} {r : List Char} {p : Nat}
    (h : R (skipSpace (x ++ t, pos)) = .ok (v, (r ++ t, p))) (g pos' : Nat)
    (hg : x.length ≤ g + r.length) : ∃ p', R' g (skipSpace (x, pos')) = .ok (v, (r, p')) := by
  by_cases hd : x.dropWhile isSpace = []
  · have hcut' := hcut.cut h
    rw [skipSpace_append_blank_nil ht hd] at hcut'
    exact (CutAfter.not_nil hcut').elim
  · rw [skipSpace_append_blank t hd] at h
    have hlen := List.length_dropWhile_le isSpace x
    rw [skipSpace_eq]
    exact hR.keep h g _ (by omega)

theorem KeepsAfter.of_succ {R : Input → Except ReadError (Json × Input)}
    {R' : Nat → Input → Except ReadError (Json × Input)} {q : Char → Bool} (hcut : Cuts R q)
    (h : ∀ {cs : List Char} {pos : Nat} {v : Json} {r : List Char} {p : Nat},
      R (cs ++ t, pos) = .ok (v, (r ++ t, p)) →
      ∀ g pos', cs.length ≤ g + 1 + r.length → ∃ p', R' (g + 1) (cs, pos') = .ok (v, (r, p'))) :
    KeepsAfter t R R' := by
  constructor
  intro cs pos v r p hr g pos' hg
  -- something is read, so there is fuel for at least one step
  have hlt := (hcut.cut hr).length_lt
  simp only [List.length_append] at hlt
  obtain ⟨g, rfl⟩ : ∃ g0, g = g0 + 1 := ⟨g - 1, by omega⟩
  exact h hr g pos' hg

theorem literal_of_append_blank (ht : Blank t) {cs rest r : List Char}
    (w : List Char) (hw : ∀ c ∈ w, isSpace c = false) (heq : cs ++ t = w ++ rest) {k v : Json}
    {q p : Nat} (h : (Except.ok (k, (rest, q)) : Except ReadError (Json × Input)) =
      .ok (v, (r ++ t, p))) : cs = w ++ r ∧ k = v := by
  obtain ⟨cs0, rfl, rfl⟩ := eq_append_of_append_blank heq ht hw
  simp only [Except.ok.injEq, Prod.mk.injEq, List.append_cancel_right_eq] at h
  exact ⟨by rw [h.2.1], h.1⟩

theorem readValue_keepsAfter_succ (ht : Blank t) {f : Nat}
    (hI : ∀ acc first, KeepsAfter t (fun inp => readItems f inp acc first)
      (fun g inp => readItems g inp acc first))
    (hM : ∀ acc first, KeepsAfter t (fun inp => readMembers f inp acc first)
      (fun g inp => readMembers g inp acc first)) :
    KeepsAfter t (readValue (f + 1)) readValue := by
  apply KeepsAfter.of_succ (read_cut (f + 1)).1
  intro cs pos v r p h g pos' hg
  rw [readValue.eq_def] at h
  dsimp only at h
  split at h
  · rename_i rest heq
    obtain ⟨cs0, rfl, rfl⟩ :=
      @eq_append_of_append_blank _ _ ['"'] _ heq ht (by simp [isSpace])
    simp only [Except.bind_eq_ok] at h
    obtain ⟨⟨s, inp⟩, hs, h⟩ := h
    simp only [Except.pure_eq_ok, Prod.mk.injEq] at h
    obtain ⟨rfl, rfl⟩ := h
    obtain ⟨p', hp'⟩ := readString_of_append_blank ht hs rfl pos' (pos' + 1)
    refine ⟨p', ?_⟩
    rw [List.singleton_append, readValue.eq_2]
    simp [hp']
  · -- an object: its members are read after the brace and the white space that follows it
    rename_i rest heq
    obtain ⟨cs0, rfl, rfl⟩ :=
      @eq_append_of_append_blank _ _ ['{'] _ heq ht (by simp [isSpace])
    rw [List.singleton_append, readValue.eq_3]
    exact KeepsAfter.skip ht ((read_cut f).2.2 _ _) (hM _ _) h g (pos' + 1) (by simp at hg; omega)
  · -- an array, in the same way
    rename_i rest heq
    obtain ⟨cs0, rfl, rfl⟩ :=
      @eq_append_of_append_blank _ _ ['['] _ heq ht (by simp [isSpace])
    rw [List.singleton_append, readValue.eq_4]
    exact KeepsAfter.skip ht ((read_cut f).2.1 _ _) (hI _ _) h g (pos' + 1) (by simp at hg; omega)
  · obtain ⟨rfl, rfl⟩ :=
      literal_of_append_blank ht ['n', 'u', 'l', 'l'] (by simp [isSpace]) ‹_› h
    exact ⟨_, readValue.eq_5 _ _ _⟩
  · obtain ⟨rfl, rfl⟩ :=
      literal_of_append_blank ht ['t', 'r', 'u', 'e'] (by simp [isSpace]) ‹_› h
    exact ⟨_, readValue.eq_6 _ _ _⟩
  · obtain ⟨rfl, rfl⟩ :=
      literal_of_append_blank ht ['f', 'a', 'l', 's', 'e'] (by simp [isSpace]) ‹_› h
    exact ⟨_, readValue.eq_7 _ _ _⟩
  · obtain ⟨rfl, rfl⟩ :=
      literal_of_append_blank ht ['N', 'a', 'N'] (by simp [isSpace]) ‹_› h
    exact ⟨_, readValue.eq_8 _ _ _⟩
  · obtain ⟨rfl, rfl⟩ := literal_of_append_blank ht
      ['I', 'n', 'f', 'i', 'n', 'i', 't', 'y'] (by simp [isSpace]) ‹_› h
    exact ⟨_, readValue.eq_9 _ _ _⟩
  · obtain ⟨rfl, rfl⟩ := literal_of_append_blank ht
      ['-', 'I', 'n', 'f', 'i', 'n', 'i', 't', 'y'] (by simp [isSpace]) ‹_› h
    exact ⟨_, readValue.eq_10 _ _ _⟩
  · -- a numeral: none of the other forms starts the text, with or without the white space
    rename_i h1 h2 h3 h4 h5 h6 h7 h8 h9
    split at h
    · rename_i rr hrr
      cases h
      rw [readNumber_append_blank ht] at hrr
      obtain ⟨⟨v0, r0, p0⟩, h0, heq0⟩ := Option.map_eq_some_iff.1 hrr
      simp only [Prod.mk.injEq, List.append_cancel_right_eq] at heq0
      obtain ⟨rfl, rfl, rfl⟩ := heq0
      obtain ⟨p', hp'⟩ := readNumber_at h0 pos'
      refine ⟨p', ?_⟩
      rw [readValue.eq_11 g cs pos' (fun rest hc => h1 (rest ++ t) (by subst hc; rfl))
        (fun rest hc => h2 (rest ++ t) (by subst hc; rfl))
        (fun rest hc => h3 (rest ++ t) (by subst hc; rfl))
        (fun rest hc => h4 (rest ++ t) (by subst hc; rfl))
        (fun rest hc => h5 (rest ++ t) (by subst hc; rfl))
        (fun rest hc => h6 (rest ++ t) (by subst hc; rfl))
        (fun rest hc => h7 (rest ++ t) (by subst hc; rfl))
        (fun rest hc => h8 (rest ++ t) (by subst hc; rfl))
        (fun rest hc => h9 (rest ++ t) (by subst hc; rfl)), hp']
    · cases h

theorem readItems_succ_of_value {g : Nat} {cs : List Char} {pos : Nat} {acc : List Json}
    {first : Bool} (hfirst : ∀ rest, cs = ']' :: rest → first = true → False) {v1 : Json}
    {inp1 : Input} (hv : readValue g (cs, pos) = .ok (v1, inp1)) :
    readItems (g + 1) (cs, pos) acc first =
      match skipSpace inp1 with
      | (']' :: rest, p) => pure (.arr (acc ++ [v1]), (rest, p + 1))
      | (',' :: rest, p) => readItems g (skipSpace (rest, p + 1)) (acc ++ [v1]) false
      | (_, p) => .error ⟨.expectingComma, p⟩ := by
  rw [readItems.eq_def]
  dsimp only
  split
  · exact (hfirst _ rfl rfl).elim
  · -- the two matches on what follows the item agree once the item is read
    rw [hv]
    rfl

theorem readItems_keepsAfter_succ (ht : Blank t) {f : Nat}
    (hV : KeepsAfter t (readValue f) readValue)
    (hI : ∀ acc first, KeepsAfter t (fun inp => readItems f inp acc first)
      (fun g inp => readItems g inp acc first)) (acc : List Json) (first : Bool) :
    KeepsAfter t (fun inp => readItems (f + 1) inp acc first)
      (fun g inp => readItems g inp acc first) := by
  apply KeepsAfter.of_succ ((read_cut (f + 1)).2.1 acc first)
  intro cs pos v r p h g pos' hg
  beta_reduce at h ⊢
  rw [readItems.eq_def] at h
  dsimp only at h
  split at h
  · obtain ⟨rfl, rfl⟩ := literal_of_append_blank ht [']'] (by simp [isSpace]) ‹_› h
    exact ⟨_, readItems.eq_2 _ _ _ _⟩
  · -- an item, then a bracket that closes the array or a comma before the next item
    rename_i first _ _ hnot
    simp only [Except.bind_eq_ok] at h
    obtain ⟨⟨v1, inp1⟩, hv, h⟩ := h
    dsimp only at h
    have hfirst : ∀ rest, cs = ']' :: rest → first = true → False :=
      fun rest hc => hnot (rest ++ t) (by rw [hc]; rfl)
    have hitem := ((read_cut f).1.cut hv).length_lt
    split at h
    · -- the array closes after the item
      rename_i rest2 p2 hsk
      simp only [Except.pure_eq_ok, Prod.mk.injEq] at h
      obtain ⟨rfl, rfl, rfl⟩ := h
      obtain ⟨r1, hr1, hlen, hskip⟩ := skipSpace_split_blank ht hsk
      obtain ⟨inl, p1⟩ := inp1
      simp only at hr1
      subst hr1
      obtain ⟨p1', hp1'⟩ := hV.keep hv g pos' (by omega)
      rw [readItems_succ_of_value hfirst hp1', hskip]
      exact ⟨_, rfl⟩
    · -- a comma, then the items after it up to the closing bracket
      rename_i rest2 p2 hsk
      obtain ⟨x, rfl, hx⟩ := (cut_skipSpace (((read_cut f).2.1 _ _).cut h)).of_append
      obtain ⟨r1, hr1, hlen, hskip⟩ := skipSpace_split_blank ht hsk
      obtain ⟨inl, p1⟩ := inp1
      simp only at hr1
      subst hr1
      simp only [List.length_append] at hitem
      have hrx := hx.length_lt
      obtain ⟨p1', hp1'⟩ := hV.keep hv g pos' (by omega)
      rw [readItems_succ_of_value hfirst hp1', hskip]
      exact KeepsAfter.skip ht ((read_cut f).2.1 _ _) (hI _ _) h g _ (by omega)
    · cases h

theorem readMembers_succ_of_member {g : Nat} {cs : List Char} {pos : Nat}
    {acc : List (String × Json)} {first : Bool} {key : String} {r0 : List Char} {pk : Nat}
    (hkey : readString pos cs (pos + 1) [] = .ok (key, (r0, pk))) {y : List Char} {q : Nat}
    (hcolon : skipSpace (r0, pk) = (':' :: y, q)) {v2 : Json} {inp2 : Input}
    (hv : readValue g (skipSpace (y, q + 1)) = .ok (v2, inp2)) :
    readMembers (g + 1) ('"' :: cs, pos) acc first =
      match skipSpace inp2 with
      | ('}' :: rest3, p3) => pure (.obj (setMember acc key v2), (rest3, p3 + 1))
      | (',' :: rest3, p3) =>
        readMembers g (skipSpace (rest3, p3 + 1)) (setMember acc key v2) false
      | (_, p3) => .error ⟨.expectingComma, p3⟩ := by
  rw [readMembers.eq_3, hkey, Except.ok_bind]
  simp only []
  rw [hcolon]
  simp only []
  rw [hv]
  rfl

theorem readMembers_keepsAfter_succ (ht : Blank t) {f : Nat}
    (hV : KeepsAfter t (readValue f) readValue)
    (hM : ∀ acc first, KeepsAfter t (fun inp => readMembers f inp acc first)
      (fun g inp => readMembers g inp acc first)) (acc : List (String × Json)) (first : Bool) :
    KeepsAfter t (fun inp => readMembers (f + 1) inp acc first)
      (fun g inp => readMembers g inp acc first) := by
  apply KeepsAfter.of_succ ((read_cut (f + 1)).2.2 acc first)
  intro cs pos v r p h g pos' hg
  beta_reduce at h ⊢
  rw [readMembers.eq_def] at h
  dsimp only at h
  split at h
  · obtain ⟨rfl, rfl⟩ := literal_of_append_blank ht ['}'] (by simp [isSpace]) ‹_› h
    exact ⟨_, readMembers.eq_2 _ _ _ _⟩
  · rename_i first _ _ rest heq
    obtain ⟨cs0, rfl, rfl⟩ :=
      @eq_append_of_append_blank _ _ ['"'] _ heq ht (by simp [isSpace])
    simp only [Except.bind_eq_ok] at h
    obtain ⟨⟨key, inp⟩, hs, h⟩ := h
    dsimp only at h
    split at h
    · rename_i rest2 p2 hsk
      simp only [Except.bind_eq_ok] at h
      obtain ⟨⟨v2, inp2⟩, hv, h⟩ := h
      dsimp only at h
      -- what follows the value ends with the closing brace, before the white space
      have hend : CutAfter (· == '}') inp2.1 (r ++ t) := by
        split at h
        · simp only [Except.pure_eq_ok, Prod.mk.injEq] at h
          rw [← h.2.1]
          exact cut_of_skipSpace_eq ‹_›
        · exact (cut_of_skipSpace_eq ‹_›).trans (cut_skipSpace (((read_cut f).2.2 _ _).cut h))
        · cases h
      obtain ⟨r2, hr2, hr2cut⟩ := hend.of_append
      have hvcut := cut_skipSpace ((read_cut f).1.cut hv)
      rw [hr2] at hvcut
      obtain ⟨y2, rfl, hy2⟩ := hvcut.of_append
      obtain ⟨inl2, p2'⟩ := inp2
      simp only at hr2
      subst hr2
      -- the colon, and the name before it
      obtain ⟨r0, hr0, hlen0, hskip0⟩ := skipSpace_split_blank ht hsk
      obtain ⟨inl0, p0⟩ := inp
      simp only at hr0
      subst hr0
      have hname := (readString_cut hs).length_lt
      simp only [List.length_append] at hname
      obtain ⟨pk, hpk⟩ := readString_of_append_blank ht hs rfl pos' (pos' + 1)
      have hrlen := hr2cut.length_lt
      simp only [List.length_append, List.length_cons, List.length_nil] at hg
      obtain ⟨pv, hpv⟩ := KeepsAfter.skip ht (read_cut f).1 hV hv g
        ((skipSpace (r0, pk)).2 + 1) (by omega)
      rw [List.singleton_append, readMembers_succ_of_member hpk (hskip0 pk) hpv]
      split at h
      · rename_i rest3 p3 hsk3
        simp only [Except.pure_eq_ok, Prod.mk.injEq] at h
        obtain ⟨rfl, rfl, rfl⟩ := h
        obtain ⟨r2', hr2', -, hskip3⟩ := skipSpace_split_blank ht hsk3
        simp only [List.append_cancel_right_eq] at hr2'
        subst hr2'
        rw [hskip3]
        exact ⟨_, rfl⟩
      · rename_i rest3 p3 hsk3
        obtain ⟨x, rfl, hx⟩ := (cut_skipSpace (((read_cut f).2.2 _ _).cut h)).of_append
        obtain ⟨r2', hr2', hxr2, hskip3⟩ := skipSpace_split_blank ht hsk3
        simp only [List.append_cancel_right_eq] at hr2'
        subst hr2'
        have hrx := hx.length_lt
        have hy2len := hy2.length_lt
        rw [hskip3]
        exact KeepsAfter.skip ht ((read_cut f).2.2 _ _) (hM _ _) h g _ (by omega)
      · cases h
    · cases h
  · cases h

theorem readers_keep_after (ht : Blank t) (f : Nat) :
    KeepsAfter t (readValue f) readValue ∧
      (∀ acc first, KeepsAfter t (fun inp => readItems f inp acc first)
        (fun g inp => readItems g inp acc first)) ∧
      (∀ acc first, KeepsAfter t (fun inp => readMembers f inp acc first)
        (fun g inp => readMembers g inp acc first)) := by
  induction f with
  | zero =>
    refine ⟨⟨?_⟩, fun acc first => ⟨?_⟩, fun acc first => ⟨?_⟩⟩
    · intro cs pos v r p h; rw [readValue.eq_1] at h; cases h
    · intro cs pos v r p h; beta_reduce at h; rw [readItems.eq_1] at h; cases h
    · intro cs pos v r p h; beta_reduce at h; rw [readMembers.eq_1] at h; cases h
  | succ f ih =>
    obtain ⟨hV, hI, hM⟩ := ih
    exact ⟨readValue_keepsAfter_succ ht hI hM, readItems_keepsAfter_succ ht hV hI,
      readMembers_keepsAfter_succ ht hV hM⟩

structure Padded (doc core : List Char) : Prop where
  around : ∃ before after, doc = before ++ core ++ after ∧ Blank before ∧ Blank after
  opens : ∃ c rest, core = c :: rest ∧ opensValue c = true
  closes : ∃ pre c, core = pre ++ [c] ∧ closesValue c = true

theorem opensValue_not_space {c : Char} (h : opensValue c = true) : isSpace c = false := by
  cases hs : isSpace c with
  | false => rfl
  | true => rcases isSpace_cases hs with rfl | rfl | rfl | rfl <;> cases h

theorem read_eq_ok_core {doc : List Char} {v : Json} (h : read doc = .ok v) :
    ∃ core, Padded doc core ∧ read core = .ok v := by
  unfold read at h
  split at h
  · cases h
  · simp only [Except.bind_eq_ok] at h
    obtain ⟨⟨v', inp⟩, hv, h⟩ := h
    dsimp only at h
    split at h
    · rename_i q hsk
      simp only [Except.pure_eq_ok] at h
      subst h
      have hafter := blank_of_skipSpace_nil hsk
      obtain ⟨after, q'⟩ := inp
      -- the value read is cut after the character that closes it
      rw [skipSpace_eq] at hv
      obtain ⟨pre, c, hcut, hc⟩ := (read_cut _).1.cut hv
      obtain ⟨c0, rest0, hhead, hc0⟩ := readValue_head hv
      have hcore : pre ++ [c] ++ after = doc.dropWhile isSpace := by simpa using hcut.symm
      -- the text starts where the value does
      have hopens : ∃ c' rest, pre ++ [c] = c' :: rest ∧ opensValue c' = true := by
        rw [← hcore] at hhead
        cases pre with
        | nil =>
          simp only [List.nil_append, List.singleton_append, List.cons.injEq] at hhead
          exact ⟨c, [], rfl, hhead.1 ▸ hc0⟩
        | cons p0 ps =>
          simp only [List.cons_append, List.cons.injEq] at hhead
          exact ⟨p0, ps ++ [c], rfl, hhead.1 ▸ hc0⟩
      refine ⟨pre ++ [c], ⟨⟨doc.takeWhile isSpace, after, ?_, ?_, hafter⟩, hopens,
        ⟨pre, c, rfl, hc⟩⟩, ?_⟩
      · rw [List.append_assoc, hcore, List.takeWhile_append_dropWhile]
      · exact fun x hx => List.mem_takeWhile_imp hx
      · -- alone, the text has no mark and no white space in front, and the value reads the same
        have hv' : readValue (4 * doc.length + 4)
            ((pre ++ [c]) ++ after, (skipSpace (doc, 0)).2) = .ok (v', ([] ++ after, q')) := by
          rw [List.nil_append, hcore]
          exact hv
        obtain ⟨p', hp'⟩ :=
          (readers_keep_after hafter _).1.keep hv' (4 * (pre ++ [c]).length + 4) 0 (by omega)
        obtain ⟨c', rest, hcr, hc'⟩ := hopens
        rw [hcr] at hp' ⊢
        unfold read
        split
        · rename_i heq
          simp only [List.cons.injEq] at heq
          rw [heq.1] at hc'
          cases hc'
        · rw [skipSpace_of_not_space (opensValue_not_space hc'), hp', Except.ok_bind]
          simp only [skipSpace.eq_2]
          rfl
    · cases h

end VideoStats.Json
