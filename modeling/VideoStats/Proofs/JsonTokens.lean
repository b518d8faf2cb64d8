import Mathlib
import VideoStats.Json.Read
import VideoStats.Proofs.Accepted

set_option autoImplicit false

namespace VideoStats.Json

def Blank (cs : List Char) : Prop := ∀ c ∈ cs, isSpace c = true

theorem isSpace_cases {c : Char} (h : isSpace c = true) :
    c = ' ' ∨ c = '\t' ∨ c = '\n' ∨ c = '\r' := by
  simpa [isSpace, or_assoc] using h

namespace Blank

variable {c : Char} {t : List Char}

theorem head (ht : Blank (c :: t)) : isSpace c = true := ht c List.mem_cons_self

theorem tail (ht : Blank (c :: t)) : Blank t := fun x hx => ht x (List.mem_cons_of_mem c hx)

theorem drop (ht : Blank t) (n : Nat) : Blank (t.drop n) :=
  fun x hx => ht x (List.mem_of_mem_drop hx)

theorem dropWhile_eq_nil (ht : Blank t) : t.dropWhile isSpace = [] :=
  List.dropWhile_eq_nil_iff.2 ht

end Blank

theorem isDigit_of_isSpace {c : Char} (h : isSpace c = true) : isDigit c = false := by
  rcases isSpace_cases h with rfl | rfl | rfl | rfl <;> decide

theorem eq_append_of_append_blank {cs t w rest : List Char} (h : cs ++ t = w ++ rest)
    (ht : Blank t) (hw : ∀ c ∈ w, isSpace c = false) :
    ∃ cs0, cs = w ++ cs0 ∧ rest = cs0 ++ t := by
  rcases List.append_eq_append_iff.1 h with ⟨a, rfl, rfl⟩ | ⟨c, rfl, rfl⟩
  · cases a with
    | nil => exact ⟨[], by simp, by simp⟩
    | cons x xs =>
      have hx := ht x (by simp)
      rw [hw x (by simp)] at hx
      cases hx
  · exact ⟨c, rfl, rfl⟩

/-- `cs` is read up to a character that satisfies `p`, leaving `rest`. -/
def CutAfter (p : Char → Bool) (cs rest : List Char) : Prop :=
  ∃ pre c, cs = pre ++ c :: rest ∧ p c = true

namespace CutAfter

variable {p q : Char → Bool} {cs mid rest : List Char}

theorem prepend (h : CutAfter p cs rest) (x : List Char) : CutAfter p (x ++ cs) rest := by
  obtain ⟨pre, c, rfl, hc⟩ := h
  exact ⟨x ++ pre, c, by simp, hc⟩

theorem trans (h₁ : CutAfter q cs mid) (h₂ : CutAfter p mid rest) : CutAfter p cs rest := by
  obtain ⟨pre, c, rfl, -⟩ := h₁
  simpa using h₂.prepend (pre ++ [c])

theorem extend (h : CutAfter p cs mid) (h' : mid = rest ∨ CutAfter p mid rest) :
    CutAfter p cs rest := by
  rcases h' with rfl | h'
  · exact h
  · exact h.trans h'

theorem mono (h : CutAfter p cs rest) (hpq : ∀ c, p c = true → q c = true) :
    CutAfter q cs rest := by
  obtain ⟨pre, c, rfl, hc⟩ := h
  exact ⟨pre, c, rfl, hpq c hc⟩

theorem length_lt (h : CutAfter p cs rest) : rest.length < cs.length := by
  obtain ⟨pre, c, rfl, -⟩ := h
  simp only [List.length_append, List.length_cons]
  omega

theorem not_nil : ¬ CutAfter p [] rest := by
  rintro ⟨pre, c, h, -⟩
  simp at h

theorem of_append {t : List Char} (h : CutAfter p cs (rest ++ t)) :
    ∃ x, cs = x ++ t ∧ CutAfter p x rest := by
  obtain ⟨pre, c, rfl, hc⟩ := h
  exact ⟨pre ++ c :: rest, by simp, pre, c, rfl, hc⟩

theorem not_blank (h : CutAfter p cs rest) (hcs : Blank cs)
    (hp : ∀ c, p c = true → isSpace c = false) : False := by
  obtain ⟨pre, c, rfl, hc⟩ := h
  have hs := hcs c (by simp)
  rw [hp c hc] at hs
  cases hs

end CutAfter

theorem notSpace_beq {d : Char} (hd : isSpace d = false) :
    ∀ c, (c == d) = true → isSpace c = false := by
  intro c hc
  simp only [beq_iff_eq] at hc
  subst hc
  exact hd

theorem skipSpace_fst (cs : List Char) (pos : Nat) :
    (skipSpace (cs, pos)).1 = cs.dropWhile isSpace := by
  induction cs generalizing pos with
  | nil => rw [skipSpace.eq_2]; rfl
  | cons c rest ih =>
    rw [skipSpace.eq_1, List.dropWhile_cons]
    split <;> simp_all

theorem skipSpace_eq (cs : List Char) (pos : Nat) :
    skipSpace (cs, pos) = (cs.dropWhile isSpace, (skipSpace (cs, pos)).2) := by
  rw [← skipSpace_fst]

theorem skipSpace_of_not_space {c : Char} (hc : isSpace c = false) (rest : List Char) (pos : Nat) :
    skipSpace (c :: rest, pos) = (c :: rest, pos) := by
  rw [skipSpace.eq_1, hc]
  rfl

theorem blank_of_skipSpace_nil {inp : Input} {q : Nat} (h : skipSpace inp = ([], q)) :
    Blank inp.1 := by
  obtain ⟨cs, pos⟩ := inp
  have hd := skipSpace_fst cs pos
  rw [h] at hd
  exact List.dropWhile_eq_nil_iff.1 hd.symm

theorem cut_skipSpace {p : Char → Bool} {inp : Input} {rest : List Char}
    (h : CutAfter p (skipSpace inp).1 rest) : CutAfter p inp.1 rest := by
  obtain ⟨cs, pos⟩ := inp
  rw [skipSpace_fst] at h
  have h' := h.prepend (cs.takeWhile isSpace)
  rwa [List.takeWhile_append_dropWhile] at h'

theorem cut_of_skipSpace_eq {inp : Input} {c : Char} {rest : List Char} {q : Nat}
    (h : skipSpace inp = (c :: rest, q)) : CutAfter (· == c) inp.1 rest :=
  cut_skipSpace (by rw [h]; exact ⟨[], c, rfl, beq_self_eq_true c⟩)

theorem skipSpace_append_blank {x : List Char} (t : List Char) (hx : x.dropWhile isSpace ≠ [])
    (q : Nat) : skipSpace (x ++ t, q) = (x.dropWhile isSpace ++ t, (skipSpace (x, q)).2) := by
  induction x generalizing q with
  | nil => exact absurd rfl hx
  | cons c x ih =>
    rw [List.cons_append, skipSpace.eq_1, skipSpace.eq_1]
    rw [List.dropWhile_cons] at hx ⊢
    cases hc : isSpace c with
    | true =>
      simp only [hc, if_true] at hx ⊢
      exact ih hx (q + 1)
    | false => simp

theorem skipSpace_append_blank_nil {t : List Char} (ht : Blank t) {x : List Char}
    (hx : x.dropWhile isSpace = []) (q : Nat) : (skipSpace (x ++ t, q)).1 = [] := by
  rw [skipSpace_fst, List.dropWhile_append, hx, ht.dropWhile_eq_nil]
  simp

theorem skipSpace_split_blank {t : List Char} (ht : Blank t) {inp : Input} {c : Char}
    {y : List Char} {q : Nat} (hsk : skipSpace inp = (c :: (y ++ t), q)) :
    ∃ r1, inp.1 = r1 ++ t ∧ y.length < r1.length ∧
      ∀ q', skipSpace (r1, q') = (c :: y, (skipSpace (r1, q')).2) := by
  obtain ⟨r1, hr1, -⟩ := (cut_of_skipSpace_eq hsk).of_append
  have hdrop : (r1 ++ t).dropWhile isSpace = c :: (y ++ t) := by
    obtain ⟨cs, pos⟩ := inp
    rw [← hr1, ← skipSpace_fst cs pos, hsk]
  rw [List.dropWhile_append, ht.dropWhile_eq_nil] at hdrop
  split at hdrop
  · cases hdrop
  · rw [← List.cons_append, List.append_cancel_right_eq] at hdrop
    refine ⟨r1, hr1, ?_, fun q' => by rw [skipSpace_eq, hdrop]⟩
    have hlen := List.length_dropWhile_le isSpace r1
    rw [hdrop, List.length_cons] at hlen
    omega

def opensValue (c : Char) : Bool :=
  c == '"' || c == '{' || c == '[' || c == 'n' || c == 't' || c == 'f' || c == 'N' || c == 'I' ||
    c == '-' || isDigit c

def closesValue (c : Char) : Bool :=
  c == '"' || c == '}' || c == ']' || c == 'l' || c == 'e' || c == 'N' || c == 'y' || isDigit c

theorem spanDigits_cons (c : Char) (x : List Char) :
    spanDigits (c :: x) =
      if isDigit c then (c :: (spanDigits x).1, (spanDigits x).2) else ([], c :: x) := by
  cases h : isDigit c <;> simp [spanDigits, h]

theorem spanDigits_blank {t : List Char} (ht : Blank t) : spanDigits t = ([], t) := by
  cases t with
  | nil => rfl
  | cons c t => rw [spanDigits_cons, isDigit_of_isSpace ht.head]; rfl

theorem spanDigits_append_blank {t : List Char} (ht : Blank t) (x : List Char) :
    spanDigits (x ++ t) = ((spanDigits x).1, (spanDigits x).2 ++ t) := by
  induction x with
  | nil => rw [List.nil_append, spanDigits_blank ht]; rfl
  | cons c x ih =>
    rw [List.cons_append, spanDigits_cons, spanDigits_cons, ih]
    split <;> rfl

theorem cut_spanDigits {c : Char} (hc : isDigit c = true) (x : List Char) :
    CutAfter isDigit (c :: x) (spanDigits x).2 := by
  induction x generalizing c with
  | nil => exact ⟨[], c, rfl, hc⟩
  | cons d x ih =>
    rw [spanDigits_cons]
    split
    · exact (ih ‹_›).prepend [c]
    · exact ⟨[], c, rfl, hc⟩

theorem cut_spanDigits_of_ne_nil {body : List Char} (h : (spanDigits body).1 ≠ []) :
    CutAfter isDigit body (spanDigits body).2 := by
  cases body with
  | nil => exact absurd rfl h
  | cons c x =>
    rw [spanDigits_cons] at h ⊢
    split
    · exact cut_spanDigits ‹_› x
    · simp_all

def numeralSign (cs : List Char) : Bool × List Char :=
  match cs with
  | '-' :: r => (true, r)
  | r => (false, r)

def numeralWhole (cs : List Char) : Option (List Char × List Char) :=
  match cs with
  | '0' :: r => some (['0'], r)
  | c :: r => if '1' ≤ c ∧ c ≤ '9' then
      let (ds, r') := spanDigits r
      some (c :: ds, r')
    else none
  | [] => none

def numeralFraction (r1 : List Char) : List Char × List Char :=
  match r1 with
  | '.' :: d :: r => if isDigit d then
      let (ds, r') := spanDigits r
      (d :: ds, r')
    else ([], r1)
  | _ => ([], r1)

def numeralExponent (r2 : List Char) : Option (Bool × List Char) × List Char × Nat :=
  match r2 with
  | e :: next :: r =>
    if e == 'e' || e == 'E' then
      let (eneg, hasSign, body) :=
        if (next == '-' || next == '+') && !r.isEmpty then (next == '-', true, r)
        else (false, false, next :: r)
      let (ds, r') := spanDigits body
      if ds.isEmpty then (none, r2, 0)
      else (some (eneg, ds), r', 1 + (if hasSign then 1 else 0) + ds.length)
    else (none, r2, 0)
  | _ => (none, r2, 0)

theorem readNumber_eq_stages (cs : List Char) (pos : Nat) :
    readNumber (cs, pos) =
      match numeralWhole (numeralSign cs).2 with
      | none => none
      | some (whole, r1) =>
        let (frac, r2) := numeralFraction r1
        let fracLen := if frac.isEmpty then 0 else frac.length + 1
        let (exp, r3, expLen) := numeralExponent r2
        some (numberValue (numeralSign cs).1 whole frac exp,
          (r3, pos + (if (numeralSign cs).1 then 1 else 0) + whole.length + fracLen + expLen)) := by
  rfl

section Stages

variable {t : List Char}

theorem numeralSign_append_blank (ht : Blank t) (cs : List Char) :
    numeralSign (cs ++ t) = ((numeralSign cs).1, (numeralSign cs).2 ++ t) := by
  rcases cs with _ | ⟨c, cs⟩
  · rcases t with _ | ⟨c, t⟩
    · rfl
    · rcases isSpace_cases ht.head with rfl | rfl | rfl | rfl <;> rfl
  · by_cases hc : c = '-'
    · subst hc; rfl
    · simp [numeralSign, hc]

theorem numeralWhole_append_blank (ht : Blank t) (cs : List Char) :
    numeralWhole (cs ++ t) = (numeralWhole cs).map fun w => (w.1, w.2 ++ t) := by
  rcases cs with _ | ⟨c, cs⟩
  · rcases t with _ | ⟨c, t⟩
    · rfl
    · rcases isSpace_cases ht.head with rfl | rfl | rfl | rfl <;> rfl
  · by_cases h0 : c = '0'
    · subst h0; rfl
    · by_cases hd : '1' ≤ c ∧ c ≤ '9'
      · simp [numeralWhole, hd, List.cons_append, spanDigits_append_blank ht]
      · simp [numeralWhole, hd]

theorem numeralFraction_append_blank (ht : Blank t) (r1 : List Char) :
    numeralFraction (r1 ++ t) = ((numeralFraction r1).1, (numeralFraction r1).2 ++ t) := by
  rcases r1 with _ | ⟨c, _ | ⟨d, r⟩⟩
  · rcases t with _ | ⟨c, t⟩
    · rfl
    · rcases isSpace_cases ht.head with rfl | rfl | rfl | rfl <;> rfl
  · -- a point at the very end is followed by white space, not by a digit
    by_cases hc : c = '.'
    · subst hc
      rcases t with _ | ⟨d, t⟩
      · rfl
      · simp [numeralFraction, isDigit_of_isSpace ht.head]
    · simp [numeralFraction, hc]
  · by_cases hc : c = '.'
    · subst hc
      cases hd : isDigit d <;> simp [numeralFraction, hd, spanDigits_append_blank ht]
    · simp [numeralFraction, hc]

theorem numeralExponent_append_blank (ht : Blank t) (r2 : List Char) :
    numeralExponent (r2 ++ t) =
      ((numeralExponent r2).1, (numeralExponent r2).2.1 ++ t, (numeralExponent r2).2.2) := by
  rcases r2 with _ | ⟨e, _ | ⟨n, r⟩⟩
  · rcases t with _ | ⟨c, _ | ⟨d, t⟩⟩
    · rfl
    · rfl
    · rcases isSpace_cases ht.head with rfl | rfl | rfl | rfl <;> rfl
  · -- a marker at the very end is followed by white space, which holds no digits
    rcases t with _ | ⟨n, t⟩
    · rfl
    · have hn := isSpace_cases ht.head
      have hd := isDigit_of_isSpace ht.head
      simp only [numeralExponent, List.cons_append, List.nil_append]
      split <;> rcases hn with rfl | rfl | rfl | rfl <;> simp_all [spanDigits_cons]
  · simp only [numeralExponent, List.cons_append]
    split
    · rcases r with _ | ⟨c, r⟩
      · -- a sign at the very end is followed by white space, which holds no digits
        rcases t with _ | ⟨c, t⟩
        · simp
        · cases hs : (n == '-' || n == '+') with
          | true =>
            have hn : isDigit n = false := by
              simp only [Bool.or_eq_true, beq_iff_eq] at hs
              rcases hs with rfl | rfl <;> rfl
            simp [hn, spanDigits_cons, spanDigits_blank ht]
          | false =>
            have hb := spanDigits_append_blank ht [n]
            simp only [List.singleton_append] at hb
            simp only [List.nil_append, hb, Bool.false_and, Bool.false_eq_true, if_false]
            split_ifs <;> rfl
      · -- the exponent's digits, if any, end before the white space
        simp only [List.isEmpty_cons, Bool.not_false, Bool.and_true, List.cons_append]
        obtain ⟨eneg, hasSign, body, hlong, hshort⟩ : ∃ eneg hasSign body,
            (if (n == '-' || n == '+') = true then (n == '-', true, c :: (r ++ t))
              else (false, false, n :: c :: (r ++ t))) = (eneg, hasSign, body ++ t) ∧
            (if (n == '-' || n == '+') = true then (n == '-', true, c :: r)
              else (false, false, n :: c :: r)) = (eneg, hasSign, body) := by
          split_ifs
          · exact ⟨_, _, c :: r, rfl, rfl⟩
          · exact ⟨_, _, n :: c :: r, rfl, rfl⟩
        rw [hlong, hshort]
        simp only [spanDigits_append_blank ht body]
        split_ifs <;> rfl
    · rfl

end Stages

theorem readNumber_append_blank {t : List Char} (ht : Blank t) (cs : List Char) (pos : Nat) :
    readNumber (cs ++ t, pos) = (readNumber (cs, pos)).map fun r => (r.1, (r.2.1 ++ t, r.2.2)) := by
  rw [readNumber_eq_stages, readNumber_eq_stages, numeralSign_append_blank ht,
    numeralWhole_append_blank ht]
  cases numeralWhole (numeralSign cs).2 with
  | none => rfl
  | some w =>
    simp only [Option.map_some, numeralFraction_append_blank ht, numeralExponent_append_blank ht]

theorem numeralSign_eq (cs : List Char) : ∃ sign, cs = sign ++ (numeralSign cs).2 := by
  unfold numeralSign
  split
  · exact ⟨['-'], rfl⟩
  · exact ⟨[], rfl⟩

theorem isDigit_of_nonzero {c : Char} (h : '1' ≤ c ∧ c ≤ '9') : isDigit c = true := by
  simp only [isDigit, Bool.and_eq_true, decide_eq_true_eq]
  exact ⟨le_trans (by decide) h.1, h.2⟩

theorem numeralWhole_cut {a w r1 : List Char} (h : numeralWhole a = some (w, r1)) :
    (∃ c rest, a = c :: rest ∧ isDigit c = true) ∧ CutAfter isDigit a r1 := by
  unfold numeralWhole at h
  split at h
  · cases h
    exact ⟨⟨'0', _, rfl, rfl⟩, [], '0', rfl, rfl⟩
  · split at h
    · cases h
      rename_i c r _ hd
      exact ⟨⟨c, r, rfl, isDigit_of_nonzero hd⟩, cut_spanDigits (isDigit_of_nonzero hd) r⟩
    · cases h
  · cases h

theorem numeralFraction_cut (r1 : List Char) :
    r1 = (numeralFraction r1).2 ∨ CutAfter isDigit r1 (numeralFraction r1).2 := by
  unfold numeralFraction
  split
  · split
    · exact .inr ((cut_spanDigits ‹_› _).prepend ['.'])
    · exact .inl rfl
  · exact .inl rfl

theorem numeralExponent_cut (r2 : List Char) :
    r2 = (numeralExponent r2).2.1 ∨ CutAfter isDigit r2 (numeralExponent r2).2.1 := by
  unfold numeralExponent
  split
  · rename_i e next r
    split
    · -- the exponent's digits are read from `body`, after the marker and any sign
      obtain ⟨eneg, hasSign, body, hsel, pre, hpre⟩ : ∃ eneg hasSign body,
          (if ((next == '-' || next == '+') && !r.isEmpty) = true then (next == '-', true, r)
            else (false, false, next :: r)) = (eneg, hasSign, body) ∧
          ∃ pre, e :: next :: r = pre ++ body := by
        split_ifs
        · exact ⟨_, _, _, rfl, [e, next], rfl⟩
        · exact ⟨_, _, _, rfl, [e], rfl⟩
      rw [hsel]
      dsimp only
      split
      · exact .inl rfl
      · rename_i hds
        have hcut : CutAfter isDigit body (spanDigits body).2 :=
          cut_spanDigits_of_ne_nil (by simpa using hds)
        exact .inr (hpre ▸ hcut.prepend pre)
    · exact .inl rfl
  · exact .inl rfl

theorem readNumber_cut {inp : Input} {v : Json} {out : Input} (h : readNumber inp = some (v, out)) :
    (∃ c rest, inp.1 = c :: rest ∧ opensValue c = true) ∧ CutAfter isDigit inp.1 out.1 := by
  obtain ⟨cs, pos⟩ := inp
  rw [readNumber_eq_stages] at h
  split at h
  · cases h
  · rename_i w r1 hw
    simp only [Option.some.injEq, Prod.mk.injEq] at h
    obtain ⟨-, rfl⟩ := h
    obtain ⟨⟨c, rest, hc, hd⟩, hwhole⟩ := numeralWhole_cut hw
    obtain ⟨sign, hsign⟩ := numeralSign_eq cs
    refine ⟨?_, ?_⟩
    · unfold numeralSign at hc
      split at hc
      · exact ⟨'-', _, rfl, rfl⟩
      · exact ⟨c, rest, hc, by simp [opensValue, hd]⟩
    · rw [hsign]
      exact ((hwhole.extend (numeralFraction_cut r1)).extend (numeralExponent_cut _)).prepend sign

theorem readNumber_at {cs : List Char} {pos : Nat} {v : Json} {r : List Char} {p : Nat}
    (h : readNumber (cs, pos) = some (v, (r, p))) (pos' : Nat) :
    ∃ p', readNumber (cs, pos') = some (v, (r, p')) := by
  rw [readNumber_eq_stages] at h ⊢
  split at h
  · cases h
  · -- the position is only carried along
    generalize numeralFraction _ = fr at h ⊢
    obtain ⟨frac, r2⟩ := fr
    generalize numeralExponent r2 = er at h ⊢
    obtain ⟨exp, r3, n⟩ := er
    simp only [Option.some.injEq, Prod.mk.injEq] at h ⊢
    exact ⟨_, h.1, h.2.1, rfl⟩

theorem escapedUnit_cons7 (hi : Nat) (a1 a2 a3 a4 a5 a6 a7 : Char) (tl : List Char) (pos : Nat) :
    escapedUnit hi (a1 :: a2 :: a3 :: a4 :: a5 :: a6 :: a7 :: tl) pos =
      escapedUnit hi [a1, a2, a3, a4, a5, a6, a7] pos := by
  unfold escapedUnit
  split
  · split
    · rename_i heq
      simp only [List.cons.injEq] at heq
      obtain ⟨rfl, rfl, rfl, rfl, rfl, rfl, rfl, -⟩ := heq
      rfl
    · rename_i hno
      split
      · rename_i heq
        simp only [List.cons.injEq] at heq
        obtain ⟨rfl, rfl, rfl, rfl, rfl, rfl, rfl, -⟩ := heq
        exact (hno _ _ _ _ _ tl rfl).elim
      · rfl
  · rfl

theorem escapedUnit_append_of_length (hi : Nat) {pre : List Char} (hpre : pre.length = 7)
    (tl : List Char) (pos : Nat) : escapedUnit hi (pre ++ tl) pos = escapedUnit hi pre pos :=
  match pre, hpre with
  | [a1, a2, a3, a4, a5, a6, a7], _ => escapedUnit_cons7 hi a1 a2 a3 a4 a5 a6 a7 tl pos

theorem escapedUnit_short (hi : Nat) {rest : List Char} (h : rest.length < 7) (pos : Nat) :
    escapedUnit hi rest pos = .ok (codePoint hi, 0) := by
  unfold escapedUnit
  split
  · split
    · simp only [List.length_cons] at h
      omega
    · rfl
  · rfl

theorem escapedUnit_ok {hi : Nat} {rest : List Char} {pos : Nat} {ch : Char} {used : Nat}
    (h : escapedUnit hi rest pos = .ok (ch, used)) :
    (ch = codePoint hi ∧ used = 0) ∨ used = 6 := by
  unfold escapedUnit at h
  split at h
  · split at h
    · split at h
      · cases h
      · split at h
        · simp only [Except.ok.injEq, Prod.mk.injEq] at h
          exact .inr h.2.symm
        · simp only [Except.ok.injEq, Prod.mk.injEq] at h
          exact .inl ⟨h.1.symm, h.2.symm⟩
    · simp only [Except.ok.injEq, Prod.mk.injEq] at h
      exact .inl ⟨h.1.symm, h.2.symm⟩
  · simp only [Except.ok.injEq, Prod.mk.injEq] at h
    exact .inl ⟨h.1.symm, h.2.symm⟩

theorem escapedUnit_ok_at {hi : Nat} {rest : List Char} {pos : Nat} {r : Char × Nat}
    (h : escapedUnit hi rest pos = .ok r) (pos' : Nat) : escapedUnit hi rest pos' = .ok r := by
  unfold escapedUnit at h ⊢
  split at h
  · split at h
    · split at h
      · cases h
      · simp_all
    · simp_all
  · simp_all

theorem escapedUnit_of_append {hi : Nat} {cs t : List Char} {pos : Nat} {ch : Char} {used : Nat}
    (h : escapedUnit hi (cs ++ t) pos = .ok (ch, used)) (hused : used < cs.length) :
    escapedUnit hi cs pos = .ok (ch, used) := by
  by_cases hlen : 7 ≤ cs.length
  · -- the seven characters looked at lie inside `cs`
    have h7 : (cs.take 7).length = 7 := by simp; omega
    rw [← List.take_append_drop 7 cs, List.append_assoc, escapedUnit_append_of_length hi h7] at h
    rwa [← List.take_append_drop 7 cs, escapedUnit_append_of_length hi h7]
  · rcases escapedUnit_ok h with ⟨rfl, rfl⟩ | rfl
    · exact escapedUnit_short hi (by omega) pos
    · omega

theorem readString_cut {start : Nat} {cs : List Char} {pos : Nat} {acc : List Char} {s : String}
    {rest : List Char} {p : Nat} (h : readString start cs pos acc = .ok (s, (rest, p))) :
    CutAfter (· == '"') cs rest := by
  fun_induction readString start cs pos acc with
  | case2 rest pos acc =>
    simp only [Except.ok.injEq, Prod.mk.injEq] at h
    obtain ⟨-, rfl, -⟩ := h
    exact ⟨[], '"', rfl, rfl⟩
  | case7 a b c d rest pos acc _ lo _ ch used _ ih =>
    -- the rest of the string is read after the characters the escape used
    rw [← List.take_append_drop used rest]
    exact (ih h).prepend ('\\' :: 'u' :: a :: b :: c :: d :: rest.take used)
  | case9 e after pos acc _ _ c _ ih => exact (ih h).prepend ['\\', e]
  | case12 c rest pos acc _ _ _ _ _ _ ih => exact (ih h).prepend [c]
  | _ => cases h

theorem readString_blank {start pos : Nat} {t acc : List Char} {s : String} {rest : List Char}
    {p : Nat} (ht : Blank t) (h : readString start t pos acc = .ok (s, (rest, p))) : False :=
  (readString_cut h).not_blank ht (notSpace_beq rfl)

theorem hexValue?_of_isSpace {c : Char} (h : isSpace c = true) : hexValue? c = none := by
  rcases isSpace_cases h with rfl | rfl | rfl | rfl <;> rfl

theorem hex4?_not_space {a b c d : Char} {n : Nat} (h : hex4? a b c d = some n) :
    ∀ x ∈ [a, b, c, d], isSpace x = false := by
  simp only [hex4?, Option.bind_eq_bind, Option.bind_eq_some_iff] at h
  obtain ⟨_, ha, _, hb, _, hc, _, hd, -⟩ := h
  intro x hx
  cases hs : isSpace x with
  | false => rfl
  | true =>
    have hnone := hexValue?_of_isSpace hs
    simp only [List.mem_cons, List.not_mem_nil, or_false] at hx
    rcases hx with rfl | rfl | rfl | rfl <;> simp_all

theorem simpleEscape?_of_isSpace {c : Char} (h : isSpace c = true) : simpleEscape? c = none := by
  rcases isSpace_cases h with rfl | rfl | rfl | rfl <;> rfl

theorem readString_of_append_blank {t : List Char} (ht : Blank t) {start pos : Nat}
    {x acc : List Char} {s : String} {r : List Char} {p : Nat}
    (h : readString start x pos acc = .ok (s, (r ++ t, p))) {cs : List Char} (hx : x = cs ++ t)
    (start' pos' : Nat) : ∃ p', readString start' cs pos' acc = .ok (s, (r, p')) := by
  fun_induction readString start x pos acc generalizing cs pos' with
  | case2 rest pos acc =>
    obtain ⟨cs0, rfl, rfl⟩ :=
      @eq_append_of_append_blank _ _ ['"'] _ hx.symm ht (by simp [isSpace])
    simp only [Except.ok.injEq, Prod.mk.injEq, List.append_cancel_right_eq] at h
    obtain ⟨rfl, rfl, -⟩ := h
    exact ⟨pos' + 1, by rw [List.singleton_append, readString.eq_2]⟩
  | case7 a b c d rest pos acc hne lo hhex ch used hunit ih =>
    obtain ⟨cs0, rfl, rfl⟩ :=
      @eq_append_of_append_blank _ _ ['\\', 'u', a, b, c, d] _ hx.symm ht (by
        intro y hy
        simp only [List.mem_cons] at hy
        rcases hy with rfl | rfl | hy
        · rfl
        · rfl
        · exact hex4?_not_space hhex y (by simpa using hy))
    by_cases hused : used < cs0.length
    · -- the escape and the character it names lie before the white space
      have hunit' := escapedUnit_of_append hunit hused
      obtain ⟨p', hp'⟩ := ih h (List.drop_append_of_le_length (by omega)) (pos' + 6 + used)
      have hne' : cs0.isEmpty = false := by
        cases cs0 with
        | nil => simp at hused
        | cons _ _ => rfl
      refine ⟨p', ?_⟩
      simp only [List.cons_append, List.nil_append]
      rw [readString.eq_4]
      simp [hne', hhex, escapedUnit_ok_at hunit' pos', hp']
    · -- otherwise the string would go on inside the white space
      rw [List.drop_append, List.drop_eq_nil_of_le (by omega), List.nil_append] at h
      exact (readString_blank (ht.drop _) h).elim
  | case9 e after pos acc hnu hu c hc ih =>
    have he : isSpace e = false := by
      cases hs : isSpace e with
      | false => rfl
      | true => rw [simpleEscape?_of_isSpace hs] at hc; cases hc
    obtain ⟨cs0, rfl, rfl⟩ := @eq_append_of_append_blank _ _ ['\\', e] _ hx.symm ht (by
      intro y hy
      simp only [List.mem_cons, List.not_mem_nil, or_false] at hy
      rcases hy with rfl | rfl
      · rfl
      · exact he)
    obtain ⟨p', hp'⟩ := ih h rfl (pos' + 2)
    refine ⟨p', ?_⟩
    simp only [List.cons_append, List.nil_append]
    rw [readString.eq_6 _ _ _ _ _ (fun _ _ _ _ _ hu' _ => hu hu') hu]
    simp [hc, hp']
  | case12 c rest pos acc hq hb1 _ _ hb4 hlow ih =>
    -- a backslash is always read as the start of an escape
    have hbs : c ≠ '\\' := by
      intro hc
      cases rest with
      | nil => exact hb1 hc rfl
      | cons e after => exact hb4 e after hc rfl
    rcases cs with _ | ⟨c', cs0⟩
    · -- the character is white space, and the string would run on in it
      simp only [List.nil_append] at hx
      subst hx
      exact (readString_blank ht.tail h).elim
    · simp only [List.cons_append, List.cons.injEq] at hx
      obtain ⟨rfl, rfl⟩ := hx
      obtain ⟨p', hp'⟩ := ih h rfl (pos' + 1)
      refine ⟨p', ?_⟩
      rw [readString.eq_7 _ _ _ _ _ hq (fun h' => absurd h' hbs) (fun _ _ _ _ _ h' => absurd h' hbs)
        (fun _ h' => absurd h' hbs) (fun _ _ h' => absurd h' hbs)]
      simp [hlow, hp']
  | _ => cases h

end VideoStats.Json
