import Mathlib
import VideoStats.Chat.Exchange
import VideoStats.Proofs.JsonDocument
import VideoStats.Proofs.NormalForm

set_option autoImplicit false

namespace VideoStats.Chat

open Text Json

def fence : String := String.ofList (List.replicate 3 (Char.ofNat 96))

/-- How an answer wraps a document: bare, or in a code fence. -/
inductive Wrapping where
  | bare
  | fenced (tagged openBreak closeBreak : Bool)
  deriving DecidableEq, Repr

def Wrapping.wrap : Wrapping → String → String
  | .bare, s => s
  | .fenced tagged openBreak closeBreak, s =>
    fence ++ (if tagged then "json" else "") ++ (if openBreak then "\n" else "") ++ s ++
      (if closeBreak then "\n" else "") ++ fence

structure Sturdy (c : Char) : Prop where
  notBlank : isBlank c = false
  notTick : c ≠ Char.ofNat 96
  notTag : c ≠ 'j'

theorem isBlank_of_isDigit {c : Char} (h : isDigit c = true) : isBlank c = false := by
  simp only [isDigit, Bool.and_eq_true, decide_eq_true_eq, Char.le_def,
    UInt32.le_iff_toNat_le, Char.toNat_val] at h
  simp only [isBlank, inRanges, blankRanges, List.any_cons, List.any_nil, Bool.or_false,
    Bool.or_eq_false_iff, Bool.and_eq_false_iff, decide_eq_false_iff_not, Nat.not_le]
  simp only [Char.reduceToNat] at h
  omega

theorem sturdy_of_isDigit {c : Char} (h : isDigit c = true) : Sturdy c :=
  ⟨isBlank_of_isDigit h, by rintro rfl; exact absurd h (by decide),
    by rintro rfl; exact absurd h (by decide)⟩

theorem sturdy_of_opensValue {c : Char} (h : opensValue c = true) : Sturdy c := by
  simp only [opensValue, Bool.or_eq_true] at h
  rcases h with h | hd
  · simp only [beq_iff_eq] at h
    rcases h with ((((((((rfl | rfl) | rfl) | rfl) | rfl) | rfl) | rfl) | rfl) | rfl) <;>
      exact ⟨by decide, by decide, by decide⟩
  · exact sturdy_of_isDigit hd

theorem sturdy_of_closesValue {c : Char} (h : closesValue c = true) : Sturdy c := by
  simp only [closesValue, Bool.or_eq_true] at h
  rcases h with h | hd
  · simp only [beq_iff_eq] at h
    rcases h with (((((rfl | rfl) | rfl) | rfl) | rfl) | rfl) | rfl <;>
      exact ⟨by decide, by decide, by decide⟩
  · exact sturdy_of_isDigit hd

theorem isBlank_of_isSpace {c : Char} (h : isSpace c = true) :
    isBlank c = true ∧ c ≠ Char.ofNat 96 ∧ c ≠ 'j' := by
  rcases isSpace_cases h with rfl | rfl | rfl | rfl <;> exact ⟨by decide, by decide, by decide⟩

section Strip

variable {p : Char → Bool}

theorem dropWhile_append_of_head {a m : List Char} (ha : ∀ x ∈ a, p x = true)
    (hm : ∀ x ∈ m.head?, p x = false) : (a ++ m).dropWhile p = m := by
  rw [List.dropWhile_append_of_pos ha]
  cases m with
  | nil => rfl
  | cons c rest => exact List.dropWhile_cons_of_neg (by simp [hm c rfl])

theorem strip_around {a m b : List Char} (ha : ∀ x ∈ a, p x = true) (hb : ∀ x ∈ b, p x = true)
    (hne : m ≠ []) (hfirst : ∀ x ∈ m.head?, p x = false) (hlast : ∀ x ∈ m.getLast?, p x = false) :
    (((a ++ m ++ b).dropWhile p).reverse.dropWhile p).reverse = m := by
  have hfront : (a ++ m ++ b).dropWhile p = m ++ b := by
    rw [List.append_assoc, dropWhile_append_of_head ha]
    rwa [List.head?_append_of_ne_nil _ hne]
  have hback : (m ++ b).reverse.dropWhile p = m.reverse := by
    rw [List.reverse_append]
    exact dropWhile_append_of_head (fun x hx => hb x (List.mem_reverse.1 hx))
      (by rwa [List.head?_reverse])
  rw [hfront, hback, List.reverse_reverse]

end Strip

section Ends

variable {q : Char → Prop}

theorem head?_append_of_forall {pre m : List Char} (hpre : ∀ x ∈ pre, q x)
    (hm : ∀ x ∈ m.head?, q x) : ∀ x ∈ (pre ++ m).head?, q x := by
  cases pre with
  | nil => simpa using hm
  | cons c rest =>
    intro x hx
    simp only [List.cons_append, List.head?_cons, Option.mem_def, Option.some.injEq] at hx
    subst hx
    exact hpre _ List.mem_cons_self

theorem getLast?_append_of_forall {m post : List Char} (hm : ∀ x ∈ m.getLast?, q x)
    (hpost : ∀ x ∈ post, q x) : ∀ x ∈ (m ++ post).getLast?, q x := by
  intro x hx
  rw [List.getLast?_append] at hx
  cases hp : post.getLast? with
  | none => rw [hp, Option.none_or] at hx; exact hm x hx
  | some y =>
    rw [hp, Option.some_or, Option.mem_def, Option.some.injEq] at hx
    subst hx
    exact hpost _ (List.mem_of_getLast? hp)

end Ends

end VideoStats.Chat

namespace VideoStats.Json.Padded

open Chat Text

variable {doc core : List Char}

theorem ne_nil (h : Padded doc core) : doc ≠ [] := by
  obtain ⟨before, after, rfl, -, -⟩ := h.around
  obtain ⟨c, rest, rfl, -⟩ := h.opens
  simp

theorem first (h : Padded doc core) : ∀ x ∈ doc.head?, x ≠ Char.ofNat 96 ∧ x ≠ 'j' := by
  obtain ⟨before, after, rfl, hb, -⟩ := h.around
  obtain ⟨c, rest, rfl, hc⟩ := h.opens
  rw [List.append_assoc]
  refine head?_append_of_forall (fun x hx => (isBlank_of_isSpace (hb x hx)).2) fun x hx => ?_
  simp only [List.cons_append, List.head?_cons, Option.mem_def, Option.some.injEq] at hx
  subst hx
  exact ⟨(sturdy_of_opensValue hc).notTick, (sturdy_of_opensValue hc).notTag⟩

theorem last (h : Padded doc core) : ∀ x ∈ doc.getLast?, x ≠ Char.ofNat 96 := by
  obtain ⟨before, after, rfl, -, ha⟩ := h.around
  obtain ⟨pre, c, rfl, hc⟩ := h.closes
  refine getLast?_append_of_forall (fun x hx => ?_) fun x hx => (isBlank_of_isSpace (ha x hx)).2.1
  rw [← List.append_assoc, List.getLast?_concat, Option.mem_def, Option.some.injEq] at hx
  subst hx
  exact (sturdy_of_closesValue hc).notTick

theorem pad (h : Padded doc core) {l r : List Char} (hl : Blank l) (hr : Blank r) :
    Padded (l ++ doc ++ r) core := by
  obtain ⟨before, after, rfl, hb, ha⟩ := h.around
  refine ⟨⟨l ++ before, after ++ r, by simp, ?_, ?_⟩, h.opens, h.closes⟩
  · intro x hx
    rcases List.mem_append.1 hx with hx | hx
    · exact hl x hx
    · exact hb x hx
  · intro x hx
    rcases List.mem_append.1 hx with hx | hx
    · exact ha x hx
    · exact hr x hx

end VideoStats.Json.Padded

namespace VideoStats.Chat

open Text Json

theorem trim_padded {doc core : List Char} (h : Padded doc core) : trim doc = core := by
  obtain ⟨before, after, rfl, hb, ha⟩ := h.around
  obtain ⟨c, rest, rfl, hc⟩ := h.opens
  obtain ⟨pre, d, hpre, hd⟩ := h.closes
  refine strip_around (fun x hx => (isBlank_of_isSpace (hb x hx)).1)
    (fun x hx => (isBlank_of_isSpace (ha x hx)).1) (List.cons_ne_nil c rest) ?_ ?_
  · intro x hx
    simp only [List.head?_cons, Option.mem_def, Option.some.injEq] at hx
    exact hx ▸ (sturdy_of_opensValue hc).notBlank
  · intro x hx
    rw [hpre, List.getLast?_concat, Option.mem_def, Option.some.injEq] at hx
    exact hx ▸ (sturdy_of_closesValue hd).notBlank

theorem unfence_of_fenced {text : String} {m : List Char}
    (htext : text.toList =
      List.replicate 3 (Char.ofNat 96) ++ m ++ List.replicate 3 (Char.ofNat 96))
    (hne : m ≠ []) (hfirst : ∀ x ∈ m.head?, x ≠ Char.ofNat 96)
    (hlast : ∀ x ∈ m.getLast?, x ≠ Char.ofNat 96) :
    unfence text =
      String.ofList (trim (if (String.ofList m).startsWith "json" then m.drop 4 else m)) := by
  have hends : Trimmed text.toList := by
    rw [htext]
    refine ⟨fun x hx => ?_, fun x hx => ?_⟩
    · simp only [List.replicate_succ, List.replicate_zero, List.cons_append, List.head?_cons,
        Option.mem_def, Option.some.injEq] at hx
      subst hx
      decide
    · rw [List.getLast?_append, List.getLast?_replicate] at hx
      simp only [Nat.succ_ne_zero, if_false, Option.some_or, Option.mem_def,
        Option.some.injEq] at hx
      subst hx
      decide
  have hstrip : stripAny [Char.ofNat 96] (String.ofList text.toList) = String.ofList m := by
    unfold stripAny
    rw [String.toList_ofList, htext]
    congr 1
    exact strip_around (by simp) (by simp) hne (fun x hx => by simp [hfirst x hx])
      (fun x hx => by simp [hlast x hx])
  unfold unfence
  simp only [trim_eq_self hends, hstrip, String.toList_ofList]
  rw [if_pos (by rw [htext]; simp)]
  by_cases hj : (String.ofList m).startsWith "json" <;> simp [hj]

theorem blank_break (b : Bool) : Blank (if b then "\n" else "").toList := by
  intro x hx
  cases b with
  | true =>
    simp only [if_true, show "\n".toList = ['\n'] from rfl, List.mem_singleton] at hx
    subst hx
    rfl
  | false => simp at hx

theorem unfence_bare {s : String} {core : List Char} (h : Padded s.toList core) :
    unfence s = String.ofList core := by
  obtain ⟨c, rest, hc, hopen⟩ := h.opens
  unfold unfence
  simp only [trim_padded h, hc]
  -- the value does not start with a backtick, so the text is not fenced
  rw [if_neg]
  simp only [List.take_succ_cons, beq_iff_eq, List.cons.injEq, not_and]
  exact fun hc => absurd hc (sturdy_of_opensValue hopen).notTick

theorem unfence_fenced (tagged o cl : Bool) {s : String} {core : List Char}
    (h : Padded s.toList core) :
    unfence ((Wrapping.fenced tagged o cl).wrap s) = String.ofList core := by
  have htext : ((Wrapping.fenced tagged o cl).wrap s).toList =
      List.replicate 3 (Char.ofNat 96) ++ ((if tagged then "json" else "").toList ++
        ((if o then "\n" else "").toList ++ s.toList ++ (if cl then "\n" else "").toList)) ++
      List.replicate 3 (Char.ofNat 96) := by
    simp only [Wrapping.wrap, fence, String.toList_append, String.toList_ofList, List.append_assoc]
  -- inside the fence, the document with its line breaks is still padded with white space
  have hpad := h.pad (blank_break o) (blank_break cl)
  generalize (if o then "\n" else "").toList ++ s.toList ++ (if cl then "\n" else "").toList = W
    at hpad htext
  have htag : "json".toList = ['j', 's', 'o', 'n'] := rfl
  rw [unfence_of_fenced htext (List.append_ne_nil_of_right_ne_nil _ hpad.ne_nil) ?first ?last]
  case first =>
    refine head?_append_of_forall (fun x hx => ?_) fun x hx => (hpad.first x hx).1
    cases tagged with
    | true =>
      rw [if_pos rfl, htag] at hx
      simp only [List.mem_cons, List.not_mem_nil, or_false] at hx
      rcases hx with rfl | rfl | rfl | rfl <;> decide
    | false => simp at hx
  case last =>
    rw [List.getLast?_append_of_ne_nil _ hpad.ne_nil]
    exact hpad.last
  cases tagged with
  | true =>
    -- the tag is dropped
    have hj : (String.ofList ("json".toList ++ W)).startsWith "json" = true := by
      simp only [String.startsWith_string_iff, String.toList_ofList, htag]
      exact List.prefix_append _ _
    rw [if_pos rfl, if_pos hj, htag,
      List.drop_left' (show (['j', 's', 'o', 'n'] : List Char).length = 4 from rfl),
      trim_padded hpad]
  | false =>
    -- nothing after the fence reads as a tag
    have hnotag : (String.ofList W).startsWith "json" = false := by
      simp only [String.startsWith_string_eq_false_iff, String.toList_ofList, htag]
      rintro ⟨rest, hrest⟩
      exact (hpad.first 'j' (by rw [← hrest]; rfl)).2 rfl
    simp only [Bool.false_eq_true, if_false, String.toList_empty, List.nil_append, hnotag]
    rw [trim_padded hpad]

theorem unfence_wrap (w : Wrapping) {s : String} {core : List Char} (h : Padded s.toList core) :
    unfence (w.wrap s) = String.ofList core := by
  cases w with
  | bare => exact unfence_bare h
  | fenced tagged o cl => exact unfence_fenced tagged o cl h

theorem unfence_keeps_document (w : Wrapping) {s : String} {v : Json}
    (h : Json.read s.toList = .ok v) : Json.read (unfence (w.wrap s)).toList = .ok v := by
  obtain ⟨core, hpad, hcore⟩ := read_eq_ok_core h
  rw [unfence_wrap w hpad, String.toList_ofList]
  exact hcore

theorem fencedNull_read : Json.read "null".toList = .ok .null ∧
    Json.read (unfence ((Wrapping.fenced true true true).wrap "null")).toList = .ok .null := by
  have hnull : Json.read "null".toList = .ok .null := by
    rw [show "null".toList = ['n', 'u', 'l', 'l'] from rfl]
    unfold Json.read
    rw [skipSpace_of_not_space rfl, readValue.eq_5, Except.ok_bind]
    simp only [skipSpace.eq_2]
    rfl
  exact ⟨hnull, unfence_keeps_document (Wrapping.fenced true true true) hnull⟩

end VideoStats.Chat
