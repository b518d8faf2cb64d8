import VideoStats.Proofs.FirstWay
import VideoStats.Proofs.NormalForm
import VideoStats.Proofs.Replies

set_option autoImplicit false

namespace VideoStats

namespace Text

open Pattern

theorem isWordChar_of_isDigit {c : Char} (h : c.isDigit = true) : isWordChar c = true := by
  have hc : 48 ≤ c.toNat ∧ c.toNat ≤ 57 := Char.isDigit_iff_toNat.1 h
  have hsmall : c.toNat < 128 := by omega
  simp [isWordChar, isAlnum, hsmall, Char.isAlphanum, h]

theorem space_not_word : isWordChar ' ' = false := by decide

theorem head?_word_append {s : String} {ws : List Char} {b : Option Char} {ys : List Char}
    (hs : s.toList = ws) : (word s ⟨b, ws ++ ys⟩).head? = some ((), ⟨ws.getLast?.or b, ys⟩) := by
  subst hs
  rw [head?_word (List.prefix_append _ _), ← String.length_toList, Cursor.advance_append]

theorem blanks1_single {b : Option Char} {x : Char} {ys : List Char} (hx : isBlank x = true)
    (hys : ∀ y ∈ ys.head?, isBlank y = false) :
    blanks1 ⟨b, x :: ys⟩ = [((), ⟨some x, ys⟩)] := by
  have htake : (x :: ys).takeWhile isBlank = [x] := by
    cases ys with
    | nil => simp [hx]
    | cons y ys' => simp [hx, hys y rfl]
  simp only [blanks1, run, andThen, htake]
  rw [run_of_eq (by rfl)]
  rfl

theorem head?_blanks1_single {b : Option Char} {x : Char} {ys : List Char}
    (hx : isBlank x = true) (hys : ∀ y ∈ ys.head?, isBlank y = false) :
    (blanks1 ⟨b, x :: ys⟩).head? = some ((), ⟨some x, ys⟩) := by
  rw [blanks1_single hx hys]
  rfl

theorem not_blank_head {y : Char} {ys : List Char} (hy : isBlank y = false) :
    ∀ z ∈ (y :: ys).head?, isBlank z = false := by
  intro z hz
  rw [List.head?_cons, Option.mem_some_iff] at hz
  subst hz
  exact hy

theorem head?_digits {lo hi : Nat} {b : Option Char} {ds ys : List Char} {y : Char}
    (hds : ∀ x ∈ ds, x.isDigit = true) (hy : isDecimal y = false) (hlo : lo ≤ ds.length)
    (hhi : ds.length ≤ hi) :
    (digits lo hi ⟨b, ds ++ y :: ys⟩).head? = some (ds, ⟨ds.getLast?.or b, y :: ys⟩) := by
  have htake : ((ds ++ y :: ys).takeWhile isDecimal).take hi = ds := by
    rw [takeWhile_stop (fun x hx => Bot.isDecimal_of_isDigit (hds x hx)) hy,
      List.take_of_length_le hhi]
  simp only [digits, run, htake]
  rw [head?_run_of_le hlo, Cursor.advance_append]

theorem digits_eq_nil {lo hi : Nat} {b : Option Char} {ys : List Char}
    (hfew : ((ys.takeWhile isDecimal).take hi).length < lo) : digits lo hi ⟨b, ys⟩ = [] := by
  simp only [digits, run]
  exact run_eq_nil_of_lt hfew

end Text

namespace Question

open Text Pattern

/-- `ds` writes `n` in one or two ASCII digits. -/
structure ShortNumeral (ds : List Char) (n : Nat) : Prop where
  ne_nil : ds ≠ []
  length_le : ds.length ≤ 2
  digit : ∀ x ∈ ds, x.isDigit = true
  value : digitsValue? ds = some n

theorem ShortNumeral.head_not_blank {ds : List Char} {n : Nat} (h : ShortNumeral ds n)
    (ys : List Char) : ∀ y ∈ (ds ++ ys).head?, isBlank y = false := by
  obtain ⟨x, xs, rfl⟩ := List.exists_cons_of_ne_nil h.ne_nil
  rw [List.cons_append]
  exact not_blank_head (Bot.isBlank_of_isDigit (h.digit _ List.mem_cons_self))

theorem ShortNumeral.boundary_space {ds : List Char} {n : Nat} (h : ShortNumeral ds n)
    (b : Option Char) : isBoundary (ds.getLast?.or b) (some ' ') = true := by
  obtain ⟨x, hx⟩ := Option.isSome_iff_exists.1 (List.getLast?_isSome.2 h.ne_nil)
  have hdigit := h.digit x (List.mem_of_getLast? hx)
  simp [hx, isBoundary, isWordChar_of_isDigit hdigit, space_not_word]

theorem space_not_decimal : isDecimal ' ' = false := by decide

theorem toList_s : "с".toList = ['с'] := by simp only [String.reduceToList]

theorem toList_do : "до".toList = ['д', 'о'] := by simp only [String.reduceToList]

theorem head?_minutes {b : Option Char} {d rest : List Char} {day : Nat} (hd : ShortNumeral d day) :
    (optional (andThen blanks1 fun _ => digits 2 2) ⟨b, ' ' :: (d ++ ' ' :: rest)⟩).head? =
      some (if d.length = 2 then some d else none,
        if d.length = 2 then ⟨d.getLast?.or (some ' '), ' ' :: rest⟩
        else ⟨b, ' ' :: (d ++ ' ' :: rest)⟩) := by
  have hblank := @blanks1_single b ' ' _ space_isBlank (hd.head_not_blank (' ' :: rest))
  have hlen := hd.length_le
  by_cases htwo : d.length = 2
  · rw [if_pos htwo, if_pos htwo]
    refine head?_optional_of_head (head?_andThen (head?_blanks1_single space_isBlank
      (hd.head_not_blank (' ' :: rest))) ?_)
    exact head?_digits hd.digit space_not_decimal (by omega) (by omega)
  · -- one digit is too few for minutes
    rw [if_neg htwo, if_neg htwo]
    have hpos := List.length_pos_iff.2 hd.ne_nil
    refine head?_optional_of_nil (andThen_eq_nil_of_forall fun x hx => ?_)
    rw [hblank, List.mem_singleton] at hx
    subst hx
    refine digits_eq_nil ?_
    rw [takeWhile_stop (fun x hx => Bot.isDecimal_of_isDigit (hd.digit x hx)) space_not_decimal,
      List.take_of_length_le (by omega)]
    omega

theorem windowWords_head {b : Option Char} {h₁ h₂ d rest : List Char} {a₁ a₂ day : Nat}
    (hb : isBoundary b (some 'с') = true) (h₁n : ShortNumeral h₁ a₁) (h₂n : ShortNumeral h₂ a₂)
    (hdn : ShortNumeral d day) :
    ∃ c, (windowWords
      ⟨b, 'с' :: ' ' :: (h₁ ++ ' ' :: 'д' :: 'о' :: ' ' :: (h₂ ++ ' ' :: (d ++ ' ' :: rest)))⟩).head? =
        some (⟨h₁, none, h₂, if d.length = 2 then some d else none⟩, c) := by
  simp only [windowWords, bind_eq, pure_eq]
  -- `с` at a word boundary, then one blank
  apply Exists.intro
  refine head?_andThen (head?_boundary hb) ?_
  refine head?_andThen (@head?_word_append "с" ['с'] b _ toList_s) ?_
  refine head?_andThen (head?_blanks1_single space_isBlank (h₁n.head_not_blank _)) ?_
  -- the first hour, and no minutes: `до` follows its blank
  refine head?_andThen (head?_digits h₁n.digit space_not_decimal
    (List.length_pos_iff.2 h₁n.ne_nil) h₁n.length_le) ?_
  refine head?_andThen (head?_optional_of_nil (andThen_eq_nil_of_forall fun x hx => ?_)) ?_
  · rw [blanks1_single space_isBlank (not_blank_head (by decide)), List.mem_singleton] at hx
    subst hx
    exact digits_eq_nil (by rw [List.takeWhile_cons_of_neg (by decide)]; decide)
  refine head?_andThen (head?_blanks1_single space_isBlank (not_blank_head (by decide))) ?_
  refine head?_andThen (@head?_word_append "до" ['д', 'о'] _ _ toList_do) ?_
  refine head?_andThen (head?_blanks1_single space_isBlank (h₂n.head_not_blank _)) ?_
  -- the second hour, then the day as minutes if it has two digits
  refine head?_andThen (head?_digits h₂n.digit space_not_decimal
    (List.length_pos_iff.2 h₂n.ne_nil) h₂n.length_le) ?_
  refine head?_andThen (head?_minutes hdn) ?_
  refine head?_andThen (head?_boundary ?_) (head?_unit _ _)
  split
  · exact hdn.boundary_space _
  · exact h₂n.boundary_space _

theorem clockOf?_hour {ds : List Char} {n : Nat} (hn : ShortNumeral ds n) (h24 : n < 24) :
    clockOf? ds none = some ⟨n, 0, 0, 0⟩ := by
  simp [clockOf?, hn.value, h24]

theorem clockOf?_minutes {ds ms : List Char} {n m : Nat} (hn : ShortNumeral ds n)
    (hm : ShortNumeral ms m) (h24 : n < 24) (h60 : m < 60) :
    clockOf? ds (some ms) = some ⟨n, m, 0, 0⟩ := by
  simp [clockOf?, hn.value, hm.value, h24, h60]

theorem window_reads_day_as_minutes {t : String} {pre h₁ h₂ d rest : List Char} {a₁ a₂ day : Nat}
    (ht : t.toList =
      pre ++ 'с' :: ' ' :: (h₁ ++ ' ' :: 'д' :: 'о' :: ' ' :: (h₂ ++ ' ' :: (d ++ ' ' :: rest))))
    (hbound : isBoundary pre.getLast? (some 'с') = true)
    (hfirst : ∀ k < pre.length, windowWords (Cursor.at t.toList k) = [])
    (h₁n : ShortNumeral h₁ a₁) (h₂n : ShortNumeral h₂ a₂) (hdn : ShortNumeral d day)
    (hle : a₁ ≤ a₂) (h24 : a₂ < 24) (hday : day < 60) :
    timeWindow? t = .ok (some ⟨⟨a₁, 0, 0, 0⟩, ⟨a₂, if d.length = 2 then day else 0, 0, 0⟩⟩) := by
  -- the search stops at `с`, with the first way of the pattern there
  obtain ⟨c, hhead⟩ : ∃ c, (windowWords (Cursor.at t.toList pre.length)).head? =
      some (⟨h₁, none, h₂, if d.length = 2 then some d else none⟩, c) := by
    rw [ht, Cursor.at_append]
    exact windowWords_head hbound h₁n h₂n hdn
  have hsearch : search? windowWords t.toList =
      some ⟨h₁, none, h₂, if d.length = 2 then some d else none⟩ :=
    search?_of_first (by rw [ht, List.length_append]; omega) hfirst hhead
  -- both ends are times of day
  have hstart := clockOf?_hour h₁n (by omega)
  have hstop : clockOf? h₂ (if d.length = 2 then some d else none) =
      some ⟨a₂, if d.length = 2 then day else 0, 0, 0⟩ := by
    split
    · exact clockOf?_minutes h₂n hdn h24 hday
    · exact clockOf?_hour h₂n h24
  have hwindow : windowOf? t = some ⟨⟨a₁, 0, 0, 0⟩, ⟨a₂, if d.length = 2 then day else 0, 0, 0⟩⟩ := by
    simp only [windowOf?, hsearch, Option.bind_eq_bind, Option.bind_some, hstart, hstop]
    rfl
  -- and the window is in order
  have hordered : ¬ (⟨a₂, if d.length = 2 then day else 0, 0, 0⟩ : TimeOfDay) < ⟨a₁, 0, 0, 0⟩ := by
    show ¬ TimeOfDay.key _ < TimeOfDay.key _
    simp only [TimeOfDay.key]
    split <;> omega
  simp only [timeWindow?, hwindow]
  rw [TimeWindow.check, if_neg hordered]
  rfl

theorem windowBeforeDate_ends_at_day :
    timeWindow? "с 10 до 15 28 ноября" = .ok (some ⟨⟨10, 0, 0, 0⟩, ⟨15, 28, 0, 0⟩⟩) := by
  have ht : "с 10 до 15 28 ноября".toList = [] ++ 'с' :: ' ' :: (['1', '0'] ++ ' ' :: 'д' :: 'о' ::
      ' ' :: (['1', '5'] ++ ' ' :: (['2', '8'] ++ ' ' :: "ноября".toList))) := by
    simp only [String.reduceToList]
    rfl
  have hten : ShortNumeral ['1', '0'] 10 := ⟨by simp, by simp, List.all_eq_true.1 rfl, rfl⟩
  have hfifteen : ShortNumeral ['1', '5'] 15 := ⟨by simp, by simp, List.all_eq_true.1 rfl, rfl⟩
  have hday : ShortNumeral ['2', '8'] 28 := ⟨by simp, by simp, List.all_eq_true.1 rfl, rfl⟩
  exact window_reads_day_as_minutes ht (by decide) (fun k hk => absurd hk (Nat.not_lt_zero k))
    hten hfifteen hday (by omega) (by omega) (by omega)

end Question

end VideoStats
