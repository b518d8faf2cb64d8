import VideoStats.Proofs.Calendar
import VideoStats.Proofs.Accepted

set_option autoImplicit false

namespace VideoStats

namespace DateText

open Text

theorem firstAt_eq_some {α : Type} {f : Option Char → Option Char → List Char → Option α}
    {p1 p2 : Option Char} {cs : List Char} {a : α} (h : firstAt f p1 p2 cs = some a) :
    ∃ q1 q2 ds, f q1 q2 ds = some a := by
  induction cs generalizing p1 p2 with
  | nil => exact ⟨p1, p2, [], h⟩
  | cons c rest ih =>
    simp only [firstAt] at h
    split at h
    · rename_i a' ha
      cases h
      exact ⟨p1, p2, _, ha⟩
    · exact ih h

theorem orElse_eq_some {α : Type} {x : Option α} {f : Unit → Option α} {a : α}
    (h : x.orElse f = some a) : x = some a ∨ f () = some a := by
  cases x with
  | none => exact .inr h
  | some b => exact .inl h

theorem monthName_bounds {names : List String} {cs rest : List Char} {m : Nat}
    (h : monthName names cs = some (m, rest)) : 1 ≤ m ∧ m ≤ 12 := by
  simp only [monthName, Option.map_eq_some_iff] at h
  obtain ⟨⟨n, i⟩, hfind, hm⟩ := h
  -- the month is one past the place of its name, and the places run up to eleven
  have hmem := List.of_mem_zip (List.mem_of_find?_eq_some hfind)
  simp only [Prod.mk.injEq] at hm
  simp only [List.mem_range] at hmem
  omega

theorem monthYearAt_bounds {names : List String} {before : Option Char} {cs : List Char}
    {y m : Nat} (h : monthYearAt names before cs = some (.month y m)) : 1 ≤ m ∧ m ≤ 12 := by
  unfold monthYearAt at h
  split at h
  · cases h
  · rcases hname : monthName names cs with _ | ⟨m', rest⟩
    · simp [hname] at h
    · simp only [hname, Option.bind_eq_bind, Option.bind_some, Option.bind_eq_some_iff] at h
      obtain ⟨_, _, _, _, hpd⟩ := h
      cases hpd
      exact monthName_bounds hname

theorem inMonthAt_bounds {b : Option Char} {cs : List Char} {y m : Nat}
    (h : inMonthAt b cs = some (.month y m)) : 1 ≤ m ∧ m ≤ 12 := by
  unfold inMonthAt at h
  split at h
  · cases h
  · simp only [Option.bind_eq_bind, Option.bind_eq_some_iff] at h
    obtain ⟨_, _, _, _, hmonth⟩ := h
    exact monthYearAt_bounds hmonth

theorem genitiveMonthAt_bounds {b b2 : Option Char} {cs : List Char} {y m : Nat}
    (h : genitiveMonthAt b b2 cs = some (.month y m)) : 1 ≤ m ∧ m ≤ 12 := by
  unfold genitiveMonthAt at h
  dsimp only at h
  split at h
  · cases h
  · exact monthYearAt_bounds h

theorem sameMonthRangeAt_ne_month {b : Option Char} {cs : List Char} {y m : Nat} :
    sameMonthRangeAt b cs ≠ some (.month y m) := by
  unfold sameMonthRangeAt
  split
  · simp
  · simp [Option.bind_eq_some_iff]

theorem crossMonthRangeAt_ne_month {b : Option Char} {cs : List Char} {y m : Nat} :
    crossMonthRangeAt b cs ≠ some (.month y m) := by
  unfold crossMonthRangeAt
  split
  · simp
  · simp [Option.bind_eq_some_iff]

theorem phraseDate?_month_bounds {cs : List Char} {y m : Nat}
    (h : phraseDate? cs = some (.month y m)) : 1 ≤ m ∧ m ≤ 12 := by
  unfold phraseDate? at h
  rcases orElse_eq_some h with h | h
  · obtain ⟨_, _, _, hf⟩ := firstAt_eq_some h
    exact absurd hf sameMonthRangeAt_ne_month
  rcases orElse_eq_some h with h | h
  · obtain ⟨_, _, _, hf⟩ := firstAt_eq_some h
    exact absurd hf crossMonthRangeAt_ne_month
  rcases orElse_eq_some h with h | h
  · obtain ⟨_, _, _, hf⟩ := firstAt_eq_some h
    exact inMonthAt_bounds hf
  rcases orElse_eq_some h with h | h
  · obtain ⟨_, _, _, hf⟩ := firstAt_eq_some h
    exact monthYearAt_bounds hf
  · obtain ⟨_, _, _, hf⟩ := firstAt_eq_some h
    exact genitiveMonthAt_bounds hf

theorem phraseDate?_nil : phraseDate? [] = none := by decide

theorem PhraseDate.days_month {y m : Nat} (hy : 1 ≤ y) (hy' : y ≤ 9999) (hm : 1 ≤ m)
    (hm' : m ≤ 12) : (PhraseDate.month y m).days = .ok (⟨y, m, 1⟩, Day.lastOfMonth y m) := by
  have hlen := (Day.monthLength_bounds y m).1
  have hfirst : Day.make y m 1 = .ok ⟨y, m, 1⟩ :=
    Day.make_ok hy hy' hm hm' (Nat.le_refl 1) (Nat.le_trans (by decide) hlen)
  have hlast : Day.make y m (Day.monthLength y m) = .ok (Day.lastOfMonth y m) :=
    Day.make_ok hy hy' hm hm' (by omega) (Nat.le_refl _)
  simp only [PhraseDate.days, hfirst, hlast, Except.ok_bind]
  rfl

theorem PhraseDate.days_ordered {p : PhraseDate} {a b : Day} (h : p.days = .ok (a, b)) :
    a ≤ b := by
  cases p with
  | range y m1 d1 m2 d2 =>
    simp only [PhraseDate.days, Except.bind_eq_ok, Except.pure_eq_ok] at h
    obtain ⟨a', _, b', _, hab⟩ := h
    rw [Day.le_def]
    split at hab
    · rename_i hle
      cases hab
      exact hle
    · rename_i hgt
      cases hab
      exact Nat.le_of_lt (Nat.lt_of_not_le hgt)
  | month y m =>
    simp only [PhraseDate.days, Except.bind_eq_ok, Except.pure_eq_ok] at h
    obtain ⟨a', ha, b', hb, hab⟩ := h
    cases hab
    obtain ⟨rfl, _⟩ := Day.make_eq_ok ha
    obtain ⟨rfl, hpos⟩ := Day.make_eq_ok hb
    rw [Day.le_def]
    simp only [Day.key]
    omega

theorem PhraseDate.days_valid {p : PhraseDate} {a b : Day} (h : p.days = .ok (a, b)) :
    a.Valid ∧ b.Valid := by
  cases p with
  | range y m1 d1 m2 d2 =>
    simp only [PhraseDate.days, Except.bind_eq_ok, Except.pure_eq_ok] at h
    obtain ⟨a', ha, b', hb, hab⟩ := h
    split at hab
    · cases hab
      exact ⟨Day.make_valid ha, Day.make_valid hb⟩
    · cases hab
      exact ⟨Day.make_valid hb, Day.make_valid ha⟩
  | month y m =>
    simp only [PhraseDate.days, Except.bind_eq_ok, Except.pure_eq_ok] at h
    obtain ⟨a', ha, b', hb, hab⟩ := h
    cases hab
    exact ⟨Day.make_valid ha, Day.make_valid hb⟩

/-- The days of the found dates that carry a year, in the order they stand. -/
def datedDays (dates : Parser) (now : Moment) (value : List Char) : List Day :=
  ((dates.searchDates now (String.ofList value)).filter (carriesYear ·.1)).map (·.2.day)

theorem datedDays_valid {dates : Parser} (hdates : dates.GivesValidDays) (now : Moment)
    (value : List Char) : ∀ d ∈ datedDays dates now value, d.Valid := by
  intro d hd
  obtain ⟨found, hfound, rfl⟩ := List.mem_map.1 hd
  exact hdates.1 now _ found (List.mem_filter.1 hfound).1

theorem dayRange_ordered_unless_dated {dates : Parser} {now : Moment} {text : String}
    {a b : Day} (h : dayRange dates now text = .ok (some (a, b))) :
    a ≤ b ∨ (phraseDate? (lower (trim text.toList)) = none ∧
      ∃ rest, datedDays dates now (lower (trim text.toList)) = a :: b :: rest) := by
  unfold dayRange at h
  dsimp only at h
  split at h
  · cases h
  · split at h
    · rename_i p _
      cases hdays : p.days with
      | error e => simp [hdays, Except.map] at h
      | ok ab =>
        simp only [hdays, Except.map, Except.ok.injEq, Option.some.injEq] at h
        subst h
        exact .inl (PhraseDate.days_ordered hdays)
    · rename_i hp
      split at h
      · rename_i x y rest hdated
        cases h
        exact .inr ⟨hp, rest, hdated⟩
      · cases h
        exact .inl (Nat.le_refl _)
      · -- the whole text read as one date gives that day twice
        cases hr : dates.parse now (String.ofList (lower (trim text.toList))) with
        | none => simp [hr] at h
        | some t =>
          simp only [hr, Option.map_some, Except.ok.injEq, Option.some.injEq,
            Prod.mk.injEq] at h
          obtain ⟨rfl, rfl⟩ := h
          exact .inl (Nat.le_refl _)

theorem eq_ok_of_toOption {ε α : Type} {x : Except ε α} {a : α} (h : x.toOption = some a) :
    x = .ok a := by
  cases x with
  | error e => cases h
  | ok b => cases h; rfl

theorem dayRange_days_valid {dates : Parser} (hdates : dates.GivesValidDays) {now : Moment}
    {text : String} {a b : Day} (h : dayRange dates now text = .ok (some (a, b))) :
    a.Valid ∧ b.Valid := by
  unfold dayRange at h
  dsimp only at h
  split at h
  · cases h
  · split at h
    · rename_i p _
      cases hdays : p.days with
      | error e => simp [hdays, Except.map] at h
      | ok ab =>
        simp only [hdays, Except.map, Except.ok.injEq, Option.some.injEq] at h
        subst h
        exact PhraseDate.days_valid hdays
    · have hdated := datedDays_valid hdates now (lower (trim text.toList))
      split at h
      · rename_i x y rest hfound
        cases h
        rw [show datedDays dates now (lower (trim text.toList)) = a :: b :: rest from hfound]
          at hdated
        exact ⟨hdated a (by simp), hdated b (by simp)⟩
      · rename_i x hfound
        cases h
        rw [show datedDays dates now (lower (trim text.toList)) = [a] from hfound] at hdated
        exact ⟨hdated a (by simp), hdated a (by simp)⟩
      · cases hr : dates.parse now (String.ofList (lower (trim text.toList))) with
        | none => simp [hr] at h
        | some t =>
          simp only [hr, Option.map_some, Except.ok.injEq, Option.some.injEq,
            Prod.mk.injEq] at h
          obtain ⟨rfl, rfl⟩ := h
          exact ⟨hdates.2 _ _ _ hr, hdates.2 _ _ _ hr⟩

/-- A library that finds no date. -/
def Parser.blind : Parser := ⟨fun _ _ => [], fun _ _ => none⟩

theorem februaryRange_ordered :
    dayRange .blind default "в феврале 2024" =
        .ok (some (⟨2024, 2, 1⟩, ⟨2024, 2, 29⟩)) ∧
      ((⟨2024, 2, 1⟩ : Day) ≤ ⟨2024, 2, 29⟩ ∨
        (phraseDate? (lower (trim "в феврале 2024".toList)) = none ∧
          ∃ rest, datedDays .blind default (lower (trim "в феврале 2024".toList)) =
            ⟨2024, 2, 1⟩ :: ⟨2024, 2, 29⟩ :: rest)) := by
  have h : dayRange .blind default "в феврале 2024" =
      .ok (some (⟨2024, 2, 1⟩, ⟨2024, 2, 29⟩)) :=
    eq_ok_of_toOption (by decide)
  exact ⟨h, dayRange_ordered_unless_dated h⟩

theorem monthPhrase_reads_whole_month :
    (∀ (dates : Parser) (now : Moment) (text : String) (y m : Nat), 1 ≤ y → y ≤ 9999 →
      phraseDate? (lower (trim text.toList)) = some (.month y m) →
      1 ≤ m ∧ m ≤ 12 ∧ dayRange dates now text = .ok (some (⟨y, m, 1⟩, Day.lastOfMonth y m))) ∧
    (∀ y m : Nat, 1 ≤ y → y ≤ 9999 → 1 ≤ m → m ≤ 12 → (y < 9999 ∨ m < 12) →
      halfOpen ⟨y, m, 1⟩ (Day.lastOfMonth y m) =
        .ok (Moment.startOf ⟨y, m, 1⟩, Moment.startOf (Day.firstOfNextMonth y m)) ∧
      (Moment.startOf (Day.firstOfNextMonth y m)).seconds - (Moment.startOf ⟨y, m, 1⟩).seconds =
        Day.monthLength y m * 86400 ∧
      ∀ t : Moment, t.day.Valid →
        (Moment.startOf ⟨y, m, 1⟩ ≤ t ∧ t < Moment.startOf (Day.firstOfNextMonth y m) ↔
          t.day.year = y ∧ t.day.month = m)) := by
  constructor
  · intro dates now text y m hy hy' hphrase
    obtain ⟨hm, hm'⟩ := phraseDate?_month_bounds hphrase
    refine ⟨hm, hm', ?_⟩
    -- an empty text has no phrase, so the phrase decides the range
    have hne : (lower (trim text.toList)).isEmpty = false := by
      cases hv : lower (trim text.toList) with
      | nil =>
        rw [hv, phraseDate?_nil] at hphrase
        cases hphrase
      | cons _ _ => rfl
    unfold dayRange
    simp only [hne, hphrase, PhraseDate.days_month hy hy' hm hm', Except.map, Bool.false_eq_true,
      if_false]
  · intro y m hy hy' hm hm' hbefore
    exact ⟨halfOpen_month hm' hbefore, seconds_month hy hy' hm hm' hbefore,
      fun t ht => mem_month_iff hy hy' hm hm' hbefore ht⟩

theorem februaryPhrase_reads_leap_month :
    (1 ≤ 2024 ∧ 2024 ≤ 9999 ∧
      phraseDate? (lower (trim "в феврале 2024".toList)) = some (.month 2024 2)) ∧
    (1 ≤ 2 ∧ 2 ≤ 12 ∧
      dayRange .blind default "в феврале 2024" =
        .ok (some (⟨2024, 2, 1⟩, Day.lastOfMonth 2024 2))) ∧
    (1 ≤ 2100 ∧ 2100 ≤ 9999 ∧ 1 ≤ 2 ∧ 2 ≤ 12 ∧ (2100 < 9999 ∨ 2 < 12)) ∧
    Day.monthLength 2100 2 * 86400 =
      (Moment.startOf (Day.firstOfNextMonth 2100 2)).seconds -
        (Moment.startOf ⟨2100, 2, 1⟩).seconds := by
  have hphrase : phraseDate? (lower (trim "в феврале 2024".toList)) = some (.month 2024 2) := by
    decide
  exact ⟨⟨by decide, by decide, hphrase⟩,
    monthPhrase_reads_whole_month.1 .blind default "в феврале 2024" 2024 2 (by decide) (by decide)
      hphrase,
    ⟨by decide, by decide, by decide, by decide, by decide⟩,
    ((monthPhrase_reads_whole_month.2 2100 2 (by decide) (by decide) (by decide) (by decide)
      (by decide)).2.1).symm⟩

end DateText

end VideoStats
