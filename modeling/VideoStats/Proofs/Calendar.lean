import Mathlib.Tactic.SplitIfs
import VideoStats.DateText.Range

set_option autoImplicit false

namespace VideoStats

namespace Day

def last : Day := ⟨9999, 12, 31⟩

theorem lt_def {a b : Day} : a < b ↔ a.key < b.key := Iff.rfl
theorem le_def {a b : Day} : a ≤ b ↔ a.key ≤ b.key := Iff.rfl

theorem monthLength_bounds (y m : Nat) : 28 ≤ monthLength y m ∧ monthLength y m ≤ 31 := by
  unfold monthLength
  split
  · split <;> omega
  all_goals omega

theorem key_eq_iff {a b : Day} (ha : a.Valid) (hb : b.Valid) : a.key = b.key ↔ a = b := by
  obtain ⟨_, _, _, _, _, hda⟩ := ha
  obtain ⟨_, _, _, _, _, hdb⟩ := hb
  have := (monthLength_bounds a.year a.month).2
  have := (monthLength_bounds b.year b.month).2
  constructor
  · intro h
    cases a
    cases b
    simp only [key, mk.injEq] at *
    omega
  · rintro rfl
    rfl

theorem next_last : last.next = .error .pastLastDay := rfl

theorem next_ok_of_ne_last {d : Day} (hd : d.Valid) (h : d ≠ last) : ∃ e, d.next = .ok e := by
  obtain ⟨_, _, _, _, _, _⟩ := hd
  unfold next
  split_ifs with h1 h2 h3
  · exact ⟨_, rfl⟩
  · exact ⟨_, rfl⟩
  · exact ⟨_, rfl⟩
  · -- the last day of the last month of the last year is the only day left
    have december : d.month = 12 := by omega
    have lastYear : d.year = 9999 := by omega
    have thirtyFirst : d.day = 31 := by
      have : monthLength d.year d.month = 31 := by simp [december, monthLength]
      omega
    exact absurd (by cases d; simp_all [last]) h

theorem next_error_iff {d : Day} (hd : d.Valid) : (∃ err, d.next = .error err) ↔ d = last := by
  constructor
  · rintro ⟨err, herr⟩
    by_cases hne : d = last
    · exact hne
    · obtain ⟨e, he⟩ := next_ok_of_ne_last hd hne
      simp [he] at herr
  · rintro rfl
    exact ⟨_, next_last⟩

theorem lt_next_iff {d e x : Day} (hd : d.Valid) (hx : x.Valid) (h : d.next = .ok e) :
    x < e ↔ x ≤ d := by
  obtain ⟨_, _, _, _, _, _⟩ := hd
  obtain ⟨_, _, _, _, _, hxd⟩ := hx
  have hxm := (monthLength_bounds x.year x.month).2
  have hdm := (monthLength_bounds d.year d.month).2
  -- a day in the month of `d` is no later in it than the month's last day
  have hsame : x.year = d.year ∧ x.month = d.month → x.day ≤ monthLength d.year d.month := by
    rintro ⟨hy, hm⟩
    rwa [← hy, ← hm]
  rw [lt_def, le_def]
  unfold next at h
  split_ifs at h with h1 h2 h3 <;> cases h <;> simp only [key] <;> omega

theorem foldr_add_start (l : List Nat) (c : Nat) : l.foldr (· + ·) c = l.foldr (· + ·) 0 + c := by
  induction l with
  | nil => simp
  | cons x rest ih =>
    simp only [List.foldr_cons, ih]
    omega

theorem daysBeforeMonth_succ (y : Nat) {m : Nat} (hm : 1 ≤ m) :
    daysBeforeMonth y (m + 1) = daysBeforeMonth y m + monthLength y m := by
  obtain ⟨k, rfl⟩ : ∃ k, m = k + 1 := ⟨m - 1, by omega⟩
  simp only [daysBeforeMonth, Nat.add_sub_cancel, List.range_succ, List.map_append,
    List.foldr_append, List.map_cons, List.map_nil, List.foldr_cons, List.foldr_nil]
  rw [foldr_add_start, Nat.add_zero]

theorem daysBeforeMonth_add_december (y : Nat) :
    daysBeforeMonth y 12 + monthLength y 12 = if isLeapYear y then 366 else 365 := by
  cases h : isLeapYear y <;>
    simp [daysBeforeMonth, monthLength, List.range_succ, h]

theorem succ_div_eq (p k : Nat) : (p + 1) / k = p / k + if (p + 1) % k = 0 then 1 else 0 := by
  rw [Nat.succ_div]
  simp [Nat.dvd_iff_mod_eq_zero]

theorem daysBeforeYear_succ {y : Nat} (hy : 1 ≤ y) :
    daysBeforeYear (y + 1) = daysBeforeYear y + if isLeapYear y then 366 else 365 := by
  obtain ⟨p, rfl⟩ : ∃ p, y = p + 1 := ⟨y - 1, by omega⟩
  -- the year adds one to each count of multiples of 4, 100 and 400 that it is one of
  simp only [daysBeforeYear, isLeapYear, Nat.add_sub_cancel, succ_div_eq p]
  by_cases h4 : (p + 1) % 4 = 0 <;> by_cases h100 : (p + 1) % 100 = 0 <;>
    by_cases h400 : (p + 1) % 400 = 0 <;> simp [h4, h100, h400] <;> omega

theorem next_valid {d e : Day} (hd : d.Valid) (h : d.next = .ok e) : e.Valid := by
  obtain ⟨_, _, _, _, _, _⟩ := hd
  have h28 (y m : Nat) := (monthLength_bounds y m).1
  unfold next at h
  split_ifs at h with h1 h2 h3 <;> cases h <;> simp only [Valid] <;> grind

theorem ordinal_next {d e : Day} (hd : d.Valid) (h : d.next = .ok e) :
    e.ordinal = d.ordinal + 1 := by
  obtain ⟨hy, _, hm, _, _, hday⟩ := hd
  unfold next at h
  split_ifs at h with h1 h2 h3 <;> cases h
  · simp only [ordinal]
    omega
  · -- the last day of a month is followed by the first of the next one
    have hlast : d.day = monthLength d.year d.month := by omega
    simp only [ordinal, daysBeforeMonth_succ d.year hm]
    omega
  · -- the last day of December is followed by the first day of the next year
    have hdec : d.month = 12 := by omega
    have hlast : d.day = monthLength d.year 12 := by rw [← hdec]; omega
    have hjan : daysBeforeMonth (d.year + 1) 1 = 0 := rfl
    have hyear := daysBeforeMonth_add_december d.year
    simp only [ordinal, daysBeforeYear_succ hy, hjan, hdec]
    omega

theorem make_ok {y m d : Nat} (hy : 1 ≤ y) (hy' : y ≤ 9999) (hm : 1 ≤ m) (hm' : m ≤ 12)
    (hd : 1 ≤ d) (hd' : d ≤ monthLength y m) : make y m d = .ok ⟨y, m, d⟩ := by
  unfold make
  simp only [Int.toNat_natCast]
  rw [if_neg (by omega), if_neg (by omega), if_neg (by omega)]

theorem make_eq_ok {y m d : Int} {day : Day} (h : make y m d = .ok day) :
    day = ⟨y.toNat, m.toNat, d.toNat⟩ ∧ 1 ≤ d := by
  unfold make at h
  split_ifs at h with h1 h2 h3
  cases h
  exact ⟨rfl, by omega⟩

theorem make_valid {y m d : Int} {day : Day} (h : make y m d = .ok day) : day.Valid := by
  unfold make at h
  split_ifs at h with h1 h2 h3
  cases h
  simp only [Valid]
  omega

def firstOfNextMonth (y m : Nat) : Day := if m < 12 then ⟨y, m + 1, 1⟩ else ⟨y + 1, 1, 1⟩

theorem lastOfMonth_valid {y m : Nat} (hy : 1 ≤ y) (hy' : y ≤ 9999) (hm : 1 ≤ m) (hm' : m ≤ 12) :
    (lastOfMonth y m).Valid :=
  ⟨hy, hy', hm, hm', Nat.le_trans (by decide) (monthLength_bounds y m).1, Nat.le_refl _⟩

theorem next_lastOfMonth {y m : Nat} (hm : m ≤ 12) (hbefore : y < 9999 ∨ m < 12) :
    (lastOfMonth y m).next = .ok (firstOfNextMonth y m) := by
  unfold next lastOfMonth firstOfNextMonth
  simp only [Nat.lt_irrefl, if_false]
  split_ifs <;> first | rfl | omega

end Day

theorem TimeOfDay.le_def {a b : TimeOfDay} : a ≤ b ↔ a.key ≤ b.key := Iff.rfl

namespace Moment

instance : LT Moment :=
  ⟨fun a b => a.day.key < b.day.key ∨ a.day.key = b.day.key ∧ a.time.key < b.time.key⟩
instance : LE Moment :=
  ⟨fun a b => a.day.key < b.day.key ∨ a.day.key = b.day.key ∧ a.time.key ≤ b.time.key⟩
instance (a b : Moment) : Decidable (a < b) :=
  inferInstanceAs (Decidable (_ ∨ _ ∧ _))
instance (a b : Moment) : Decidable (a ≤ b) :=
  inferInstanceAs (Decidable (_ ∨ _ ∧ _))

theorem lt_def {a b : Moment} :
    a < b ↔ a.day.key < b.day.key ∨ a.day.key = b.day.key ∧ a.time.key < b.time.key := Iff.rfl
theorem le_def {a b : Moment} :
    a ≤ b ↔ a.day.key < b.day.key ∨ a.day.key = b.day.key ∧ a.time.key ≤ b.time.key := Iff.rfl

@[simp] theorem startOf_le_iff (d : Day) (t : Moment) : startOf d ≤ t ↔ d ≤ t.day := by
  simp only [le_def, startOf, TimeOfDay.midnight, TimeOfDay.key, Day.le_def]
  omega

@[simp] theorem lt_startOf_iff (t : Moment) (d : Day) : t < startOf d ↔ t.day < d := by
  simp only [lt_def, startOf, TimeOfDay.midnight, TimeOfDay.key, Day.lt_def]
  omega

theorem seconds_startOf (d : Day) : (startOf d).seconds = d.ordinal * 86400 := by
  simp [seconds, startOf, TimeOfDay.midnight]

end Moment

namespace DateText

theorem mem_halfOpen_iff {first last : Day} {lo hi : Moment} (hlast : last.Valid)
    (h : halfOpen first last = .ok (lo, hi)) {t : Moment} (ht : t.day.Valid) :
    (lo ≤ t ∧ t < hi) ↔ (first ≤ t.day ∧ t.day ≤ last) := by
  unfold halfOpen at h
  cases hnext : last.next with
  | error err => simp [hnext, Except.map] at h
  | ok after =>
    simp only [hnext, Except.map, Except.ok.injEq, Prod.mk.injEq] at h
    obtain ⟨rfl, rfl⟩ := h
    rw [Moment.startOf_le_iff, Moment.lt_startOf_iff, Day.lt_next_iff hlast ht hnext]

theorem halfOpen_ok_of_ne_last {first last : Day} (hlast : last.Valid) (h : last ≠ Day.last) :
    ∃ after, halfOpen first last = .ok (Moment.startOf first, Moment.startOf after) ∧
      last.next = .ok after := by
  obtain ⟨after, hafter⟩ := Day.next_ok_of_ne_last hlast h
  exact ⟨after, by simp [halfOpen, hafter, Except.map], hafter⟩

theorem halfOpen_spans_range {first last : Day} :
    (first.Valid → last.Valid → first ≤ last → last < Day.last →
      ∃ after, after.Valid ∧ after.ordinal = last.ordinal + 1 ∧
        halfOpen first last = .ok (Moment.startOf first, Moment.startOf after) ∧
        Moment.startOf first < Moment.startOf after ∧
        (Moment.startOf after).seconds - (Moment.startOf first).seconds =
          ((last.ordinal : Int) - first.ordinal + 1) * 86400 ∧
        ∀ t : Moment, t.day.Valid →
          (Moment.startOf first ≤ t ∧ t < Moment.startOf after ↔ first ≤ t.day ∧ t.day ≤ last)) ∧
    (last = Day.last → halfOpen first last = .error .pastLastDay) := by
  constructor
  · intro hfirst hlast hle hbefore
    have hne : last ≠ Day.last := by
      rintro rfl
      exact absurd hbefore (by decide)
    obtain ⟨after, hopen, hafter⟩ := halfOpen_ok_of_ne_last hlast hne
    have hord := Day.ordinal_next hlast hafter
    -- the last day comes before the day after it, and the first day is no later than the last
    have hlt : last < after := (Day.lt_next_iff hlast hlast hafter).2 (Nat.le_refl _)
    refine ⟨after, Day.next_valid hlast hafter, hord, hopen, ?_, ?_,
      fun t ht => mem_halfOpen_iff hlast hopen ht⟩
    · rw [Moment.lt_def]
      exact .inl (Nat.lt_of_le_of_lt (Day.le_def.1 hle) (Day.lt_def.1 hlt))
    · rw [Moment.seconds_startOf, Moment.seconds_startOf, hord]
      omega
  · rintro rfl
    simp [halfOpen, Day.next_last, Except.map]

theorem novemberRange_halfOpen :
    ((⟨2025, 11, 1⟩ : Day).Valid ∧ (⟨2025, 11, 28⟩ : Day).Valid ∧
      (⟨2025, 11, 1⟩ : Day) ≤ ⟨2025, 11, 28⟩ ∧ (⟨2025, 11, 28⟩ : Day) < Day.last) ∧
    ∃ after, after.Valid ∧ after.ordinal = (⟨2025, 11, 28⟩ : Day).ordinal + 1 ∧
      halfOpen ⟨2025, 11, 1⟩ ⟨2025, 11, 28⟩ =
        .ok (Moment.startOf ⟨2025, 11, 1⟩, Moment.startOf after) ∧
      Moment.startOf ⟨2025, 11, 1⟩ < Moment.startOf after ∧
      (Moment.startOf after).seconds - (Moment.startOf ⟨2025, 11, 1⟩).seconds =
        (((⟨2025, 11, 28⟩ : Day).ordinal : Int) - (⟨2025, 11, 1⟩ : Day).ordinal + 1) * 86400 ∧
      ∀ t : Moment, t.day.Valid →
        (Moment.startOf ⟨2025, 11, 1⟩ ≤ t ∧ t < Moment.startOf after ↔
          (⟨2025, 11, 1⟩ : Day) ≤ t.day ∧ t.day ≤ ⟨2025, 11, 28⟩) :=
  ⟨⟨by decide, by decide, by decide, by decide⟩,
    halfOpen_spans_range.1 (by decide) (by decide) (by decide) (by decide)⟩

theorem halfOpen_month {y m : Nat} (hm : m ≤ 12) (hbefore : y < 9999 ∨ m < 12) :
    halfOpen ⟨y, m, 1⟩ (Day.lastOfMonth y m) =
      .ok (Moment.startOf ⟨y, m, 1⟩, Moment.startOf (Day.firstOfNextMonth y m)) := by
  simp [halfOpen, Day.next_lastOfMonth hm hbefore, Except.map]

theorem mem_month_iff {y m : Nat} (hy : 1 ≤ y) (hy' : y ≤ 9999) (hm : 1 ≤ m) (hm' : m ≤ 12)
    (hbefore : y < 9999 ∨ m < 12) {t : Moment} (ht : t.day.Valid) :
    (Moment.startOf ⟨y, m, 1⟩ ≤ t ∧ t < Moment.startOf (Day.firstOfNextMonth y m)) ↔
      t.day.year = y ∧ t.day.month = m := by
  rw [mem_halfOpen_iff (Day.lastOfMonth_valid hy hy' hm hm') (halfOpen_month hm' hbefore) ht]
  obtain ⟨_, _, _, _, _, hday⟩ := ht
  have := (Day.monthLength_bounds t.day.year t.day.month).2
  have := (Day.monthLength_bounds y m).2
  simp only [Day.le_def, Day.key, Day.lastOfMonth]
  constructor
  · intro hin
    omega
  · rintro ⟨hyear, hmonth⟩
    rw [hyear, hmonth] at hday ⊢
    omega

theorem seconds_month {y m : Nat} (hy : 1 ≤ y) (hy' : y ≤ 9999) (hm : 1 ≤ m) (hm' : m ≤ 12)
    (hbefore : y < 9999 ∨ m < 12) :
    (Moment.startOf (Day.firstOfNextMonth y m)).seconds - (Moment.startOf ⟨y, m, 1⟩).seconds =
      Day.monthLength y m * 86400 := by
  have hnext := Day.ordinal_next (Day.lastOfMonth_valid hy hy' hm hm')
    (Day.next_lastOfMonth hm' hbefore)
  rw [Moment.seconds_startOf, Moment.seconds_startOf, hnext]
  simp only [Day.ordinal, Day.lastOfMonth]
  omega

end DateText

end VideoStats
