import VideoStats.Question.Understand
import VideoStats.Proofs.Accepted

set_option autoImplicit false

namespace VideoStats

-- each check of a part returns the part itself or fails with its one rule
theorem guard_eq_ok {ε α : Type} {c : Prop} [Decidable c] {v : ε} {x y : α}
    (h : (if c then .error v else .ok x) = (.ok y : Except ε α)) : y = x := by
  split at h
  · cases h
  · cases h
    rfl

theorem guard_eq_error {ε α : Type} {c : Prop} [Decidable c] {v e : ε} {x : α}
    (h : (if c then .error v else .ok x) = (.error e : Except ε α)) : e = v ∧ c := by
  split at h
  · cases h
    exact ⟨rfl, ‹_›⟩
  · cases h

theorem Threshold.check_eq_ok {t t' : Threshold} (h : t.check = .ok t') : t' = t :=
  guard_eq_ok h

theorem Threshold.check_eq_error {t : Threshold} {v : Violation} (h : t.check = .error v) :
    v = .valueOutOfRange ∧ (t.value < bigintMin ∨ bigintMax < t.value) :=
  guard_eq_error h

theorem TimeWindow.check_eq_ok {w w' : TimeWindow} (h : w.check = .ok w') : w' = w :=
  guard_eq_ok h

theorem TimeWindow.check_eq_error {w : TimeWindow} {v : Violation} (h : w.check = .error v) :
    v = .windowReversed ∧ w.stop < w.start :=
  guard_eq_error h

theorem DateRange.check_eq_ok {r r' : DateRange} (h : r.check = .ok r') : r' = r :=
  guard_eq_ok h

theorem DateRange.check_eq_error {r : DateRange} {v : Violation} (h : r.check = .error v) :
    v = .rangeReversed ∧ r.stop < r.start :=
  guard_eq_error h

theorem mapM_ok_forall {α β ε : Type} {f : α → Except ε β} {P : β → Prop}
    (step : ∀ a b, f a = .ok b → P b) {xs : List α} {ys : List β} (h : xs.mapM f = .ok ys) :
    ∀ y ∈ ys, P y := by
  induction xs generalizing ys with
  | nil =>
    cases h
    simp
  | cons a rest ih =>
    simp only [List.mapM_cons] at h
    obtain ⟨b, hb, htail⟩ := Except.bind_eq_ok.1 h
    obtain ⟨bs, hbs, hys⟩ := Except.bind_eq_ok.1 htail
    cases hys
    intro y hy
    rcases List.mem_cons.1 hy with rfl | hy
    · exact step a y hb
    · exact ih hbs y hy

theorem mapM_eq_error {α β ε : Type} {f : α → Except ε β} {xs : List α} {e : ε}
    (h : xs.mapM f = .error e) : ∃ a ∈ xs, f a = .error e := by
  induction xs with
  | nil => cases h
  | cons a rest ih =>
    simp only [List.mapM_cons] at h
    cases ha : f a with
    | error e' =>
      rw [ha] at h
      cases h
      exact ⟨a, by simp, ha⟩
    | ok b =>
      rw [ha, Except.ok_bind] at h
      cases hr : rest.mapM f with
      | error e' =>
        rw [hr] at h
        cases h
        obtain ⟨x, hx, hfx⟩ := ih hr
        exact ⟨x, by simp [hx], hfx⟩
      | ok bs =>
        rw [hr] at h
        cases h

theorem discard_ok {ε α : Type} {a : α} : discard (Except.ok a : Except ε α) = .ok () := rfl

theorem mapError_eq_error {ε ε' α : Type} {f : ε → ε'} {x : Except ε α} {e : ε'}
    (h : x.mapError f = .error e) : ∃ e₀, x = .error e₀ ∧ e = f e₀ := by
  cases x with
  | error e₀ =>
    cases h
    exact ⟨e₀, rfl, rfl⟩
  | ok a => cases h

theorem mapError_eq_ok {ε ε' α : Type} {f : ε → ε'} {x : Except ε α} {a : α}
    (h : x.mapError f = .ok a) : x = .ok a := by
  cases x with
  | error e₀ => cases h
  | ok a' =>
    cases h
    rfl

theorem map_eq_error {ε α β : Type} {f : α → β} {x : Except ε α} {e : ε}
    (h : x.map f = .error e) : x = .error e := by
  cases x with
  | error e₀ =>
    cases h
    rfl
  | ok a => cases h

theorem map_eq_ok {ε α β : Type} {f : α → β} {x : Except ε α} {b : β}
    (h : x.map f = .ok b) : ∃ a, x = .ok a ∧ b = f a := by
  cases x with
  | error e₀ => cases h
  | ok a =>
    cases h
    exact ⟨a, rfl, rfl⟩

namespace Intent

theorem validate_of_checked {i : Intent} (hr : ∀ r ∈ i.dateRange, r.check = .ok r)
    (hw : ∀ w ∈ i.timeWindow, w.check = .ok w)
    (ht : ∀ x ∈ i.filters.thresholds, x.check = .ok x) (hs : i.semanticIssue? = none) :
    i.validate = .ok i := by
  -- the loop over the thresholds passes when every check does
  have loop : ∀ xs : List Threshold, (∀ x ∈ xs, x.check = .ok x) →
      (forIn xs PUnit.unit fun t _ => do
        discard t.check
        pure (ForInStep.yield PUnit.unit) : Except Violation PUnit) = .ok PUnit.unit := by
    intro xs hxs
    induction xs with
    | nil => rfl
    | cons x xs ih =>
      have hx := hxs x (by simp)
      have hrest := ih fun y hy => hxs y (by simp [hy])
      simp only [List.forIn_cons, hx]
      exact hrest
  have hsem : i.checkSemantics = .ok i := by simp [checkSemantics, hs]
  unfold validate
  rw [loop _ ht]
  -- with the range and the window split, each remaining check is one that passes
  obtain ⟨op, metric, range, window, filters⟩ := i
  cases range <;> cases window <;>
    simp only [Option.mem_def, Option.some.injEq, forall_eq'] at hr hw <;>
    simp only [hr, hw, discard_ok, Except.ok_bind] <;>
    exact hsem

end Intent

namespace Question

theorem mem_of_mem_dedupe {α : Type} [DecidableEq α] {x : α} {xs : List α}
    (h : x ∈ dedupe xs) : x ∈ xs := by
  -- the kept elements are always some of the ones read so far
  have step : ∀ (acc : List α) (ys : List α),
      x ∈ ys.foldl (fun acc y => if acc.contains y then acc else acc ++ [y]) acc →
        x ∈ acc ∨ x ∈ ys := by
    intro acc ys
    induction ys generalizing acc with
    | nil => simp
    | cons y ys ih =>
      intro hx
      rcases ih _ hx with hx | hx
      · dsimp only at hx
        split at hx
        · exact .inl hx
        · rcases List.mem_append.1 hx with hx | hx
          · exact .inl hx
          · -- the element just kept is the one read
            rw [List.mem_singleton] at hx
            simp [hx]
      · simp [hx]
  simpa using step [] xs h

theorem mem_dedupe_of_mem {α : Type} [DecidableEq α] {x : α} {xs : List α} (h : x ∈ xs) :
    x ∈ dedupe xs := by
  -- an element kept stays kept, and an element read is kept
  have step : ∀ (acc ys : List α), x ∈ acc ∨ x ∈ ys →
      x ∈ ys.foldl (fun acc y => if acc.contains y then acc else acc ++ [y]) acc := by
    intro acc ys
    induction ys generalizing acc with
    | nil => simp
    | cons y ys ih =>
      intro hx
      refine ih _ ?_
      rcases hx with hx | hx
      · left
        dsimp only
        split <;> simp [hx]
      · rcases List.mem_cons.1 hx with rfl | hx
        · left
          dsimp only
          split
          · rename_i hc
            simpa using hc
          · simp
        · exact .inr hx
  exact step [] xs (.inr h)

theorem thresholds_checked {basis : Basis} {t : String} {ts : List Threshold}
    (h : thresholds basis t = .ok ts) : ∀ x ∈ ts, x.check = .ok x := by
  unfold thresholds at h
  obtain ⟨found, hfound, hts⟩ := Except.bind_eq_ok.1 h
  cases hts
  -- each threshold read is the one its check returned, and dedupe keeps only those
  have checked : ∀ y ∈ found, y.check = .ok y := mapM_ok_forall (fun w y hy => by
    obtain rfl := Threshold.check_eq_ok hy
    exact hy) hfound
  exact fun x hx => checked x (mem_of_mem_dedupe hx)

theorem thresholds_error {basis : Basis} {t : String} {v : Violation}
    (h : thresholds basis t = .error v) :
    v = .valueOutOfRange ∧ ∃ w ∈ thresholdWords t, w.value < bigintMin ∨ bigintMax < w.value := by
  unfold thresholds at h
  cases hm : (thresholdWords t).mapM fun w => Threshold.check ⟨basis, w.metric, w.op, w.value⟩ with
  | error e =>
    rw [hm] at h
    cases h
    obtain ⟨w, hw, hcheck⟩ := mapM_eq_error hm
    obtain ⟨rfl, hout⟩ := Threshold.check_eq_error hcheck
    exact ⟨rfl, w, hw, hout⟩
  | ok ts =>
    rw [hm] at h
    cases h

theorem timeWindow?_checked {t : String} {w : TimeWindow} (h : timeWindow? t = .ok (some w)) :
    w.check = .ok w := by
  unfold timeWindow? at h
  split at h
  · cases h
  · obtain ⟨w', hc, hw⟩ := map_eq_ok h
    cases hw
    obtain rfl := TimeWindow.check_eq_ok hc
    exact hc

theorem timeWindow?_error {t : String} {v : Violation} (h : timeWindow? t = .error v) :
    v = .windowReversed ∧ ∃ w, windowOf? t = some w ∧ w.stop < w.start := by
  unfold timeWindow? at h
  split at h
  · cases h
  · rename_i w hw
    cases hc : w.check with
    | error e =>
      rw [hc] at h
      cases h
      obtain ⟨rfl, hrev⟩ := TimeWindow.check_eq_error hc
      exact ⟨rfl, w, hw, hrev⟩
    | ok w' =>
      rw [hc] at h
      cases h

/-- Why a part of the intent read from `text` breaks its own rule. -/
inductive PartBroken (dates : DateText.Parser) (now : Moment) (text : String) : Violation → Prop
  | valueOutOfRange {w : ThresholdWords} : w ∈ thresholdWords (Text.normalize text) →
      w.value < bigintMin ∨ bigintMax < w.value → PartBroken dates now text .valueOutOfRange
  | rangeReversed {a b : Day} : DateText.dayRange dates now text = .ok (some (a, b)) → b < a →
      PartBroken dates now text .rangeReversed
  | windowReversed {w : TimeWindow} : windowOf? (Text.normalize text) = some w → w.stop < w.start →
      PartBroken dates now text .windowReversed

/-- What reading `text` may end in. -/
inductive Outcome (dates : DateText.Parser) (now : Moment) (text : String) :
    Except ReadError Intent → Prop
  | accepted {i : Intent} : i.validate = .ok i → Outcome dates now text (.ok i)
  | refused (r : Refusal) : Outcome dates now text (.error (.refused r))
  | partBroken {v : Violation} : PartBroken dates now text v →
      Outcome dates now text (.error (.invalid v))
  | calendar {e : Day.Error} : DateText.dayRange dates now text = .error e →
      Outcome dates now text (.error (.calendar e))

section Stages

variable {dates : DateText.Parser} {now : Moment} {text : String}

theorem Outcome.bind {α : Type} {x : Except ReadError α} {f : α → Except ReadError Intent}
    (hx : ∀ e, x = .error e → Outcome dates now text (.error e))
    (hf : ∀ a, x = .ok a → Outcome dates now text (f a)) :
    Outcome dates now text (x >>= f) := by
  cases h : x with
  | error e => exact hx e h
  | ok a => exact hf a h

theorem Outcome.throw_refused {α : Type} {r : Refusal} {f : α → Except ReadError Intent} :
    Outcome dates now text (throw (.refused r) >>= f) := .refused r

theorem thresholds_stage {basis : Basis} {e : ReadError}
    (h : (thresholds basis (Text.normalize text)).mapError .invalid = .error e) :
    Outcome dates now text (.error e) := by
  obtain ⟨v, hv, rfl⟩ := mapError_eq_error h
  obtain ⟨rfl, w, hw, hout⟩ := thresholds_error hv
  exact .partBroken (.valueOutOfRange hw hout)

theorem daysOf_stage {t : String} {e : ReadError} (h : daysOf dates now text t = .error e) :
    Outcome dates now text (.error e) := by
  unfold daysOf at h
  split at h
  · cases h
  · obtain ⟨e₀, he, rfl⟩ := mapError_eq_error h
    exact .calendar he

theorem dayRange_of_daysOf {t : String} {days : Option (Day × Day)}
    (h : daysOf dates now text t = .ok days) :
    ∀ a b, days = some (a, b) → DateText.dayRange dates now text = .ok (some (a, b)) := by
  rintro a b rfl
  unfold daysOf at h
  split at h
  · cases h
  · exact mapError_eq_ok h

theorem rangeFor_stage {op : Operation} {asOf : Bool} {days : Option (Day × Day)} {e : ReadError}
    (hdays : ∀ a b, days = some (a, b) → DateText.dayRange dates now text = .ok (some (a, b)))
    (h : rangeFor op asOf days = .error e) : Outcome dates now text (.error e) := by
  cases days with
  | none =>
    simp only [rangeFor] at h
    split at h
    · cases h
      exact .refused _
    · cases h
  | some ab =>
    obtain ⟨a, b⟩ := ab
    simp only [rangeFor] at h
    obtain ⟨v, hv, rfl⟩ := mapError_eq_error h
    obtain ⟨rfl, hrev⟩ := DateRange.check_eq_error (map_eq_error hv)
    exact .partBroken (.rangeReversed (hdays a b rfl) hrev)

theorem rangeFor_checked {op : Operation} {asOf : Bool} {days : Option (Day × Day)}
    {range : Option DateRange} (h : rangeFor op asOf days = .ok range) :
    ∀ r ∈ range, r.check = .ok r := by
  intro r hr
  cases days with
  | none =>
    simp only [rangeFor] at h
    split at h
    · cases h
    · cases h
      cases hr
  | some ab =>
    obtain ⟨a, b⟩ := ab
    simp only [rangeFor] at h
    obtain ⟨r₀, hr₀, rfl⟩ := map_eq_ok (mapError_eq_ok h)
    cases hr
    obtain rfl := DateRange.check_eq_ok hr₀
    exact hr₀

theorem metricFor_stage {op : Operation} {t : String} {e : ReadError}
    (h : metricFor op t = .error e) : Outcome dates now text (.error e) := by
  unfold metricFor at h
  split at h
  · cases h
  · split at h
    · cases h
    · cases h
      exact .refused _

theorem windowFor_stage {op : Operation} {e : ReadError}
    (h : windowFor op (Text.normalize text) = .error e) : Outcome dates now text (.error e) := by
  unfold windowFor at h
  split at h
  · obtain ⟨v, hv, rfl⟩ := mapError_eq_error h
    obtain ⟨rfl, w, hw, hrev⟩ := timeWindow?_error hv
    exact .partBroken (.windowReversed hw hrev)
  · cases h

theorem windowFor_checked {op : Operation} {t : String} {window : Option TimeWindow}
    (h : windowFor op t = .ok window) : ∀ w ∈ window, w.check = .ok w := by
  intro w hw
  cases hw
  unfold windowFor at h
  split at h
  · exact timeWindow?_checked (mapError_eq_ok h)
  · cases h

theorem semantics_stage {i : Intent} (hr : ∀ r ∈ i.dateRange, r.check = .ok r)
    (hw : ∀ w ∈ i.timeWindow, w.check = .ok w)
    (ht : ∀ x ∈ i.filters.thresholds, x.check = .ok x) :
    Outcome dates now text (i.checkSemantics.mapError fun v => .refused (.breaksRule v)) := by
  unfold Intent.checkSemantics
  cases hs : i.semanticIssue? with
  | some v => exact .refused _
  | none => exact .accepted (Intent.validate_of_checked hr hw ht hs)

end Stages

theorem readIntent_outcome (dates : DateText.Parser) (now : Moment) (text : String) :
    Outcome dates now text (readIntent dates now text) := by
  delta readIntent
  dsimp only
  split
  · exact Outcome.throw_refused
  · split
    · exact Outcome.throw_refused
    · split
      · rename_i op _
        -- each stage fails in a way `Outcome` allows, or hands on a part that passes its check
        refine Outcome.bind (fun _ h => thresholds_stage h) fun ts hts => ?_
        refine Outcome.bind (fun _ h => daysOf_stage h) fun days hdays => ?_
        refine Outcome.bind (fun _ h => rangeFor_stage (dayRange_of_daysOf hdays) h)
          fun range hrange => ?_
        refine Outcome.bind (fun _ h => metricFor_stage h) fun metric _ => ?_
        refine Outcome.bind (fun _ h => windowFor_stage h) fun window hwindow => ?_
        exact semantics_stage (rangeFor_checked hrange) (windowFor_checked hwindow)
          (thresholds_checked (mapError_eq_ok hts))
      · exact .refused _

theorem understand_without_assistant (dates : DateText.Parser) (now : Moment) (text : String) :
    understand dates now none text =
      ((readIntent dates now text).map fun i => (Source.rules, .read i)).mapError .rules := by
  unfold understand
  cases readIntent dates now text <;> rfl

theorem readIntent_accepted_or_refused_or_broken (dates : DateText.Parser) (now : Moment)
    (text : String) :
    ((∃ i, readIntent dates now text = .ok i ∧ i.validate = .ok i) ∨
      (∃ r, readIntent dates now text = .error (.refused r)) ∨
      (∃ v, readIntent dates now text = .error (.invalid v) ∧ PartBroken dates now text v) ∨
      (∃ e, readIntent dates now text = .error (.calendar e) ∧
        DateText.dayRange dates now text = .error e)) ∧
    understand dates now none text =
      ((readIntent dates now text).map fun i => (Source.rules, .read i)).mapError .rules := by
  refine ⟨?_, understand_without_assistant dates now text⟩
  have h := readIntent_outcome dates now text
  generalize readIntent dates now text = r at h
  cases h with
  | accepted h => exact .inl ⟨_, rfl, h⟩
  | refused r => exact .inr (.inl ⟨r, rfl⟩)
  | partBroken h => exact .inr (.inr (.inl ⟨_, rfl, h⟩))
  | calendar h => exact .inr (.inr (.inr ⟨_, rfl, h⟩))

end Question

end VideoStats
