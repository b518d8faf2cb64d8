import VideoStats.Intent.Check

set_option autoImplicit false

namespace VideoStats

namespace Except

@[simp] theorem bind_eq_ok {ε α β : Type} {x : Except ε α} {f : α → Except ε β} {b : β} :
    x >>= f = .ok b ↔ ∃ a, x = .ok a ∧ f a = .ok b := by
  cases x <;> simp [bind, Except.bind]

@[simp] theorem ok_bind {ε α β : Type} {a : α} {f : α → Except ε β} :
    (Except.ok a : Except ε α) >>= f = f a := rfl

@[simp] theorem error_bind {ε α β : Type} {e : ε} {f : α → Except ε β} :
    (Except.error e : Except ε α) >>= f = .error e := rfl

@[simp] theorem map_ok {ε α β : Type} {a : α} {f : α → β} :
    f <$> (Except.ok a : Except ε α) = .ok (f a) := rfl

@[simp] theorem map_error {ε α β : Type} {e : ε} {f : α → β} :
    f <$> (Except.error e : Except ε α) = .error e := rfl

@[simp] theorem pure_eq_ok {ε α : Type} {a b : α} : (pure a : Except ε α) = .ok b ↔ a = b := by
  simp [pure, Except.pure]

@[simp] theorem throw_eq {ε α : Type} {e : ε} : (throw e : Except ε α) = .error e := rfl

end Except

namespace Intent

structure Coherent (i : Intent) : Prop where
  count_no_metric : i.operation.isCount = true → i.metric = none
  metric_present : i.operation.isCount = false → ∃ m, i.metric = some m
  publishDays_range : i.operation = .countDistinctPublishDays →
    ∃ r, i.dateRange = some r ∧ r.scope = .videosPublishedAt
  asOf_range : i.hasAsOf = true → ∃ r, i.dateRange = some r ∧ r.scope = .snapshotsCreatedAt
  window_range : i.timeWindow.isSome = true →
    ∃ r, i.dateRange = some r ∧ r.scope = .snapshotsCreatedAt ∧ r.start = r.stop
  window_delta : i.timeWindow.isSome = true → i.operation.isDelta = true
  delta_scope : i.operation.isDelta = true → ∀ r ∈ i.dateRange, r.scope = .snapshotsCreatedAt

private theorem ite_some_eq_none {α : Type} {c : Prop} [Decidable c] {a : α} {x : Option α} :
    (if c then some a else x) = none ↔ ¬ c ∧ x = none := by
  split <;> simp_all

private theorem ite_eq_none_of_some {α : Type} {c : Prop} [Decidable c] {a : α} {x : Option α} :
    (if c then x else some a) = none ↔ c ∧ x = none := by
  split <;> simp_all

theorem coherent_of_no_issue {i : Intent} (h : i.semanticIssue? = none) : i.Coherent := by
  obtain ⟨op, metric, range, window, filters⟩ := i
  -- with the range and the window split, each test of the chain becomes a fact on the rest
  rcases range with _ | ⟨scope, first, last⟩
  · cases window <;> simp [semanticIssue?, ite_some_eq_none] at h
    constructor <;> simp_all [Option.ne_none_iff_exists']
  · cases scope <;> cases window <;>
      simp [semanticIssue?, ite_some_eq_none, ite_eq_none_of_some] at h <;> constructor <;>
      simp_all [Option.ne_none_iff_exists']

theorem checkSemantics_eq_ok {i j : Intent} :
    i.checkSemantics = .ok j ↔ i.semanticIssue? = none ∧ j = i := by
  unfold checkSemantics
  cases i.semanticIssue? <;> simp [eq_comm]

theorem validate_eq_ok {i j : Intent} (h : i.validate = .ok j) :
    i.semanticIssue? = none ∧ j = i := by
  rw [validate] at h
  -- every path through the checks of the parts ends with the rules of whole intents
  have last {x : Except Violation PUnit} (h : (x >>= fun _ => i.checkSemantics) = .ok j) :
      i.semanticIssue? = none ∧ j = i :=
    checkSemantics_eq_ok.1 (Except.bind_eq_ok.1 h).choose_spec.2
  split at h
  · obtain ⟨_, _, h⟩ := Except.bind_eq_ok.1 h
    split at h
    · exact last (Except.bind_eq_ok.1 h).choose_spec.2
    · exact last h
  · split at h
    · exact last (Except.bind_eq_ok.1 h).choose_spec.2
    · exact last h

/-- An intent that validation accepts as it is, over days of the calendar. -/
structure Accepted (i : Intent) : Prop where
  validated : i.validate = .ok i
  calendar : ∀ r ∈ i.dateRange, r.start.Valid ∧ r.stop.Valid

theorem Accepted.coherent {i : Intent} (h : i.Accepted) : i.Coherent :=
  coherent_of_no_issue (validate_eq_ok h.validated).1

end Intent

end VideoStats
