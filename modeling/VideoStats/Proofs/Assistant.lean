import VideoStats.Proofs.Reading

set_option autoImplicit false

namespace VideoStats

namespace Chat.Proposal

structure Passes (p : Proposal) : Prop where
  metric_null : p.metric.isNull = p.operation?.any Operation.isCount
  not_publishDays : p.operation? ≠ some .countDistinctPublishDays
  no_filters : p.filters = none
  no_window : p.timeWindow.isNull = true
  delta_no_range : p.operation?.any Operation.isDelta = true → p.dateRange.isNull = true

section Rules

variable {u : Unit}

theorem checkMetric_eq_ok {isCount : Bool} {metric : Json}
    (h : checkMetric isCount metric = .ok u) : metric.isNull = isCount := by
  unfold checkMetric at h
  split at h
  · cases h
  · split at h
    · cases h
    · rename_i withCount missing
      cases isCount <;> cases hm : metric.isNull <;> simp_all

theorem checkPublishDays_eq_ok {op : Option Operation} {dateRange : Json}
    (h : checkPublishDays op dateRange = .ok u) : op ≠ some .countDistinctPublishDays := by
  unfold checkPublishDays at h
  split at h
  · split at h <;> cases h
  · rename_i hop
    simpa using hop

theorem checkFilters_eq_ok {filters : Option Json} (h : checkFilters filters = .ok u) :
    filters = none := by
  unfold checkFilters at h
  split at h
  · cases h
  · rfl

theorem checkWindow_eq_ok {timeWindow dateRange : Json}
    (h : checkWindow timeWindow dateRange = .ok u) : timeWindow.isNull = true := by
  unfold checkWindow at h
  split at h
  · split at h <;> cases h
  · rename_i hw
    simpa using hw

theorem checkDelta_eq_ok {op : Option Operation} {dateRange : Json}
    (h : checkDelta op dateRange = .ok u) :
    op.any Operation.isDelta = true → dateRange.isNull = true := by
  unfold checkDelta at h
  split at h
  · cases h
  · rename_i hrange
    intro hd
    simpa [hd] using hrange

end Rules

theorem check_eq_ok {p q : Proposal} (h : p.check = .ok q) : q = p ∧ p.Passes := by
  unfold check at h
  obtain ⟨_, -, h⟩ := Except.bind_eq_ok.1 h
  obtain ⟨_, hmetric, h⟩ := Except.bind_eq_ok.1 h
  obtain ⟨_, hdays, h⟩ := Except.bind_eq_ok.1 h
  obtain ⟨_, hfilters, h⟩ := Except.bind_eq_ok.1 h
  obtain ⟨_, hwindow, h⟩ := Except.bind_eq_ok.1 h
  obtain ⟨_, hdelta, h⟩ := Except.bind_eq_ok.1 h
  cases h
  exact ⟨rfl, checkMetric_eq_ok hmetric, checkPublishDays_eq_ok hdays,
    checkFilters_eq_ok hfilters, checkWindow_eq_ok hwindow, checkDelta_eq_ok hdelta⟩

theorem accept_passes {j : Json} {p : Proposal} (h : accept j = .ok p) : p.Passes := by
  unfold accept at h
  obtain ⟨_, -, hp⟩ := Except.bind_eq_ok.1 h
  obtain ⟨rfl, hpass⟩ := check_eq_ok hp
  exact hpass

theorem Passes.intent?_validate {p : Proposal} (hp : p.Passes) {i : Intent}
    (hi : p.intent? = some i) : i.validate = .ok i := by
  unfold intent? at hi
  obtain ⟨op, hop, hi⟩ := Option.bind_eq_some_iff.1 hi
  -- the counter is read from a name, and an absent one is none
  obtain ⟨m, hmnull, hi⟩ : ∃ m : Option Metric, m.isNone = p.metric.isNull ∧
      (if (p.dateRange.isNull && p.timeWindow.isNull && p.filters.isNone) = true then
        some { operation := op, metric := m } else none) = some i := by
    cases hm : p.metric with
    | null => exact ⟨none, rfl, by simpa [hm] using hi⟩
    | str s =>
      simp only [hm] at hi
      obtain ⟨m, hname, hi⟩ := Option.bind_eq_some_iff.1 hi
      obtain ⟨x, -, rfl⟩ := Option.map_eq_some_iff.1 hname
      exact ⟨some x, rfl, hi⟩
    | _ => simp [hm] at hi
  have hcount : op.isCount = m.isNone := by
    have h := hp.metric_null
    rw [hop] at h
    simp only [Option.any_some] at h
    rw [hmnull, h]
  have hdays : op ≠ .countDistinctPublishDays := fun h => hp.not_publishDays (by rw [hop, h])
  split at hi
  · cases hi
    refine Intent.validate_of_checked (by simp) (by simp) (by simp) ?_
    -- with no range, window or thresholds, only the rules on the counter and on publish days apply
    cases m <;> simp [Intent.semanticIssue?, Intent.hasAsOf, hcount, hdays]
  · cases hi

end Chat.Proposal

namespace Question

/-- How understanding a question with an assistant comes about, case by case. -/
inductive Consulted (dates : DateText.Parser) (now : Moment) (a : Assistant) (text : String) :
    Except UnderstandError (Source × Understanding) → Prop
  | proposed {cfg : Chat.Config} {j : Json} {p : Chat.Proposal} :
      Chat.Config.fromEnvironment a.env a.apiKey = .ok cfg →
      Chat.answerOf (a.service (cfg.request text)) = .ok j → Chat.Proposal.accept j = .ok p →
      (∀ i, p.intent? = some i → i.validate = .ok i) →
      Consulted dates now a text (.ok (.assistant, .proposed p))
  | noConfig {e : Chat.ConfigError} :
      Chat.Config.fromEnvironment a.env a.apiKey = .error e →
      Consulted dates now a text (understand dates now none text)
  | failed {cfg : Chat.Config} {f : Chat.Failure} :
      Chat.Config.fromEnvironment a.env a.apiKey = .ok cfg →
      Chat.answerOf (a.service (cfg.request text)) = .error (.failed f) →
      Consulted dates now a text (understand dates now none text)
  | rejected {cfg : Chat.Config} {j : Json} {r : Chat.Rejection} :
      Chat.Config.fromEnvironment a.env a.apiKey = .ok cfg →
      Chat.answerOf (a.service (cfg.request text)) = .ok j →
      Chat.Proposal.accept j = .error (.rejected r) →
      Consulted dates now a text (understand dates now none text)
  | notText {cfg : Chat.Config} {kind : String} :
      Chat.Config.fromEnvironment a.env a.apiKey = .ok cfg →
      Chat.answerOf (a.service (cfg.request text)) = .error (.notText kind) →
      Consulted dates now a text (.error (.exchange (.notText kind)))
  | unjudged {cfg : Chat.Config} {j : Json} {e : Chat.ProposalError} :
      Chat.Config.fromEnvironment a.env a.apiKey = .ok cfg →
      Chat.answerOf (a.service (cfg.request text)) = .ok j →
      Chat.Proposal.accept j = .error e → (∀ r, e ≠ .rejected r) →
      Consulted dates now a text (.error (.proposal e))

theorem understand_of_ask {dates : DateText.Parser} {now : Moment} {a : Assistant}
    {text : String} :
    understand dates now (some a) text = match ask a text with
      | .ok (some p) => .ok (.assistant, .proposed p)
      | .ok none => understand dates now none text
      | .error e => .error e := by
  unfold understand
  dsimp only
  cases h : ask a text with
  | error e => rfl
  | ok p => cases p <;> rfl

theorem understand_consults (dates : DateText.Parser) (now : Moment) (a : Assistant)
    (text : String) :
    Consulted dates now a text (understand dates now (some a) text) := by
  rw [understand_of_ask]
  unfold ask
  cases hcfg : Chat.Config.fromEnvironment a.env a.apiKey with
  | error e => exact .noConfig hcfg
  | ok cfg =>
    dsimp only
    cases hans : Chat.answerOf (a.service (cfg.request text)) with
    | error e =>
      cases e with
      | failed f => exact .failed hcfg hans
      | notText kind => exact .notText hcfg hans
    | ok j =>
      dsimp only
      cases hacc : Chat.Proposal.accept j with
      | ok p =>
        exact .proposed hcfg hans hacc fun i hi =>
          (Chat.Proposal.accept_passes hacc).intent?_validate hi
      | error e =>
        cases e with
        | rejected r => exact .rejected hcfg hans hacc
        | unhashable kind => exact .unjudged hcfg hans hacc nofun
        | noField kind field => exact .unjudged hcfg hans hacc nofun

end Question

end VideoStats
