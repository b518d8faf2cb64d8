import VideoStats.Bot.Main

set_option autoImplicit false

namespace VideoStats

namespace Config

open Host

def settingOf (env : Environment) (var : String) : Option Json := (env.get? var).map envValue

theorem fieldValue_nil (env : Environment) (field var : String) :
    fieldValue [] env field var = settingOf env var :=
  rfl

theorem envValue_cases (raw : String) : (∃ b, envValue raw = .bool b) ∨ envValue raw = .str raw := by
  simp only [envValue]
  split
  · exact .inl ⟨true, rfl⟩
  · split
    · exact .inl ⟨false, rfl⟩
    · exact .inr rfl

def RequiredSet (env : Environment) : Prop :=
  (env.get? "TELEGRAM_BOT_TOKEN").isSome ∧ (env.get? "DATABASE_URL").isSome

def ZoneAccepted (env : Environment) : Prop :=
  ∀ v ∈ settingOf env "DB_TIMEZONE", ∃ z, v = .str z ∧ Text.upperString z = "UTC"

def ZoneRejected (env : Environment) : Prop :=
  ∃ z, settingOf env "DB_TIMEZONE" = some (.str z) ∧ Text.upperString z ≠ "UTC"

def ZoneIsFlag (env : Environment) : Prop :=
  ∃ b, settingOf env "DB_TIMEZONE" = some (.bool b)

def KeyLacking (env : Environment) : Prop :=
  ((settingOf env "LLM_ENABLED").getD (.bool false)).isGiven = true ∧
    ((settingOf env "LLM_API_KEY").getD .null).isGiven = false

/-- Settings that hold what the environment gives. -/
structure Settings.ReadFrom (s : Settings) (env : Environment) : Prop where
  token : some s.telegramBotToken = settingOf env "TELEGRAM_BOT_TOKEN"
  url : some s.databaseUrl = settingOf env "DATABASE_URL"
  zone : s.dbTimezone = .str "UTC"
  enabled : s.llmEnabled = (settingOf env "LLM_ENABLED").getD (.bool false)
  key : s.llmApiKey = (settingOf env "LLM_API_KEY").getD .null
  keyed : s.llmEnabled.isGiven = true → s.llmApiKey.isGiven = true

theorem zone_cases (env : Environment) : ZoneAccepted env ∨ ZoneRejected env ∨ ZoneIsFlag env := by
  cases hz : env.get? "DB_TIMEZONE" with
  | none => exact .inl fun v hv => by simp [settingOf, hz] at hv
  | some raw =>
    have hset : settingOf env "DB_TIMEZONE" = some (envValue raw) := by simp [settingOf, hz]
    rcases envValue_cases raw with ⟨b, hb⟩ | hs
    · exact .inr (.inr ⟨b, by rw [hset, hb]⟩)
    · by_cases hutc : Text.upperString raw = "UTC"
      · refine .inl fun v hv => ⟨raw, ?_, hutc⟩
        rw [hset, hs] at hv
        exact (Option.mem_some_iff.1 hv).symm
      · exact .inr (.inl ⟨raw, by rw [hset, hs], hutc⟩)

theorem ZoneAccepted.not_rejected {env : Environment} (h : ZoneAccepted env) :
    ¬ ZoneRejected env := by
  rintro ⟨z, hz, hutc⟩
  obtain ⟨z', hz', hutc'⟩ := h _ hz
  cases hz'
  exact hutc hutc'

theorem ZoneAccepted.not_flag {env : Environment} (h : ZoneAccepted env) : ¬ ZoneIsFlag env := by
  rintro ⟨b, hb⟩
  obtain ⟨z, hz, -⟩ := h _ hb
  cases hz

theorem ZoneRejected.not_flag {env : Environment} (h : ZoneRejected env) : ¬ ZoneIsFlag env := by
  rintro ⟨b, hb⟩
  obtain ⟨z, hz, -⟩ := h
  rw [hb] at hz
  cases hz

theorem checkTimezone_accepted {env : Environment} (h : ZoneAccepted env) :
    checkTimezone ((settingOf env "DB_TIMEZONE").getD (.str "UTC")) = .ok (.str "UTC") := by
  cases hz : settingOf env "DB_TIMEZONE" with
  | none => rfl
  | some v =>
    obtain ⟨z, rfl, hutc⟩ := h v hz
    simp [checkTimezone, hutc]

theorem checkTimezone_rejected {env : Environment} (h : ZoneRejected env) :
    checkTimezone ((settingOf env "DB_TIMEZONE").getD (.str "UTC")) = .error .timezoneNotUtc := by
  obtain ⟨z, hz, hutc⟩ := h
  simp [hz, checkTimezone, hutc]

theorem checkTimezone_flag {env : Environment} (h : ZoneIsFlag env) :
    checkTimezone ((settingOf env "DB_TIMEZONE").getD (.str "UTC")) =
      .error (.timezoneNotText "bool") := by
  obtain ⟨b, hb⟩ := h
  simp [hb, checkTimezone, Json.kindName]

theorem load_missing {env : Environment} (h : ¬ RequiredSet env) :
    ∃ field, Settings.load [] env = .error (.missing field) := by
  cases htoken : env.get? "TELEGRAM_BOT_TOKEN" with
  | none =>
    refine ⟨"telegram_bot_token", ?_⟩
    simp [Settings.load, fieldValue_nil, settingOf, htoken, throw, throwThe, MonadExceptOf.throw]
  | some token =>
    cases hurl : env.get? "DATABASE_URL" with
    | none =>
      refine ⟨"database_url", ?_⟩
      simp [Settings.load, fieldValue_nil, settingOf, htoken, hurl, throw, throwThe,
        MonadExceptOf.throw]
    | some url => exact absurd ⟨by simp [htoken], by simp [hurl]⟩ h

theorem required_settings {env : Environment} (h : RequiredSet env) :
    ∃ token url, settingOf env "TELEGRAM_BOT_TOKEN" = some token ∧
      settingOf env "DATABASE_URL" = some url := by
  obtain ⟨htoken, hurl⟩ := h
  obtain ⟨token, htoken⟩ := Option.isSome_iff_exists.1 htoken
  obtain ⟨url, hurl⟩ := Option.isSome_iff_exists.1 hurl
  exact ⟨envValue token, envValue url, by simp [settingOf, htoken], by simp [settingOf, hurl]⟩

theorem keyLacking_iff (env : Environment) :
    (((settingOf env "LLM_ENABLED").getD (.bool false)).isGiven &&
      !((settingOf env "LLM_API_KEY").getD .null).isGiven) = true ↔ KeyLacking env := by
  simp [KeyLacking]

theorem load_zone_flag {env : Environment} (hreq : RequiredSet env) (h : ZoneIsFlag env) :
    Settings.load [] env = .error (.timezoneNotText "bool") := by
  obtain ⟨token, url, ht, hu⟩ := required_settings hreq
  simp only [Settings.load, fieldValue_nil, ht, hu, checkTimezone_flag h]
  rfl

theorem load_zone_rejected {env : Environment} (hreq : RequiredSet env) (h : ZoneRejected env) :
    Settings.load [] env = .error .timezoneNotUtc := by
  obtain ⟨token, url, ht, hu⟩ := required_settings hreq
  simp only [Settings.load, fieldValue_nil, ht, hu, checkTimezone_rejected h]
  rfl

theorem load_key_lacking {env : Environment} (hreq : RequiredSet env) (hzone : ZoneAccepted env)
    (hkey : KeyLacking env) : Settings.load [] env = .error .keyRequired := by
  obtain ⟨token, url, ht, hu⟩ := required_settings hreq
  simp only [Settings.load, fieldValue_nil, ht, hu, checkTimezone_accepted hzone, keyLacking_iff,
    hkey, if_true]
  rfl

theorem load_ok {env : Environment} (hreq : RequiredSet env) (hzone : ZoneAccepted env)
    (hkey : ¬ KeyLacking env) : ∃ s, Settings.load [] env = .ok s ∧ s.ReadFrom env := by
  obtain ⟨token, url, ht, hu⟩ := required_settings hreq
  simp only [Settings.load, fieldValue_nil, ht, hu, checkTimezone_accepted hzone, keyLacking_iff,
    hkey, if_false]
  refine ⟨⟨token, url, .str "UTC",
    (settingOf env "LLM_ENABLED").getD (.bool false), (settingOf env "LLM_API_KEY").getD .null⟩,
    rfl, ⟨ht.symm, hu.symm, rfl, rfl, rfl, fun henabled => ?_⟩⟩
  -- an enabled assistant without a key would have been refused
  cases hgiven : ((settingOf env "LLM_API_KEY").getD .null).isGiven with
  | true => rfl
  | false => exact absurd ⟨henabled, hgiven⟩ hkey

end Config

namespace Bot

open Config Service

theorem loadSettings_run (w : World) :
    loadSettings.run w = match Settings.load [] w.env with
      | .ok s => .ok s w
      | .error e => .error (.settings e) w := by
  cases h : Settings.load [] w.env with
  | ok s =>
    simp only [loadSettings, EStateM.run_bind, EStateM.run_get, h]
    rfl
  | error e =>
    simp only [loadSettings, EStateM.run_bind, EStateM.run_get, h]
    rfl

theorem loadSettings_outcome (w : World) :
    ((∃ s, loadSettings.run w = .ok s w ∧ s.ReadFrom w.env) ↔
        RequiredSet w.env ∧ ZoneAccepted w.env ∧ ¬ KeyLacking w.env) ∧
    ((∃ e, loadSettings.run w = .error e w ∧ e.className = "RuntimeError") ↔
        ¬ RequiredSet w.env ∨ ZoneRejected w.env ∨ (ZoneAccepted w.env ∧ KeyLacking w.env)) ∧
    ((∃ e, loadSettings.run w = .error e w ∧ e.className = "AttributeError") ↔
        RequiredSet w.env ∧ ZoneIsFlag w.env) := by
  rw [loadSettings_run]
  by_cases hreq : RequiredSet w.env
  · rcases zone_cases w.env with hzone | hzone | hzone
    · by_cases hkey : KeyLacking w.env
      · rw [load_key_lacking hreq hzone hkey]
        simp [Fault.className, SettingsError.isRule, hreq, hzone, hkey, hzone.not_flag]
      · obtain ⟨s, hs, hread⟩ := load_ok hreq hzone hkey
        rw [hs]
        simp [hread, hreq, hzone, hkey, hzone.not_rejected, hzone.not_flag]
    · rw [load_zone_rejected hreq hzone]
      have haccepted : ¬ ZoneAccepted w.env := fun h => h.not_rejected hzone
      simp [Fault.className, SettingsError.isRule, hreq, hzone, haccepted, hzone.not_flag]
    · rw [load_zone_flag hreq hzone]
      have haccepted : ¬ ZoneAccepted w.env := fun h => h.not_flag hzone
      have hrejected : ¬ ZoneRejected w.env := fun h => h.not_flag hzone
      simp [Fault.className, SettingsError.isRule, hreq, hzone, haccepted, hrejected]
  · obtain ⟨field, hfield⟩ := load_missing hreq
    rw [hfield]
    simp [Fault.className, SettingsError.isRule, hreq]

end Bot

end VideoStats
