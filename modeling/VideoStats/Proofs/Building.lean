import VideoStats.Query.Build
import VideoStats.Proofs.Accepted
import VideoStats.Proofs.Calendar

set_option autoImplicit false

namespace VideoStats

namespace Intent

/-- The range ends on the last day of the calendar, and the query needs its interval. -/
def Overflows (i : Intent) : Prop :=
  ∃ r, i.dateRange = some r ∧ r.stop = Day.last ∧ (i.timeWindow = none ∨ i.hasAsOf = true)

theorem Accepted.no_window {i : Intent} (ha : i.Accepted) (hd : i.operation.isDelta = false) :
    i.timeWindow = none := by
  cases hw : i.timeWindow with
  | none => rfl
  | some w =>
    have := ha.coherent.window_delta (by simp [hw])
    simp_all

end Intent

namespace Query

variable {i : Intent}

@[simp] theorem interval_last {r : DateRange} (h : r.stop = Day.last) :
    interval r = .error (.calendar .pastLastDay) := by
  simp [interval, DateText.halfOpen, h, Day.next_last, Except.map, Except.mapError]

theorem interval_ok {r : DateRange} (hv : r.stop.Valid) (h : r.stop ≠ Day.last) :
    ∃ after, r.stop.next = .ok after ∧
      interval r = .ok (Moment.startOf r.start, Moment.startOf after) := by
  obtain ⟨after, hopen, hafter⟩ := @DateText.halfOpen_ok_of_ne_last r.start _ hv h
  exact ⟨after, hafter, by simp [interval, hopen, Except.mapError]⟩

theorem peakWindow?_of_not_asOf (h : i.hasAsOf = false) : peakWindow? i = .ok none := by
  simp [peakWindow?, h]

theorem peakWindow?_of_asOf (hc : i.Coherent) (h : i.hasAsOf = true) :
    ∃ r, i.dateRange = some r ∧ r.scope = .snapshotsCreatedAt ∧
      peakWindow? i = some <$> interval r := by
  obtain ⟨r, hr, hs⟩ := hc.asOf_range h
  exact ⟨r, hr, hs, by simp [peakWindow?, h, hr, hs]⟩

theorem interval_eq_ok {r : DateRange} {w : Moment × Moment} (h : interval r = .ok w) :
    ∃ after, r.stop.next = .ok after ∧ w = (Moment.startOf r.start, Moment.startOf after) := by
  unfold interval DateText.halfOpen at h
  cases hnext : r.stop.next with
  | error e => simp [hnext, Except.map, Except.mapError] at h
  | ok after =>
    simp only [hnext, Except.map, Except.mapError, Except.ok.injEq] at h
    exact ⟨after, rfl, h.symm⟩

theorem peakWindow?_eq_ok {pk : Option (Moment × Moment)} (h : peakWindow? i = .ok pk) :
    (i.hasAsOf = false ∧ pk = none) ∨
      ∃ r w, i.hasAsOf = true ∧ i.dateRange = some r ∧ r.scope = .snapshotsCreatedAt ∧
        interval r = .ok w ∧ pk = some w := by
  unfold peakWindow? at h
  cases has : i.hasAsOf
  · simp_all
  · simp only [has, Bool.not_true, Bool.false_eq_true, if_false] at h
    split at h
    · cases h
    · next r hr =>
      split at h
      · cases h
      · next hs =>
        cases hint : interval r with
        | error e => simp [hint] at h
        | ok w =>
          simp only [hint, Except.map_ok, Except.ok.injEq] at h
          exact .inr ⟨r, w, rfl, hr, by simpa using hs, hint, h.symm⟩

theorem videoDates_eq_ok {b : Bool} {ds : List Condition} (h : videoDates i b = .ok ds) :
    (i.dateRange = none ∧ ds = []) ∨
      (∃ r w, i.dateRange = some r ∧ r.scope = .videosPublishedAt ∧ interval r = .ok w ∧
        ds = [.during ⟨.videos, "video_created_at"⟩ w.1 w.2]) ∨
      (∃ r, i.dateRange = some r ∧ r.scope = .snapshotsCreatedAt ∧ b = true ∧ ds = []) ∨
      ∃ r w, i.dateRange = some r ∧ r.scope = .snapshotsCreatedAt ∧ b = false ∧
        interval r = .ok w ∧ ds = [.snapshotDuring w.1 w.2] := by
  unfold videoDates at h
  split at h
  · next hr => exact .inl ⟨hr, (Except.pure_eq_ok.1 h).symm⟩
  · next r hr =>
    split at h
    · next hs =>
      cases hint : interval r with
      | error e => simp [hint] at h
      | ok w =>
        simp only [hint, Except.ok_bind, Except.pure_eq_ok] at h
        exact .inr (.inl ⟨r, w, hr, hs, hint, h.symm⟩)
    · next hs =>
      cases b
      · cases hint : interval r with
        | error e => simp [hint] at h
        | ok w =>
          simp only [hint, Bool.false_eq_true, if_false, Except.ok_bind,
            Except.pure_eq_ok] at h
          exact .inr (.inr (.inr ⟨r, w, hr, hs, rfl, hint, h.symm⟩))
      · simp only [if_true, Except.pure_eq_ok] at h
        exact .inr (.inr (.inl ⟨r, hr, hs, rfl, h.symm⟩))

theorem snapshotDates_eq_ok {ds : List Condition} (h : snapshotDates i = .ok ds) :
    (i.dateRange = none ∧ ds = []) ∨
      (∃ r w, i.dateRange = some r ∧ i.timeWindow = none ∧ interval r = .ok w ∧
        ds = [.during ⟨.snapshots, "created_at"⟩ w.1 w.2]) ∨
      ∃ r t, i.dateRange = some r ∧ i.timeWindow = some t ∧
        ds = [.between ⟨.snapshots, "created_at"⟩ ⟨r.start, t.start⟩ ⟨r.start, t.stop⟩] := by
  unfold snapshotDates at h
  split at h
  · next hr => exact .inl ⟨hr, (Except.pure_eq_ok.1 h).symm⟩
  · next r hr =>
    split at h
    · next hw =>
      cases hint : interval r with
      | error e => simp [hint] at h
      | ok w =>
        simp only [hint, Except.ok_bind, Except.pure_eq_ok] at h
        exact .inr (.inl ⟨r, w, hr, hw, hint, h.symm⟩)
    · next t hw =>
      simp only [Except.pure_eq_ok] at h
      exact .inr (.inr ⟨r, t, hr, hw, h.symm⟩)

theorem interval_ok_of_not_overflows (ha : i.Accepted) (hn : ¬ i.Overflows) {r : DateRange}
    (hr : i.dateRange = some r) (hneed : i.timeWindow = none ∨ i.hasAsOf = true) :
    ∃ w, interval r = .ok w := by
  have hne : r.stop ≠ Day.last := fun hl => hn ⟨r, hr, hl, hneed⟩
  obtain ⟨_, -, h⟩ := interval_ok (ha.calendar r hr).2 hne
  exact ⟨_, h⟩

theorem peakWindow?_ok (ha : i.Accepted) (hn : ¬ i.Overflows) : ∃ pk, peakWindow? i = .ok pk := by
  cases h : i.hasAsOf
  · exact ⟨none, peakWindow?_of_not_asOf h⟩
  · obtain ⟨r, hr, -, hpk⟩ := peakWindow?_of_asOf ha.coherent h
    obtain ⟨w, hw⟩ := interval_ok_of_not_overflows ha hn hr (.inr h)
    exact ⟨some w, by rw [hpk, hw]; rfl⟩

theorem videoDates_ok (ha : i.Accepted) (hn : ¬ i.Overflows) (hd : i.operation.isDelta = false)
    (peaks : Bool) : ∃ ds, videoDates i peaks = .ok ds := by
  unfold videoDates
  split
  · exact ⟨[], rfl⟩
  · next r hr =>
    obtain ⟨w, hw⟩ := interval_ok_of_not_overflows ha hn hr (.inl (ha.no_window hd))
    split
    · simp [hw]
    · split
      · exact ⟨[], rfl⟩
      · simp [hw]

theorem snapshotDates_ok (ha : i.Accepted) (hn : ¬ i.Overflows) :
    ∃ ds, snapshotDates i = .ok ds := by
  unfold snapshotDates
  split
  · exact ⟨[], rfl⟩
  · next r hr =>
    split
    · next hw =>
      obtain ⟨w, hint⟩ := interval_ok_of_not_overflows ha hn hr (.inl hw)
      simp [hint]
    · exact ⟨_, rfl⟩

theorem overVideos_ok (ha : i.Accepted) (hn : ¬ i.Overflows) (hd : i.operation.isDelta = false)
    (agg : Aggregate) : ∃ q, overVideos i agg = .ok q := by
  obtain ⟨pk, hpk⟩ := peakWindow?_ok ha hn
  obtain ⟨ds, hds⟩ := videoDates_ok ha hn hd pk.isSome
  simp [overVideos, hpk, hds]

theorem overSnapshots_ok (ha : i.Accepted) (hn : ¬ i.Overflows) (first : List Condition)
    (agg : Aggregate) : ∃ q, overSnapshots i first agg = .ok q := by
  obtain ⟨pk, hpk⟩ := peakWindow?_ok ha hn
  obtain ⟨ds, hds⟩ := snapshotDates_ok ha hn
  simp [overSnapshots, hpk, hds]

theorem peakWindow?_error (ha : i.Accepted) {r : DateRange} (hr : i.dateRange = some r)
    (hl : r.stop = Day.last) (h : i.hasAsOf = true) :
    peakWindow? i = .error (.calendar .pastLastDay) := by
  obtain ⟨r', hr', -, hpk⟩ := peakWindow?_of_asOf ha.coherent h
  obtain rfl : r' = r := Option.some.inj (hr'.symm.trans hr)
  rw [hpk, interval_last hl]
  rfl

theorem overVideos_error (ha : i.Accepted) (ho : i.Overflows) (agg : Aggregate) :
    overVideos i agg = .error (.calendar .pastLastDay) := by
  obtain ⟨r, hr, hl, -⟩ := ho
  cases h : i.hasAsOf
  · -- without a table of largest counters, the date test itself needs the interval
    have hds : videoDates i false = .error (.calendar .pastLastDay) := by
      simp only [videoDates, hr]
      split <;> simp [interval_last hl]
    simp [overVideos, peakWindow?_of_not_asOf h, hds]
  · simp [overVideos, peakWindow?_error ha hr hl h]

theorem overSnapshots_error (ha : i.Accepted) (ho : i.Overflows) (first : List Condition)
    (agg : Aggregate) : overSnapshots i first agg = .error (.calendar .pastLastDay) := by
  obtain ⟨r, hr, hl, hneed⟩ := ho
  cases h : i.hasAsOf
  · -- without thresholds as of a day the range overflows only where no window stands in for it
    have hw : i.timeWindow = none := by simpa [h] using hneed
    have hds : snapshotDates i = .error (.calendar .pastLastDay) := by
      simp [snapshotDates, hr, hw, interval_last hl]
    simp [overSnapshots, peakWindow?_of_not_asOf h, hds]
  · simp [overSnapshots, peakWindow?_error ha hr hl h]

theorem build_countVideos (hop : i.operation = .countVideos) (hm : i.metric = none) :
    build i = overVideos i .rows := by
  simp [build, hop, hm]

theorem build_countDistinctCreators (hop : i.operation = .countDistinctCreators)
    (hm : i.metric = none) : build i = overVideos i .distinctCreators := by
  simp [build, hop, hm]

theorem build_countDistinctPublishDays (hop : i.operation = .countDistinctPublishDays)
    (hm : i.metric = none) {r : DateRange} (hr : i.dateRange = some r) :
    build i = overVideos i .distinctPublishDays := by
  simp [build, hop, hm, hr]

theorem build_sumTotalMetric (hop : i.operation = .sumTotalMetric) {m : Metric}
    (hm : i.metric = some m) : build i = overVideos i (.total ⟨.videos, m.column⟩) := by
  simp [build, hop, needMetric, hm]

theorem build_sumDeltaMetric (hop : i.operation = .sumDeltaMetric) {m : Metric}
    (hm : i.metric = some m) :
    build i = overSnapshots i [] (.total ⟨.snapshots, m.deltaColumn⟩) := by
  simp [build, hop, needMetric, hm]

theorem build_positiveDelta (hop : i.operation = .countDistinctVideosWithPositiveDelta)
    {m : Metric} (hm : i.metric = some m) :
    build i = overSnapshots i [.sign ⟨.snapshots, m.deltaColumn⟩ .gt] .distinctVideos := by
  simp [build, hop, needMetric, hm]

theorem build_negativeDelta (hop : i.operation = .countSnapshotsWithNegativeDelta)
    {m : Metric} (hm : i.metric = some m) :
    build i = overSnapshots i [.sign ⟨.snapshots, m.deltaColumn⟩ .lt] .rows := by
  simp [build, hop, needMetric, hm]

theorem build_reduces {j : Intent} (hci : i.Coherent) (hcj : j.Coherent)
    (hop : i.operation = j.operation) (hm : i.metric = j.metric) :
    (i.operation.isDelta = false ∧
        ∃ agg, build i = overVideos i agg ∧ build j = overVideos j agg) ∨
      ∃ first agg, build i = overSnapshots i first agg ∧ build j = overSnapshots j first agg := by
  cases hi : i.operation
  case countVideos =>
    have hmi := hci.count_no_metric (by simp [hi, Operation.isCount])
    exact .inl ⟨rfl, .rows, build_countVideos hi hmi, build_countVideos (hop ▸ hi) (hm ▸ hmi)⟩
  case countDistinctCreators =>
    have hmi := hci.count_no_metric (by simp [hi, Operation.isCount])
    exact .inl ⟨rfl, .distinctCreators, build_countDistinctCreators hi hmi,
      build_countDistinctCreators (hop ▸ hi) (hm ▸ hmi)⟩
  case countDistinctPublishDays =>
    have hmi := hci.count_no_metric (by simp [hi, Operation.isCount])
    obtain ⟨r, hr, -⟩ := hci.publishDays_range hi
    obtain ⟨r', hr', -⟩ := hcj.publishDays_range (hop ▸ hi)
    exact .inl ⟨rfl, .distinctPublishDays, build_countDistinctPublishDays hi hmi hr,
      build_countDistinctPublishDays (hop ▸ hi) (hm ▸ hmi) hr'⟩
  case sumTotalMetric =>
    obtain ⟨m, hmi⟩ := hci.metric_present (by simp [hi, Operation.isCount])
    exact .inl ⟨rfl, _, build_sumTotalMetric hi hmi, build_sumTotalMetric (hop ▸ hi) (hm ▸ hmi)⟩
  case sumDeltaMetric =>
    obtain ⟨m, hmi⟩ := hci.metric_present (by simp [hi, Operation.isCount])
    exact .inr ⟨_, _, build_sumDeltaMetric hi hmi, build_sumDeltaMetric (hop ▸ hi) (hm ▸ hmi)⟩
  case countDistinctVideosWithPositiveDelta =>
    obtain ⟨m, hmi⟩ := hci.metric_present (by simp [hi, Operation.isCount])
    exact .inr ⟨_, _, build_positiveDelta hi hmi, build_positiveDelta (hop ▸ hi) (hm ▸ hmi)⟩
  case countSnapshotsWithNegativeDelta =>
    obtain ⟨m, hmi⟩ := hci.metric_present (by simp [hi, Operation.isCount])
    exact .inr ⟨_, _, build_negativeDelta hi hmi, build_negativeDelta (hop ▸ hi) (hm ▸ hmi)⟩

theorem build_ok_of_not_overflows (ha : i.Accepted) (hn : ¬ i.Overflows) :
    ∃ q, build i = .ok q := by
  rcases build_reduces ha.coherent ha.coherent rfl rfl with ⟨hd, agg, hb, -⟩ | ⟨first, agg, hb, -⟩
  · rw [hb]
    exact overVideos_ok ha hn hd agg
  · rw [hb]
    exact overSnapshots_ok ha hn first agg

theorem build_error_of_overflows (ha : i.Accepted) (ho : i.Overflows) :
    build i = .error (.calendar .pastLastDay) := by
  rcases build_reduces ha.coherent ha.coherent rfl rfl with ⟨-, agg, hb, -⟩ | ⟨first, agg, hb, -⟩
  · rw [hb]
    exact overVideos_error ha ho agg
  · rw [hb]
    exact overSnapshots_error ha ho first agg

theorem build_fails_only_past_last_day (ha : i.Accepted) :
    (∀ e, build i = .error e → e = .calendar .pastLastDay) ∧
      ((∃ q, build i = .ok q) ↔ ¬ i.Overflows) := by
  refine ⟨fun e he => ?_, ⟨fun ⟨q, hq⟩ ho => ?_, build_ok_of_not_overflows ha⟩⟩
  · by_cases ho : i.Overflows
    · rw [build_error_of_overflows ha ho] at he
      cases he
      rfl
    · obtain ⟨q, hq⟩ := build_ok_of_not_overflows ha ho
      rw [hq] at he
      cases he
  · rw [build_error_of_overflows ha ho] at hq
    cases hq

def lastDayCount : Intent :=
  { operation := .countVideos, dateRange := some ⟨.videosPublishedAt, Day.last, Day.last⟩ }

theorem lastDayCount_build_fails :
    lastDayCount.Accepted ∧
      (∀ e, build lastDayCount = .error e → e = .calendar .pastLastDay) ∧
        ((∃ q, build lastDayCount = .ok q) ↔ ¬ lastDayCount.Overflows) := by
  have ha : lastDayCount.Accepted := ⟨rfl, by simp [lastDayCount]; decide⟩
  exact ⟨ha, build_fails_only_past_last_day ha⟩

end Query

end VideoStats
