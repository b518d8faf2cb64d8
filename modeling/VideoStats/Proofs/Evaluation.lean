import VideoStats.Proofs.Answer
import VideoStats.Proofs.Building

set_option autoImplicit false

namespace VideoStats

namespace Query

open Tables

variable {T : Tables} {i : Intent}

theorem interval_covers {r : DateRange} {w : Moment × Moment} (hv : r.stop.Valid)
    (h : interval r = .ok w) {t : Moment} (ht : t.day.Valid) :
    decide (w.1 ≤ t ∧ t < w.2) = r.covers t.day := by
  obtain ⟨after, hnext, rfl⟩ := interval_eq_ok h
  simp [DateRange.covers, Day.lt_next_iff hv ht hnext]

theorem closed_window_covers {d : Day} {a b : TimeOfDay} {t : Moment} (hd : d.Valid)
    (ht : t.day.Valid) :
    decide ((⟨d, a⟩ : Moment) ≤ t ∧ t ≤ ⟨d, b⟩) =
      (t.day == d && decide (a ≤ t.time ∧ t.time ≤ b)) := by
  -- bounds on one day force the moment's day, since keys tell days apart; then the times compare
  have hkey := Day.key_eq_iff ht hd
  rw [Bool.eq_iff_iff]
  simp only [decide_eq_true_eq, Bool.and_eq_true, beq_iff_eq, Moment.le_def, TimeOfDay.le_def,
    ← hkey]
  constructor <;> intro h <;> omega

theorem window_eq_takenIn (hT : T.WellFormed) {r : DateRange} {w : Moment × Moment}
    (hv : r.stop.Valid) (h : interval r = .ok w) (video : String) :
    window T w.1 w.2 video = T.takenIn r video := by
  apply List.filter_congr
  intro s hs
  rw [interval_covers hv h (hT.taken_valid s hs)]

theorem peakOf_eq (r : DateRange) (video : String) (m : Metric) :
    T.peakOf r video m =
      match T.takenIn r video with
      | [] => none
      | s :: rest => some ((peakCounters s rest).get m) := by
  unfold peakOf
  split
  · next h => simp [h]
  · next s rest h => rw [h, peakCounters_get]

theorem joined_peak (hT : T.WellFormed) {r : DateRange} {w : Moment × Moment} (hv : r.stop.Valid)
    (hint : interval r = .ok w) {key : String} {row₀ row : Row}
    (hrow : row ∈ joinPeaks (some (peakTable T w.1 w.2)) key row₀) :
    row.video = row₀.video ∧ row.snapshot = row₀.snapshot ∧ T.takenIn r key ≠ [] ∧
      ∃ p : PeakRow, row.peak = some p ∧ ∀ m, T.peakOf r key m = some (p.peak.get m) := by
  obtain ⟨s, rest, hwin, rfl⟩ := mem_joinPeaks_peakTable.1 hrow
  rw [window_eq_takenIn hT hv hint] at hwin
  refine ⟨rfl, rfl, by simp [hwin], _, rfl, fun m => ?_⟩
  rw [peakOf_eq, hwin]

theorem takenIn_ne_nil_of_passes (has : i.hasAsOf = true) {r : DateRange}
    (hr : i.dateRange = some r) {v : Video} (hp : T.passes i v = true) : T.takenIn r v.id ≠ [] := by
  obtain ⟨t, ht, hb⟩ := List.any_eq_true.1 has
  have hmeet : T.meets i v t = true := by
    simp only [passes, Bool.and_eq_true, List.all_eq_true] at hp
    exact hp.2 t ht
  intro hnil
  have hbasis : t.basis = .snapshotAsOf := beq_iff_eq.1 hb
  simp [meets, hbasis, hr, peakOf, hnil] at hmeet

theorem creatorCondition_holds (row : Row) :
    Condition.allHold? T row (creatorCondition i) =
      some (i.filters.creator.all (row.video.creator == ·)) := by
  unfold creatorCondition
  cases i.filters.creator with
  | none => rfl
  | some c => simp [Condition.allHold?, Condition.test?_compare_text row.cell_creator]

theorem threshold_holds (t : Threshold) {row : Row}
    (hpeak : t.basis = .snapshotAsOf → ∃ p : PeakRow, row.peak = some p ∧
      i.dateRange.bind (fun d => T.peakOf d row.video.id t.metric) = some (p.peak.get t.metric)) :
    (Threshold.condition t).test? T row = some (T.meets i row.video t) := by
  obtain ⟨basis, m, op, value⟩ := t
  cases basis with
  | finalTotal => exact Condition.test?_compare_int (row.cell_final m) op value
  | snapshotAsOf =>
    obtain ⟨p, hp, hpk⟩ := hpeak rfl
    rw [show Threshold.condition ⟨.snapshotAsOf, m, op, value⟩ =
      .compare ⟨.peaks, m.column⟩ op (.int value) from rfl,
      Condition.test?_compare_int (row.cell_peak hp m)]
    simp only at hpk
    simp [meets, hpk]

theorem all_by_basis (ts : List Threshold) (f : Threshold → Bool) :
    (ts.filter (·.basis == .finalTotal) ++ ts.filter (·.basis == .snapshotAsOf)).all f =
      ts.all f := by
  rw [Bool.eq_iff_iff]
  simp only [List.all_eq_true, List.mem_append, List.mem_filter]
  constructor
  · intro h t ht
    cases hb : t.basis
    · exact h t (.inl ⟨ht, by simp [hb]⟩)
    · exact h t (.inr ⟨ht, by simp [hb]⟩)
  · rintro h t (⟨ht, -⟩ | ⟨ht, -⟩) <;> exact h t ht

theorem thresholdConditions_holds (row : Row)
    (hpeak : i.hasAsOf = true → ∃ p : PeakRow, row.peak = some p ∧
      ∀ m, i.dateRange.bind (fun d => T.peakOf d row.video.id m) = some (p.peak.get m)) :
    Condition.allHold? T row (thresholdConditions i) =
      some (i.filters.thresholds.all (T.meets i row.video)) := by
  have hall : ∀ t ∈ i.filters.thresholds.filter (·.basis == .finalTotal) ++
      i.filters.thresholds.filter (·.basis == .snapshotAsOf),
      (Threshold.condition t).test? T row = some (T.meets i row.video t) := by
    intro t ht
    apply threshold_holds t
    intro hb
    -- a threshold as of the range makes the intent one with such thresholds
    have hmem : t ∈ i.filters.thresholds := by
      simp only [List.mem_append, List.mem_filter] at ht
      rcases ht with ⟨h, -⟩ | ⟨h, -⟩ <;> exact h
    have has : i.hasAsOf = true := List.any_eq_true.2 ⟨t, hmem, by simp [hb]⟩
    obtain ⟨p, hp, hm⟩ := hpeak has
    exact ⟨p, hp, hm t.metric⟩
  rw [thresholdConditions, Condition.allHold?_map hall, all_by_basis]

theorem videoDates_holds (hT : T.WellFormed) (ha : i.Accepted) {b : Bool} {ds : List Condition}
    (hds : videoDates i b = .ok ds) (row : Row) (hv : row.video ∈ T.videos)
    (hseen : b = true → ∀ r ∈ i.dateRange, T.takenIn r row.video.id ≠ []) :
    Condition.allHold? T row ds = some (T.videoInRange i row.video) := by
  rcases videoDates_eq_ok hds with
    ⟨hr, rfl⟩ | ⟨r, w, hr, hs, hint, rfl⟩ | ⟨r, hr, hs, rfl, rfl⟩ | ⟨r, w, hr, hs, rfl, hint, rfl⟩
  · simp [videoInRange, hr, Condition.allHold?]
  · have hstop := (ha.calendar r hr).2
    simp [Condition.allHold?, Condition.test?_during row.cell_published,
      interval_covers hstop hint (hT.published_valid _ hv), videoInRange, hr, hs]
  · simp [Condition.allHold?, videoInRange, hr, hs, hseen rfl r hr]
  · have hstop := (ha.calendar r hr).2
    simp [Condition.allHold?, test?_snapshotDuring, window_eq_takenIn hT hstop hint, videoInRange,
      hr, hs]

theorem snapshotDates_holds (hT : T.WellFormed) (ha : i.Accepted) {ds : List Condition}
    (hds : snapshotDates i = .ok ds) (row : Row) {s : Snapshot} (hs : row.snapshot = some s)
    (hsm : s ∈ T.snapshots) :
    Condition.allHold? T row ds = some (i.snapshotInRange s) := by
  rcases snapshotDates_eq_ok hds with ⟨hr, rfl⟩ | ⟨r, w, hr, hw, hint, rfl⟩ | ⟨r, t, hr, hw, rfl⟩
  · simp [Condition.allHold?, Intent.snapshotInRange, hr]
  · simp [Condition.allHold?, Condition.test?_during (row.cell_taken hs),
      interval_covers (ha.calendar r hr).2 hint (hT.taken_valid s hsm), Intent.snapshotInRange,
      hr, hw]
  · simp [Condition.allHold?, Condition.test?_between (row.cell_taken hs),
      closed_window_covers (ha.calendar r hr).1 (hT.taken_valid s hsm), Intent.snapshotInRange,
      hr, hw]

theorem videos_filter_id (hT : T.WellFormed) {s : Snapshot} (hs : s ∈ T.snapshots) :
    ∃ v ∈ T.videos, v.id = s.video ∧ T.videos.filter (·.id == s.video) = [v] := by
  obtain ⟨v, hv, hid⟩ := hT.video_exists s hs
  -- the ids are distinct, so exactly one video has the snapshot's
  have hids : (T.videos.map (·.id)).filter (· == s.video) = [s.video] := by
    rw [List.filter_beq, List.count_eq_one_of_mem hT.video_ids (List.mem_map.2 ⟨v, hv, hid⟩)]
    rfl
  have hlen : (T.videos.filter (·.id == s.video)).length = 1 := by
    simpa [List.filter_map, Function.comp_def] using congrArg List.length hids
  obtain ⟨u, hu⟩ := List.length_eq_one_iff.1 hlen
  have hmem : u ∈ T.videos.filter (·.id == s.video) := by simp [hu]
  simp only [List.mem_filter, beq_iff_eq] at hmem
  exact ⟨u, hmem.1, hmem.2, hu⟩

theorem any_passes_eq (hT : T.WellFormed) {v : Video} (hv : v ∈ T.videos) {s : Snapshot}
    (hid : v.id = s.video) (P : Video → Bool) :
    (T.videos.any fun u => u.id == s.video && P u) = P v := by
  rw [Bool.eq_iff_iff, List.any_eq_true]
  constructor
  · rintro ⟨u, hu, huv⟩
    simp only [Bool.and_eq_true, beq_iff_eq] at huv
    have hsame : u = v := List.inj_on_of_nodup_map hT.video_ids hu hv (huv.1.trans hid.symm)
    exact hsame ▸ huv.2
  · intro hP
    exact ⟨v, hv, by simp [hid, hP]⟩

theorem joinPeaks_rows (hT : T.WellFormed) (ha : i.Accepted) {pk : Option (Moment × Moment)}
    (hpk : peakWindow? i = .ok pk) {key : String} {row₀ row : Row}
    (hrow : row ∈ joinPeaks (pk.map fun w => peakTable T w.1 w.2) key row₀) :
    row.video = row₀.video ∧ row.snapshot = row₀.snapshot ∧
      (pk.isSome = true → ∀ r ∈ i.dateRange, T.takenIn r key ≠ []) ∧
      (i.hasAsOf = true → ∃ p : PeakRow, row.peak = some p ∧
        ∀ m, i.dateRange.bind (fun d => T.peakOf d key m) = some (p.peak.get m)) := by
  rcases peakWindow?_eq_ok hpk with ⟨has, rfl⟩ | ⟨r, w, has, hr, -, hint, rfl⟩
  · -- without thresholds as of the range there is no join
    simp only [Option.map_none, joinPeaks, List.mem_singleton] at hrow
    subst hrow
    exact ⟨rfl, rfl, by simp, by simp [has]⟩
  · obtain ⟨hvid, hsnap, hseen, p, hp, hpeak⟩ := joined_peak hT (ha.calendar r hr).2 hint hrow
    exact ⟨hvid, hsnap, by simpa [hr] using hseen,
      fun _ => ⟨p, hp, by simpa [hr] using hpeak⟩⟩

theorem joinPeaks_single (hT : T.WellFormed) (ha : i.Accepted) {pk : Option (Moment × Moment)}
    (hpk : peakWindow? i = .ok pk) {key : String} (row₀ : Row)
    (hseen : i.hasAsOf = true → ∀ r ∈ i.dateRange, T.takenIn r key ≠ []) :
    ∃ row, joinPeaks (pk.map fun w => peakTable T w.1 w.2) key row₀ = [row] ∧
      row.video = row₀.video ∧ row.snapshot = row₀.snapshot := by
  rcases peakWindow?_eq_ok hpk with ⟨has, rfl⟩ | ⟨r, w, has, hr, -, hint, rfl⟩
  · exact ⟨row₀, rfl, rfl, rfl⟩
  · have hne := hseen has r hr
    rw [← window_eq_takenIn hT (ha.calendar r hr).2 hint] at hne
    simp only [Option.map_some, joinPeaks_peakTable]
    split
    · contradiction
    · exact ⟨_, rfl, rfl, rfl⟩

theorem overVideos_eval (hT : T.WellFormed) (ha : i.Accepted) {agg : Aggregate} {q : Query}
    (hq : overVideos i agg = .ok q) :
    ∃ rows : List Row, rows.map (·.video) = T.chosenVideos i ∧
      q.eval T = (agg.eval? rows).bind toBigint? := by
  simp only [overVideos, Except.bind_eq_ok, Except.pure_eq_ok] at hq
  obtain ⟨pk, hpk, ds, hds, rfl⟩ := hq
  set keep : Video → Bool := fun v => T.passes i v && T.videoInRange i v
  -- on every row of a video, the conditions hold exactly when the video is chosen
  have htruth : ∀ v ∈ T.videos, ∀ row ∈ joinPeaks (pk.map fun w => peakTable T w.1 w.2) v.id
      ⟨v, none, none⟩,
      Condition.allHold? T row (creatorCondition i ++ ds ++ thresholdConditions i) =
        some (keep v) := by
    intro v hv row hrow
    obtain ⟨hvid, -, hseen, hpeak⟩ := joinPeaks_rows hT ha hpk hrow
    have hvid : row.video = v := hvid
    have hd := videoDates_holds hT ha hds row (by rw [hvid]; exact hv) (by rw [hvid]; exact hseen)
    have ht := thresholdConditions_holds (T := T) (i := i) row (by rw [hvid]; exact hpeak)
    rw [Condition.allHold?_append (Condition.allHold?_append (creatorCondition_holds _) hd) ht]
    simp [keep, passes, hvid, Bool.and_assoc, Bool.and_comm, Bool.and_left_comm]
  -- a chosen video has exactly one row
  have hone : ∀ v ∈ T.videos, keep v = true →
      (joinPeaks (pk.map fun w => peakTable T w.1 w.2) v.id ⟨v, none, none⟩).map (·.video) =
        [v] := by
    intro v hv hk
    have hpass : T.passes i v = true := (Bool.and_eq_true _ _ ▸ hk).1
    obtain ⟨row, hrow, hvid, -⟩ := joinPeaks_single hT ha hpk ⟨v, none, none⟩
      fun has r hr => takenIn_ne_nil_of_passes has hr hpass
    simp [hrow, hvid]
  refine ⟨_, by rw [map_flatMap_ite (g := fun v => v) hone]; simp [chosenVideos, keep], ?_⟩
  simp only [eval, Source.rows]
  rw [select?_flatMap htruth]
  rfl

theorem sign_delta_holds (row : Row) {s : Snapshot} (hs : row.snapshot = some s) (m : Metric)
    (op : Comparator) :
    Condition.allHold? T row [.sign ⟨.snapshots, m.deltaColumn⟩ op] =
      some (op.holds (s.delta.get m) 0) := by
  simp [Condition.allHold?, Condition.test?_sign (row.cell_delta hs m)]

theorem overSnapshots_eval (hT : T.WellFormed) (ha : i.Accepted) {first : List Condition}
    (keepFirst : Snapshot → Bool)
    (hfirst : ∀ (row : Row) (s : Snapshot), row.snapshot = some s →
      Condition.allHold? T row first = some (keepFirst s))
    {agg : Aggregate} {q : Query} (hq : overSnapshots i first agg = .ok q) :
    ∃ rows : List Row,
      rows.map (·.snapshot) = ((T.chosenSnapshots i).filter keepFirst).map some ∧
        q.eval T = (agg.eval? rows).bind toBigint? := by
  simp only [overSnapshots, Except.bind_eq_ok, Except.pure_eq_ok] at hq
  obtain ⟨pk, hpk, ds, hds, rfl⟩ := hq
  set rowsOf : Snapshot → List Row := fun s =>
    (T.videos.filter (·.id == s.video)).flatMap fun v =>
      joinPeaks (pk.map fun w => peakTable T w.1 w.2) s.video ⟨v, some s, none⟩
  set keep : Snapshot → Bool := fun s =>
    keepFirst s && (i.snapshotInRange s && T.videos.any fun v => v.id == s.video && T.passes i v)
  -- on every row of a snapshot, the conditions hold exactly when the snapshot is chosen
  have htruth : ∀ s ∈ T.snapshots, ∀ row ∈ rowsOf s,
      Condition.allHold? T row (first ++ ds ++ creatorCondition i ++ thresholdConditions i) =
        some (keep s) := by
    intro s hs row hrow
    obtain ⟨v, hv, hrow⟩ := List.mem_flatMap.1 hrow
    simp only [List.mem_filter, beq_iff_eq] at hv
    obtain ⟨hv, hid⟩ := hv
    obtain ⟨hvid, hsnap, -, hpeak⟩ := joinPeaks_rows hT ha hpk hrow
    have hvid : row.video = v := hvid
    have hsnap : row.snapshot = some s := hsnap
    have hd := snapshotDates_holds hT ha hds row hsnap hs
    have ht := thresholdConditions_holds (T := T) (i := i) row (by rw [hvid, hid]; exact hpeak)
    rw [Condition.allHold?_append (Condition.allHold?_append
      (Condition.allHold?_append (hfirst row s hsnap) hd) (creatorCondition_holds _)) ht]
    -- the snapshot's video is the one video with its id
    simp only [keep, any_passes_eq hT hv hid (T.passes i)]
    simp [passes, hvid, Bool.and_assoc]
  -- a chosen snapshot has exactly one row
  have hone : ∀ s ∈ T.snapshots, keep s = true → (rowsOf s).map (·.snapshot) = [some s] := by
    intro s hs hk
    obtain ⟨v, hv, hid, hfilter⟩ := videos_filter_id hT hs
    have hpass : T.passes i v = true := by
      simp only [keep, Bool.and_eq_true] at hk
      rw [← any_passes_eq hT hv hid (T.passes i)]
      exact hk.2.2
    obtain ⟨row, hrow, -, hsnap⟩ := joinPeaks_single hT ha hpk ⟨v, some s, none⟩
      fun has r hr => hid ▸ takenIn_ne_nil_of_passes has hr hpass
    simp [rowsOf, hfilter, hrow, hsnap]
  refine ⟨_, by rw [map_flatMap_ite (g := some) hone]; simp [chosenSnapshots, keep], ?_⟩
  simp only [eval, Source.rows]
  rw [select?_flatMap htruth]
  rfl

theorem build_computes_answer (hT : T.WellFormed) (ha : i.Accepted)
    (hend : ∀ r ∈ i.dateRange, r.stop ≠ Day.last)
    (hfit : bigintMin ≤ T.answer i ∧ T.answer i ≤ bigintMax) :
    ∃ q, build i = .ok q ∧ q.eval T = some (T.answer i) := by
  have hc := ha.coherent
  obtain ⟨q, hq⟩ := build_ok_of_not_overflows ha fun ⟨r, hr, hl, _⟩ => hend r hr hl
  refine ⟨q, hq, ?_⟩
  -- the query's aggregate over the rows it selects is the answer, which fits
  have finish : ∀ {agg : Aggregate} {rows : List Row} {x : Int},
      q.eval T = (agg.eval? rows).bind toBigint? → agg.eval? rows = some x → x = T.answer i →
        q.eval T = some (T.answer i) := by
    intro agg rows x heval hagg hx
    rw [heval, hagg, hx]
    exact if_pos hfit
  -- each operation builds its query over videos or over snapshots, with its own aggregate
  cases hop : i.operation with
  | countVideos =>
    rw [build_countVideos hop (hc.count_no_metric (by simp [hop, Operation.isCount]))] at hq
    obtain ⟨rows, hrows, heval⟩ := overVideos_eval hT ha hq
    exact finish heval (Aggregate.eval?_rows rows) (by simp [answer, hop, ← hrows])
  | countDistinctCreators =>
    rw [build_countDistinctCreators hop (hc.count_no_metric (by simp [hop, Operation.isCount]))]
      at hq
    obtain ⟨rows, hrows, heval⟩ := overVideos_eval hT ha hq
    exact finish heval (Aggregate.eval?_distinctCreators rows)
      (by simp [answer, hop, ← hrows, Function.comp_def])
  | countDistinctPublishDays =>
    obtain ⟨r, hr, -⟩ := hc.publishDays_range hop
    rw [build_countDistinctPublishDays hop
      (hc.count_no_metric (by simp [hop, Operation.isCount])) hr] at hq
    obtain ⟨rows, hrows, heval⟩ := overVideos_eval hT ha hq
    exact finish heval (Aggregate.eval?_distinctPublishDays rows)
      (by simp [answer, hop, ← hrows, Function.comp_def])
  | sumTotalMetric =>
    obtain ⟨m, hm⟩ := hc.metric_present (by simp [hop, Operation.isCount])
    rw [build_sumTotalMetric hop hm] at hq
    obtain ⟨rows, hrows, heval⟩ := overVideos_eval hT ha hq
    exact finish heval (Aggregate.eval?_total_final rows m)
      (by simp [answer, hop, hm, ← hrows, Function.comp_def])
  | sumDeltaMetric =>
    obtain ⟨m, hm⟩ := hc.metric_present (by simp [hop, Operation.isCount])
    rw [build_sumDeltaMetric hop hm] at hq
    obtain ⟨rows, hrows, heval⟩ :=
      overSnapshots_eval hT ha (fun _ => true) (fun _ _ _ => rfl) hq
    exact finish heval (Aggregate.eval?_total_delta hrows m) (by simp [answer, hop, hm])
  | countDistinctVideosWithPositiveDelta =>
    obtain ⟨m, hm⟩ := hc.metric_present (by simp [hop, Operation.isCount])
    rw [build_positiveDelta hop hm] at hq
    obtain ⟨rows, hrows, heval⟩ := overSnapshots_eval hT ha (fun s => decide (0 < s.delta.get m))
      (fun row s hs => by simp [sign_delta_holds row hs, Comparator.holds]) hq
    exact finish heval (Aggregate.eval?_distinctVideos hrows) (by simp [answer, hop, hm])
  | countSnapshotsWithNegativeDelta =>
    obtain ⟨m, hm⟩ := hc.metric_present (by simp [hop, Operation.isCount])
    rw [build_negativeDelta hop hm] at hq
    obtain ⟨rows, hrows, heval⟩ := overSnapshots_eval hT ha (fun s => decide (s.delta.get m < 0))
      (fun row s hs => by simp [sign_delta_holds row hs, Comparator.holds]) hq
    exact finish heval (Aggregate.eval?_rows_snapshots hrows) (by simp [answer, hop, hm])

def novemberAt (day hour : Nat) : Moment := ⟨⟨2025, 11, day⟩, ⟨hour, 0, 0, 0⟩⟩

def viewsSnapshot (video : String) (takenAt : Moment) (views change : Int) : Snapshot :=
  ⟨video, takenAt, ⟨views, 0, 0, 0⟩, ⟨change, 0, 0, 0⟩⟩

def sampleTables : Tables :=
  { videos :=
      [⟨"v1", "c01", novemberAt 2 10, ⟨150000, 1000, 100, 1⟩⟩,
       ⟨"v2", "c01", novemberAt 6 10, ⟨90000, 5, 0, 0⟩⟩,
       ⟨"v3", "c2", novemberAt 4 10, ⟨200000, 7, 3, 0⟩⟩]
    snapshots :=
      [viewsSnapshot "v1" (novemberAt 27 2) 100 2, viewsSnapshot "v1" (novemberAt 28 1) 110 10,
       viewsSnapshot "v1" (novemberAt 28 13) 115 5, viewsSnapshot "v2" (novemberAt 27 3) 50 1,
       viewsSnapshot "v2" (novemberAt 28 5) 53 3, viewsSnapshot "v3" (novemberAt 27 4) 10 (-1)] }

def afternoonGain : Intent :=
  { operation := .sumDeltaMetric
    metric := some .views
    dateRange := some ⟨.snapshotsCreatedAt, ⟨2025, 11, 28⟩, ⟨2025, 11, 28⟩⟩
    timeWindow := some ⟨⟨10, 0, 0, 0⟩, ⟨15, 0, 0, 0⟩⟩
    filters := { creator := some "c01" } }

example : sampleTables.answer afternoonGain = 5 := by decide

theorem sampleTables_afternoonGain :
    sampleTables.WellFormed ∧ afternoonGain.Accepted ∧
      (∀ r ∈ afternoonGain.dateRange, r.stop ≠ Day.last) ∧
      (bigintMin ≤ sampleTables.answer afternoonGain ∧
        sampleTables.answer afternoonGain ≤ bigintMax) ∧
      ∃ q, build afternoonGain = .ok q ∧
        q.eval sampleTables = some (sampleTables.answer afternoonGain) := by
  have hT : sampleTables.WellFormed := ⟨by decide, by decide, by decide, by decide⟩
  have ha : afternoonGain.Accepted := ⟨rfl, by simp [afternoonGain]; decide⟩
  have hend : ∀ r ∈ afternoonGain.dateRange, r.stop ≠ Day.last := by
    simp [afternoonGain, Day.last]
  have hfit : bigintMin ≤ sampleTables.answer afternoonGain ∧
      sampleTables.answer afternoonGain ≤ bigintMax := by decide
  exact ⟨hT, ha, hend, hfit, build_computes_answer hT ha hend hfit⟩

end Query

end VideoStats
