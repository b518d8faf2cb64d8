import VideoStats.Proofs.Building

set_option autoImplicit false

namespace VideoStats

def Threshold.kind (t : Threshold) : Basis × Metric × Comparator := (t.basis, t.metric, t.op)

namespace Intent

/-- Two intents of one shape: all that may reach the text of their queries agrees. -/
structure SameShape (i j : Intent) : Prop where
  operation : i.operation = j.operation
  metric : i.metric = j.metric
  scope : i.dateRange.map (·.scope) = j.dateRange.map (·.scope)
  window : i.timeWindow.isSome = j.timeWindow.isSome
  creator : i.filters.creator.isNone = j.filters.creator.isNone
  thresholds : i.filters.thresholds.map Threshold.kind = j.filters.thresholds.map Threshold.kind

theorem hasAsOf_eq_of_kinds {i j : Intent}
    (h : i.filters.thresholds.map Threshold.kind = j.filters.thresholds.map Threshold.kind) :
    i.hasAsOf = j.hasAsOf := by
  have basis (i : Intent) :
      i.hasAsOf = (i.filters.thresholds.map Threshold.kind).any (·.1 == .snapshotAsOf) := by
    simp [hasAsOf, List.any_map, Function.comp_def, Threshold.kind]
  rw [basis i, basis j, h]

end Intent

namespace Query

def Condition.erase : Condition → Condition
  | .compare c op _ => .compare c op (.int 0)
  | .sign c op => .sign c op
  | .during c _ _ => .during c default default
  | .between c _ _ => .between c default default
  | .snapshotDuring _ _ => .snapshotDuring default default

@[simp] theorem Condition.sql_erase (c : Condition) : c.erase.sql = c.sql := by
  cases c <;> rfl

def erase (q : Query) : Query :=
  { q with
    peakWindow := q.peakWindow.map fun _ => default
    conditions := q.conditions.map Condition.erase }

theorem whereSql_erase (cs : List Condition) : whereSql (cs.map Condition.erase) = whereSql cs := by
  cases cs with
  | nil => rfl
  | cons c cs => simp [whereSql, Function.comp_def]

theorem sql_erase (q : Query) : q.erase.sql = q.sql := by
  simp [sql, erase, whereSql_erase]

variable {i j : Intent}

theorem creatorCondition_erase (h : i.filters.creator.isNone = j.filters.creator.isNone) :
    (creatorCondition i).map Condition.erase = (creatorCondition j).map Condition.erase := by
  unfold creatorCondition
  cases hi : i.filters.creator <;> cases hj : j.filters.creator <;> simp_all [Condition.erase]

theorem thresholdConditions_erase
    (h : i.filters.thresholds.map Threshold.kind = j.filters.thresholds.map Threshold.kind) :
    (thresholdConditions i).map Condition.erase = (thresholdConditions j).map Condition.erase := by
  -- the test of a threshold, once its number is forgotten, is a function of the threshold's kind
  let test : Basis × Metric × Comparator → Condition := fun k =>
    (Threshold.condition ⟨k.1, k.2.1, k.2.2, 0⟩).erase
  have hkind (t : Threshold) : (Threshold.condition t).erase = test t.kind := by
    cases t
    rfl
  have hbasis (ts : List Threshold) (b : Basis) :
      (ts.filter (·.basis == b)).map Threshold.kind =
        (ts.map Threshold.kind).filter (·.1 == b) := by
    simp [List.filter_map, Function.comp_def, Threshold.kind]
  have hview (i : Intent) : (thresholdConditions i).map Condition.erase =
      (((i.filters.thresholds.map Threshold.kind).filter (·.1 == .finalTotal)) ++
        ((i.filters.thresholds.map Threshold.kind).filter (·.1 == .snapshotAsOf))).map test := by
    simp only [thresholdConditions, List.map_map, ← hbasis, List.map_append]
    simp [Function.comp_def, hkind]
  rw [hview i, hview j, h]

theorem peakWindow?_isSome {pk : Option (Moment × Moment)} (h : peakWindow? i = .ok pk) :
    pk.isSome = i.hasAsOf := by
  rcases peakWindow?_eq_ok h with ⟨has, rfl⟩ | ⟨r, w, has, -, -, -, rfl⟩ <;> simp [has]

theorem peakWindow_erase {pk pk' : Option (Moment × Moment)} (h : pk.isSome = pk'.isSome) :
    pk.map (fun _ => default) = pk'.map (fun _ => (default : Moment × Moment)) := by
  cases pk <;> cases pk' <;> simp_all

theorem videoDates_erase (h : i.dateRange.map (·.scope) = j.dateRange.map (·.scope)) (b : Bool)
    {ds ds' : List Condition} (hi : videoDates i b = .ok ds) (hj : videoDates j b = .ok ds') :
    ds.map Condition.erase = ds'.map Condition.erase := by
  -- each side takes the branch its scope chooses, and the scopes agree
  rcases videoDates_eq_ok hi with
    ⟨hr, rfl⟩ | ⟨r, w, hr, hs, -, rfl⟩ | ⟨r, hr, hs, rfl, rfl⟩ | ⟨r, w, hr, hs, rfl, -, rfl⟩ <;>
  rcases videoDates_eq_ok hj with
    ⟨hr', rfl⟩ | ⟨r', w', hr', hs', -, rfl⟩ | ⟨r', hr', hs', hb, rfl⟩ |
      ⟨r', w', hr', hs', hb, -, rfl⟩ <;>
  simp_all [Condition.erase]

theorem snapshotDates_erase (hr : i.dateRange.isSome = j.dateRange.isSome)
    (hw : i.timeWindow.isSome = j.timeWindow.isSome)
    {ds ds' : List Condition} (hi : snapshotDates i = .ok ds) (hj : snapshotDates j = .ok ds') :
    ds.map Condition.erase = ds'.map Condition.erase := by
  rcases snapshotDates_eq_ok hi with
    ⟨hri, rfl⟩ | ⟨r, w, hri, hwi, -, rfl⟩ | ⟨r, t, hri, hwi, rfl⟩ <;>
  rcases snapshotDates_eq_ok hj with
    ⟨hrj, rfl⟩ | ⟨r', w', hrj, hwj, -, rfl⟩ | ⟨r', t', hrj, hwj, rfl⟩ <;>
  simp_all [Condition.erase]

theorem overVideos_erase (hs : i.SameShape j) (agg : Aggregate) {q q' : Query}
    (hi : overVideos i agg = .ok q) (hj : overVideos j agg = .ok q') : q.erase = q'.erase := by
  simp only [overVideos, Except.bind_eq_ok, Except.pure_eq_ok] at hi hj
  obtain ⟨pk, hpk, ds, hds, rfl⟩ := hi
  obtain ⟨pk', hpk', ds', hds', rfl⟩ := hj
  have hsome : pk.isSome = pk'.isSome := by
    rw [peakWindow?_isSome hpk, peakWindow?_isSome hpk', Intent.hasAsOf_eq_of_kinds hs.thresholds]
  rw [← hsome] at hds'
  simp [erase, peakWindow_erase hsome, creatorCondition_erase hs.creator,
    videoDates_erase hs.scope _ hds hds', thresholdConditions_erase hs.thresholds]

theorem overSnapshots_erase (hs : i.SameShape j) (first : List Condition) (agg : Aggregate)
    {q q' : Query} (hi : overSnapshots i first agg = .ok q)
    (hj : overSnapshots j first agg = .ok q') :
    q.erase = q'.erase := by
  simp only [overSnapshots, Except.bind_eq_ok, Except.pure_eq_ok] at hi hj
  obtain ⟨pk, hpk, ds, hds, rfl⟩ := hi
  obtain ⟨pk', hpk', ds', hds', rfl⟩ := hj
  have hsome : pk.isSome = pk'.isSome := by
    rw [peakWindow?_isSome hpk, peakWindow?_isSome hpk', Intent.hasAsOf_eq_of_kinds hs.thresholds]
  have hrange : i.dateRange.isSome = j.dateRange.isSome := by
    simpa using congrArg Option.isSome hs.scope
  simp [erase, peakWindow_erase hsome, creatorCondition_erase hs.creator,
    snapshotDates_erase hrange hs.window hds hds', thresholdConditions_erase hs.thresholds]

theorem build_erase (hai : i.Accepted) (haj : j.Accepted) (hs : i.SameShape j) {q q' : Query}
    (hi : build i = .ok q) (hj : build j = .ok q') : q.erase = q'.erase := by
  rcases build_reduces hai.coherent haj.coherent hs.operation hs.metric with
    ⟨-, agg, hbi, hbj⟩ | ⟨first, agg, hbi, hbj⟩
  · rw [hbi] at hi
    rw [hbj] at hj
    exact overVideos_erase hs agg hi hj
  · rw [hbi] at hi
    rw [hbj] at hj
    exact overSnapshots_erase hs first agg hi hj

theorem sql_text_of_same_shape (hai : i.Accepted) (haj : j.Accepted) (hs : i.SameShape j)
    (hni : ¬ i.Overflows) (hnj : ¬ j.Overflows) :
    ∃ q q', build i = .ok q ∧ build j = .ok q' ∧ q.sql = q'.sql := by
  obtain ⟨q, hq⟩ := build_ok_of_not_overflows hai hni
  obtain ⟨q', hq'⟩ := build_ok_of_not_overflows haj hnj
  refine ⟨q, q', hq, hq', ?_⟩
  rw [← sql_erase q, ← sql_erase q', build_erase hai haj hs hq hq']

def creatorCount (creator : String) (first last : Day) (views : Int) : Intent :=
  { operation := .countVideos
    dateRange := some ⟨.videosPublishedAt, first, last⟩
    filters := { creator := some creator, thresholds := [⟨.finalTotal, .views, .gt, views⟩] } }

def firstCount : Intent := creatorCount "c01" ⟨2025, 11, 1⟩ ⟨2025, 11, 5⟩ 100000
def secondCount : Intent := creatorCount "c02 %s; DROP TABLE videos" ⟨2024, 2, 29⟩ ⟨2024, 3, 1⟩ (-7)

theorem creatorCounts_same_text :
    firstCount.Accepted ∧ secondCount.Accepted ∧ firstCount.SameShape secondCount ∧
      ¬ firstCount.Overflows ∧ ¬ secondCount.Overflows ∧
      ∃ q q', build firstCount = .ok q ∧ build secondCount = .ok q' ∧ q.sql = q'.sql := by
  have hi : firstCount.Accepted := ⟨rfl, by simp [firstCount, creatorCount]; decide⟩
  have hj : secondCount.Accepted := ⟨rfl, by simp [secondCount, creatorCount]; decide⟩
  have hs : firstCount.SameShape secondCount := ⟨rfl, rfl, rfl, rfl, rfl, rfl⟩
  have hni : ¬ firstCount.Overflows := by
    simp [firstCount, Intent.Overflows, creatorCount, Day.last]
  have hnj : ¬ secondCount.Overflows := by
    simp [secondCount, Intent.Overflows, creatorCount, Day.last]
  exact ⟨hi, hj, hs, hni, hnj, sql_text_of_same_shape hi hj hs hni hnj⟩

end Query

end VideoStats
