import VideoStats.Proofs.Placeholders
import VideoStats.Proofs.Shape

set_option autoImplicit false

namespace VideoStats

namespace Query

def Source.aliases : Source → List Alias
  | .videos => [.videos]
  | .snapshots => [.snapshots, .videos]

def aliases (q : Query) : List Alias :=
  q.source.aliases ++ if q.peakWindow.isSome then [.peaks] else []

def Aggregate.columns : Aggregate → List Column
  | .rows => []
  | .distinctCreators => [⟨.videos, "creator_id"⟩]
  | .distinctPublishDays => [⟨.videos, "video_created_at"⟩]
  | .distinctVideos => [⟨.snapshots, "video_id"⟩]
  | .total c => [c]

def Condition.columns : Condition → List Column
  | .compare c _ _ | .sign c _ | .during c _ _ | .between c _ _ => [c]
  | .snapshotDuring _ _ => [⟨.snapshots, "video_id"⟩, ⟨.videos, "id"⟩, ⟨.snapshots, "created_at"⟩]

def Condition.binds : Condition → List Alias
  | .snapshotDuring _ _ => [.snapshots]
  | _ => []

def Condition.Scoped (scope : List Alias) (k : Condition) : Prop :=
  ∀ c ∈ k.columns, c.table ∈ k.binds ++ scope

/-- Every column a query names belongs to a table bound where the name stands. -/
structure Scoped (q : Query) : Prop where
  aggregate : ∀ c ∈ q.aggregate.columns, c.table ∈ q.aliases
  conditions : ∀ k ∈ q.conditions, k.Scoped q.aliases

def namesPeaks : List Char → Bool
  | 'm' :: '.' :: _ => true
  | _ :: cs => namesPeaks cs
  | [] => false

def PeakFree (cs : List Char) : Prop := namesPeaks cs = false ∧ cs.head? ≠ some '.'

instance (cs : List Char) : Decidable (PeakFree cs) := inferInstanceAs (Decidable (_ ∧ _))

def Column.Plain (c : Column) : Prop := PeakFree c.name.toList ∧ 'W' ∉ c.name.toList

structure Plain (q : Query) : Prop where
  aggregate : ∀ c ∈ q.aggregate.columns, c.Plain
  conditions : ∀ k ∈ q.conditions, ∀ c ∈ k.columns, c.Plain

theorem namesPeaks_iff {cs : List Char} : namesPeaks cs = true ↔ ['m', '.'] <:+: cs := by
  fun_induction namesPeaks cs with
  | case1 rest => simpa using (List.prefix_append ['m', '.'] rest).isInfix
  | case2 c cs hc ih =>
    -- the pair is not at the front, so it is in the rest if anywhere
    rw [ih, List.infix_cons_iff, or_iff_right]
    rintro ⟨t, ht⟩
    cases cs with
    | nil => simp at ht
    | cons d rest =>
      simp only [List.cons_append, List.cons.injEq] at ht
      exact hc rest ht.1.symm (by rw [← ht.2.1])
  | case3 => simp

namespace PeakFree

theorem nil : PeakFree [] := by decide

theorem no_pair {cs : List Char} (h : PeakFree cs) : ¬ ['m', '.'] <:+: cs := by
  rw [← namesPeaks_iff, h.1]
  simp

theorem append {x y : List Char} (hx : PeakFree x) (hy : PeakFree y) : PeakFree (x ++ y) := by
  refine ⟨Bool.eq_false_iff.2 fun hn => ?_, ?_⟩
  · have h := namesPeaks_iff.1 hn
    replace hx := hx.no_pair
    rcases List.infix_append_iff.1 h with h | h | ⟨l₁, l₂, he, h₁, h₂⟩
    · exact hx h
    · exact hy.no_pair h
    -- the pair straddles the two texts: all of it in `x`, all of it in `y`, or `y` starts with
    -- its dot
    · rcases l₁ with _ | ⟨a, _ | ⟨b, _ | ⟨c, l₁⟩⟩⟩
      · rw [List.nil_append] at he
        subst he
        exact hy.no_pair h₂.isInfix
      · obtain ⟨-, rfl⟩ : a = 'm' ∧ l₂ = ['.'] := by simpa [eq_comm] using he
        obtain ⟨t, rfl⟩ := h₂
        exact hy.2 rfl
      · obtain ⟨rfl, rfl, rfl⟩ : a = 'm' ∧ b = '.' ∧ l₂ = [] := by simpa [eq_comm] using he
        exact hx h₁.isInfix
      · simp at he
  · cases x with
    | nil => exact hy.2
    | cons c x => exact hx.2

theorem intercalate {sep : String} {xs : List String} (hsep : PeakFree sep.toList)
    (hxs : ∀ x ∈ xs, PeakFree x.toList) : PeakFree (sep.intercalate xs).toList := by
  induction xs with
  | nil => simpa using nil
  | cons x xs ih =>
    cases xs with
    | nil => simpa using hxs x (by simp)
    | cons y ys =>
      rw [String.intercalate_cons_of_ne_nil (by simp), String.toList_append,
        String.toList_append]
      exact append (append (hxs x (by simp)) hsep) (ih fun z hz => hxs z (by simp [hz]))

theorem no_sm {cs : List Char} (h : PeakFree cs) : ¬ "sm.".toList <:+: cs := by
  have hm : ['m', '.'] <:+: "sm.".toList := by simp only [String.reduceToList]; decide
  exact fun hsm => h.no_pair (hm.trans hsm)

end PeakFree

-- Literal texts are reduced to lists of characters before `decide` reads them.

theorem Alias.name_dot_peakFree {a : Alias} (h : a ≠ .peaks) :
    PeakFree (a.name ++ ".").toList := by
  cases a with
  | peaks => exact absurd rfl h
  | _ => simp only [Alias.name, String.toList_append, String.reduceToList]; decide

theorem Column.sql_peakFree {c : Column} (ht : c.table ≠ .peaks) (hc : c.Plain) :
    PeakFree c.sql.toList := by
  rw [Column.sql, String.append_assoc, ← String.append_assoc, String.toList_append]
  exact PeakFree.append (Alias.name_dot_peakFree ht) hc.1

theorem Comparator.symbol_peakFree (op : Comparator) : PeakFree op.symbol.toList := by
  cases op <;> simp only [Comparator.symbol, String.reduceToList] <;> decide

theorem Condition.sql_peakFree {k : Condition}
    (hk : ∀ c ∈ k.columns, c.table ≠ .peaks ∧ c.Plain) : PeakFree k.sql.toList := by
  -- a condition's text is its column's text between literal pieces, or a literal subquery
  cases k with
  | compare c op v =>
    obtain ⟨ht, hc⟩ := hk c (by simp [Condition.columns])
    simp only [Condition.sql_compare, String.toList_append, String.reduceToList]
    exact (((Column.sql_peakFree ht hc).append (by decide)).append
      (Comparator.symbol_peakFree op)).append (by decide)
  | sign c op =>
    obtain ⟨ht, hc⟩ := hk c (by simp [Condition.columns])
    simp only [Condition.sql_sign, String.toList_append, String.reduceToList]
    exact (((Column.sql_peakFree ht hc).append (by decide)).append
      (Comparator.symbol_peakFree op)).append (by decide)
  | during c lo hi =>
    obtain ⟨ht, hc⟩ := hk c (by simp [Condition.columns])
    simp only [Condition.sql_during, duringSql, String.toList_append, String.reduceToList]
    exact (((Column.sql_peakFree ht hc).append (by decide)).append
      (Column.sql_peakFree ht hc)).append (by decide)
  | between c lo hi =>
    obtain ⟨ht, hc⟩ := hk c (by simp [Condition.columns])
    simp only [Condition.sql_between, String.toList_append, String.reduceToList]
    exact (((Column.sql_peakFree ht hc).append (by decide)).append
      (Column.sql_peakFree ht hc)).append (by decide)
  | snapshotDuring lo hi =>
    simp only [Condition.sql_snapshotDuring, duringSql, Column.sql, Alias.name,
      String.toList_append, String.reduceToList, List.cons_append, List.nil_append]
    decide

theorem Column.sql_no_W {c : Column} (hc : c.Plain) : 'W' ∉ c.sql.toList := by
  have halias : 'W' ∉ c.table.name.toList := by
    cases c.table <;> simp only [Alias.name, String.reduceToList] <;> decide
  simp [Column.sql, halias, hc.2]

theorem Aggregate.sql_peakFree {a : Aggregate}
    (ha : ∀ c ∈ a.columns, c.table ≠ .peaks ∧ c.Plain) :
    PeakFree a.sql.toList ∧ 'W' ∉ a.sql.toList := by
  cases a with
  | total c =>
    obtain ⟨ht, hc⟩ := ha c (by simp [Aggregate.columns])
    simp only [Aggregate.sql_total, String.toList_append, String.reduceToList]
    refine ⟨((PeakFree.append (by decide) (Column.sql_peakFree ht hc)).append (by decide)), ?_⟩
    simp [Column.sql_no_W hc]
  | _ => simp only [Aggregate.sql, String.reduceToList]; decide

-- The texts of the sources, one equation a constructor, by `rfl` as for `Condition.sql_compare`.
theorem Source.sql_videos (peaks : Bool) : Source.videos.sql peaks =
    "FROM videos v" ++ (if peaks then " JOIN snap_max sm ON sm.video_id = v.id" else "") := rfl
theorem Source.sql_snapshots (peaks : Bool) : Source.snapshots.sql peaks =
    "FROM video_snapshots s JOIN videos v ON v.id = s.video_id" ++
      (if peaks then " JOIN snap_max sm ON sm.video_id = s.video_id" else "") := rfl

theorem Source.sql_plain (src : Source) :
    PeakFree (src.sql false).toList ∧ 'W' ∉ (src.sql false).toList := by
  cases src <;> simp only [Source.sql_videos, Source.sql_snapshots, Bool.false_eq_true, if_false,
    String.toList_append, String.reduceToList, List.append_nil] <;> decide

def peaksJoin : String := "JOIN snap_max sm ON sm.video_id"

theorem Source.sql_joins_peaks_of_true (src : Source) : peaksJoin.toList <:+: (src.sql true).toList := by
  cases src <;> simp only [Source.sql_videos, Source.sql_snapshots, peaksJoin, if_true,
    String.toList_append, String.reduceToList] <;> decide

theorem whereSql_peakFree {cs : List Condition} (h : ∀ k ∈ cs, PeakFree k.sql.toList) :
    PeakFree (whereSql cs).toList := by
  cases cs with
  | nil => simpa [whereSql] using PeakFree.nil
  | cons k ks =>
    simp only [whereSql, String.toList_append]
    exact PeakFree.append (by simp only [String.reduceToList]; decide)
      (PeakFree.intercalate (by simp only [String.reduceToList]; decide) (by simpa using h))

theorem whereSql_ne_nil {cs : List Condition} (h : cs ≠ []) :
    "WHERE".toList <:+: (whereSql cs).toList := by
  cases cs with
  | nil => exact absurd rfl h
  | cons k ks =>
    simp only [whereSql, String.toList_append]
    exact List.infix_append_of_infix_left (by simp only [String.reduceToList]; decide)

theorem sql_toList (q : Query) : q.sql.toList =
    (if q.peakWindow.isSome then peaksSql else "").toList ++
      (("SELECT " ++ q.aggregate.sql ++ " " ++ q.source.sql q.peakWindow.isSome).toList ++
        (whereSql q.conditions).toList) := by
  simp only [Query.sql, String.toList_append, List.append_assoc]

variable {q : Query}

theorem ne_peaks_of_mem_aliases {a : Alias} (ha : a ∈ q.aliases) (hpk : q.peakWindow = none) :
    a ≠ .peaks := by
  rintro rfl
  cases hs : q.source <;> simp [aliases, Source.aliases, hs, hpk] at ha

theorem ne_peaks_of_scoped {k : Condition} {c : Column} (hk : k.Scoped q.aliases)
    (hc : c ∈ k.columns) (hpk : q.peakWindow = none) : c.table ≠ .peaks := by
  -- a condition binds at most its own snapshots
  have hbinds : Alias.peaks ∉ k.binds := by cases k <;> simp [Condition.binds]
  rcases List.mem_append.1 (hk c hc) with hb | ha
  · exact fun h => hbinds (h ▸ hb)
  · exact ne_peaks_of_mem_aliases ha hpk

theorem sql_peakFree (hs : q.Scoped) (hp : q.Plain) (hpk : q.peakWindow = none) :
    PeakFree q.sql.toList := by
  have hagg := Aggregate.sql_peakFree fun c hc =>
    ⟨ne_peaks_of_mem_aliases (hs.aggregate c hc) hpk, hp.aggregate c hc⟩
  have hwhere : PeakFree (whereSql q.conditions).toList := whereSql_peakFree fun k hk =>
    Condition.sql_peakFree fun c hc =>
      ⟨ne_peaks_of_scoped (hs.conditions k hk) hc hpk, hp.conditions k hk c hc⟩
  rw [sql_toList, hpk]
  simp only [Option.isSome_none, Bool.false_eq_true, if_false, String.toList_append,
    String.reduceToList, List.nil_append]
  exact ((((PeakFree.append (by decide) hagg.1).append (by decide)).append
    (Source.sql_plain q.source).1).append hwhere)

theorem sql_starts_with_peaks : peaksSql.toList <+: q.sql.toList ↔ q.peakWindow.isSome = true := by
  rw [sql_toList]
  cases q.peakWindow with
  | some w =>
    simp only [Option.isSome_some, if_true, iff_true]
    exact List.prefix_append _ _
  | none =>
    simp only [Option.isSome_none, Bool.false_eq_true, if_false, iff_false, String.toList_append,
      String.reduceToList, List.nil_append, List.append_assoc, List.cons_append]
    -- the definition starts with `W`, a query without it with `S`
    rintro ⟨t, ht⟩
    have hW : peaksSql.toList.head? = some 'W' := by
      unfold peaksSql
      simp only [String.toList_append, String.reduceToList, List.cons_append, List.head?_cons]
    have hhead := congrArg List.head? ht
    rw [List.head?_append, hW, List.head?_cons] at hhead
    exact absurd (Option.some.inj hhead) (by decide)

theorem source_within_sql (q : Query) : (q.source.sql q.peakWindow.isSome).toList <:+: q.sql.toList :=
  ⟨(if q.peakWindow.isSome then peaksSql else "").toList ++
      ("SELECT " ++ q.aggregate.sql ++ " ").toList, (whereSql q.conditions).toList, by
      rw [sql_toList]
      simp only [String.toList_append, List.append_assoc]⟩

theorem peaksJoin_names_sm : "sm.".toList <:+: peaksJoin.toList := by
  unfold peaksJoin
  simp only [String.reduceToList]
  decide

theorem sql_joins_peaks (hs : q.Scoped) (hp : q.Plain) :
    peaksJoin.toList <:+: q.sql.toList ↔ q.peakWindow.isSome = true := by
  constructor
  · intro hj
    cases hpk : q.peakWindow with
    | some w => rfl
    | none => exact absurd (peaksJoin_names_sm.trans hj) (sql_peakFree hs hp hpk).no_sm
  · intro hpk
    have hsrc := source_within_sql q
    rw [hpk] at hsrc
    exact (Source.sql_joins_peaks_of_true q.source).trans hsrc

theorem sql_names_peaks (hs : q.Scoped) (hp : q.Plain) :
    "sm.".toList <:+: q.sql.toList ↔ q.peakWindow.isSome = true := by
  constructor
  · intro hsm
    cases hpk : q.peakWindow with
    | some w => rfl
    | none => exact absurd hsm (sql_peakFree hs hp hpk).no_sm
  · intro hpk
    exact peaksJoin_names_sm.trans ((sql_joins_peaks hs hp).2 hpk)

theorem sql_has_where (hs : q.Scoped) (hp : q.Plain)
    (hne : q.peakWindow.isSome = true → q.conditions ≠ []) :
    "WHERE".toList <:+: q.sql.toList ↔ q.conditions ≠ [] := by
  constructor
  · intro hw hnil
    have hpk : q.peakWindow = none := by
      cases h : q.peakWindow with
      | none => rfl
      | some w => exact absurd hnil (hne (by simp [h]))
    -- without conditions and without the table, nothing in the text has a `W`
    have hagg := Aggregate.sql_peakFree fun c hc =>
      ⟨ne_peaks_of_mem_aliases (hs.aggregate c hc) hpk, hp.aggregate c hc⟩
    have hW : 'W' ∈ q.sql.toList := hw.mem (by simp only [String.reduceToList]; decide)
    rw [sql_toList, hpk, hnil] at hW
    simp only [Option.isSome_none, Bool.false_eq_true, if_false, whereSql, String.toList_append,
      String.reduceToList, List.nil_append, List.append_nil, List.mem_append] at hW
    rcases hW with ((hW | hW) | hW) | hW
    · exact absurd hW (by decide)
    · exact hagg.2 hW
    · exact absurd hW (by decide)
    · exact (Source.sql_plain q.source).2 hW
  · intro hne'
    refine (whereSql_ne_nil hne').trans ⟨(if q.peakWindow.isSome then peaksSql else "").toList ++
      ("SELECT " ++ q.aggregate.sql ++ " " ++ q.source.sql q.peakWindow.isSome).toList, [], ?_⟩
    rw [sql_toList]
    simp only [List.append_nil, List.append_assoc]

inductive VideoAggregate : Aggregate → Prop
  | rows : VideoAggregate .rows
  | creators : VideoAggregate .distinctCreators
  | publishDays : VideoAggregate .distinctPublishDays
  | total (m : Metric) : VideoAggregate (.total ⟨.videos, m.column⟩)

inductive SnapshotStart : List Condition → Aggregate → Prop
  | total (m : Metric) : SnapshotStart [] (.total ⟨.snapshots, m.deltaColumn⟩)
  | positive (m : Metric) : SnapshotStart [.sign ⟨.snapshots, m.deltaColumn⟩ .gt] .distinctVideos
  | negative (m : Metric) : SnapshotStart [.sign ⟨.snapshots, m.deltaColumn⟩ .lt] .rows

variable {i : Intent}

theorem build_eq_ok (h : build i = .ok q) :
    (∃ agg, VideoAggregate agg ∧ overVideos i agg = .ok q) ∨
      ∃ first agg, SnapshotStart first agg ∧ overSnapshots i first agg = .ok q := by
  cases hop : i.operation <;> cases hm : i.metric <;>
    simp [build, hop, hm, needMetric] at h
  case countVideos.none => exact .inl ⟨_, .rows, h⟩
  case countDistinctCreators.none => exact .inl ⟨_, .creators, h⟩
  case countDistinctPublishDays.none =>
    split at h
    · cases h
    · exact .inl ⟨_, .publishDays, h⟩
  case sumTotalMetric.some m => exact .inl ⟨_, .total m, h⟩
  case sumDeltaMetric.some m => exact .inr ⟨_, _, .total m, h⟩
  case countDistinctVideosWithPositiveDelta.some m => exact .inr ⟨_, _, .positive m, h⟩
  case countSnapshotsWithNegativeDelta.some m => exact .inr ⟨_, _, .negative m, h⟩

/-- What every query of the builder satisfies. -/
structure Built (q : Query) (asOf : Bool) : Prop where
  bound : q.Scoped
  plain : q.Plain
  peaks : q.peakWindow.isSome = asOf
  conditions : q.peakWindow.isSome = true → q.conditions ≠ []

def Condition.Fits (scope : List Alias) (k : Condition) : Prop :=
  k.Scoped scope ∧ ∀ c ∈ k.columns, c.Plain

theorem Metric.column_plain (a : Alias) (m : Metric) : Column.Plain ⟨a, m.column⟩ := by
  cases m <;> simp only [Column.Plain, Metric.column, Metric.name, String.toList_append,
    String.reduceToList] <;> decide

theorem Metric.deltaColumn_plain (a : Alias) (m : Metric) : Column.Plain ⟨a, m.deltaColumn⟩ := by
  cases m <;> simp only [Column.Plain, Metric.deltaColumn, Metric.name, String.toList_append,
    String.reduceToList] <;> decide

theorem Column.plain_fixed (a : Alias) :
    Column.Plain ⟨a, "creator_id"⟩ ∧ Column.Plain ⟨a, "video_created_at"⟩ ∧
      Column.Plain ⟨a, "video_id"⟩ ∧ Column.Plain ⟨a, "id"⟩ ∧ Column.Plain ⟨a, "created_at"⟩ := by
  simp only [Column.Plain, String.reduceToList]
  decide

variable {scope : List Alias}

theorem creatorCondition_fits (hv : Alias.videos ∈ scope) :
    ∀ k ∈ creatorCondition i, k.Fits scope := by
  unfold creatorCondition
  split <;> simp [Condition.Fits, Condition.Scoped, Condition.columns, Condition.binds,
    Column.plain_fixed, hv]

theorem thresholdConditions_fits (hv : Alias.videos ∈ scope)
    (hp : i.hasAsOf = true → Alias.peaks ∈ scope) :
    ∀ k ∈ thresholdConditions i, k.Fits scope := by
  intro k hk
  simp only [thresholdConditions, List.mem_map, List.mem_append, List.mem_filter] at hk
  obtain ⟨t, ht, rfl⟩ := hk
  have hmem : t ∈ i.filters.thresholds := by rcases ht with ⟨h, -⟩ | ⟨h, -⟩ <;> exact h
  -- a test on a final counter reads `v`; one as of a day reads `sm`, which its intent binds
  cases hb : t.basis with
  | finalTotal =>
    simp [Threshold.condition, hb, Condition.Fits, Condition.Scoped, Condition.columns,
      Condition.binds, hv, Metric.column_plain]
  | snapshotAsOf =>
    have has : i.hasAsOf = true := List.any_eq_true.2 ⟨t, hmem, by simp [hb]⟩
    simp [Threshold.condition, hb, Condition.Fits, Condition.Scoped, Condition.columns,
      Condition.binds, hp has, Metric.column_plain]

theorem thresholdConditions_ne_nil (h : i.hasAsOf = true) : thresholdConditions i ≠ [] := by
  obtain ⟨t, ht, hb⟩ := List.any_eq_true.1 h
  have hmem : Threshold.condition t ∈ thresholdConditions i :=
    List.mem_map.2 ⟨t, List.mem_append_right _ (List.mem_filter.2 ⟨ht, hb⟩), rfl⟩
  exact List.ne_nil_of_mem hmem

theorem videoDates_fits {b : Bool} {ds : List Condition} (h : videoDates i b = .ok ds)
    (hv : Alias.videos ∈ scope) : ∀ k ∈ ds, k.Fits scope := by
  rcases videoDates_eq_ok h with
    ⟨-, rfl⟩ | ⟨r, w, -, -, -, rfl⟩ | ⟨r, -, -, -, rfl⟩ | ⟨r, w, -, -, -, -, rfl⟩ <;>
  simp [Condition.Fits, Condition.Scoped, Condition.columns, Condition.binds, Column.plain_fixed,
    hv]

theorem snapshotDates_fits {ds : List Condition} (h : snapshotDates i = .ok ds)
    (hs : Alias.snapshots ∈ scope) : ∀ k ∈ ds, k.Fits scope := by
  rcases snapshotDates_eq_ok h with ⟨-, rfl⟩ | ⟨r, w, -, -, -, rfl⟩ | ⟨r, t, -, -, rfl⟩ <;>
  simp [Condition.Fits, Condition.Scoped, Condition.columns, Condition.binds, Column.plain_fixed,
    hs]

theorem VideoAggregate.fits {agg : Aggregate} (h : VideoAggregate agg) (hv : Alias.videos ∈ scope) :
    ∀ c ∈ agg.columns, c.table ∈ scope ∧ c.Plain := by
  cases h with
  | total m => simp [Aggregate.columns, hv, Metric.column_plain]
  | _ => simp [Aggregate.columns, hv, Column.plain_fixed]

theorem SnapshotStart.fits {first : List Condition} {agg : Aggregate} (h : SnapshotStart first agg)
    (hs : Alias.snapshots ∈ scope) :
    (∀ k ∈ first, k.Fits scope) ∧
      ∀ c ∈ agg.columns, c.table ∈ scope ∧ c.Plain := by
  -- the first conditions test the change of the counter on the snapshot itself
  cases h with
  | total m => simp [Aggregate.columns, hs, Metric.deltaColumn_plain]
  | positive m =>
    simp [Condition.Fits, Condition.Scoped, Condition.columns, Condition.binds, Aggregate.columns,
      hs, Metric.deltaColumn_plain, Column.plain_fixed]
  | negative m =>
    simp [Condition.Fits, Condition.Scoped, Condition.columns, Condition.binds, Aggregate.columns,
      hs, Metric.deltaColumn_plain]

theorem overVideos_built {agg : Aggregate} (hagg : VideoAggregate agg)
    (h : overVideos i agg = .ok q) : q.Built i.hasAsOf := by
  simp only [overVideos, Except.bind_eq_ok, Except.pure_eq_ok] at h
  obtain ⟨pk, hpk, ds, hds, rfl⟩ := h
  have hsome := peakWindow?_isSome hpk
  -- the query binds `v`, and `sm` exactly for a threshold as of a day
  have hv : Alias.videos ∈ Source.videos.aliases ++ if pk.isSome then [.peaks] else [] := by
    simp [Source.aliases]
  have hp (has : i.hasAsOf = true) :
      Alias.peaks ∈ Source.videos.aliases ++ if pk.isSome then [.peaks] else [] := by
    simp [hsome, has]
  have hconds : ∀ k ∈ creatorCondition i ++ ds ++ thresholdConditions i,
      k.Fits (Source.videos.aliases ++ if pk.isSome then [.peaks] else []) :=
    List.forall_mem_append.2 ⟨List.forall_mem_append.2
      ⟨creatorCondition_fits hv, videoDates_fits hds hv⟩, thresholdConditions_fits hv hp⟩
  have hagg' := hagg.fits hv
  refine ⟨⟨fun c hc => (hagg' c hc).1, fun k hk => (hconds k hk).1⟩,
    ⟨fun c hc => (hagg' c hc).2, fun k hk => (hconds k hk).2⟩, hsome, fun hpeaks => ?_⟩
  exact List.append_ne_nil_of_right_ne_nil _ (thresholdConditions_ne_nil (hsome ▸ hpeaks))

theorem overSnapshots_built {first : List Condition} {agg : Aggregate}
    (hstart : SnapshotStart first agg) (h : overSnapshots i first agg = .ok q) :
    q.Built i.hasAsOf := by
  simp only [overSnapshots, Except.bind_eq_ok, Except.pure_eq_ok] at h
  obtain ⟨pk, hpk, ds, hds, rfl⟩ := h
  have hsome := peakWindow?_isSome hpk
  -- the query binds `s` and `v`, and `sm` exactly for a threshold as of a day
  have hs : Alias.snapshots ∈ Source.snapshots.aliases ++ if pk.isSome then [.peaks] else [] := by
    simp [Source.aliases]
  have hv : Alias.videos ∈ Source.snapshots.aliases ++ if pk.isSome then [.peaks] else [] := by
    simp [Source.aliases]
  have hp (has : i.hasAsOf = true) :
      Alias.peaks ∈ Source.snapshots.aliases ++ if pk.isSome then [.peaks] else [] := by
    simp [hsome, has]
  obtain ⟨hfirst, hagg⟩ := hstart.fits hs
  have hconds : ∀ k ∈ first ++ ds ++ creatorCondition i ++ thresholdConditions i,
      k.Fits (Source.snapshots.aliases ++ if pk.isSome then [.peaks] else []) :=
    List.forall_mem_append.2 ⟨List.forall_mem_append.2 ⟨List.forall_mem_append.2
      ⟨hfirst, snapshotDates_fits hds hs⟩, creatorCondition_fits hv⟩,
      thresholdConditions_fits hv hp⟩
  refine ⟨⟨fun c hc => (hagg c hc).1, fun k hk => (hconds k hk).1⟩,
    ⟨fun c hc => (hagg c hc).2, fun k hk => (hconds k hk).2⟩, hsome, fun hpeaks => ?_⟩
  exact List.append_ne_nil_of_right_ne_nil _ (thresholdConditions_ne_nil (hsome ▸ hpeaks))

theorem build_built (h : build i = .ok q) : q.Built i.hasAsOf := by
  rcases build_eq_ok h with ⟨agg, hagg, h⟩ | ⟨first, agg, hstart, h⟩
  · exact overVideos_built hagg h
  · exact overSnapshots_built hstart h

theorem build_well_scoped (h : build i = .ok q) :
    (peaksSql.toList <+: q.sql.toList ↔ i.hasAsOf = true) ∧
      (peaksJoin.toList <:+: q.sql.toList ↔ i.hasAsOf = true) ∧
      ("sm.".toList <:+: q.sql.toList ↔ i.hasAsOf = true) ∧ q.Scoped ∧
      ("WHERE".toList <:+: q.sql.toList ↔ q.conditions ≠ []) := by
  have hb := build_built h
  rw [← hb.peaks]
  exact ⟨sql_starts_with_peaks, sql_joins_peaks hb.bound hb.plain,
    sql_names_peaks hb.bound hb.plain, hb.bound, sql_has_where hb.bound hb.plain hb.conditions⟩

def peakViewsCount : Intent :=
  { operation := .countVideos
    dateRange := some ⟨.snapshotsCreatedAt, ⟨2025, 11, 28⟩, ⟨2025, 11, 28⟩⟩
    filters := { thresholds := [⟨.snapshotAsOf, .views, .gt, 100000⟩] } }

theorem peakViewsCount_well_scoped :
    ∃ q, build peakViewsCount = .ok q ∧
      ((peaksSql.toList <+: q.sql.toList ↔ peakViewsCount.hasAsOf = true) ∧
        (peaksJoin.toList <:+: q.sql.toList ↔ peakViewsCount.hasAsOf = true) ∧
        ("sm.".toList <:+: q.sql.toList ↔ peakViewsCount.hasAsOf = true) ∧ q.Scoped ∧
        ("WHERE".toList <:+: q.sql.toList ↔ q.conditions ≠ [])) :=
  ⟨_, rfl, build_well_scoped rfl⟩

end Query

end VideoStats
