import Mathlib.Data.List.Forall2
import VideoStats.Proofs.Building

set_option autoImplicit false

namespace VideoStats

namespace Query

inductive Slot where
  | rangeStart (column : String)
  | rangeEnd (column : String)
  | windowStart (column : String)
  | windowEnd (column : String)
  | creator
  | threshold (t : Threshold)
  deriving DecidableEq, Repr

def Slot.lead : Slot → String
  | .rangeStart c => c ++ " >= "
  | .rangeEnd c => c ++ " < "
  | .windowStart c => c ++ " >= "
  | .windowEnd c => c ++ " <= "
  | .creator => "v.creator_id = "
  | .threshold t =>
    (match t.basis with
      | .finalTotal => "v."
      | .snapshotAsOf => "sm.") ++ t.metric.column ++ " " ++ t.op.symbol ++ " "

def Slot.value? (i : Intent) : Slot → Option Param
  | .rangeStart _ => i.dateRange.map fun r => .moment (Moment.startOf r.start)
  | .rangeEnd _ => i.dateRange.bind fun r =>
    r.stop.next.toOption.map fun after => .moment (Moment.startOf after)
  | .windowStart _ => i.dateRange.bind fun r => i.timeWindow.map fun w => .moment ⟨r.start, w.start⟩
  | .windowEnd _ => i.dateRange.bind fun r => i.timeWindow.map fun w => .moment ⟨r.start, w.stop⟩
  | .creator => i.filters.creator.map .text
  | .threshold t => some (.int t.value)

def Slot.threshold? : Slot → Option Threshold
  | .threshold t => some t
  | _ => none

/-- A text split at its placeholders `%s`, each piece ending with what its slot asks for. -/
inductive Fills : List Char → List Slot → Prop
  | text {cs : List Char} : '%' ∉ cs → Fills cs []
  | hole {before rest : List Char} {s : Slot} {ss : List Slot} :
      '%' ∉ before → s.lead.toList <:+ before → Fills rest ss →
        Fills (before ++ ['%', 's'] ++ rest) (s :: ss)

namespace Fills

theorem nil : Fills [] [] := text (by simp)

theorem prepend {pre cs : List Char} {ss : List Slot} (hpre : '%' ∉ pre) (h : Fills cs ss) :
    Fills (pre ++ cs) ss := by
  cases h with
  | text hcs => exact text (by simp [hpre, hcs])
  | hole hb hlead hrest =>
    rw [← List.append_assoc, ← List.append_assoc]
    exact hole (by simp [hpre, hb]) (hlead.trans (List.suffix_append _ _)) (by simpa using hrest)

theorem append {a b : List Char} {ss ts : List Slot} (ha : Fills a ss) (hb : Fills b ts) :
    Fills (a ++ b) (ss ++ ts) := by
  induction ha with
  | text hcs => exact prepend hcs hb
  | hole hbefore hlead _ ih =>
    simpa [List.append_assoc] using hole hbefore hlead ih

theorem append_text {cs post : List Char} {ss : List Slot} (h : Fills cs ss) (hpost : '%' ∉ post) :
    Fills (cs ++ post) ss := by
  simpa using append h (text hpost)

end Fills

def Valued (i : Intent) (ss : List Slot) (ps : List Param) : Prop :=
  List.Forall₂ (fun (s : Slot) p => s.value? i = some p) ss ps

def Condition.Binds (i : Intent) (c : Condition) (ss : List Slot) : Prop :=
  Fills c.sql.toList ss ∧ Valued i ss c.params

-- The texts of conditions, one equation a constructor. They hold by `rfl`; unfolding
-- `Condition.sql` by its generated equations would evaluate the literals of every branch.
theorem Condition.sql_compare (c : Column) (op : Comparator) (v : Param) :
    (Condition.compare c op v).sql = c.sql ++ " " ++ op.symbol ++ " %s" := rfl
theorem Condition.sql_sign (c : Column) (op : Comparator) :
    (Condition.sign c op).sql = c.sql ++ " " ++ op.symbol ++ " 0" := rfl
theorem Condition.sql_during (c : Column) (lo hi : Moment) :
    (Condition.during c lo hi).sql = duringSql c := rfl
theorem Condition.sql_between (c : Column) (lo hi : Moment) :
    (Condition.between c lo hi).sql = c.sql ++ " >= %s AND " ++ c.sql ++ " <= %s" := rfl
theorem Condition.sql_snapshotDuring (lo hi : Moment) :
    (Condition.snapshotDuring lo hi).sql =
      "EXISTS (SELECT 1 FROM video_snapshots s WHERE s.video_id = v.id AND " ++
        duringSql ⟨.snapshots, "created_at"⟩ ++ ")" := rfl

theorem Metric.column_no_percent (m : Metric) : '%' ∉ m.column.toList := by
  cases m <;> decide

theorem Metric.deltaColumn_no_percent (m : Metric) : '%' ∉ m.deltaColumn.toList := by
  cases m <;> decide

theorem Comparator.symbol_no_percent (op : Comparator) : '%' ∉ op.symbol.toList := by
  cases op <;> decide

theorem Alias.name_no_percent (a : Alias) : '%' ∉ a.name.toList := by
  cases a <;> decide

theorem Slot.lead_threshold_no_percent (t : Threshold) : '%' ∉ (Slot.threshold t).lead.toList := by
  cases h : t.basis <;>
    simp [Slot.lead, h, Metric.column_no_percent, Comparator.symbol_no_percent]

theorem threshold_binds (i : Intent) (t : Threshold) :
    (Threshold.condition t).Binds i [.threshold t] := by
  constructor
  · have text : (Threshold.condition t).sql.toList =
        (Slot.threshold t).lead.toList ++ ['%', 's'] ++ [] := by
      cases h : t.basis <;>
        simp only [Threshold.condition, h, Condition.sql_compare, Column.sql, Slot.lead,
          Alias.name, String.toList_append, String.reduceToList, List.append_assoc,
          List.cons_append, List.nil_append, List.append_nil]
    rw [text]
    exact Fills.hole (Slot.lead_threshold_no_percent t) (List.suffix_refl _) Fills.nil
  · simp [Valued, Threshold.condition, Condition.params, Slot.value?]

theorem creator_binds {i : Intent} {c : String} (h : i.filters.creator = some c) :
    (Condition.compare ⟨.videos, "creator_id"⟩ .eq (.text c)).Binds i [.creator] := by
  constructor
  · have text : (Condition.compare ⟨.videos, "creator_id"⟩ .eq (.text c)).sql.toList =
        Slot.creator.lead.toList ++ ['%', 's'] ++ [] := by
      simp only [Condition.sql_compare, Column.sql, Slot.lead, Alias.name, Comparator.symbol,
        String.toList_append, String.reduceToList, List.cons_append, List.nil_append,
        List.append_nil]
    rw [text]
    exact Fills.hole (by decide) (List.suffix_refl _) Fills.nil
  · simp [Valued, Condition.params, Slot.value?, h]

theorem Column.sql_no_percent {c : Column} (h : '%' ∉ c.name.toList) : '%' ∉ c.sql.toList := by
  simp [Column.sql, Alias.name_no_percent, h]

theorem during_fills {c : Column} (hc : '%' ∉ c.sql.toList) :
    Fills (duringSql c).toList [.rangeStart c.sql, .rangeEnd c.sql] := by
  have text : (duringSql c).toList = (c.sql ++ " >= ").toList ++ ['%', 's'] ++
      ((" AND " ++ (c.sql ++ " < ")).toList ++ ['%', 's'] ++ []) := by
    simp only [duringSql, String.toList_append, String.reduceToList, List.append_assoc,
      List.cons_append, List.nil_append, List.append_nil]
  rw [text]
  refine Fills.hole (by simp [hc]) (List.suffix_refl _) (Fills.hole (by simp [hc]) ?_ Fills.nil)
  rw [String.toList_append]
  exact List.suffix_append _ _

theorem between_fills {c : Column} (hc : '%' ∉ c.sql.toList) {lo hi : Moment} :
    Fills (Condition.between c lo hi).sql.toList [.windowStart c.sql, .windowEnd c.sql] := by
  have text : (Condition.between c lo hi).sql.toList = (c.sql ++ " >= ").toList ++ ['%', 's'] ++
      ((" AND " ++ (c.sql ++ " <= ")).toList ++ ['%', 's'] ++ []) := by
    simp only [Condition.sql_between, String.toList_append, String.reduceToList,
      List.append_assoc, List.cons_append, List.nil_append, List.append_nil]
  rw [text]
  refine Fills.hole (by simp [hc]) (List.suffix_refl _) (Fills.hole (by simp [hc]) ?_ Fills.nil)
  rw [String.toList_append]
  exact List.suffix_append _ _

theorem range_values {i : Intent} {r : DateRange} {w : Moment × Moment} (hr : i.dateRange = some r)
    (hw : interval r = .ok w) (column : String) :
    Valued i [.rangeStart column, .rangeEnd column] [.moment w.1, .moment w.2] := by
  obtain ⟨after, hafter, rfl⟩ := interval_eq_ok hw
  simp [Valued, Slot.value?, hr, hafter, Except.toOption]

theorem during_binds {i : Intent} {r : DateRange} {w : Moment × Moment} {c : Column}
    (hc : '%' ∉ c.name.toList) (hr : i.dateRange = some r) (hw : interval r = .ok w) :
    (Condition.during c w.1 w.2).Binds i [.rangeStart c.sql, .rangeEnd c.sql] :=
  ⟨during_fills (Column.sql_no_percent hc), range_values hr hw _⟩

theorem snapshotDuring_binds {i : Intent} {r : DateRange} {w : Moment × Moment}
    (hr : i.dateRange = some r) (hw : interval r = .ok w) :
    (Condition.snapshotDuring w.1 w.2).Binds i
      [.rangeStart (Column.sql ⟨.snapshots, "created_at"⟩),
        .rangeEnd (Column.sql ⟨.snapshots, "created_at"⟩)] := by
  refine ⟨?_, range_values hr hw _⟩
  rw [Condition.sql_snapshotDuring, String.toList_append, String.toList_append]
  exact Fills.append_text (Fills.prepend (by decide)
    (during_fills (Column.sql_no_percent (by decide)))) (by decide)

theorem between_binds {i : Intent} {r : DateRange} {t : TimeWindow} (hr : i.dateRange = some r)
    (ht : i.timeWindow = some t) :
    (Condition.between ⟨.snapshots, "created_at"⟩ ⟨r.start, t.start⟩ ⟨r.start, t.stop⟩).Binds i
      [.windowStart (Column.sql ⟨.snapshots, "created_at"⟩),
        .windowEnd (Column.sql ⟨.snapshots, "created_at"⟩)] :=
  ⟨between_fills (Column.sql_no_percent (by decide)),
    by simp [Valued, Slot.value?, hr, ht, Condition.params]⟩

theorem sign_binds (i : Intent) (m : Metric) (op : Comparator) :
    (Condition.sign ⟨.snapshots, m.deltaColumn⟩ op).Binds i [] := by
  refine ⟨Fills.text ?_, by simp [Valued, Condition.params]⟩
  simp [Condition.sql_sign, Column.sql, Alias.name, Metric.deltaColumn_no_percent,
    Comparator.symbol_no_percent]

theorem peaks_fills :
    Fills peaksSql.toList [.rangeStart "s.created_at", .rangeEnd "s.created_at"] := by
  unfold peaksSql
  repeat rw [String.toList_append]
  -- only the line of the window has placeholders; the lines around it are plain text
  refine Fills.append_text (Fills.append_text (Fills.prepend ?_ ?_) (by decide)) (by decide)
  · simp only [List.mem_append, not_or]
    refine ⟨⟨⟨⟨⟨⟨?_, ?_⟩, ?_⟩, ?_⟩, ?_⟩, ?_⟩, ?_⟩ <;> decide
  · have text : "  WHERE s.created_at >= %s AND s.created_at < %s".toList =
        "  WHERE s.created_at >= ".toList ++ ['%', 's'] ++
          (" AND s.created_at < ".toList ++ ['%', 's'] ++ []) := by
      simp only [String.reduceToList, List.cons_append, List.nil_append]
    rw [text]
    exact Fills.hole (by decide) (by decide) (Fills.hole (by decide) (by decide) Fills.nil)

/-- Each condition of a list binds its own slots; together they bind `ss`. -/
def BindsAll (i : Intent) (cs : List Condition) (ss : List Slot) : Prop :=
  ∃ sss, List.Forall₂ (Condition.Binds i) cs sss ∧ sss.flatten = ss

namespace BindsAll

variable {i : Intent}

theorem nil : BindsAll i [] [] := ⟨[], .nil, rfl⟩

theorem single {c : Condition} {ss : List Slot} (h : c.Binds i ss) : BindsAll i [c] ss :=
  ⟨[ss], .cons h .nil, by simp⟩

theorem append {cs ds : List Condition} {ss ts : List Slot} (h : BindsAll i cs ss)
    (h' : BindsAll i ds ts) : BindsAll i (cs ++ ds) (ss ++ ts) := by
  obtain ⟨sss, h, rfl⟩ := h
  obtain ⟨tss, h', rfl⟩ := h'
  exact ⟨sss ++ tss, List.rel_append h h', by simp⟩

end BindsAll

theorem intercalate_fills {i : Intent} {cs : List Condition} {sss : List (List Slot)}
    (h : List.Forall₂ (Condition.Binds i) cs sss) :
    Fills (" AND ".intercalate (cs.map Condition.sql)).toList sss.flatten := by
  induction h with
  | nil => simpa using Fills.nil
  | cons hc hrest ih =>
    cases hrest with
    | nil => simpa using hc.1
    | cons _ _ =>
      rw [List.map_cons, String.intercalate_cons_of_ne_nil (by simp), String.toList_append,
        String.toList_append, List.flatten_cons, List.append_assoc]
      exact Fills.append hc.1 (Fills.prepend (by decide) ih)

theorem flatten_valued {i : Intent} {cs : List Condition} {sss : List (List Slot)}
    (h : List.Forall₂ (Condition.Binds i) cs sss) :
    Valued i sss.flatten (cs.flatMap Condition.params) := by
  induction h with
  | nil => exact .nil
  | cons hc _ ih =>
    rw [List.flatten_cons, List.flatMap_cons]
    exact List.rel_append hc.2 ih

theorem whereSql_binds {i : Intent} {cs : List Condition} {ss : List Slot} (h : BindsAll i cs ss) :
    Fills (whereSql cs).toList ss ∧ Valued i ss (cs.flatMap Condition.params) := by
  obtain ⟨sss, h, rfl⟩ := h
  refine ⟨?_, flatten_valued h⟩
  cases cs with
  | nil =>
    cases h
    simpa [whereSql] using Fills.nil
  | cons c cs =>
    simp only [whereSql, String.toList_append]
    exact Fills.prepend (by decide) (intercalate_fills h)

theorem Aggregate.sql_total (c : Column) :
    (Aggregate.total c).sql = "COALESCE(SUM(" ++ c.sql ++ "), 0)::bigint" := rfl

theorem Aggregate.sql_no_percent {a : Aggregate} (h : ∀ c, a = .total c → '%' ∉ c.name.toList) :
    '%' ∉ a.sql.toList := by
  cases a with
  | total c =>
    rw [Aggregate.sql_total]
    simp [Column.sql_no_percent (h c rfl)]
  | _ => decide

theorem Source.sql_no_percent (src : Source) (peaks : Bool) : '%' ∉ (src.sql peaks).toList := by
  cases src <;> cases peaks <;> decide

def peakSlots (pk : Option (Moment × Moment)) : List Slot :=
  match pk with
  | some _ => [.rangeStart "s.created_at", .rangeEnd "s.created_at"]
  | none => []

theorem query_binds {i : Intent} {q : Query} {ss : List Slot}
    (hpk : ∀ w, q.peakWindow = some w → ∃ r, i.dateRange = some r ∧ interval r = .ok w)
    (hagg : '%' ∉ q.aggregate.sql.toList) (hcs : BindsAll i q.conditions ss) :
    Fills q.sql.toList (peakSlots q.peakWindow ++ ss) ∧
      Valued i (peakSlots q.peakWindow ++ ss) q.params := by
  obtain ⟨hwhere, hvalues⟩ := whereSql_binds hcs
  constructor
  · have text : q.sql.toList = (if q.peakWindow.isSome then peaksSql else "").toList ++
        (("SELECT " ++ q.aggregate.sql ++ " " ++ q.source.sql q.peakWindow.isSome).toList ++
          (whereSql q.conditions).toList) := by
      simp only [Query.sql, String.toList_append, List.append_assoc]
    have hmid : '%' ∉
        ("SELECT " ++ q.aggregate.sql ++ " " ++ q.source.sql q.peakWindow.isSome).toList := by
      simp [hagg, Source.sql_no_percent]
    rw [text]
    refine Fills.append ?_ (Fills.prepend hmid hwhere)
    cases q.peakWindow
    · simpa [peakSlots] using Fills.nil
    · simpa [peakSlots] using peaks_fills
  · refine List.rel_append ?_ hvalues
    cases hp : q.peakWindow with
    | none => exact .nil
    | some w =>
      obtain ⟨r, hr, hw⟩ := hpk w hp
      exact range_values hr hw _

theorem thresholds_bindsAll (i : Intent) (ts : List Threshold) :
    BindsAll i (ts.map Threshold.condition) (ts.map .threshold) := by
  induction ts with
  | nil => exact BindsAll.nil
  | cons t ts ih => exact BindsAll.append (BindsAll.single (threshold_binds i t)) ih

@[simp] theorem Slot.threshold?_threshold (t : Threshold) :
    (Slot.threshold t).threshold? = some t :=
  rfl

variable {i : Intent}

theorem creatorCondition_bindsAll :
    ∃ ss, BindsAll i (creatorCondition i) ss ∧ ss.filterMap Slot.threshold? = [] := by
  unfold creatorCondition
  cases h : i.filters.creator with
  | none => exact ⟨[], BindsAll.nil, rfl⟩
  | some c => exact ⟨[.creator], BindsAll.single (creator_binds h), rfl⟩

theorem videoDates_bindsAll {b : Bool} {ds : List Condition} (h : videoDates i b = .ok ds) :
    ∃ ss, BindsAll i ds ss ∧ ss.filterMap Slot.threshold? = [] := by
  rcases videoDates_eq_ok h with
    ⟨-, rfl⟩ | ⟨r, w, hr, -, hw, rfl⟩ | ⟨r, -, -, -, rfl⟩ | ⟨r, w, hr, -, -, hw, rfl⟩
  · exact ⟨[], BindsAll.nil, rfl⟩
  · exact ⟨_, BindsAll.single (during_binds (by decide) hr hw), rfl⟩
  · exact ⟨[], BindsAll.nil, rfl⟩
  · exact ⟨_, BindsAll.single (snapshotDuring_binds hr hw), rfl⟩

theorem snapshotDates_bindsAll {ds : List Condition} (h : snapshotDates i = .ok ds) :
    ∃ ss, BindsAll i ds ss ∧ ss.filterMap Slot.threshold? = [] := by
  rcases snapshotDates_eq_ok h with
    ⟨-, rfl⟩ | ⟨r, w, hr, -, hw, rfl⟩ | ⟨r, t, hr, ht, rfl⟩
  · exact ⟨[], BindsAll.nil, rfl⟩
  · exact ⟨_, BindsAll.single (during_binds (by decide) hr hw), rfl⟩
  · exact ⟨_, BindsAll.single (between_binds hr ht), rfl⟩

theorem peakWindow?_within {pk : Option (Moment × Moment)} (h : peakWindow? i = .ok pk) :
    ∀ w, pk = some w → ∃ r, i.dateRange = some r ∧ interval r = .ok w := by
  rcases peakWindow?_eq_ok h with ⟨-, rfl⟩ | ⟨r, w, -, hr, -, hw, rfl⟩
  · intro w hw
    cases hw
  · intro w' hw'
    cases hw'
    exact ⟨r, hr, hw⟩

def orderedThresholds (i : Intent) : List Threshold :=
  i.filters.thresholds.filter (·.basis == .finalTotal) ++
    i.filters.thresholds.filter (·.basis == .snapshotAsOf)

theorem thresholdConditions_eq :
    thresholdConditions i = (orderedThresholds i).map Threshold.condition :=
  rfl

theorem filterMap_peakSlots (pk : Option (Moment × Moment)) :
    (peakSlots pk).filterMap Slot.threshold? = [] := by
  cases pk <;> rfl

theorem overVideos_binds {agg : Aggregate} {q : Query} (h : overVideos i agg = .ok q)
    (hagg : '%' ∉ agg.sql.toList) :
    ∃ ss, Fills q.sql.toList ss ∧ Valued i ss q.params ∧
      ss.filterMap Slot.threshold? = orderedThresholds i := by
  simp only [overVideos, Except.bind_eq_ok, Except.pure_eq_ok] at h
  obtain ⟨pk, hpk, ds, hds, rfl⟩ := h
  obtain ⟨cs, hcs, hct⟩ := creatorCondition_bindsAll (i := i)
  obtain ⟨dss, hdss, hdt⟩ := videoDates_bindsAll hds
  have hall := BindsAll.append (BindsAll.append hcs hdss)
    (thresholdConditions_eq ▸ thresholds_bindsAll i (orderedThresholds i))
  obtain ⟨hfill, hval⟩ := query_binds
    (q := ⟨pk, agg, .videos, creatorCondition i ++ ds ++ thresholdConditions i⟩)
    (peakWindow?_within hpk) hagg hall
  refine ⟨_, hfill, hval, ?_⟩
  simp [List.filterMap_append, filterMap_peakSlots, hct, hdt, Function.comp_def]

theorem overSnapshots_binds {first : List Condition} {agg : Aggregate} {q : Query}
    (h : overSnapshots i first agg = .ok q) (hfirst : BindsAll i first [])
    (hagg : '%' ∉ agg.sql.toList) :
    ∃ ss, Fills q.sql.toList ss ∧ Valued i ss q.params ∧
      ss.filterMap Slot.threshold? = orderedThresholds i := by
  simp only [overSnapshots, Except.bind_eq_ok, Except.pure_eq_ok] at h
  obtain ⟨pk, hpk, ds, hds, rfl⟩ := h
  obtain ⟨cs, hcs, hct⟩ := creatorCondition_bindsAll (i := i)
  obtain ⟨dss, hdss, hdt⟩ := snapshotDates_bindsAll hds
  have hall := BindsAll.append (BindsAll.append (BindsAll.append hfirst hdss) hcs)
    (thresholdConditions_eq ▸ thresholds_bindsAll i (orderedThresholds i))
  obtain ⟨hfill, hval⟩ := query_binds
    (q := ⟨pk, agg, .snapshots, first ++ ds ++ creatorCondition i ++ thresholdConditions i⟩)
    (peakWindow?_within hpk) hagg hall
  refine ⟨_, hfill, hval, ?_⟩
  simp [List.filterMap_append, filterMap_peakSlots, hct, hdt, Function.comp_def]

theorem placeholders_bind_their_values (ha : i.Accepted)
    (hend : ∀ r ∈ i.dateRange, r.stop ≠ Day.last) :
    ∃ q, build i = .ok q ∧ ∃ ss, Fills q.sql.toList ss ∧ Valued i ss q.params ∧
      ss.filterMap Slot.threshold? =
        i.filters.thresholds.filter (·.basis == .finalTotal) ++
          i.filters.thresholds.filter (·.basis == .snapshotAsOf) := by
  obtain ⟨q, hq⟩ := build_ok_of_not_overflows ha fun ⟨r, hr, hl, _⟩ => hend r hr hl
  refine ⟨q, hq, ?_⟩
  have hc := ha.coherent
  -- one case an operation: each builds over videos or over snapshots with an aggregate whose
  -- columns are listed, and conditions of its own that bind nothing
  cases hop : i.operation
  case countVideos =>
    rw [build_countVideos hop (hc.count_no_metric (by simp [hop, Operation.isCount]))] at hq
    exact overVideos_binds hq (by decide)
  case countDistinctCreators =>
    rw [build_countDistinctCreators hop (hc.count_no_metric (by simp [hop, Operation.isCount]))]
      at hq
    exact overVideos_binds hq (by decide)
  case countDistinctPublishDays =>
    obtain ⟨r, hr, -⟩ := hc.publishDays_range hop
    rw [build_countDistinctPublishDays hop
      (hc.count_no_metric (by simp [hop, Operation.isCount])) hr] at hq
    exact overVideos_binds hq (by decide)
  case sumTotalMetric =>
    obtain ⟨m, hm⟩ := hc.metric_present (by simp [hop, Operation.isCount])
    rw [build_sumTotalMetric hop hm] at hq
    exact overVideos_binds hq
      (Aggregate.sql_no_percent fun _ h => by cases h; exact Metric.column_no_percent m)
  case sumDeltaMetric =>
    obtain ⟨m, hm⟩ := hc.metric_present (by simp [hop, Operation.isCount])
    rw [build_sumDeltaMetric hop hm] at hq
    exact overSnapshots_binds hq BindsAll.nil
      (Aggregate.sql_no_percent fun _ h => by cases h; exact Metric.deltaColumn_no_percent m)
  case countDistinctVideosWithPositiveDelta =>
    obtain ⟨m, hm⟩ := hc.metric_present (by simp [hop, Operation.isCount])
    rw [build_positiveDelta hop hm] at hq
    exact overSnapshots_binds hq (BindsAll.single (sign_binds i m .gt)) (by decide)
  case countSnapshotsWithNegativeDelta =>
    obtain ⟨m, hm⟩ := hc.metric_present (by simp [hop, Operation.isCount])
    rw [build_negativeDelta hop hm] at hq
    exact overSnapshots_binds hq (BindsAll.single (sign_binds i m .lt)) (by decide)

def windowedGain : Intent :=
  { operation := .sumDeltaMetric
    metric := some .views
    dateRange := some ⟨.snapshotsCreatedAt, ⟨2025, 11, 28⟩, ⟨2025, 11, 28⟩⟩
    timeWindow := some ⟨⟨10, 0, 0, 0⟩, ⟨15, 0, 0, 0⟩⟩
    filters :=
      { creator := some "c01"
        thresholds := [⟨.snapshotAsOf, .likes, .ge, 5⟩, ⟨.finalTotal, .views, .gt, 100⟩,
          ⟨.finalTotal, .comments, .lt, 3⟩] } }

theorem windowedGain_placeholders :
    windowedGain.Accepted ∧ (∀ r ∈ windowedGain.dateRange, r.stop ≠ Day.last) ∧
      ∃ q, build windowedGain = .ok q ∧ ∃ ss, Fills q.sql.toList ss ∧
        Valued windowedGain ss q.params ∧
        ss.filterMap Slot.threshold? =
          windowedGain.filters.thresholds.filter (·.basis == .finalTotal) ++
            windowedGain.filters.thresholds.filter (·.basis == .snapshotAsOf) := by
  have ha : windowedGain.Accepted := ⟨rfl, by simp [windowedGain]; decide⟩
  have hend : ∀ r ∈ windowedGain.dateRange, r.stop ≠ Day.last := by
    simp [windowedGain, Day.last]
  exact ⟨ha, hend, placeholders_bind_their_values ha hend⟩

end Query

end VideoStats
