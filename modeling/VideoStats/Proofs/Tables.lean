import Mathlib
import VideoStats.Intent.Check
import VideoStats.Query.Basic
import VideoStats.Proofs.Calendar

set_option autoImplicit false

namespace VideoStats

structure Counters where
  views : Int
  likes : Int
  comments : Int
  reports : Int
  deriving DecidableEq, Repr

namespace Counters

def get (c : Counters) : Metric → Int
  | .views => c.views
  | .likes => c.likes
  | .comments => c.comments
  | .reports => c.reports

def max (a b : Counters) : Counters :=
  ⟨Max.max a.views b.views, Max.max a.likes b.likes, Max.max a.comments b.comments,
    Max.max a.reports b.reports⟩

@[simp] theorem get_max (a b : Counters) (m : Metric) :
    (a.max b).get m = Max.max (a.get m) (b.get m) := by
  cases m <;> rfl

def cells (c : Counters) (column : Metric → String) : List (String × Query.Param) :=
  Metric.all.map fun m => (column m, .int (c.get m))

end Counters

structure Video where
  id : String
  creator : String
  publishedAt : Moment
  final : Counters
  deriving DecidableEq, Repr

structure Snapshot where
  video : String
  takenAt : Moment
  count : Counters
  delta : Counters
  deriving DecidableEq, Repr

structure PeakRow where
  video : String
  peak : Counters
  deriving DecidableEq, Repr

/-- A database. -/
structure Tables where
  videos : List Video
  snapshots : List Snapshot
  deriving Repr

def Video.cells (v : Video) : List (String × Query.Param) :=
  ("id", .text v.id) :: ("creator_id", .text v.creator) ::
    ("video_created_at", .moment v.publishedAt) :: v.final.cells Metric.column

def Snapshot.cells (s : Snapshot) : List (String × Query.Param) :=
  ("video_id", .text s.video) :: ("created_at", .moment s.takenAt) ::
    (s.count.cells Metric.column ++ s.delta.cells Metric.deltaColumn)

def PeakRow.cells (p : PeakRow) : List (String × Query.Param) :=
  ("video_id", .text p.video) :: p.peak.cells Metric.column

namespace Tables

/-- The constraints of the schema the queries rely on. -/
structure WellFormed (T : Tables) : Prop where
  video_ids : (T.videos.map (·.id)).Nodup
  video_exists : ∀ s ∈ T.snapshots, ∃ v ∈ T.videos, v.id = s.video
  published_valid : ∀ v ∈ T.videos, v.publishedAt.day.Valid
  taken_valid : ∀ s ∈ T.snapshots, s.takenAt.day.Valid

end Tables

namespace Query

open Tables

def Param.int? : Param → Option Int
  | .int n => some n
  | _ => none

def Param.moment? : Param → Option Moment
  | .moment m => some m
  | _ => none

def Param.compare? (op : Comparator) : Param → Param → Option Bool
  | .int a, .int b => some (op.holds a b)
  | .text a, .text b => if op = .eq then some (a == b) else none
  | _, _ => none

structure Row where
  video : Video
  snapshot : Option Snapshot
  peak : Option PeakRow

def Row.cell (r : Row) (c : Column) : Option Param :=
  match c.table with
  | .videos => r.video.cells.lookup c.name
  | .snapshots => r.snapshot.bind (·.cells.lookup c.name)
  | .peaks => r.peak.bind (·.cells.lookup c.name)

def peakCounters (first : Snapshot) (rest : List Snapshot) : Counters :=
  (rest.map (·.count)).foldl Counters.max first.count

def peakTable (T : Tables) (lo hi : Moment) : List PeakRow :=
  let inWindow := T.snapshots.filter fun s => decide (lo ≤ s.takenAt ∧ s.takenAt < hi)
  (inWindow.map (·.video)).dedup.filterMap fun video =>
    match inWindow.filter (·.video == video) with
    | [] => none
    | s :: rest => some ⟨video, peakCounters s rest⟩

def joinPeaks (peaks : Option (List PeakRow)) (key : String) (r : Row) : List Row :=
  match peaks with
  | none => [r]
  | some t => (t.filter (·.video == key)).map fun p => { r with peak := some p }

def Source.rows (T : Tables) (peaks : Option (List PeakRow)) : Source → List Row
  | .videos => T.videos.flatMap fun v => joinPeaks peaks v.id ⟨v, none, none⟩
  | .snapshots => T.snapshots.flatMap fun s =>
    (T.videos.filter (·.id == s.video)).flatMap fun v => joinPeaks peaks s.video ⟨v, some s, none⟩

def Condition.test? (T : Tables) (r : Row) : Condition → Option Bool
  | .compare c op v => do Param.compare? op (← r.cell c) v
  | .sign c op => do pure (op.holds (← (← r.cell c).int?) 0)
  | .during c lo hi => do
    let t ← (← r.cell c).moment?
    pure (decide (lo ≤ t ∧ t < hi))
  | .between c lo hi => do
    let t ← (← r.cell c).moment?
    pure (decide (lo ≤ t ∧ t ≤ hi))
  | .snapshotDuring lo hi =>
    pure (T.snapshots.any fun s =>
      s.video == r.video.id && decide (lo ≤ s.takenAt ∧ s.takenAt < hi))

def Condition.allHold? (T : Tables) (r : Row) : List Condition → Option Bool
  | [] => some true
  | c :: cs => do
    let b ← c.test? T r
    let rest ← allHold? T r cs
    pure (b && rest)

def select? (T : Tables) (cs : List Condition) : List Row → Option (List Row)
  | [] => some []
  | r :: rs => do
    let keep ← Condition.allHold? T r cs
    let rest ← select? T cs rs
    pure (if keep then r :: rest else rest)

def Aggregate.eval? (rows : List Row) : Aggregate → Option Int
  | .rows => some rows.length
  | .distinctCreators => do
    let xs ← rows.mapM (·.cell ⟨.videos, "creator_id"⟩)
    pure xs.dedup.length
  | .distinctPublishDays => do
    let ts ← rows.mapM fun r => do (← r.cell ⟨.videos, "video_created_at"⟩).moment?
    pure (ts.map (·.day)).dedup.length
  | .distinctVideos => do
    let xs ← rows.mapM (·.cell ⟨.snapshots, "video_id"⟩)
    pure xs.dedup.length
  | .total c => do
    let xs ← rows.mapM fun r => do (← r.cell c).int?
    pure xs.sum

def toBigint? (x : Int) : Option Int :=
  if bigintMin ≤ x ∧ x ≤ bigintMax then some x else none

/-- What a query returns on a database. -/
def eval (T : Tables) (q : Query) : Option Int := do
  let peaks := q.peakWindow.map fun w => peakTable T w.1 w.2
  let rows ← select? T q.conditions (q.source.rows T peaks)
  let x ← q.aggregate.eval? rows
  toBigint? x

end Query

namespace Query

namespace Row

variable (r : Row)

@[simp] theorem cell_creator : r.cell ⟨.videos, "creator_id"⟩ = some (.text r.video.creator) := by
  simp [cell, Video.cells, List.lookup_cons]

@[simp] theorem cell_published :
    r.cell ⟨.videos, "video_created_at"⟩ = some (.moment r.video.publishedAt) := by
  simp [cell, Video.cells, List.lookup_cons]

@[simp] theorem cell_final (m : Metric) :
    r.cell ⟨.videos, m.column⟩ = some (.int (r.video.final.get m)) := by
  cases m <;> simp [cell, Video.cells, Counters.cells, Metric.all, Metric.column, Metric.name,
    List.lookup_cons]

theorem cell_video_id {s : Snapshot} (hs : r.snapshot = some s) :
    r.cell ⟨.snapshots, "video_id"⟩ = some (.text s.video) := by
  simp [cell, hs, Snapshot.cells]

theorem cell_taken {s : Snapshot} (hs : r.snapshot = some s) :
    r.cell ⟨.snapshots, "created_at"⟩ = some (.moment s.takenAt) := by
  simp [cell, hs, Snapshot.cells, List.lookup_cons]

theorem cell_delta {s : Snapshot} (hs : r.snapshot = some s) (m : Metric) :
    r.cell ⟨.snapshots, m.deltaColumn⟩ = some (.int (s.delta.get m)) := by
  cases m <;> simp [cell, hs, Snapshot.cells, Counters.cells, Metric.all, Metric.column,
    Metric.deltaColumn, Metric.name, List.lookup_cons]

theorem cell_peak {p : PeakRow} (hp : r.peak = some p) (m : Metric) :
    r.cell ⟨.peaks, m.column⟩ = some (.int (p.peak.get m)) := by
  cases m <;> simp [cell, hp, PeakRow.cells, Counters.cells, Metric.all, Metric.column,
    Metric.name, List.lookup_cons]

end Row

namespace Condition

variable {T : Tables} {r : Row}

theorem test?_compare_int {c : Column} {x : Int} (h : r.cell c = some (.int x)) (op : Comparator)
    (y : Int) : (compare c op (.int y)).test? T r = some (op.holds x y) := by
  simp [test?, h, Param.compare?]

theorem test?_compare_text {c : Column} {x : String} (h : r.cell c = some (.text x)) (y : String) :
    (compare c .eq (.text y)).test? T r = some (x == y) := by
  simp [test?, h, Param.compare?]

theorem test?_sign {c : Column} {x : Int} (h : r.cell c = some (.int x)) (op : Comparator) :
    (sign c op).test? T r = some (op.holds x 0) := by
  simp [test?, h, Param.int?]

theorem test?_during {c : Column} {t : Moment} (h : r.cell c = some (.moment t)) (lo hi : Moment) :
    (during c lo hi).test? T r = some (decide (lo ≤ t ∧ t < hi)) := by
  simp [test?, h, Param.moment?]

theorem test?_between {c : Column} {t : Moment} (h : r.cell c = some (.moment t)) (lo hi : Moment) :
    (between c lo hi).test? T r = some (decide (lo ≤ t ∧ t ≤ hi)) := by
  simp [test?, h, Param.moment?]

theorem allHold?_map {α : Type} {xs : List α} {f : α → Condition} {p : α → Bool}
    (h : ∀ x ∈ xs, (f x).test? T r = some (p x)) : allHold? T r (xs.map f) = some (xs.all p) := by
  induction xs with
  | nil => rfl
  | cons x xs ih =>
    simp only [List.mem_cons, forall_eq_or_imp] at h
    simp [allHold?, h.1, ih h.2]

theorem allHold?_append {cs ds : List Condition} {a b : Bool} (hc : allHold? T r cs = some a)
    (hd : allHold? T r ds = some b) : allHold? T r (cs ++ ds) = some (a && b) := by
  induction cs generalizing a with
  | nil =>
    cases hc
    simpa using hd
  | cons c cs ih =>
    simp only [allHold?, Option.bind_eq_bind, Option.bind_eq_some_iff, Option.pure_def,
      Option.some.injEq] at hc
    obtain ⟨b₀, hb₀, rest, hrest, rfl⟩ := hc
    simp [allHold?, hb₀, ih hrest, Bool.and_assoc]

end Condition

theorem select?_eq_some {T : Tables} {cs : List Condition} {rows : List Row} {keep : Row → Bool}
    (h : ∀ r ∈ rows, Condition.allHold? T r cs = some (keep r)) :
    select? T cs rows = some (rows.filter keep) := by
  induction rows with
  | nil => rfl
  | cons r rs ih =>
    simp only [List.mem_cons, forall_eq_or_imp] at h
    cases hk : keep r <;> simp [select?, h.1, ih h.2, hk]

theorem select?_flatMap {α : Type} {T : Tables} {cs : List Condition} {xs : List α}
    {rowsOf : α → List Row} {keep : α → Bool}
    (h : ∀ x ∈ xs, ∀ r ∈ rowsOf x, Condition.allHold? T r cs = some (keep x)) :
    select? T cs (xs.flatMap rowsOf) =
      some (xs.flatMap fun x => if keep x then rowsOf x else []) := by
  -- the conditions' truth is a function of the row, and all rows of an item share the item's
  have hsel : select? T cs (xs.flatMap rowsOf) =
      some ((xs.flatMap rowsOf).filter fun r => (Condition.allHold? T r cs).getD false) := by
    apply select?_eq_some
    intro r hr
    obtain ⟨x, hx, hr⟩ := List.mem_flatMap.1 hr
    simp [h x hx r hr]
  rw [hsel, List.filter_flatMap]
  congr 1
  apply List.flatMap_congr
  intro x hx
  have hsame : ∀ r ∈ rowsOf x, (Condition.allHold? T r cs).getD false = keep x := by
    intro r hr
    simp [h x hx r hr]
  rw [List.filter_congr hsame]
  cases keep x <;> simp

theorem map_flatMap_ite {α β : Type} {xs : List α} {rowsOf : α → List Row} {keep : α → Bool}
    {f : Row → β} {g : α → β} (h : ∀ x ∈ xs, keep x = true → (rowsOf x).map f = [g x]) :
    (xs.flatMap fun x => if keep x then rowsOf x else []).map f = (xs.filter keep).map g := by
  induction xs with
  | nil => rfl
  | cons x xs ih =>
    simp only [List.mem_cons, forall_eq_or_imp] at h
    cases hk : keep x
    · simp [hk, ih h.2]
    · simp [hk, ih h.2, h.1 hk]

theorem mapM_eq_some {α β : Type} {f : α → Option β} {g : α → β} {xs : List α}
    (h : ∀ x ∈ xs, f x = some (g x)) : xs.mapM f = some (xs.map g) := by
  induction xs with
  | nil => rfl
  | cons x xs ih =>
    simp only [List.mem_cons, forall_eq_or_imp] at h
    simp [List.mapM_cons, h.1, ih h.2]

namespace Aggregate

theorem eval?_rows (rows : List Row) : Aggregate.rows.eval? rows = some rows.length := rfl

theorem length_dedup_text (xs : List String) :
    (xs.map Param.text).dedup.length = xs.dedup.length := by
  rw [List.dedup_map_of_injective (fun _ _ h => Param.text.inj h), List.length_map]

theorem eval?_distinctCreators (rows : List Row) :
    distinctCreators.eval? rows = some ((rows.map (·.video.creator)).dedup.length) := by
  have hcells : rows.mapM (·.cell ⟨.videos, "creator_id"⟩) =
      some ((rows.map (·.video.creator)).map Param.text) := by
    rw [List.map_map]
    exact mapM_eq_some fun r _ => r.cell_creator
  simp only [eval?]
  rw [hcells]
  simp [-List.map_map, length_dedup_text]

theorem eval?_distinctPublishDays (rows : List Row) :
    distinctPublishDays.eval? rows = some ((rows.map (·.video.publishedAt.day)).dedup.length) := by
  have hcells : (rows.mapM fun r => do (← r.cell ⟨.videos, "video_created_at"⟩).moment?) =
      some (rows.map (·.video.publishedAt)) :=
    mapM_eq_some fun r _ => by simp [Param.moment?]
  simp only [eval?]
  rw [hcells]
  simp [Function.comp_def]

theorem eval?_total_final (rows : List Row) (m : Metric) :
    (total ⟨.videos, m.column⟩).eval? rows = some ((rows.map (·.video.final.get m)).sum) := by
  have hcells : (rows.mapM fun r => do (← r.cell ⟨.videos, m.column⟩).int?) =
      some (rows.map (·.video.final.get m)) :=
    mapM_eq_some fun r _ => by simp [Param.int?]
  simp only [eval?]
  rw [hcells]
  rfl

theorem mapM_snapshots {β : Type} {f : Row → Option β} {g : Snapshot → β}
    (hf : ∀ r s, r.snapshot = some s → f r = some (g s)) :
    ∀ {rs : List Row} {ss : List Snapshot}, rs.map (·.snapshot) = ss.map some →
      rs.mapM f = some (ss.map g)
  | [], [], _ => rfl
  | [], _ :: _, h => by simp at h
  | _ :: _, [], h => by simp at h
  | r :: rs, s :: ss, h => by
    simp only [List.map_cons, List.cons.injEq] at h
    simp [List.mapM_cons, hf r s h.1, mapM_snapshots hf h.2]

theorem eval?_rows_snapshots {rs : List Row} {ss : List Snapshot}
    (h : rs.map (·.snapshot) = ss.map some) : Aggregate.rows.eval? rs = some ss.length := by
  have hlen : rs.length = ss.length := by simpa using congrArg List.length h
  simp [eval?_rows, hlen]

theorem eval?_distinctVideos {rows : List Row} {ss : List Snapshot}
    (h : rows.map (·.snapshot) = ss.map some) :
    distinctVideos.eval? rows = some ((ss.map (·.video)).dedup.length) := by
  have hcells : rows.mapM (·.cell ⟨.snapshots, "video_id"⟩) =
      some ((ss.map (·.video)).map Param.text) := by
    rw [List.map_map]
    exact mapM_snapshots (fun r s hs => r.cell_video_id hs) h
  simp only [eval?]
  rw [hcells]
  simp [-List.map_map, length_dedup_text]

theorem eval?_total_delta {rows : List Row} {ss : List Snapshot}
    (h : rows.map (·.snapshot) = ss.map some) (m : Metric) :
    (total ⟨.snapshots, m.deltaColumn⟩).eval? rows = some ((ss.map (·.delta.get m)).sum) := by
  have hcells : (rows.mapM fun r => do (← r.cell ⟨.snapshots, m.deltaColumn⟩).int?) =
      some (ss.map (·.delta.get m)) :=
    mapM_snapshots (fun r s hs => by simp [r.cell_delta hs, Param.int?]) h
  simp only [eval?]
  rw [hcells]
  rfl

end Aggregate

def window (T : Tables) (lo hi : Moment) (video : String) : List Snapshot :=
  T.snapshots.filter fun s => s.video == video && decide (lo ≤ s.takenAt ∧ s.takenAt < hi)

theorem peakCounters_get (first : Snapshot) (rest : List Snapshot) (m : Metric) :
    ((first :: rest).map (·.count.get m)).max? = some ((peakCounters first rest).get m) := by
  -- reading one counter commutes with the fold of the largest counters
  have hfold (c : Counters) (cs : List Counters) :
      (cs.foldl Counters.max c).get m = (cs.map (·.get m)).foldl Max.max (c.get m) := by
    induction cs generalizing c with
    | nil => rfl
    | cons d ds ih => simp [ih]
  rw [List.map_cons, List.max?_cons']
  simp [peakCounters, hfold, Function.comp_def]

theorem peakTable_filter (T : Tables) (lo hi : Moment) (key : String) :
    (peakTable T lo hi).filter (·.video == key) =
      match window T lo hi key with
      | [] => []
      | s :: rest => [⟨key, peakCounters s rest⟩] := by
  unfold peakTable
  set inWindow := T.snapshots.filter fun s => decide (lo ≤ s.takenAt ∧ s.takenAt < hi)
  have hgroup (v : String) : inWindow.filter (·.video == v) = window T lo hi v := by
    simp [inWindow, window, List.filter_filter]
  set group : String → Option PeakRow := fun video =>
    match inWindow.filter (·.video == video) with
    | [] => none
    | s :: rest => some ⟨video, peakCounters s rest⟩
  -- every group is named by its video, so filtering by the key keeps the key's group alone
  have hnamed (v : String) :
      (group v).filter (·.video == key) = if (v == key) = true then group v else none := by
    simp only [group]
    split <;> by_cases hv : v = key <;> simp [hv, Option.filter]
  have hkeys : (inWindow.map (·.video)).dedup.filter (· == key) =
      if key ∈ inWindow.map (·.video) then [key] else [] := by
    rw [List.filter_beq]
    split
    · rw [List.count_eq_one_of_mem (List.nodup_dedup _) (List.mem_dedup.2 ‹_›)]
      rfl
    · rw [List.count_eq_zero_of_not_mem (mt List.mem_dedup.1 ‹_›)]
      rfl
  change ((inWindow.map (·.video)).dedup.filterMap group).filter (·.video == key) = _
  rw [List.filter_filterMap]
  simp only [hnamed]
  rw [← List.filterMap_filter, hkeys]
  split
  · simp only [group, hgroup, List.filterMap_cons, List.filterMap_nil]
    rcases window T lo hi key with _ | ⟨s, rest⟩ <;> rfl
  · -- no snapshot of the key's video lies in the window
    have hnone : window T lo hi key = [] := by
      rw [← hgroup, List.filter_eq_nil_iff]
      intro s hs hk
      exact ‹key ∉ _› (List.mem_map.2 ⟨s, hs, by simpa using hk⟩)
    simp [hnone]

theorem any_window (T : Tables) (lo hi : Moment) (key : String) :
    (T.snapshots.any fun s => s.video == key && decide (lo ≤ s.takenAt ∧ s.takenAt < hi)) =
      !(window T lo hi key).isEmpty := by
  rw [Bool.eq_iff_iff]
  simp [window, List.filter_eq_nil_iff]

theorem test?_snapshotDuring (T : Tables) (r : Row) (lo hi : Moment) :
    (Condition.snapshotDuring lo hi).test? T r = some (!(window T lo hi r.video.id).isEmpty) := by
  rw [← any_window]
  rfl

theorem joinPeaks_peakTable (T : Tables) (lo hi : Moment) (key : String) (r : Row) :
    joinPeaks (some (peakTable T lo hi)) key r =
      match window T lo hi key with
      | [] => []
      | s :: rest => [{ r with peak := some ⟨key, peakCounters s rest⟩ }] := by
  rw [joinPeaks, peakTable_filter]
  split <;> rfl

theorem mem_joinPeaks_peakTable {T : Tables} {lo hi : Moment} {key : String} {r row : Row} :
    row ∈ joinPeaks (some (peakTable T lo hi)) key r ↔
      ∃ s rest, window T lo hi key = s :: rest ∧
        row = { r with peak := some ⟨key, peakCounters s rest⟩ } := by
  rw [joinPeaks_peakTable]
  split <;> simp_all

end Query

end VideoStats
