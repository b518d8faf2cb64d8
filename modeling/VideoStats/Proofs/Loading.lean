import VideoStats.Service.Load
import VideoStats.Proofs.MigrationTrail
import VideoStats.Proofs.Accepted

set_option autoImplicit false

namespace VideoStats

namespace Dataset

variable {α : Type}

theorem batches_nil (size : Nat) : batches size ([] : List α) = [] := by
  rw [batches]

theorem batches_eq_nil_iff (size : Nat) {xs : List α} : batches size xs = [] ↔ xs = [] := by
  cases xs with
  | nil => simp [batches_nil]
  | cons x rest => simp [batches]

theorem flatten_batches (size : Nat) (xs : List α) : (batches size xs).flatten = xs := by
  fun_induction batches size xs with
  | case1 => rfl
  | case2 x rest ih => rw [List.flatten_cons, ih, List.take_append_drop]

theorem length_batches {size : Nat} (hsize : 0 < size) (xs : List α) :
    (batches size xs).length = (xs.length + size - 1) / size := by
  fun_induction batches size xs with
  | case1 =>
    simp only [List.length_nil, Nat.zero_add]
    exact (Nat.div_eq_of_lt (by omega)).symm
  | case2 x rest ih =>
    rw [List.length_cons, ih, List.length_drop, List.length_cons]
    have hs : size - 1 + 1 = size := by omega
    rw [hs]
    by_cases hfull : size ≤ rest.length + 1
    · -- a full batch goes, and the rest needs one batch less
      have : rest.length + 1 + size - 1 = (rest.length + 1 - size + size - 1) + size := by omega
      rw [this, Nat.add_div_right _ hsize]
    · have hrest : rest.length + 1 - size + size - 1 = size - 1 := by omega
      rw [hrest, Nat.div_eq_of_lt (by omega : size - 1 < size)]
      exact (Nat.div_eq_of_lt_le (by omega) (by omega)).symm

theorem length_of_mem_dropLast_batches {size : Nat} (hsize : 0 < size) {xs : List α}
    {batch : List α} (h : batch ∈ (batches size xs).dropLast) : batch.length = size := by
  fun_induction batches size xs with
  | case1 => simp at h
  | case2 x rest ih =>
    have hs : size - 1 + 1 = size := by omega
    rw [hs] at h ih
    cases hmore : batches size ((x :: rest).drop size) with
    | nil => simp [hmore] at h
    | cons b bs =>
      rw [hmore, List.dropLast_cons_cons, List.mem_cons] at h
      rcases h with rfl | h
      · -- more batches follow, so the items outnumber a batch
        have hlong : size < rest.length + 1 := by
          rcases Nat.lt_or_ge size (rest.length + 1) with hlt | hge
          · exact hlt
          · have : (x :: rest).drop size = [] := List.drop_eq_nil_of_le (by simpa using hge)
            rw [this, batches_nil] at hmore
            cases hmore
        simp; omega
      · exact ih (by rw [hmore]; exact h)

theorem length_of_getLast?_batches {size : Nat} (hsize : 0 < size) {xs : List α} {last : List α}
    (h : last ∈ (batches size xs).getLast?) :
    last.length = xs.length - size * ((batches size xs).length - 1) := by
  fun_induction batches size xs with
  | case1 => simp at h
  | case2 x rest ih =>
    have hs : size - 1 + 1 = size := by omega
    rw [hs] at h ih ⊢
    cases hmore : batches size ((x :: rest).drop size) with
    | nil =>
      -- the only batch takes every item
      rw [hmore] at h
      have hshort : (x :: rest).length ≤ size :=
        List.drop_eq_nil_iff.1 ((batches_eq_nil_iff size).1 hmore)
      simp only [List.getLast?_singleton, Option.mem_def, Option.some.injEq] at h
      subst h
      simp only [List.length_cons] at hshort
      simp only [List.length_take, List.length_cons, List.length_nil]
      omega
    | cons b bs =>
      rw [hmore, List.getLast?_cons_cons] at h
      rw [hmore] at ih
      have hlast := ih h
      simp only [List.length_drop, List.length_cons] at hlast ⊢
      rw [Nat.add_sub_cancel, Nat.mul_succ]
      rw [Nat.add_sub_cancel] at hlast
      omega

/-- `bs` splits `xs` into batches of `size`, all full but the last. -/
structure Batched (size : Nat) (xs : List α) (bs : List (List α)) : Prop where
  flatten : bs.flatten = xs
  count : bs.length = (xs.length + size - 1) / size
  full : ∀ b ∈ bs.dropLast, b.length = size
  last : ∀ b ∈ bs.getLast?, b.length = xs.length - size * (bs.length - 1)

theorem batches_batched {size : Nat} (hsize : 0 < size) (xs : List α) :
    Batched size xs (batches size xs) :=
  ⟨flatten_batches size xs, length_batches hsize xs,
    fun _ hb => length_of_mem_dropLast_batches hsize hb,
    fun _ hb => length_of_getLast?_batches hsize hb⟩

theorem ne_nil_of_mem_batches (size : Nat) {xs batch : List α} (h : batch ∈ batches size xs) :
    batch ≠ [] := by
  fun_induction batches size xs with
  | case1 => simp at h
  | case2 x rest ih =>
    rcases List.mem_cons.1 h with rfl | h
    · simp
    · exact ih h

theorem length_le_of_mem_batches {size : Nat} (hsize : 0 < size) {xs batch : List α}
    (h : batch ∈ batches size xs) : batch.length ≤ size := by
  fun_induction batches size xs with
  | case1 => simp at h
  | case2 x rest ih =>
    rcases List.mem_cons.1 h with rfl | h
    · simp only [List.length_take]
      omega
    · exact ih h

theorem batches_partition_items {size : Nat} (hsize : 0 < size) (xs : List α) :
    Batched size xs (batches size xs) ∧
      ∀ batch ∈ batches size xs, 0 < batch.length ∧ batch.length ≤ size :=
  ⟨batches_batched hsize xs, fun _ hb =>
    ⟨List.length_pos_iff.2 (ne_nil_of_mem_batches size hb), length_le_of_mem_batches hsize hb⟩⟩

theorem sevenItems_batched_by_three : 0 < 3 ∧
    (Batched 3 (List.range 7) (batches 3 (List.range 7)) ∧
      ∀ batch ∈ batches 3 (List.range 7), 0 < batch.length ∧ batch.length ≤ 3) :=
  ⟨by decide, batches_partition_items (by decide) (List.range 7)⟩

def videoSnapshotRows (video : Json) : Except Json.UseError (List (List Json)) := do
  let snaps ← (video.memberOr "snapshots" (.arr [])).bind Json.items
  snaps.mapM snapshotRow

theorem untilError_of_mapM {β ε : Type} {f : α → Except ε β} {xs : List α} {ys : List β}
    (h : xs.mapM f = .ok ys) : untilError f xs = (ys, none) := by
  induction xs generalizing ys with
  | nil =>
    cases h
    rfl
  | cons x rest ih =>
    rw [List.mapM_cons] at h
    obtain ⟨y, hy, hrest⟩ := Except.bind_eq_ok.1 h
    obtain ⟨ys', hys', hys⟩ := Except.bind_eq_ok.1 hrest
    cases hys
    simp [untilError, hy, ih hys']

theorem snapshotRowsOf_of_mapM {vs : List Json} {perVideo : List (List (List Json))}
    (h : vs.mapM videoSnapshotRows = .ok perVideo) : snapshotRowsOf vs = (perVideo.flatten, none) := by
  induction vs generalizing perVideo with
  | nil =>
    cases h
    rfl
  | cons v rest ih =>
    rw [List.mapM_cons] at h
    obtain ⟨rows, hv, hrest⟩ := Except.bind_eq_ok.1 h
    obtain ⟨more, hmore, hper⟩ := Except.bind_eq_ok.1 hrest
    cases hper
    obtain ⟨snaps, hsnaps, hrows⟩ := Except.bind_eq_ok.1 hv
    simp [snapshotRowsOf, hsnaps, untilError_of_mapM hrows, ih hmore]

end Dataset

namespace Json

mutual
def same : Json → Json → Bool
  | .null, .null => true
  | .bool a, .bool b => a == b
  | .int a, .int b => a == b
  | .str a, .str b => a == b
  | .arr as, .arr bs => sameItems as bs
  | .obj ms, .obj ns => sameMembers ms ns
  | _, _ => false

def sameItems : List Json → List Json → Bool
  | [], [] => true
  | a :: as, b :: bs => same a b && sameItems as bs
  | _, _ => false

def sameMembers : List (String × Json) → List (String × Json) → Bool
  | [], [] => true
  | (k, a) :: ms, (l, b) :: ns => k == l && same a b && sameMembers ms ns
  | _, _ => false
end

mutual
theorem eq_of_same : (a b : Json) → same a b = true → a = b
  | .null, b, h => by cases b <;> simp_all [same]
  | .bool x, b, h => by cases b <;> simp_all [same]
  | .int x, b, h => by cases b <;> simp_all [same]
  | .num x, b, h => by cases b <;> simp [same] at h
  | .str x, b, h => by cases b <;> simp_all [same]
  | .arr xs, b, h =>
    match b, h with
    | .arr ys, h => congrArg Json.arr (eq_of_sameItems xs ys (by simpa [same] using h))
    | .null, h | .bool _, h | .int _, h | .num _, h | .str _, h | .obj _, h => by simp [same] at h
  | .obj ms, b, h =>
    match b, h with
    | .obj ns, h => congrArg Json.obj (eq_of_sameMembers ms ns (by simpa [same] using h))
    | .null, h | .bool _, h | .int _, h | .num _, h | .str _, h | .arr _, h => by simp [same] at h

theorem eq_of_sameItems : (xs ys : List Json) → sameItems xs ys = true → xs = ys
  | [], [], _ => rfl
  | x :: xs, y :: ys, h => by
    simp only [sameItems, Bool.and_eq_true] at h
    rw [eq_of_same x y h.1, eq_of_sameItems xs ys h.2]
  | [], _ :: _, h | _ :: _, [], h => by simp [sameItems] at h

theorem eq_of_sameMembers : (ms ns : List (String × Json)) → sameMembers ms ns = true → ms = ns
  | [], [], _ => rfl
  | (k, a) :: ms, (l, b) :: ns, h => by
    simp only [sameMembers, Bool.and_eq_true, beq_iff_eq] at h
    rw [h.1.1, eq_of_same a b h.1.2, eq_of_sameMembers ms ns h.2]
  | [], _ :: _, h | _ :: _, [], h => by simp [sameMembers] at h
end

end Json

namespace Service

def Call.onDatabase : Call → Bool
  | .connect _ | .execute _ _ | .executeMany _ _ | .begin | .commit | .rollback | .close _ => true
  | _ => false

def Fault.BeforeConnecting : Fault → Prop
  | .batchSizeNotPositive | .databaseUrlMissing | .sourceNotSingle | .file _ | .unreachable
  | .notJson _ | .datasetShape => True
  | _ => False

structure World.ReadsFrom (w' w : World) : Prop where
  database : w'.database = w.database
  calls : ∃ pre, w'.calls = w.calls ++ pre ∧ ∀ c ∈ pre, c.onDatabase = false

theorem World.ReadsFrom.refl (w : World) : w.ReadsFrom w := ⟨rfl, [], by simp, by simp⟩

theorem World.ReadsFrom.trans {w₁ w₂ w₃ : World} (h₂ : w₂.ReadsFrom w₁) (h₃ : w₃.ReadsFrom w₂) :
    w₃.ReadsFrom w₁ := by
  obtain ⟨hdb₂, pre₂, hcalls₂, hoff₂⟩ := h₂
  obtain ⟨hdb₃, pre₃, hcalls₃, hoff₃⟩ := h₃
  refine ⟨hdb₃.trans hdb₂, pre₂ ++ pre₃, by simp [hcalls₃, hcalls₂], fun c hc => ?_⟩
  rcases List.mem_append.1 hc with hc | hc
  · exact hoff₂ c hc
  · exact hoff₃ c hc

def PreparedFrom {α : Type} (w : World) : EStateM.Result Fault World α → Prop
  | .ok _ w' => w'.ReadsFrom w
  | .error e w' => e.BeforeConnecting ∧ w'.ReadsFrom w

/-- A step before connecting: no database call, and only faults of the checks and reads. -/
def Prepares {α : Type} (x : Act α) : Prop := ∀ w, PreparedFrom w (x.run w)

namespace Prepares

variable {α β : Type}

theorem pure (a : α) : Prepares (pure a : Act α) := fun w => World.ReadsFrom.refl w

theorem throw_bind (e : Fault) {f : α → Act β} (he : e.BeforeConnecting) :
    Prepares (throw e >>= f) :=
  fun w => ⟨he, World.ReadsFrom.refl w⟩

theorem throw {e : Fault} (he : e.BeforeConnecting) : Prepares (throw e : Act α) :=
  fun w => ⟨he, World.ReadsFrom.refl w⟩

theorem get : Prepares (get : Act World) := fun w => World.ReadsFrom.refl w

theorem bind {x : Act α} {f : α → Act β} (hx : Prepares x) (hf : ∀ a, Prepares (f a)) :
    Prepares (x >>= f) := by
  intro w
  have h := hx w
  rw [EStateM.run_bind]
  cases hr : x.run w with
  | ok a w₁ =>
    rw [hr] at h
    show PreparedFrom w ((f a).run w₁)
    have hnext := hf a w₁
    cases hf' : (f a).run w₁ with
    | ok b w₂ =>
      rw [hf'] at hnext
      exact World.ReadsFrom.trans h hnext
    | error e w₂ =>
      rw [hf'] at hnext
      exact ⟨hnext.1, World.ReadsFrom.trans h hnext.2⟩
  | error e w₁ =>
    rw [hr] at h
    exact h

theorem loadDotenv : Prepares loadDotenv := fun _ => ⟨rfl, [], by simp, by simp⟩

theorem record {c : Call} (hc : c.onDatabase = false) : Prepares (record c) :=
  fun _ => ⟨rfl, [c], rfl, by simp [hc]⟩

end Prepares

theorem requireDatabaseUrl_prepares : Prepares requireDatabaseUrl := by
  unfold requireDatabaseUrl
  refine Prepares.get.bind fun w => ?_
  split
  · exact Prepares.pure _
  · exact Prepares.throw (by trivial)

theorem fetchDataset_prepares (path url : Option String) : Prepares (fetchDataset path url) := by
  unfold fetchDataset
  dsimp only
  -- not exactly one source, a file that cannot be read, or an address that serves nothing
  split
  · exact Prepares.throw_bind .sourceNotSingle trivial
  · split
    · refine Prepares.get.bind fun w => ?_
      split
      · exact Prepares.pure _
      · exact Prepares.throw (by trivial)
    · refine (Prepares.record rfl).bind fun _ => Prepares.get.bind fun w => ?_
      split
      · exact Prepares.pure _
      · exact Prepares.throw (by trivial)

theorem readDocument_prepares (text : String) : Prepares (readDocument text) := by
  unfold readDocument
  dsimp only
  split
  · exact Prepares.pure _
  · exact Prepares.throw (by trivial)

theorem datasetVideos_prepares (payload : Json) : Prepares (datasetVideos payload) := by
  unfold datasetVideos
  split
  · exact Prepares.pure _
  · exact Prepares.throw (by trivial)

theorem prepareLoad_prepares (req : LoadRequest) : Prepares (prepareLoad req) := by
  unfold prepareLoad
  dsimp only
  split
  · exact Prepares.throw_bind .batchSizeNotPositive trivial
  · exact Prepares.loadDotenv.bind fun _ => requireDatabaseUrl_prepares.bind fun _ =>
      (fetchDataset_prepares _ _).bind fun text => (readDocument_prepares text).bind fun payload =>
        (datasetVideos_prepares payload).bind fun _ => Prepares.pure _

theorem run_bind_eq_ok {α β : Type} {x : Act α} {f : α → Act β} {w w' : World} {b : β}
    (h : (x >>= f).run w = .ok b w') :
    ∃ a w₁, x.run w = .ok a w₁ ∧ (f a).run w₁ = .ok b w' := by
  rw [EStateM.run_bind] at h
  cases hx : x.run w with
  | ok a w₁ =>
    rw [hx] at h
    exact ⟨a, w₁, rfl, h⟩
  | error e w₁ =>
    rw [hx] at h
    cases h

theorem KeepsSet.nonEmpty? {load : Host.Files → Host.Environment → Host.Environment}
    (hkeep : KeepsSet load) {files : Host.Files} {env : Host.Environment} {name value : String}
    (h : env.nonEmpty? name = some value) : (load files env).nonEmpty? name = some value := by
  unfold Host.Environment.nonEmpty? at h ⊢
  cases hget : env.get? name with
  | none => simp [hget] at h
  | some v =>
    rw [hget] at h
    rw [hkeep files env name v hget]
    exact h

theorem prepareLoad_url_of_env {req : LoadRequest} {w w' : World} {url u : String} {v : Json}
    (hkeep : KeepsSet w.dotenv) (henv : w.env.nonEmpty? "DATABASE_URL" = some url)
    (h : (prepareLoad req).run w = .ok (u, v) w') : u = url := by
  unfold prepareLoad at h
  dsimp only at h
  split at h
  · cases h
  obtain ⟨_, w₁, hload, h⟩ := run_bind_eq_ok h
  obtain ⟨u', w₂, hurl, h⟩ := run_bind_eq_ok h
  -- the later steps keep the address read
  obtain ⟨_, _, -, h⟩ := run_bind_eq_ok h
  obtain ⟨_, _, -, h⟩ := run_bind_eq_ok h
  obtain ⟨_, _, -, h⟩ := run_bind_eq_ok h
  cases h
  cases hload
  have hkept := @KeepsSet.nonEmpty? _ hkeep w.files _ _ _ henv
  unfold requireDatabaseUrl at hurl
  simp only [EStateM.run_bind, EStateM.run_get, hkept] at hurl
  cases hurl
  rfl

def Database.batchTrail (db : Database) (sql : String) (rows : List (List Json)) : Trail :=
  ([.executeMany sql rows], (db.refusal sql).map refusedFault)

def Database.batchesTrail (db : Database) (sql : String) : List (List (List Json)) → Trail
  | [] => ([], none)
  | rows :: more => (db.batchTrail sql rows).andThen (db.batchesTrail sql more)

def Database.snapshotsTrail (db : Database) (size : Nat) (videos : Json) : Trail :=
  match Dataset.snapshotRowStream videos with
  | (rows, none) => db.batchesTrail snapshotUpsertSql (Dataset.batches size rows)
  | (rows, some e) =>
    (db.batchesTrail snapshotUpsertSql
      ((Dataset.batches size rows).take (rows.length / (size - 1 + 1)))).andThen
      ([], some (.value e))

def Database.writeTrail (db : Database) (truncate : Bool) (size : Nat) (videos : Json) : Trail :=
  (if truncate then db.statementTrail truncateSql none else ([], none)).andThen
    (match Dataset.videoRows videos with
      | .ok rows => (db.batchTrail videoUpsertSql rows).andThen (db.snapshotsTrail size videos)
      | .error e => ([], some (.value e)))

def Database.loadTrail (db : Database) (url : String) (truncate : Bool) (size : Nat)
    (videos : Json) : Trail :=
  Trail.andThen ([.connect url], none)
    ((db.statementTrail utcSql none).andThen (db.writeTrail truncate size videos).inTransaction.closing)

@[simp] theorem Trail.andThen_nil (t : Trail) : t.andThen ([], none) = t := by
  obtain ⟨cs, _ | e⟩ := t <;> simp [Trail.andThen]

namespace Leaves

variable {db : Database} {fs : Host.Files}

theorem throw (e : Fault) : Leaves db fs ([], some e) (throw e : Act Unit) := by
  intro w _ _
  simp only [World.finish, World.extend_nil]
  rfl

theorem throw_bind {α : Type} (e : Fault) (f : α → Act Unit) :
    Leaves db fs ([], some e) ((MonadExcept.throw e : Act α) >>= f) := by
  intro w _ _
  simp only [World.finish, World.extend_nil]
  rfl

theorem executeMany (sql : String) (rows : List (List Json)) :
    Leaves db fs (db.batchTrail sql rows) (executeMany sql rows) := by
  intro w hw _
  subst hw
  unfold Service.executeMany
  simp only [EStateM.run_bind, Service.record, EStateM.run_modify, refusal?_run,
    Database.batchTrail]
  cases w.database.refusal sql <;> rfl

theorem forBatches (sql : String) (bs : List (List (List Json))) :
    Leaves db fs (db.batchesTrail sql bs) (forIn bs PUnit.unit fun rows _ => do
      Service.executeMany sql rows
      Pure.pure (ForInStep.yield PUnit.unit)) := by
  induction bs with
  | nil => exact pure
  | cons rows more ih =>
    rw [List.forIn_cons]
    simpa [Database.batchesTrail] using (executeMany sql rows).seq ih

theorem upsertSnapshots (size : Nat) (videos : Json) :
    Leaves db fs (db.snapshotsTrail size videos) (upsertSnapshots size videos) := by
  unfold Service.upsertSnapshots Database.snapshotsTrail
  rcases Dataset.snapshotRowStream videos with ⟨rows, _ | e⟩
  · simpa using (forBatches snapshotUpsertSql (Dataset.batches size rows)).seq pure
  · -- a row that cannot be had: the full batches before it, then its fault
    simpa using (forBatches _ _).seq (throw (.value e))

theorem writeRows (truncate : Bool) (size : Nat) (videos : Json) :
    Leaves db fs (db.writeTrail truncate size videos) (writeRows truncate size videos) := by
  unfold Service.writeRows Database.writeTrail
  dsimp only
  cases Dataset.videoRows videos with
  | ok rows =>
    have hrest := (executeMany videoUpsertSql rows).seq (@upsertSnapshots db fs size videos)
    cases truncate with
    | false => simpa using hrest
    | true => simpa using (execute truncateSql none).seq hrest
  | error e =>
    -- a video that cannot be had stops the writes before any batch
    cases truncate with
    | false => exact throw_bind (.value e) _
    | true => exact (execute truncateSql none).seq (throw_bind (.value e) _)

end Leaves

theorem loadDataset_run (req : LoadRequest) (w : World) :
    (loadDataset req).run w =
      match (prepareLoad req).run w with
      | .ok (url, videos) w₁ =>
        w₁.finish (w₁.database.loadTrail url req.truncate req.batchSize.toNat videos)
      | .error e w₁ => .error e w₁ := by
  unfold loadDataset
  rw [EStateM.run_bind]
  cases (prepareLoad req).run w with
  | ok uv w₁ =>
    obtain ⟨url, videos⟩ := uv
    have hrun := ((@Leaves.connectUtc w₁.database w₁.files url).seq (Leaves.withConnection
      (Leaves.transaction (Leaves.writeRows req.truncate req.batchSize.toNat videos)))) w₁ rfl rfl
    simp only
    rw [hrun, Database.loadTrail, Trail.andThen_assoc]
  | error e w₁ => rfl

def loadSqls : List String := [utcSql, truncateSql, videoUpsertSql, snapshotUpsertSql]

def loadedCalls (url : String) (truncate : Bool) (videoRows : List (List Json))
    (snapshotBatches : List (List (List Json))) : List Call :=
  [.connect url, .execute utcSql none, .begin] ++
    (if truncate then [.execute truncateSql none] else []) ++
    .executeMany videoUpsertSql videoRows ::
      snapshotBatches.map (Call.executeMany snapshotUpsertSql) ++ [.commit, .close true]

theorem Database.batchesTrail_accepted {db : Database} {sql : String}
    (h : db.refusal sql = none) (bs : List (List (List Json))) :
    db.batchesTrail sql bs = (bs.map (Call.executeMany sql), none) := by
  induction bs with
  | nil => rfl
  | cons rows more ih =>
    simp [Database.batchesTrail, Database.batchTrail, h, ih, Trail.andThen]

theorem Database.loadTrail_accepted {db : Database} (hdb : ∀ sql ∈ loadSqls, db.refusal sql = none)
    {vs : List Json} {vrows : List (List Json)} {perVideo : List (List (List Json))}
    (hvideos : vs.mapM Dataset.videoRow = .ok vrows)
    (hsnaps : vs.mapM Dataset.videoSnapshotRows = .ok perVideo)
    (url : String) (truncate : Bool) (size : Nat) :
    db.loadTrail url truncate size (.arr vs) =
      (loadedCalls url truncate vrows (Dataset.batches size perVideo.flatten), none) := by
  have hutc := hdb utcSql (by simp [loadSqls])
  have htrunc := hdb truncateSql (by simp [loadSqls])
  have hvideo := hdb videoUpsertSql (by simp [loadSqls])
  have hsnap := hdb snapshotUpsertSql (by simp [loadSqls])
  have hrows : Dataset.videoRows (.arr vs) = .ok vrows := hvideos
  have hstream : db.snapshotsTrail size (.arr vs) =
      db.batchesTrail snapshotUpsertSql (Dataset.batches size perVideo.flatten) := by
    simp only [Database.snapshotsTrail, Dataset.snapshotRowStream, Json.items,
      Dataset.snapshotRowsOf_of_mapM hsnaps]
  unfold Database.loadTrail Database.writeTrail
  rw [hrows, hstream, Database.batchesTrail_accepted hsnap]
  cases truncate <;>
    simp [loadedCalls, Database.statementTrail, Database.batchTrail, hutc, htrunc, hvideo,
      Trail.andThen, Trail.inTransaction, Trail.closing]

theorem load_writes_in_batches {req : LoadRequest} {w w₁ : World} {url : String}
    {vs : List Json} {vrows : List (List Json)} {perVideo : List (List (List Json))}
    (hprep : (prepareLoad req).run w = .ok (url, .arr vs) w₁)
    (hvideos : vs.mapM Dataset.videoRow = .ok vrows)
    (hsnaps : vs.mapM Dataset.videoSnapshotRows = .ok perVideo)
    (hdb : ∀ sql ∈ loadSqls, w.database.refusal sql = none) :
    (loadDataset req).run w = .ok () (w₁.extend (loadedCalls url req.truncate vrows
      (Dataset.batches req.batchSize.toNat perVideo.flatten))) ∧
    0 < req.batchSize ∧
    Dataset.Batched req.batchSize.toNat perVideo.flatten
      (Dataset.batches req.batchSize.toNat perVideo.flatten) := by
  have hread : w₁.ReadsFrom w := by
    have h := prepareLoad_prepares req w
    rw [hprep] at h
    exact h
  -- getting past the checks means the batch size is positive
  have hsize : 0 < req.batchSize := by
    unfold prepareLoad at hprep
    dsimp only at hprep
    split at hprep
    · cases hprep
    · omega
  refine ⟨?_, hsize, Dataset.batches_batched (by omega) _⟩
  rw [loadDataset_run, hprep]
  simp only
  rw [Database.loadTrail_accepted (hread.database ▸ hdb) hvideos hsnaps]
  rfl

def Call.WritesRows : Call → Prop
  | .execute sql ps => sql = truncateSql ∧ ps = none
  | .executeMany sql _ => sql = videoUpsertSql ∨ sql = snapshotUpsertSql
  | _ => False

/-- A property of trails that a load's writes have and sequencing keeps. -/
structure Trail.WriteInvariant (db : Database) (P : Trail → Prop) : Prop where
  nil : P ([], none)
  truncate : P (db.statementTrail truncateSql none)
  batch : ∀ sql rows, sql = videoUpsertSql ∨ sql = snapshotUpsertSql → P (db.batchTrail sql rows)
  value : ∀ e, P ([], some (.value e))
  andThen : ∀ {t₁ t₂ : Trail}, P t₁ → P t₂ → P (t₁.andThen t₂)

namespace Trail.WriteInvariant

variable {db : Database} {P : Trail → Prop}

theorem snapshotBatches (h : Trail.WriteInvariant db P) :
    ∀ bs, P (db.batchesTrail snapshotUpsertSql bs)
  | [] => h.nil
  | _ :: more => h.andThen (h.batch _ _ (.inr rfl)) (h.snapshotBatches more)

theorem snapshots (h : Trail.WriteInvariant db P) (size : Nat) (videos : Json) :
    P (db.snapshotsTrail size videos) := by
  unfold Database.snapshotsTrail
  rcases Dataset.snapshotRowStream videos with ⟨rows, _ | e⟩
  · exact h.snapshotBatches _
  · exact h.andThen (h.snapshotBatches _) (h.value e)

theorem writes (h : Trail.WriteInvariant db P) (truncate : Bool) (size : Nat) (videos : Json) :
    P (db.writeTrail truncate size videos) := by
  have hrows : P (match Dataset.videoRows videos with
      | .ok rows => (db.batchTrail videoUpsertSql rows).andThen (db.snapshotsTrail size videos)
      | .error e => ([], some (.value e))) := by
    cases Dataset.videoRows videos with
    | ok rows => exact h.andThen (h.batch _ _ (.inl rfl)) (h.snapshots size videos)
    | error e => exact h.value e
  unfold Database.writeTrail
  cases truncate with
  | false => exact h.andThen h.nil hrows
  | true => exact h.andThen h.truncate hrows

end Trail.WriteInvariant

theorem Trail.mem_andThen {t₁ t₂ : Trail} {c : Call} (h : c ∈ (t₁.andThen t₂).1) :
    c ∈ t₁.1 ∨ c ∈ t₂.1 := by
  obtain ⟨cs, _ | e⟩ := t₁
  · simpa [Trail.andThen] using h
  · exact .inl h

theorem Trail.fault_andThen {t₁ t₂ : Trail} {e : Fault} (h : (t₁.andThen t₂).2 = some e) :
    t₁.2 = some e ∨ t₂.2 = some e := by
  obtain ⟨cs, _ | e'⟩ := t₁
  · exact .inr h
  · exact .inl h

theorem writesRows_invariant (db : Database) :
    Trail.WriteInvariant db fun t => ∀ c ∈ t.1, c.WritesRows where
  nil := by simp
  truncate := by simp [Database.statementTrail, Call.WritesRows]
  batch := fun sql rows hsql => by simpa [Database.batchTrail, Call.WritesRows] using hsql
  value := by simp
  andThen := fun h₁ h₂ c hc => (Trail.mem_andThen hc).elim (h₁ c) (h₂ c)

theorem writeFault_invariant (db : Database) :
    Trail.WriteInvariant db fun t =>
      ∀ e, t.2 = some e → (∃ m, e = .database m) ∨ ∃ u, e = .value u where
  nil := by simp
  truncate := fun e he => by
    simp only [Database.statementTrail, Option.map_eq_some_iff] at he
    obtain ⟨t, -, rfl⟩ := he
    exact .inl ⟨_, rfl⟩
  batch := fun sql rows _ e he => by
    simp only [Database.batchTrail, Option.map_eq_some_iff] at he
    obtain ⟨t, -, rfl⟩ := he
    exact .inl ⟨_, rfl⟩
  value := fun u e he => .inr ⟨u, (Option.some.inj he).symm⟩
  andThen := fun h₁ h₂ e he => (Trail.fault_andThen he).elim (h₁ e) (h₂ e)

theorem Balanced.batch {db : Database} (sql : String) (rows : List (List Json)) :
    Balanced db (db.batchTrail sql rows) := by
  intro c ran marks
  cases h : db.refusal sql with
  | none =>
    refine ⟨ran ++ rows.map (fun r => (sql, some r)), ?_, fun _ => by simp [Database.batchTrail, executed]⟩
    simp [Database.batchTrail, Session.step, Session.runs, h]
  | some t =>
    refine ⟨ran, ?_, fun hnone => by simp [Database.batchTrail, h] at hnone⟩
    simp [Database.batchTrail, Session.step, Session.runs, h]

theorem balanced_invariant (db : Database) : Trail.WriteInvariant db (Balanced db) where
  nil := Balanced.nil
  truncate := Balanced.statement _ _
  batch := fun sql rows _ => Balanced.batch sql rows
  value := fun _ c ran marks => ⟨ran, rfl, fun h => by cases h⟩
  andThen := Balanced.andThen

theorem Database.loadTrail_failed {db : Database} {url : String} {truncate : Bool} {size : Nat}
    {videos : Json} {e : Fault} (h : (db.loadTrail url truncate size videos).2 = some e) :
    committedBy db (db.loadTrail url truncate size videos).1 = [] ∧
    (((db.loadTrail url truncate size videos).1 = [.connect url, .execute utcSql none] ∧
        ∃ t, db.refusal utcSql = some t ∧ e = refusedFault t) ∨
      ∃ body, (db.loadTrail url truncate size videos).1 =
          [.connect url, .execute utcSql none, .begin] ++ body ++ [.rollback, .close false] ∧
        (∀ c ∈ body, c.WritesRows) ∧ ((∃ m, e = .database m) ∨ ∃ u, e = .value u)) := by
  unfold Database.loadTrail at h ⊢
  cases hutc : db.refusal utcSql with
  | some t =>
    -- the time zone is refused: the load stops before its transaction block
    simp only [Database.statementTrail, hutc, Option.map_some, Trail.andThen] at h ⊢
    refine ⟨by simp [committedBy, Session.step, Session.runs, hutc], .inl ⟨rfl, t, rfl, ?_⟩⟩
    exact (Option.some.inj h).symm
  | none =>
    have hwrites := (writesRows_invariant db).writes truncate size videos
    have hfault := (writeFault_invariant db).writes truncate size videos
    obtain ⟨ran, hrun, -⟩ := (balanced_invariant db).writes truncate size videos [] [(utcSql, none)] [1]
    rcases hw : db.writeTrail truncate size videos with ⟨cs, _ | e'⟩
    · rw [hw] at h
      simp [Database.statementTrail, hutc, Trail.andThen, Trail.inTransaction,
        Trail.closing] at h
    · rw [hw] at hwrites hfault hrun h
      simp only [Database.statementTrail, hutc, Option.map_none, Trail.andThen,
        Trail.inTransaction, Trail.closing, Option.isSome_some, if_true, Option.isNone_some] at h ⊢
      cases h
      refine ⟨?_, .inr ⟨cs, by simp, hwrites, hfault _ rfl⟩⟩
      -- the block is rolled back to the time zone, and leaving the scope after the failure
      -- commits nothing
      simp [committedBy, Session.step, Session.runs, hutc, List.foldl_append, hrun]

theorem Session.step_offDatabase {db : Database} {s : Session} {c : Call}
    (h : c.onDatabase = false) : Session.step db s c = s := by
  cases c <;> simp [Call.onDatabase] at h <;> rfl

theorem committedBy_offDatabase {db : Database} {pre : List Call} (calls : List Call)
    (h : ∀ c ∈ pre, c.onDatabase = false) :
    committedBy db (pre ++ calls) = committedBy db calls := by
  -- calls off the database leave the new connection's session as it is
  have hpre : ∀ s : Session, pre.foldl (Session.step db) s = s := by
    induction pre with
    | nil => exact fun _ => rfl
    | cons c rest ih =>
      intro s
      rw [List.foldl_cons, Session.step_offDatabase (h c (by simp))]
      exact ih (fun c hc => h c (by simp [hc])) s
  rw [committedBy, List.foldl_append, hpre]
  rfl

theorem failed_load_commits_nothing {req : LoadRequest} {w w' : World} {e : Fault}
    (h : (loadDataset req).run w = .error e w') :
    ∃ pre calls, w'.calls = w.calls ++ pre ++ calls ∧ (∀ c ∈ pre, c.onDatabase = false) ∧
      committedBy w.database (pre ++ calls) = [] ∧
      ((e.BeforeConnecting ∧ calls = []) ∨
        ∃ url, (calls = [.connect url, .execute utcSql none] ∧
            ∃ t, w.database.refusal utcSql = some t ∧ e = refusedFault t) ∨
          ∃ body, calls = [.connect url, .execute utcSql none, .begin] ++ body ++
              [.rollback, .close false] ∧
            (∀ c ∈ body, c.WritesRows) ∧ ((∃ m, e = .database m) ∨ ∃ u, e = .value u)) := by
  rw [loadDataset_run] at h
  have hprep := prepareLoad_prepares req w
  cases hr : (prepareLoad req).run w with
  | error e₁ w₁ =>
    -- the checks and reads failed: nothing reached the database
    rw [hr] at h hprep
    cases h
    obtain ⟨hbefore, -, pre, hcalls, hoff⟩ := hprep
    refine ⟨pre, [], by simp [hcalls], hoff, ?_, .inl ⟨hbefore, rfl⟩⟩
    rw [committedBy_offDatabase [] hoff]
    rfl
  | ok uv w₁ =>
    obtain ⟨url, videos⟩ := uv
    rw [hr] at h hprep
    obtain ⟨hdb, pre, hcalls, hoff⟩ := hprep
    simp only at h
    rcases ht : w₁.database.loadTrail url req.truncate req.batchSize.toNat videos with
      ⟨calls, _ | e'⟩
    · rw [ht] at h
      cases h
    · rw [ht] at h
      cases h
      obtain ⟨hnone, hshape⟩ := Database.loadTrail_failed (by rw [ht])
      rw [ht, hdb] at hnone hshape
      refine ⟨pre, calls, by simp [World.extend, hcalls], hoff, ?_, .inr ⟨url, hshape⟩⟩
      rw [committedBy_offDatabase calls hoff]
      exact hnone

def servingWorld (text : String) (failOn : Option String) : World :=
  { env := ⟨[("DATABASE_URL", "postgresql://db")]⟩, urls := [("u", text)], database := { failOn } }

def servedLoad : LoadRequest := { url := some "u", truncate := true, batchSize := 2 }

theorem prepareLoad_eq_ok_of_same {req : LoadRequest} {w : World} {url : String} {vs : List Json}
    (h : (match (prepareLoad req).run w with
      | .ok (u, v) _ => u == url && v.same (.arr vs)
      | .error _ _ => false) = true) :
    ∃ w₁, (prepareLoad req).run w = .ok (url, .arr vs) w₁ := by
  cases hr : (prepareLoad req).run w with
  | ok uv w₁ =>
    obtain ⟨u, v⟩ := uv
    rw [hr] at h
    simp only [Bool.and_eq_true, beq_iff_eq] at h
    rw [h.1, Json.eq_of_same _ _ h.2]
    exact ⟨w₁, rfl⟩
  | error e w₁ =>
    rw [hr] at h
    cases h

theorem prepareLoad_served {text : String} {failOn : Option String} {vs : List Json}
    (h : (Json.read (Json.withoutMark text)).toOption.bind (·.field? "videos") = some (.arr vs)) :
    (prepareLoad servedLoad).run (servingWorld text failOn) =
      .ok ("postgresql://db", .arr vs) ((servingWorld text failOn).extend [.urlOpen "u"]) := by
  cases hread : Json.read (Json.withoutMark text) with
  | error e => simp [hread, Except.toOption] at h
  | ok j =>
    simp only [hread, Except.toOption, Option.bind_some] at h
    -- each step of the preparation on this world, the document's reading left open
    have hload : loadDotenv.run (servingWorld text failOn) = .ok () (servingWorld text failOn) :=
      rfl
    have hurl : requireDatabaseUrl.run (servingWorld text failOn) =
        .ok "postgresql://db" (servingWorld text failOn) := rfl
    have hfetch : (fetchDataset none (some "u")).run (servingWorld text failOn) =
        .ok text ((servingWorld text failOn).extend [.urlOpen "u"]) := rfl
    have hdoc : ∀ w, (readDocument text).run w = .ok j w := fun w => by
      simp only [readDocument, hread]
      rfl
    have hvideos : ∀ w, (datasetVideos j).run w = .ok (.arr vs) w := fun w => by
      simp only [datasetVideos, h]
      rfl
    have hpos : ¬ servedLoad.batchSize ≤ 0 := by decide
    unfold prepareLoad
    simp only [hpos, if_false, EStateM.run_bind, hload, hurl, show servedLoad.path = none from rfl,
      show servedLoad.url = some "u" from rfl, hfetch, hdoc, hvideos]
    rfl

theorem withoutMark_ofList {c : Char} {cs : List Char} (hc : c ≠ '\uFEFF') :
    Json.withoutMark (String.ofList (c :: cs)) = c :: cs := by
  unfold Json.withoutMark
  rw [String.toList_ofList]
  split
  · rename_i rest heq
    cases heq
    exact absurd rfl hc
  · rfl

theorem exists_videos_of_check {doc : List Char} {p : List Json → Bool}
    (h : (match (Json.read doc).toOption.bind (·.field? "videos") with
      | some (.arr vs) => p vs
      | _ => false) = true) :
    ∃ vs, (Json.read doc).toOption.bind (·.field? "videos") = some (.arr vs) ∧ p vs = true := by
  split at h
  · rename_i vs hvs
    exact ⟨vs, hvs, h⟩
  · cases h

def zeroMembers (keys : List String) : List Char :=
  [','].intercalate (keys.map fun key => '"' :: key.toList ++ ['"', ':', '0'])

def zeroSnapshot (id : Char) : List Char :=
  '\x7b' :: "\"id\":".toList ++ id :: ',' :: zeroMembers ["video_id", "views_count",
    "likes_count", "comments_count", "reports_count", "delta_views_count", "delta_likes_count",
    "delta_comments_count", "delta_reports_count", "created_at", "updated_at"] ++ ['\x7d']

def oneVideoDataset (snapshots : List (List Char)) : List Char :=
  '\x7b' :: "\"videos\":[\x7b".toList ++ zeroMembers ["id", "creator_id", "video_created_at",
    "views_count", "likes_count", "comments_count", "reports_count", "created_at",
    "updated_at"] ++ ",\"snapshots\":[".toList ++ [','].intercalate snapshots ++
    "]\x7d]\x7d".toList

def snapshotBatchLengths (size : Nat) (vs : List Json) : Option (List Nat) :=
  match vs.mapM Dataset.videoRow, vs.mapM Dataset.videoSnapshotRows with
  | .ok _, .ok perVideo => some ((Dataset.batches size perVideo.flatten).map List.length)
  | _, _ => none

theorem servedDatasets_load_in_batches :
    (∃ w₁, (prepareLoad servedLoad).run (servingWorld "\x7b\"videos\":[]\x7d" none) =
        .ok ("postgresql://db", .arr []) w₁ ∧
      ([] : List Json).mapM Dataset.videoRow = .ok [] ∧
      ([] : List Json).mapM Dataset.videoSnapshotRows = .ok [] ∧
      (loadDataset servedLoad).run (servingWorld "\x7b\"videos\":[]\x7d" none) =
        .ok () (w₁.extend (loadedCalls "postgresql://db" servedLoad.truncate []
          (Dataset.batches servedLoad.batchSize.toNat ([] : List (List (List Json))).flatten))) ∧
      0 < servedLoad.batchSize ∧
      Dataset.Batched servedLoad.batchSize.toNat ([] : List (List (List Json))).flatten
        (Dataset.batches servedLoad.batchSize.toNat ([] : List (List (List Json))).flatten)) ∧
    ∃ w₁ vs vrows perVideo,
      (prepareLoad servedLoad).run (servingWorld (String.ofList (oneVideoDataset
        [zeroSnapshot '1', zeroSnapshot '2', zeroSnapshot '3'])) none) =
          .ok ("postgresql://db", .arr vs) w₁ ∧
      vs.mapM Dataset.videoRow = .ok vrows ∧
      vs.mapM Dataset.videoSnapshotRows = .ok perVideo ∧
      (Dataset.batches servedLoad.batchSize.toNat perVideo.flatten).map List.length = [2, 1] ∧
      (loadDataset servedLoad).run (servingWorld (String.ofList (oneVideoDataset
        [zeroSnapshot '1', zeroSnapshot '2', zeroSnapshot '3'])) none) =
        .ok () (w₁.extend (loadedCalls "postgresql://db" servedLoad.truncate vrows
          (Dataset.batches servedLoad.batchSize.toNat perVideo.flatten))) ∧
      0 < servedLoad.batchSize ∧
      Dataset.Batched servedLoad.batchSize.toNat perVideo.flatten
        (Dataset.batches servedLoad.batchSize.toNat perVideo.flatten) := by
  -- a database that fails on no text refuses nothing
  have hdb : ∀ (text : String), ∀ sql ∈ loadSqls,
      (servingWorld text none).database.refusal sql = none := fun _ _ _ => rfl
  constructor
  · obtain ⟨w₁, hprep⟩ := @prepareLoad_eq_ok_of_same servedLoad
      (servingWorld "\x7b\"videos\":[]\x7d" none) "postgresql://db" [] (by decide +kernel)
    exact ⟨w₁, hprep, rfl, rfl, load_writes_in_batches hprep rfl rfl (hdb _)⟩
  -- the document is read from its characters, never from the bytes of the served text
  have hdoc : Json.withoutMark (String.ofList (oneVideoDataset
      [zeroSnapshot '1', zeroSnapshot '2', zeroSnapshot '3'])) =
        oneVideoDataset [zeroSnapshot '1', zeroSnapshot '2', zeroSnapshot '3'] :=
    withoutMark_ofList (by decide)
  obtain ⟨vs, hvs, hcheck⟩ := @exists_videos_of_check
    (oneVideoDataset [zeroSnapshot '1', zeroSnapshot '2', zeroSnapshot '3'])
    (fun vs => snapshotBatchLengths 2 vs == some [2, 1]) (by decide +kernel)
  have hprep := @prepareLoad_served _ none vs (by rw [hdoc]; exact hvs)
  simp only [snapshotBatchLengths, beq_iff_eq] at hcheck
  split at hcheck
  · rename_i vrows perVideo hv hs
    simp only [Option.some.injEq] at hcheck
    exact ⟨_, vs, vrows, perVideo, hprep, hv, hs, hcheck,
      load_writes_in_batches hprep hv hs (hdb _)⟩
  · cases hcheck

theorem utcRefusal_enters_no_block :
    ∃ w', (loadDataset servedLoad).run (servingWorld "\x7b\"videos\":[]\x7d" (some "UTC")) =
        .error (refusedFault "UTC") w' ∧
      ∃ pre, w'.calls = pre ++ [.connect "postgresql://db", .execute utcSql none] ∧
        ∀ c ∈ pre, c.onDatabase = false := by
  obtain ⟨w₁, hprep⟩ := @prepareLoad_eq_ok_of_same servedLoad
    (servingWorld "\x7b\"videos\":[]\x7d" (some "UTC")) "postgresql://db" [] (by decide +kernel)
  have hread := prepareLoad_prepares servedLoad (servingWorld "\x7b\"videos\":[]\x7d" (some "UTC"))
  rw [hprep] at hread
  obtain ⟨hdb, pre, hcalls, hoff⟩ := hread
  have hutc : w₁.database.refusal utcSql = some "UTC" := by
    rw [hdb]
    decide
  refine ⟨w₁.extend [.connect "postgresql://db", .execute utcSql none], ?_, pre, ?_, hoff⟩
  · rw [loadDataset_run, hprep]
    simp only [Database.loadTrail, Database.statementTrail, hutc, Option.map_some, Trail.andThen]
    rfl
  · simp [World.extend, hcalls, servingWorld]

theorem unreadableVideo_load_commits_nothing :
    ∃ e w', (loadDataset servedLoad).run (servingWorld "\x7b\"videos\":[1]\x7d" none) =
        .error e w' ∧
      ∃ pre calls, w'.calls = (servingWorld "\x7b\"videos\":[1]\x7d" none).calls ++ pre ++ calls ∧
        (∀ c ∈ pre, c.onDatabase = false) ∧
        committedBy (servingWorld "\x7b\"videos\":[1]\x7d" none).database (pre ++ calls) = [] ∧
        ((e.BeforeConnecting ∧ calls = []) ∨
          ∃ url, (calls = [.connect url, .execute utcSql none] ∧
              ∃ t, (servingWorld "\x7b\"videos\":[1]\x7d" none).database.refusal utcSql = some t ∧
                e = refusedFault t) ∨
            ∃ body, calls = [.connect url, .execute utcSql none, .begin] ++ body ++
                [.rollback, .close false] ∧
              (∀ c ∈ body, c.WritesRows) ∧ ((∃ m, e = .database m) ∨ ∃ u, e = .value u)) := by
  have hfails : (match (loadDataset servedLoad).run (servingWorld "\x7b\"videos\":[1]\x7d" none) with
      | .error _ _ => true
      | .ok _ _ => false) = true := by
    decide +kernel
  cases hr : (loadDataset servedLoad).run (servingWorld "\x7b\"videos\":[1]\x7d" none) with
  | error e w' => exact ⟨e, w', rfl, failed_load_commits_nothing hr⟩
  | ok _ _ =>
    rw [hr] at hfails
    cases hfails

end Service

end VideoStats
