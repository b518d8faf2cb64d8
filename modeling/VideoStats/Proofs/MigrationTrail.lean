import VideoStats.Service.Migrate
import VideoStats.Proofs.Replies

set_option autoImplicit false

namespace VideoStats.Service

def World.extend (w : World) (cs : List Call) : World := { w with calls := w.calls ++ cs }

@[simp] theorem World.extend_nil (w : World) : w.extend [] = w := by
  simp [World.extend]

@[simp] theorem World.extend_extend (w : World) (cs ds : List Call) :
    (w.extend cs).extend ds = w.extend (cs ++ ds) := by
  simp [World.extend, List.append_assoc]

@[simp] theorem World.extend_database (w : World) (cs : List Call) :
    (w.extend cs).database = w.database := rfl

@[simp] theorem World.extend_calls (w : World) (cs : List Call) :
    (w.extend cs).calls = w.calls ++ cs := rfl

@[simp] theorem World.extend_files (w : World) (cs : List Call) :
    (w.extend cs).files = w.files := rfl

/-- The calls a service adds to the record, and the fault it stops with, if any. -/
abbrev Trail := List Call × Option Fault

def Trail.andThen : Trail → Trail → Trail
  | (cs, none), t => (cs ++ t.1, t.2)
  | (cs, some e), _ => (cs, some e)

@[simp] theorem Trail.nil_andThen (t : Trail) : Trail.andThen ([], none) t = t := by
  simp [Trail.andThen]

theorem Trail.andThen_assoc (t₁ t₂ t₃ : Trail) :
    (t₁.andThen t₂).andThen t₃ = t₁.andThen (t₂.andThen t₃) := by
  obtain ⟨cs, _ | e⟩ := t₁ <;> obtain ⟨ds, _ | f⟩ := t₂ <;> simp [Trail.andThen]

def Trail.inTransaction : Trail → Trail
  | (cs, e) => (.begin :: cs ++ [if e.isSome then .rollback else .commit], e)

def Trail.closing : Trail → Trail
  | (cs, e) => (cs ++ [.close e.isNone], e)

def World.finish (w : World) : Trail → EStateM.Result Fault World Unit
  | (cs, none) => .ok () (w.extend cs)
  | (cs, some e) => .error e (w.extend cs)

/-- A service leaves the trail `t` from every world with database `db` and files `fs`. -/
def Leaves (db : Database) (fs : Host.Files) (t : Trail) (x : Act Unit) : Prop :=
  ∀ w, w.database = db → w.files = fs → x.run w = w.finish t

def Database.refusal (db : Database) (sql : String) : Option String :=
  match db.failOn with
  | some t => if !t.isEmpty && Text.contains sql t then some t else none
  | none => none

def refusedFault (t : String) : Fault := .database ("statement failed: " ++ t)

def Database.statementTrail (db : Database) (sql : String) (ps : Option (List Json)) : Trail :=
  ([.execute sql ps], (db.refusal sql).map refusedFault)

theorem record_run (c : Call) (w : World) : (record c).run w = .ok () (w.extend [c]) := rfl

theorem refusal?_run (sql : String) (w : World) :
    (refusal? sql).run w = .ok (w.database.refusal sql) w := by
  unfold refusal? Database.refusal
  simp only [EStateM.run_bind, EStateM.run_get]
  cases w.database.failOn <;> rfl

namespace Leaves

variable {db : Database} {fs : Host.Files}

theorem pure : Leaves db fs ([], none) (pure ()) := by
  intro w _ _
  simp only [World.finish, World.extend_nil]
  rfl

theorem record (c : Call) : Leaves db fs ([c], none) (record c) := fun _ _ _ => rfl

theorem execute (sql : String) (ps : Option (List Json)) :
    Leaves db fs (db.statementTrail sql ps) (execute sql ps) := by
  intro w hw _
  subst hw
  unfold Service.execute
  simp only [EStateM.run_bind, Service.record, EStateM.run_modify, refusal?_run,
    Database.statementTrail]
  cases w.database.refusal sql <;> rfl

theorem seq {t₁ t₂ : Trail} {x y : Act Unit} (hx : Leaves db fs t₁ x) (hy : Leaves db fs t₂ y) :
    Leaves db fs (t₁.andThen t₂) (x >>= fun _ => y) := by
  intro w hw hf
  rw [EStateM.run_bind, hx w hw hf]
  obtain ⟨cs, _ | e⟩ := t₁
  · simp only [World.finish, Trail.andThen]
    rw [hy _ (by simp [hw]) (by simp [hf])]
    obtain ⟨ds, _ | f⟩ := t₂ <;> simp [World.finish]
  · rfl

theorem transaction {t : Trail} {body : Act Unit} (h : Leaves db fs t body) :
    Leaves db fs t.inTransaction (transaction body) := by
  intro w hw hf
  unfold Service.transaction onFailure
  simp only [EStateM.run_bind, run_tryCatch, record_run]
  rw [h _ (by simp [hw]) (by simp [hf])]
  obtain ⟨cs, _ | e⟩ := t <;> simp [World.finish, Trail.inTransaction]

theorem withConnection {t : Trail} {body : Act Unit} (h : Leaves db fs t body) :
    Leaves db fs t.closing (withConnection body) := by
  intro w hw hf
  unfold Service.withConnection onFailure
  simp only [EStateM.run_bind, run_tryCatch]
  rw [h w hw hf]
  obtain ⟨cs, _ | e⟩ := t <;> simp [World.finish, Trail.closing, record_run]

end Leaves

def Database.unitTrail (db : Database) (name text : String) : Trail :=
  ((db.statementTrail text none).andThen
    (db.statementTrail markAppliedSql (some [.str name]))).inTransaction

def Database.pendingTrail (db : Database) (read : String → Except Fault String) (name : String) :
    Trail :=
  match read name with
  | .ok text => db.unitTrail name text
  | .error e => ([], some e)

def Database.unitsTrail (db : Database) (read : String → Except Fault String) :
    List String → Trail
  | [] => ([], none)
  | name :: rest => (db.pendingTrail read name).andThen (db.unitsTrail read rest)

def pending (applied names : List String) : List String :=
  names.filter fun name => !applied.contains name

theorem applyPending_cons (source : MigrationSource) (applied : List String) (name : String)
    (rest : List String) :
    applyPending source applied (name :: rest) =
      if applied.contains name then applyPending source applied rest
      else (readMigration source name >>= applyMigration name) >>= fun _ =>
        applyPending source applied rest := by
  unfold applyPending
  rw [List.forIn_cons]
  by_cases h : name ∈ applied <;> simp [h]

def Database.workTrail (db : Database) (read : String → Except Fault String) (names : List String)
    (recreate : Bool) : Trail :=
  (if recreate then db.statementTrail dropTablesSql none else ([], none)).andThen
    ((db.statementTrail migrationsTableSql none).andThen
      ((db.statementTrail appliedSql none).andThen (db.unitsTrail read (pending db.applied names))))

/-- A property of trails that each step of a migration run has and sequencing keeps. -/
structure Trail.Invariant (db : Database) (read : String → Except Fault String)
    (P : Trail → Prop) : Prop where
  nil : P ([], none)
  statement : ∀ sql ps, P (db.statementTrail sql ps)
  unread : ∀ name e, read name = .error e → P ([], some e)
  andThen : ∀ {t₁ t₂ : Trail}, P t₁ → P t₂ → P (t₁.andThen t₂)
  inTransaction : ∀ {t : Trail}, P t → P t.inTransaction

namespace Trail.Invariant

variable {db : Database} {read : String → Except Fault String} {P : Trail → Prop}

theorem pendingUnit (h : Trail.Invariant db read P) (name : String) :
    P (db.pendingTrail read name) := by
  unfold Database.pendingTrail
  cases hread : read name with
  | ok text => exact h.inTransaction (h.andThen (h.statement _ _) (h.statement _ _))
  | error e => exact h.unread name e hread

theorem units (h : Trail.Invariant db read P) : ∀ names : List String,
    P (db.unitsTrail read names)
  | [] => h.nil
  | name :: rest => h.andThen (h.pendingUnit name) (h.units rest)

theorem work (h : Trail.Invariant db read P) (names : List String) (recreate : Bool) :
    P (db.workTrail read names recreate) := by
  have hrest := h.andThen (h.statement migrationsTableSql none)
    (h.andThen (h.statement appliedSql none) (h.units (pending db.applied names)))
  unfold Database.workTrail
  cases recreate with
  | false => exact h.andThen h.nil hrest
  | true => exact h.andThen (h.statement _ _) hrest

end Trail.Invariant

theorem readMigration_run (source : MigrationSource) (name : String) (w : World) :
    (readMigration source name).run w =
      match migrationText w.files source name with
      | .ok text => .ok text w
      | .error e => .error e w := by
  unfold readMigration
  simp only [EStateM.run_bind, EStateM.run_get]
  cases migrationText w.files source name <;> rfl

namespace Leaves

variable {db : Database} {fs : Host.Files}

theorem read {f : World → Act Unit} {t : Trail}
    (h : ∀ w, w.database = db → w.files = fs → Leaves db fs t (f w)) :
    Leaves db fs t (get >>= f) := by
  intro w hw hf
  rw [EStateM.run_bind, EStateM.run_get]
  exact h w hw hf w hw hf

theorem applyMigration (name text : String) :
    Leaves db fs (db.unitTrail name text) (applyMigration name text) :=
  ((execute _ _).seq (execute _ _)).transaction

theorem pendingUnit (source : MigrationSource) (name : String) :
    Leaves db fs (db.pendingTrail (migrationText fs source) name)
      (readMigration source name >>= Service.applyMigration name) := by
  intro w hw hf
  rw [EStateM.run_bind, readMigration_run, hf]
  unfold Database.pendingTrail
  cases migrationText fs source name with
  | ok text => exact applyMigration name text w hw hf
  | error e => simp [World.finish]

theorem applyPending (source : MigrationSource) (applied names : List String) :
    Leaves db fs (db.unitsTrail (migrationText fs source) (pending applied names))
      (applyPending source applied names) := by
  induction names with
  | nil =>
    have : Service.applyPending source applied [] = Pure.pure () := rfl
    rw [this]
    exact pure
  | cons name rest ih =>
    rw [applyPending_cons]
    by_cases h : name ∈ applied
    · simpa [pending, h] using ih
    · simpa [pending, h, Database.unitsTrail] using (pendingUnit source name).seq ih

theorem migrateOn (source : MigrationSource) (names : List String) (recreate : Bool) :
    Leaves db fs (db.workTrail (migrationText fs source) names recreate)
      (migrateOn source names recreate) := by
  have hwork : Leaves db fs ((db.statementTrail migrationsTableSql none).andThen
      ((db.statementTrail appliedSql none).andThen
        (db.unitsTrail (migrationText fs source) (pending db.applied names))))
      (do
        Service.execute migrationsTableSql
        Service.execute appliedSql
        let w ← get
        Service.applyPending source w.database.applied names) :=
    (execute _ _).seq ((execute _ _).seq (read fun w hw _ => hw ▸ applyPending _ _ _))
  unfold Service.migrateOn Database.workTrail
  cases recreate with
  | false => simpa using hwork
  | true => simpa using (execute dropTablesSql none).seq hwork

end Leaves

theorem Leaves.connectUtc {db : Database} {fs : Host.Files} (url : String) :
    Leaves db fs (Trail.andThen ([.connect url], none) (db.statementTrail utcSql none))
      (connectUtc url) :=
  (Leaves.record _).seq (Leaves.execute _ _)

theorem listMigrations_run (source : MigrationSource) (w : World) :
    (listMigrations source).run w =
      match migrationNames w.files source with
      | .ok names => .ok names w
      | .error e => .error e w := by
  unfold listMigrations
  simp only [EStateM.run_bind, EStateM.run_get]
  cases migrationNames w.files source <;> rfl

def World.withDotenv (w : World) : World := { w with env := w.dotenv w.files w.env }

@[simp] theorem World.withDotenv_files (w : World) : w.withDotenv.files = w.files := rfl

@[simp] theorem World.withDotenv_database (w : World) : w.withDotenv.database = w.database := rfl

@[simp] theorem World.withDotenv_calls (w : World) : w.withDotenv.calls = w.calls := rfl

def Database.connectedTrail (db : Database) (read : String → Except Fault String) (url : String)
    (names : List String) (recreate : Bool) : Trail :=
  Trail.andThen ([.connect url], none)
    ((db.statementTrail utcSql none).andThen (db.workTrail read names recreate).closing)

theorem migrate_run (source : MigrationSource) (recreate : Bool) (w : World) :
    (migrate source recreate).run w =
      match w.withDotenv.env.nonEmpty? "DATABASE_URL", migrationNames w.files source with
      | none, _ => .error .databaseUrlMissing w.withDotenv
      | some _, .error e => .error e w.withDotenv
      | some url, .ok names => w.withDotenv.finish
          (w.database.connectedTrail (migrationText w.files source) url names recreate) := by
  have hload : loadDotenv.run w = .ok () w.withDotenv := rfl
  have hurl : requireDatabaseUrl.run w.withDotenv =
      match w.withDotenv.env.nonEmpty? "DATABASE_URL" with
      | some url => .ok url w.withDotenv
      | none => .error .databaseUrlMissing w.withDotenv := by
    unfold requireDatabaseUrl
    simp only [EStateM.run_bind, EStateM.run_get]
    cases w.withDotenv.env.nonEmpty? "DATABASE_URL" <;> rfl
  unfold migrate
  simp only [EStateM.run_bind, hload, hurl]
  cases w.withDotenv.env.nonEmpty? "DATABASE_URL" with
  | none => rfl
  | some url =>
    -- the settings file changes the environment only, so the files read are the world's
    simp only [listMigrations_run, World.withDotenv_files]
    cases migrationNames w.files source with
    | error e => rfl
    | ok names =>
      have hrun := (@Leaves.connectUtc w.database w.files url).seq
        (Leaves.withConnection (Leaves.migrateOn source names recreate))
      have hfrom := hrun w.withDotenv rfl rfl
      rw [EStateM.run_bind] at hfrom
      simp only
      rw [hfrom, Database.connectedTrail, Trail.andThen_assoc]

abbrev Statement := String × Option (List Json)

def executed : List Call → List Statement
  | [] => []
  | .execute sql ps :: rest => (sql, ps) :: executed rest
  | .executeMany sql rows :: rest => rows.map (fun r => (sql, some r)) ++ executed rest
  | _ :: rest => executed rest

/-- A session outside autocommit: the committed statements and the open transaction. -/
structure Session where
  committed : List Statement := []
  work : Option (List Statement × List Nat) := none

namespace Session

def runs (db : Database) (s : Session) (sql : String) (stmts : List Statement) : Session :=
  let (ran, marks) := s.work.getD ([], [])
  { s with work := some (if (db.refusal sql).isSome then ran else ran ++ stmts, marks) }

def step (db : Database) (s : Session) : Call → Session
  | .execute sql ps => s.runs db sql [(sql, ps)]
  | .executeMany sql rows => s.runs db sql (rows.map fun r => (sql, some r))
  | .begin =>
    match s.work with
    | none => { s with work := some ([], []) }
    | some (ran, marks) => { s with work := some (ran, ran.length :: marks) }
  | .commit =>
    match s.work with
    | some (ran, _ :: marks) => { s with work := some (ran, marks) }
    | some (ran, []) => ⟨s.committed ++ ran, none⟩
    | none => s
  | .rollback =>
    match s.work with
    | some (ran, m :: marks) => { s with work := some (ran.take m, marks) }
    | some (_, []) => { s with work := none }
    | none => s
  | .close ok =>
    match s.work with
    | some (ran, _) => ⟨if ok then s.committed ++ ran else s.committed, none⟩
    | none => s
  | .connect _ => { s with work := none }
  | _ => s

end Session

theorem executed_append (cs ds : List Call) : executed (cs ++ ds) = executed cs ++ executed ds := by
  induction cs with
  | nil => rfl
  | cons c rest ih => cases c <;> simp [executed, ih]

/-- A trail keeps the open transaction and its savepoints, whatever the database refuses. -/
def Balanced (db : Database) (t : Trail) : Prop :=
  ∀ c ran marks, ∃ ran', t.1.foldl (Session.step db) ⟨c, some (ran, marks)⟩ = ⟨c, some (ran', marks)⟩ ∧
    (t.2 = none → ran' = ran ++ executed t.1)

namespace Balanced

variable {db : Database}

theorem statement (sql : String) (ps : Option (List Json)) :
    Balanced db (db.statementTrail sql ps) := by
  intro c ran marks
  cases h : db.refusal sql with
  | none =>
    refine ⟨ran ++ [(sql, ps)], ?_, fun _ => rfl⟩
    simp [Database.statementTrail, Session.step, Session.runs, h]
  | some t =>
    refine ⟨ran, ?_, fun hnone => by simp [Database.statementTrail, h] at hnone⟩
    simp [Database.statementTrail, Session.step, Session.runs, h]

theorem andThen {t₁ t₂ : Trail} (h₁ : Balanced db t₁) (h₂ : Balanced db t₂) :
    Balanced db (t₁.andThen t₂) := by
  intro c ran marks
  obtain ⟨ran₁, hrun₁, hok₁⟩ := h₁ c ran marks
  obtain ⟨cs, _ | e⟩ := t₁
  · obtain ⟨ran₂, hrun₂, hok₂⟩ := h₂ c ran₁ marks
    refine ⟨ran₂, ?_, fun hnone => ?_⟩
    · simp only [Trail.andThen, List.foldl_append, hrun₁, hrun₂]
    · simp only [Trail.andThen] at hnone ⊢
      rw [hok₂ hnone, hok₁ rfl, executed_append, List.append_assoc]
  · exact ⟨ran₁, hrun₁, fun hnone => by simp [Trail.andThen] at hnone⟩

theorem inTransaction {t : Trail} (h : Balanced db t) : Balanced db t.inTransaction := by
  intro c ran marks
  -- the block is a savepoint after the statements already run
  obtain ⟨ran', hrun, hok⟩ := h c ran (ran.length :: marks)
  obtain ⟨cs, _ | e⟩ := t
  · have hran : ran' = ran ++ executed cs := hok rfl
    refine ⟨ran', ?_, fun _ => ?_⟩
    · simp [Trail.inTransaction, Session.step, hrun]
    · simp [Trail.inTransaction, executed_append, executed, hran]
  · refine ⟨ran'.take ran.length, ?_, fun hnone => by simp [Trail.inTransaction] at hnone⟩
    simp [Trail.inTransaction, Session.step, hrun]

theorem nil : Balanced db ([], none) := fun c ran marks => ⟨ran, rfl, fun _ => by simp [executed]⟩

theorem fault (e : Fault) : Balanced db ([], some e) := fun c ran marks => ⟨ran, rfl, by simp⟩

theorem invariant (read : String → Except Fault String) : Trail.Invariant db read (Balanced db) :=
  ⟨nil, statement, fun _ e _ => fault e, andThen, inTransaction⟩

end Balanced

def committedBy (db : Database) (calls : List Call) : List Statement :=
  (calls.foldl (Session.step db) {}).committed

theorem committedBy_connected (db : Database) (read : String → Except Fault String) (url : String)
    (names : List String) (recreate : Bool) :
    committedBy db (db.connectedTrail read url names recreate).1 =
      if (db.connectedTrail read url names recreate).2 = none
      then executed (db.connectedTrail read url names recreate).1 else [] := by
  unfold committedBy Database.connectedTrail
  cases hutc : db.refusal utcSql with
  | some t =>
    -- the time zone is refused: the run stops before its transaction commits
    simp [Database.statementTrail, Trail.andThen, hutc, Session.step, Session.runs]
  | none =>
    obtain ⟨ran, hrun, hok⟩ :=
      (Balanced.invariant read).work names recreate [] [(utcSql, none)] []
    rcases hwork : db.workTrail read names recreate with ⟨cs, _ | e⟩
    · rw [hwork] at hrun hok
      simp [Database.statementTrail, Trail.andThen, Trail.closing, hutc, Session.step,
        Session.runs, hrun, hok rfl, executed, executed_append]
    · rw [hwork] at hrun
      simp [Database.statementTrail, Trail.andThen, Trail.closing, hutc, Session.step,
        Session.runs, hrun]

theorem Trail.andThen_eq_ok {t₁ t₂ : Trail} {cs : List Call} :
    t₁.andThen t₂ = (cs, none) ↔
      ∃ cs₁ cs₂, t₁ = (cs₁, none) ∧ t₂ = (cs₂, none) ∧ cs = cs₁ ++ cs₂ := by
  obtain ⟨cs₁, _ | e⟩ := t₁ <;> obtain ⟨cs₂, _ | f⟩ := t₂ <;> simp [Trail.andThen, eq_comm]

theorem Database.statementTrail_eq_ok {db : Database} {sql : String} {ps : Option (List Json)}
    {cs : List Call} (h : db.statementTrail sql ps = (cs, none)) :
    cs = [.execute sql ps] ∧ db.refusal sql = none := by
  simp only [Database.statementTrail, Prod.mk.injEq, Option.map_eq_none_iff] at h
  exact ⟨h.1.symm, h.2⟩

def unitCalls (f : String × String) : List Call :=
  [.begin, .execute f.2 none, .execute markAppliedSql (some [.str f.1]), .commit]

theorem Trail.inTransaction_eq_ok {t : Trail} {cs : List Call} :
    t.inTransaction = (cs, none) ↔ ∃ cs₁, t = (cs₁, none) ∧ cs = .begin :: cs₁ ++ [.commit] := by
  obtain ⟨cs₁, _ | e⟩ := t <;> simp [Trail.inTransaction, eq_comm]

theorem Database.unitTrail_eq_ok {db : Database} {name text : String} {cs : List Call}
    (h : db.unitTrail name text = (cs, none)) :
    cs = unitCalls (name, text) ∧ db.refusal text = none ∧ db.refusal markAppliedSql = none := by
  obtain ⟨cs₁, hin, rfl⟩ := Trail.inTransaction_eq_ok.1 h
  obtain ⟨a, b, ha, hb, rfl⟩ := Trail.andThen_eq_ok.1 hin
  obtain ⟨rfl, hsql⟩ := Database.statementTrail_eq_ok ha
  obtain ⟨rfl, hmark⟩ := Database.statementTrail_eq_ok hb
  exact ⟨rfl, hsql, hmark⟩

def readTexts (read : String → Except Fault String) (names : List String) :
    Except Fault (List (String × String)) :=
  names.mapM fun name => (read name).map (name, ·)

theorem Database.pendingTrail_eq_ok {db : Database} {read : String → Except Fault String}
    {name : String} {cs : List Call} (h : db.pendingTrail read name = (cs, none)) :
    ∃ text, read name = .ok text ∧ cs = unitCalls (name, text) := by
  unfold Database.pendingTrail at h
  cases hread : read name with
  | error e => simp [hread] at h
  | ok text =>
    rw [hread] at h
    exact ⟨text, rfl, (Database.unitTrail_eq_ok h).1⟩

theorem Database.unitsTrail_eq_ok {db : Database} {read : String → Except Fault String} :
    ∀ {names : List String} {cs : List Call}, db.unitsTrail read names = (cs, none) →
      ∃ files, readTexts read names = .ok files ∧ cs = files.flatMap unitCalls
  | [], cs, h => ⟨[], rfl, by simpa [Database.unitsTrail, eq_comm] using h⟩
  | name :: rest, cs, h => by
    obtain ⟨cs₁, cs₂, hunit, hrest, rfl⟩ := Trail.andThen_eq_ok.1 h
    obtain ⟨text, hread, rfl⟩ := Database.pendingTrail_eq_ok hunit
    obtain ⟨files, hfiles, rfl⟩ := Database.unitsTrail_eq_ok hrest
    refine ⟨(name, text) :: files, ?_, by simp⟩
    unfold readTexts at hfiles ⊢
    rw [List.mapM_cons, hread, hfiles]
    rfl

theorem Trail.closing_eq_ok {t : Trail} {cs : List Call} :
    t.closing = (cs, none) ↔ ∃ cs₁, t = (cs₁, none) ∧ cs = cs₁ ++ [.close true] := by
  obtain ⟨cs₁, _ | e⟩ := t <;> simp [Trail.closing, eq_comm]

def headSqls (recreate : Bool) : List String :=
  (if recreate then [dropTablesSql] else []) ++ [migrationsTableSql, appliedSql]

def appliedCalls (url : String) (recreate : Bool) (fs : List (String × String)) : List Call :=
  [.connect url, .execute utcSql none] ++ (headSqls recreate).map (fun sql => .execute sql none) ++
    fs.flatMap unitCalls ++ [.close true]

theorem Database.workTrail_eq_ok {db : Database} {read : String → Except Fault String}
    {names : List String} {recreate : Bool} {cs : List Call}
    (h : db.workTrail read names recreate = (cs, none)) :
    ∃ files, readTexts read (pending db.applied names) = .ok files ∧
      cs = (headSqls recreate).map (fun sql => .execute sql none) ++ files.flatMap unitCalls := by
  unfold Database.workTrail at h
  obtain ⟨cs₀, cs₁, hdrop, hrest₁, rfl⟩ := Trail.andThen_eq_ok.1 h
  obtain ⟨a, cs₂, ha, hrest₂, rfl⟩ := Trail.andThen_eq_ok.1 hrest₁
  obtain ⟨b, c, hb, hunits, rfl⟩ := Trail.andThen_eq_ok.1 hrest₂
  obtain ⟨rfl, -⟩ := Database.statementTrail_eq_ok ha
  obtain ⟨rfl, -⟩ := Database.statementTrail_eq_ok hb
  obtain ⟨files, hfiles, rfl⟩ := Database.unitsTrail_eq_ok hunits
  refine ⟨files, hfiles, ?_⟩
  cases recreate with
  | false =>
    simp only [Bool.false_eq_true, if_false, Prod.mk.injEq] at hdrop
    simp [headSqls, ← hdrop.1]
  | true =>
    obtain ⟨rfl, -⟩ := Database.statementTrail_eq_ok (by simpa using hdrop)
    simp [headSqls]

theorem Database.connectedTrail_eq_ok {db : Database} {read : String → Except Fault String}
    {url : String} {names : List String} {recreate : Bool} {cs : List Call}
    (h : db.connectedTrail read url names recreate = (cs, none)) :
    ∃ files, readTexts read (pending db.applied names) = .ok files ∧
      cs = appliedCalls url recreate files := by
  unfold Database.connectedTrail at h
  obtain ⟨a, cs₁, ha, hrest, rfl⟩ := Trail.andThen_eq_ok.1 h
  obtain ⟨b, cs₂, hb, hclose, rfl⟩ := Trail.andThen_eq_ok.1 hrest
  obtain ⟨cs₃, hwork, rfl⟩ := Trail.closing_eq_ok.1 hclose
  obtain ⟨rfl, -⟩ := Database.statementTrail_eq_ok hb
  obtain ⟨files, hfiles, rfl⟩ := Database.workTrail_eq_ok hwork
  simp only [Prod.mk.injEq] at ha
  refine ⟨files, hfiles, ?_⟩
  rw [← ha.1]
  simp [appliedCalls]

def StopsAt (db : Database) (read : String → Except Fault String) (e : Fault) (stop : List Call) :
    Prop :=
  (∃ sql ps, stop = [.execute sql ps] ∧ (db.refusal sql).isSome) ∨
    (stop = [] ∧ ∃ name, read name = .error e)

/-- A trail that ends with a fault stops at a refused statement or an unreadable text. -/
def Trail.Stops (db : Database) (read : String → Except Fault String) (t : Trail) : Prop :=
  ∀ e, t.2 = some e → ∃ pre stop post, t.1 = pre ++ stop ++ post ∧ StopsAt db read e stop ∧
    ∀ c ∈ post, c = .rollback ∨ c = .close false

namespace Trail.Stops

variable {db : Database} {read : String → Except Fault String}

theorem nil : Trail.Stops db read ([], none) := fun _ h => by simp at h

theorem statement (sql : String) (ps : Option (List Json)) :
    Trail.Stops db read (db.statementTrail sql ps) := by
  intro e h
  refine ⟨[], [.execute sql ps], [], by simp [Database.statementTrail], ?_, by simp⟩
  simp only [Database.statementTrail, Option.map_eq_some_iff] at h
  obtain ⟨t, ht, -⟩ := h
  exact .inl ⟨sql, ps, rfl, by simp [ht]⟩

theorem unread (name : String) (e : Fault) (h : read name = .error e) :
    Trail.Stops db read ([], some e) := by
  intro e' he'
  cases he'
  exact ⟨[], [], [], rfl, .inr ⟨rfl, name, h⟩, by simp⟩

theorem andThen {t₁ t₂ : Trail} (h₁ : Trail.Stops db read t₁) (h₂ : Trail.Stops db read t₂) :
    Trail.Stops db read (t₁.andThen t₂) := by
  intro e h
  obtain ⟨cs, _ | e₁⟩ := t₁
  · -- the first trail ran through, so the stop is in the second
    obtain ⟨pre, stop, post, hcalls, hstop, hpost⟩ := h₂ e (by simpa [Trail.andThen] using h)
    exact ⟨cs ++ pre, stop, post, by simp [Trail.andThen, hcalls], hstop, hpost⟩
  · exact h₁ e h

theorem wrap (before after : List Call) {cs : List Call} {e : Fault}
    (h : Trail.Stops db read (cs, some e)) (hafter : ∀ c ∈ after, c = .rollback ∨ c = .close false) :
    Trail.Stops db read (before ++ cs ++ after, some e) := by
  intro e' he'
  cases he'
  obtain ⟨pre, stop, post, hcalls, hstop, hpost⟩ := h e rfl
  refine ⟨before ++ pre, stop, post ++ after, ?_, hstop, ?_⟩
  · simp [show cs = pre ++ stop ++ post from hcalls]
  · intro c hc
    rcases List.mem_append.1 hc with hc | hc
    · exact hpost c hc
    · exact hafter c hc

theorem inTransaction {t : Trail} (h : Trail.Stops db read t) :
    Trail.Stops db read t.inTransaction := by
  obtain ⟨cs, _ | e⟩ := t
  · exact fun _ h => by simp [Trail.inTransaction] at h
  · exact wrap [.begin] [.rollback] h (by simp)

theorem closing {t : Trail} (h : Trail.Stops db read t) : Trail.Stops db read t.closing := by
  obtain ⟨cs, _ | e⟩ := t
  · exact fun _ h => by simp [Trail.closing] at h
  · exact wrap [] [.close false] h (by simp)

theorem invariant : Trail.Invariant db read (Trail.Stops db read) :=
  ⟨nil, statement, unread, andThen, inTransaction⟩

theorem connected (url : String) (names : List String) (recreate : Bool) :
    Trail.Stops db read (db.connectedTrail read url names recreate) := by
  have hconnect : Trail.Stops db read ([.connect url], none) := fun _ h => by simp at h
  exact hconnect.andThen ((statement _ _).andThen ((@invariant db read).work names recreate).closing)

end Trail.Stops

end VideoStats.Service
