import Mathlib.Data.List.Nodup
import Mathlib.Data.String.Basic
import VideoStats.Proofs.MigrationTrail

set_option autoImplicit false

namespace VideoStats.Service

theorem mapM_pairs {g : String → Except Fault (String × String)}
    (hg : ∀ n p, g n = .ok p → p.1 = n) :
    ∀ {names : List String} {files : List (String × String)}, names.mapM g = .ok files →
      files.map (·.1) = names ∧ ∀ f ∈ files, g f.1 = .ok f
  | [], files, h => by
    simp only [List.mapM_nil, pure, Except.pure, Except.ok.injEq] at h
    simp [← h]
  | n :: rest, files, h => by
    rw [List.mapM_cons] at h
    rcases hn : g n with e | p
    · simp [hn, bind, Except.bind] at h
    rcases hrest : rest.mapM g with e | ps
    · simp [hn, hrest, bind, Except.bind] at h
    simp only [hn, hrest, bind, Except.bind, pure, Except.pure, Except.ok.injEq] at h
    obtain ⟨hnames, hread⟩ := mapM_pairs hg hrest
    subst h
    refine ⟨by simp [hg n p hn, hnames], ?_⟩
    intro f hf
    rcases List.mem_cons.1 hf with rfl | hf
    · rw [hg n f hn]; exact hn
    · exact hread f hf

theorem mergeSort_names_sorted {names : List String} :
    (names.mergeSort fun a b => decide (a < b) || a == b).Pairwise (· ≤ ·) := by
  have hsorted := @List.pairwise_mergeSort String (fun a b => decide (a < b) || a == b)
    (fun a b c hab hbc => by
      simp only [Bool.or_eq_true, decide_eq_true_eq, beq_iff_eq] at hab hbc ⊢
      rcases hab with hab | rfl <;> rcases hbc with hbc | rfl
      · exact .inl (lt_trans hab hbc)
      · exact .inl hab
      · exact .inl hbc
      · exact .inr rfl)
    (fun a b => by
      simp only [Bool.or_eq_true, decide_eq_true_eq, beq_iff_eq]
      rcases lt_trichotomy a b with h | h | h <;> simp [h]) names
  exact hsorted.imp fun {a b} hab => by
    simp only [Bool.or_eq_true, decide_eq_true_eq, beq_iff_eq] at hab
    rcases hab with hab | rfl
    · exact hab.le
    · exact le_rfl

theorem migrationNames_directory_ok {fs : Host.Files} {dir : String} {names : List String}
    (h : migrationNames fs (.directory dir) = .ok names) :
    ∃ entries, fs.list dir = .ok entries ∧ names ≠ [] ∧
      names.Perm ((entries.filter fun e => e.2 && isMigrationFile e.1).map (·.1)) ∧
      names.Pairwise (· ≤ ·) := by
  cases hex : fs.exists? dir with
  | false =>
    simp only [migrationNames, hex, Bool.not_false, if_true] at h
    cases h
  | true =>
  cases hl : fs.list dir with
  | error e =>
    simp only [migrationNames, hex, hl, Bool.not_true, Bool.false_eq_true, if_false] at h
    cases h
  | ok entries =>
  simp only [migrationNames, hex, hl, Bool.not_true, Bool.false_eq_true, if_false, pure_bind] at h
  split at h
  · cases h
  rename_i hempty
  simp only [pure, Except.pure, Except.ok.injEq] at h
  subst h
  exact ⟨entries, rfl, fun h => hempty (by rw [h]; rfl), List.mergeSort_perm _ _,
    mergeSort_names_sorted⟩

theorem migrationNames_sorted {fs : Host.Files} {source : MigrationSource} {names : List String}
    (h : migrationNames fs source = .ok names) : names.Pairwise (· ≤ ·) := by
  cases source with
  | bundled =>
    cases h
    decide
  | directory dir =>
    obtain ⟨-, -, -, -, hsorted⟩ := migrationNames_directory_ok h
    exact hsorted

theorem readTexts_ok {read : String → Except Fault String} {names : List String}
    {files : List (String × String)} (h : readTexts read names = .ok files) :
    files.map (·.1) = names ∧ ∀ f ∈ files, read f.1 = .ok f.2 := by
  obtain ⟨hnames, hread⟩ := @mapM_pairs (fun name => (read name).map (name, ·))
    (fun n p hp => by
      cases hr : read n with
      | error e => rw [hr] at hp; cases hp
      | ok t =>
        simp only [hr, Except.map, Except.ok.injEq] at hp
        subst hp
        rfl) names files h
  refine ⟨hnames, fun f hf => ?_⟩
  have hf' := hread f hf
  cases hr : read f.1 with
  | error e => rw [hr] at hf'; cases hf'
  | ok t =>
    simp only [hr, Except.map, Except.ok.injEq] at hf'
    exact congrArg Except.ok (congrArg Prod.snd hf')

def bookkeepingSqls : List String := [utcSql, migrationsTableSql, appliedSql]

def MigrationText (text : String) : Prop :=
  text ≠ markAppliedSql ∧ text ≠ dropTablesSql ∧ text ∉ bookkeepingSqls

instance : DecidablePred MigrationText := fun text =>
  inferInstanceAs (Decidable (text ≠ markAppliedSql ∧ text ≠ dropTablesSql ∧ text ∉ bookkeepingSqls))

/-- What the database keeps between runs: the ledger and the committed migration SQL. -/
structure Store where
  ledger : List String := []
  effects : List String := []
  deriving DecidableEq

namespace Store

def apply (s : Store) : Statement → Store
  | (sql, ps) =>
    if sql = markAppliedSql then
      match ps with
      | some [.str name] => { s with ledger := s.ledger ++ [name] }
      | _ => s
    else if sql = dropTablesSql then {}
    else if sql ∈ bookkeepingSqls then s
    else { s with effects := s.effects ++ [sql] }

def answer (s : Store) (recreate : Bool) : List String := if recreate then [] else s.ledger

def world (s : Store) (w : World) (recreate : Bool) : World :=
  { w with database := { w.database with applied := s.answer recreate }, calls := [] }

def run (s : Store) (w : World) (source : MigrationSource) (recreate : Bool) : Store :=
  (committedBy (s.world w recreate).database
    (endWorld ((migrate source recreate).run (s.world w recreate))).calls).foldl apply s

def runAll (s : Store) (runs : List (World × MigrationSource × Bool)) : Store :=
  runs.foldl (fun s r => s.run r.1 r.2.1 r.2.2) s

def adding (s : Store) (fs : List (String × String)) : Store :=
  { ledger := s.ledger ++ fs.map (·.1), effects := s.effects ++ fs.map (·.2) }

def base (s : Store) (recreate : Bool) : Store := if recreate then {} else s

theorem apply_bookkeeping (s : Store) {sql : String} (ps : Option (List Json))
    (h : sql ∈ bookkeepingSqls) : s.apply (sql, ps) = s := by
  have hsql : sql ≠ markAppliedSql ∧ sql ≠ dropTablesSql := by
    simp only [bookkeepingSqls, List.mem_cons, List.not_mem_nil, or_false] at h
    rcases h with rfl | rfl | rfl <;> decide
  simp [apply, hsql.1, hsql.2, h]

theorem apply_drop (s : Store) (ps : Option (List Json)) : s.apply (dropTablesSql, ps) = {} := by
  have hdrop : dropTablesSql ≠ markAppliedSql := by decide
  simp [apply, hdrop]

theorem apply_unitCalls (s : Store) (f : String × String) (hf : MigrationText f.2) :
    (executed (unitCalls f)).foldl apply s = s.adding [f] := by
  obtain ⟨hmark, hdrop, hkeep⟩ := hf
  simp [unitCalls, executed, apply, adding, hmark, hdrop, hkeep]

theorem apply_units (s : Store) (fs : List (String × String)) (hfs : ∀ f ∈ fs, MigrationText f.2) :
    (executed (fs.flatMap unitCalls)).foldl apply s = s.adding fs := by
  induction fs generalizing s with
  | nil => simp [executed, adding]
  | cons f rest ih =>
    rw [List.flatMap_cons, executed_append, List.foldl_append,
      apply_unitCalls s f (hfs f List.mem_cons_self),
      ih _ fun g hg => hfs g (List.mem_cons_of_mem f hg)]
    simp [adding]

theorem apply_appliedCalls (s : Store) (url : String) (recreate : Bool)
    (fs : List (String × String)) (hfs : ∀ f ∈ fs, MigrationText f.2) :
    (executed (appliedCalls url recreate fs)).foldl apply s = (s.base recreate).adding fs := by
  have hhead : (executed ([.connect url, .execute utcSql none] ++
      (headSqls recreate).map (fun sql => .execute sql none))).foldl apply s = s.base recreate := by
    have hutc : utcSql ∈ bookkeepingSqls := by simp [bookkeepingSqls]
    have htable : migrationsTableSql ∈ bookkeepingSqls := by simp [bookkeepingSqls]
    have hread : appliedSql ∈ bookkeepingSqls := by simp [bookkeepingSqls]
    cases recreate <;>
      simp [headSqls, executed, base, apply_bookkeeping _ _ hutc, apply_bookkeeping _ _ htable,
        apply_bookkeeping _ _ hread, apply_drop]
  rw [appliedCalls, executed_append, executed_append, List.foldl_append, List.foldl_append, hhead,
    apply_units _ _ hfs]
  simp [executed]

theorem world_calls (s : Store) (w : World) (recreate : Bool) : (s.world w recreate).calls = [] :=
  rfl

@[simp] theorem world_files (s : Store) (w : World) (recreate : Bool) :
    (s.world w recreate).files = w.files :=
  rfl

theorem migrate_ok {s : Store} {w : World} {source : MigrationSource} {recreate : Bool} {u : Unit}
    {w' : World} (h : (migrate source recreate).run (s.world w recreate) = .ok u w') :
    ∃ url names, migrationNames w.files source = .ok names ∧
      (s.world w recreate).database.connectedTrail (migrationText w.files source) url names
        recreate = (w'.calls, none) := by
  rw [migrate_run, world_files] at h
  rcases hurl : (s.world w recreate).withDotenv.env.nonEmpty? "DATABASE_URL" with _ | url <;>
    rcases hnames : migrationNames w.files source with e | names <;>
    simp only [hurl, hnames, reduceCtorEq] at h
  rcases htrail : (s.world w recreate).database.connectedTrail
      (migrationText w.files source) url names recreate with
    ⟨cs, _ | e⟩ <;> simp only [htrail, World.finish, EStateM.Result.ok.injEq, reduceCtorEq] at h
  refine ⟨url, names, rfl, ?_⟩
  rw [← h.2]
  simp [htrail, world_calls]

theorem migrate_error {s : Store} {w : World} {source : MigrationSource} {recreate : Bool}
    {e : Fault} {w' : World} (h : (migrate source recreate).run (s.world w recreate) = .error e w') :
    w'.calls = [] ∨ ∃ url names, migrationNames w.files source = .ok names ∧
      (s.world w recreate).database.connectedTrail (migrationText w.files source) url names
        recreate = (w'.calls, some e) := by
  rw [migrate_run, world_files] at h
  rcases hurl : (s.world w recreate).withDotenv.env.nonEmpty? "DATABASE_URL" with _ | url
  · -- without an address the run stops before it connects
    simp only [hurl, EStateM.Result.error.injEq] at h
    exact .inl (h.2 ▸ rfl)
  rcases hnames : migrationNames w.files source with e' | names
  · simp only [hurl, hnames, EStateM.Result.error.injEq] at h
    exact .inl (h.2 ▸ rfl)
  simp only [hurl, hnames] at h
  rcases htrail : (s.world w recreate).database.connectedTrail
      (migrationText w.files source) url names recreate with
    ⟨cs, _ | e'⟩ <;>
    simp only [htrail, World.finish, EStateM.Result.error.injEq, reduceCtorEq] at h
  refine .inr ⟨url, names, rfl, ?_⟩
  rw [← h.2, ← h.1]
  simp [htrail, world_calls]

theorem answer_eq_base_ledger (s : Store) (recreate : Bool) :
    s.answer recreate = (s.base recreate).ledger := by
  cases recreate <;> rfl

theorem run_of_ok {s : Store} {w : World} {source : MigrationSource} {recreate : Bool} {u : Unit}
    {w' : World} (h : (migrate source recreate).run (s.world w recreate) = .ok u w')
    (htexts : ∀ names, migrationNames w.files source = .ok names → ∀ name ∈ names, ∀ text,
      migrationText w.files source name = .ok text → MigrationText text) :
    ∃ url names files, migrationNames w.files source = .ok names ∧
      readTexts (migrationText w.files source) (pending (s.answer recreate) names) = .ok files ∧
      w'.calls = appliedCalls url recreate files ∧
      s.run w source recreate = (s.base recreate).adding files := by
  obtain ⟨url, names, hnames, htrail⟩ := migrate_ok h
  obtain ⟨files, hfiles, hcalls⟩ := Database.connectedTrail_eq_ok htrail
  have hcommit := committedBy_connected (s.world w recreate).database
    (migrationText w.files source) url names recreate
  rw [htrail] at hcommit
  refine ⟨url, names, files, hnames, hfiles, hcalls, ?_⟩
  -- each text applied was read for a pending name, which the directory listed
  have hpending : ∀ f ∈ files, MigrationText f.2 := by
    obtain ⟨hfnames, hread⟩ := readTexts_ok hfiles
    intro f hf
    have hmem : f.1 ∈ pending (s.answer recreate) names := hfnames ▸ List.mem_map_of_mem hf
    exact htexts names hnames f.1 (List.mem_filter.1 hmem).1 f.2 (hread f hf)
  simp only [run, h, endWorld]
  rw [hcommit, if_pos rfl, hcalls]
  exact apply_appliedCalls s url recreate _ hpending

theorem run_of_error {s : Store} {w : World} {source : MigrationSource} {recreate : Bool}
    {e : Fault} {w' : World} (h : (migrate source recreate).run (s.world w recreate) = .error e w') :
    s.run w source recreate = s := by
  simp only [run, h, endWorld]
  rcases migrate_error h with hnone | ⟨url, names, -, htrail⟩
  · simp [hnone, committedBy]
  · have hcommit := committedBy_connected (s.world w recreate).database
      (migrationText w.files source) url names recreate
    rw [htrail] at hcommit
    simp [hcommit]

end Store

structure ProperFiles (files : List (String × String)) : Prop where
  name_inj : ∀ f ∈ files, ∀ g ∈ files, f.1 = g.1 → f = g
  text_inj : ∀ f ∈ files, ∀ g ∈ files, f.2 = g.2 → f = g
  text_ok : ∀ f ∈ files, MigrationText f.2

/-- The files a source lists are distinct names of the catalog, read as its texts. -/
def ListsCatalog (catalog : List (String × String)) (fs : Host.Files) (source : MigrationSource) :
    Prop :=
  ∀ names, migrationNames fs source = .ok names → names.Nodup ∧
    ∀ name ∈ names, ∀ text, migrationText fs source name = .ok text → (name, text) ∈ catalog

/-- A migration's name is in the ledger exactly when its SQL is committed, once. -/
def Store.Paired (catalog : List (String × String)) (s : Store) : Prop :=
  ∀ f ∈ catalog, (f.1 ∈ s.ledger ↔ f.2 ∈ s.effects) ∧ s.effects.count f.2 ≤ 1

namespace Store.Paired

variable {catalog : List (String × String)} {s : Store}

theorem empty : Store.Paired catalog {} := fun f _ => by simp

theorem base (hs : Store.Paired catalog s) (recreate : Bool) :
    Store.Paired catalog (s.base recreate) := by
  cases recreate
  · exact hs
  · exact empty

theorem adding (hcat : ProperFiles catalog) (hs : Store.Paired catalog s)
    {fs : List (String × String)} (hsub : ∀ f ∈ fs, f ∈ catalog) (hnodup : fs.Nodup)
    (hnew : ∀ f ∈ fs, f.1 ∉ s.ledger) : Store.Paired catalog (s.adding fs) := by
  intro f hf
  by_cases hin : f ∈ fs
  · -- a migration added now: neither its name nor its SQL was there before
    have hled : f.1 ∉ s.ledger := hnew f hin
    have heff : f.2 ∉ s.effects := fun h => hled ((hs f hf).1.2 h)
    have htexts : (fs.map (·.2)).Nodup :=
      hnodup.map_on fun a ha b hb hab => hcat.text_inj a (hsub a ha) b (hsub b hb) hab
    refine ⟨iff_of_true ?_ ?_, ?_⟩
    · exact List.mem_append_right _ (List.mem_map_of_mem hin)
    · exact List.mem_append_right _ (List.mem_map_of_mem hin)
    · rw [Store.adding, List.count_append, List.count_eq_zero.2 heff, htexts.count]
      split <;> omega
  · -- any other migration of the catalog shares neither its name nor its SQL with those added
    have hname : f.1 ∉ fs.map (·.1) := by
      intro hmem
      obtain ⟨g, hg, hgf⟩ := List.mem_map.1 hmem
      exact hin (hcat.name_inj g (hsub g hg) f hf hgf ▸ hg)
    have htext : f.2 ∉ fs.map (·.2) := by
      intro hmem
      obtain ⟨g, hg, hgf⟩ := List.mem_map.1 hmem
      exact hin (hcat.text_inj g (hsub g hg) f hf hgf ▸ hg)
    simp only [Store.adding, List.mem_append, List.count_append, List.count_eq_zero.2 htext,
      or_iff_left hname, or_iff_left htext, Nat.add_zero]
    exact hs f hf

theorem run (hcat : ProperFiles catalog) (hs : Store.Paired catalog s) {w : World}
    {source : MigrationSource} {recreate : Bool} (hfiles : ListsCatalog catalog w.files source) :
    Store.Paired catalog (s.run w source recreate) := by
  rcases hr : (migrate source recreate).run (s.world w recreate) with ⟨u, w'⟩ | ⟨e, w'⟩
  · have htexts : ∀ names, migrationNames w.files source = .ok names → ∀ name ∈ names, ∀ text,
        migrationText w.files source name = .ok text → MigrationText text :=
      fun names hnames name hname text hread =>
        hcat.text_ok _ ((hfiles names hnames).2 name hname text hread)
    obtain ⟨url, names, files, hnames, hread, -, hstore⟩ := run_of_ok hr htexts
    obtain ⟨hfnames, hftexts⟩ := readTexts_ok hread
    -- the migrations applied are those of the listing whose names the ledger lacked
    have hsub : ∀ f ∈ files, f.1 ∈ names ∧ f.1 ∉ s.answer recreate := fun f hf => by
      have hmem : f.1 ∈ pending (s.answer recreate) names := hfnames ▸ List.mem_map_of_mem hf
      simpa [pending] using hmem
    have hnodup : (files.map (·.1)).Nodup := hfnames ▸ (hfiles names hnames).1.filter _
    rw [hstore]
    refine (hs.base recreate).adding hcat (fun f hf => ?_) (hnodup.of_map _) (fun f hf => ?_)
    · exact (hfiles names hnames).2 f.1 (hsub f hf).1 f.2 (hftexts f hf)
    · rw [← answer_eq_base_ledger]
      exact (hsub f hf).2
  · rw [run_of_error hr]
    exact hs

theorem runAll (hcat : ProperFiles catalog) :
    ∀ {s : Store} (runs : List (World × MigrationSource × Bool)), Store.Paired catalog s →
      (∀ r ∈ runs, ListsCatalog catalog r.1.files r.2.1) →
      Store.Paired catalog (s.runAll runs)
  | _, [], hs, _ => hs
  | _, r :: rest, hs, hruns =>
    runAll hcat rest (hs.run hcat (hruns r List.mem_cons_self))
      fun r' hr' => hruns r' (List.mem_cons_of_mem r hr')

end Store.Paired

theorem mem_pending_names {applied names : List String} {name : String} :
    name ∈ applied ∨ name ∈ pending applied names ↔ name ∈ applied ∨ name ∈ names := by
  by_cases happ : name ∈ applied <;> simp [pending, happ]

theorem migrate_applies_each_migration_once {catalog : List (String × String)}
    (hcat : ProperFiles catalog) :
    (∀ (s : Store) (w : World) (source : MigrationSource) (recreate : Bool),
      ListsCatalog catalog w.files source →
      (∀ u w', (migrate source recreate).run (s.world w recreate) = .ok u w' →
        ∃ url names files, migrationNames w.files source = .ok names ∧
          names.Pairwise (· ≤ ·) ∧
          readTexts (migrationText w.files source) (pending (s.answer recreate) names) =
            .ok files ∧
          w'.calls = appliedCalls url recreate files ∧
          ∀ name, name ∈ (s.run w source recreate).ledger ↔
            name ∈ s.answer recreate ∨ name ∈ names) ∧
      (∀ e w', (migrate source recreate).run (s.world w recreate) = .error e w' →
        s.run w source recreate = s ∧
          (w'.calls = [] ∨
            (∃ pre sql ps post, w'.calls = pre ++ .execute sql ps :: post ∧
              (w.database.refusal sql).isSome ∧ ∀ c ∈ post, c = .rollback ∨ c = .close false) ∨
            (∃ pre post name, w'.calls = pre ++ post ∧
              migrationText w.files source name = .error e ∧
              ∀ c ∈ post, c = .rollback ∨ c = .close false)))) ∧
    (∀ (s : Store) (runs : List (World × MigrationSource × Bool)), s.Paired catalog →
      (∀ r ∈ runs, ListsCatalog catalog r.1.files r.2.1) →
      (s.runAll runs).Paired catalog) := by
  refine ⟨fun s w source recreate hfiles => ⟨fun u w' hok => ?_, fun e w' herr => ?_⟩,
    fun s runs hs hruns => Store.Paired.runAll hcat runs hs hruns⟩
  · have htexts : ∀ names, migrationNames w.files source = .ok names → ∀ name ∈ names, ∀ text,
        migrationText w.files source name = .ok text → MigrationText text :=
      fun names hnames name hname text hread =>
        hcat.text_ok _ ((hfiles names hnames).2 name hname text hread)
    obtain ⟨url, names, files, hnames, hread, hcalls, hstore⟩ := Store.run_of_ok hok htexts
    refine ⟨url, names, files, hnames, migrationNames_sorted hnames, hread, hcalls,
      fun name => ?_⟩
    obtain ⟨hfnames, -⟩ := readTexts_ok hread
    rw [hstore, ← mem_pending_names, ← hfnames, Store.answer_eq_base_ledger]
    simp only [Store.adding, List.mem_append]
  · refine ⟨Store.run_of_error herr, ?_⟩
    rcases Store.migrate_error herr with hnone | ⟨url, names, -, htrail⟩
    · exact .inl hnone
    · -- the run ended at the refusal or at the unreadable text it stopped at
      have hstops := @Trail.Stops.connected (s.world w recreate).database
        (migrationText w.files source) url names recreate
      rw [htrail] at hstops
      obtain ⟨pre, stop, post, hcalls, hstop, hpost⟩ := hstops e rfl
      rcases hstop with ⟨sql, ps, rfl, href⟩ | ⟨rfl, name, hname⟩
      · exact .inr (.inl ⟨pre, sql, ps, post, by simpa using hcalls, href, hpost⟩)
      · exact .inr (.inr ⟨pre, post, name, by simpa using hcalls, hname, hpost⟩)

set_option maxRecDepth 4000 in
theorem bundledMigrations_proper : ProperFiles bundledMigrations where
  name_inj := by decide
  text_inj := by decide
  text_ok := by decide

theorem listsCatalog_bundled (fs : Host.Files) : ListsCatalog bundledMigrations fs .bundled := by
  intro names hnames
  cases hnames
  refine ⟨by decide, fun name _ text htext => ?_⟩
  simp only [migrationText] at htext
  split at htext
  · rename_i hlook
    cases htext
    obtain ⟨l₁, l₂, hl, -⟩ := List.lookup_eq_some_iff.1 hlook
    rw [hl]
    simp
  · cases htext

def addressedWorld : World := { env := ⟨[("DATABASE_URL", "postgresql://db")]⟩ }

def firstMigrated : Store := ({} : Store).adding (bundledMigrations.take 1)

theorem bundled_runs_stay_paired :
    ProperFiles bundledMigrations ∧ firstMigrated.Paired bundledMigrations ∧
      (firstMigrated.runAll [(addressedWorld, .bundled, false), (addressedWorld, .bundled, true)]).Paired
        bundledMigrations ∧
      firstMigrated.run addressedWorld .bundled false = ({} : Store).adding bundledMigrations ∧
      firstMigrated.runAll [(addressedWorld, .bundled, false), (addressedWorld, .bundled, true)] =
        ({} : Store).adding bundledMigrations := by
  have hfirst : firstMigrated.Paired bundledMigrations :=
    Store.Paired.empty.adding bundledMigrations_proper (fun f hf => List.mem_of_mem_take hf)
      (by decide) (fun f _ => List.not_mem_nil)
  refine ⟨bundledMigrations_proper, hfirst,
    (migrate_applies_each_migration_once bundledMigrations_proper).2 firstMigrated _ hfirst
      fun r hr => ?_, by decide +kernel, by decide +kernel⟩
  simp only [List.mem_cons, List.not_mem_nil, or_false] at hr
  rcases hr with rfl | rfl <;> exact listsCatalog_bundled _

end VideoStats.Service
