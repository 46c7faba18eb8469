import Mathlib.Data.String.Basic
import Telga.Persistence.Migrator

namespace Telga.Proofs.Migrations
open Library Persistence.Migrator

variable {σ : Type} {runner : Runner σ} {start db db' : Database σ} {store store' : Store σ}
  {call : Call σ} {fails : Bool} {migration : Migration} {todo : List Migration}
  {existing : List MigrationRow}

/-- A migration as a call recorded it. -/
structure Recorded where
  migration : Migration
  now : String
deriving DecidableEq

def Recorded.version (entry : Recorded) : String :=
  entry.migration.version

def Recorded.row (runner : Runner σ) (entry : Recorded) : MigrationRow :=
  rowOf runner entry.migration entry.now

variable {log : List Recorded} {past : List (Taken (World (Store σ) (Call σ)) (Event Bool (Call σ)))}
  {w w' : World (Store σ) (Call σ)}

/-- What a step of a call records: its unit is committed. -/
def commits (fails : Bool) (store : Store σ) (call : Call σ) : Option Recorded :=
  match call.stage with
  | .committing _ migration _ unit =>
    if fails = false ∧ unit.commits = store.commits then some ⟨migration, call.now⟩ else none
  | _ => none

def recordedStep (t : Taken (World (Store σ) (Call σ)) (Event Bool (Call σ))) : Option Recorded :=
  match t.event with
  | .act slot fails => (t.before.proc slot).bind (commits fails t.before.store)
  | _ => none

/-- The migrations recorded so far, in the order they were. -/
def recorded (past : List (Taken (World (Store σ) (Call σ)) (Event Bool (Call σ)))) :
    List Recorded :=
  (past.filterMap recordedStep).reverse

def executeAll (runner : Runner σ) (statements : List String) (db : Database σ) :
    Option (Database σ) :=
  statements.foldlM (fun db statement => runner.execute statement db) db

/-- A migration executed and recorded on a database of its own. -/
def executed (runner : Runner σ) (db : Database σ) (entry : Recorded) : Option (Database σ) :=
  (executeAll runner (runner.statements entry.migration.sql) db).bind
    (insertRow (entry.row runner))

/-- A database with the runner's table, which may still be empty. -/
def tabled (db : Database σ) : Database σ :=
  { db with migrations := some (db.migrations.getD []) }

/-- What migrations make of a database, one after another. -/
def replayed (runner : Runner σ) (start : Database σ) (log : List Recorded) :
    Option (Database σ) :=
  log.foldlM (executed runner) (tabled start)

/-- What is promised of the calls on one database: it is what the recorded migrations make of it,
once each and in the order they were recorded; each call applies its own in version order, one that
fails leaves nothing behind, and a call that returns found or recorded every one of its list. -/
structure Migrated (runner : Runner σ) (start : Database σ)
    (past : List (Taken (World (Store σ) (Call σ)) (Event Bool (Call σ))))
    (w : World (Store σ) (Call σ)) : Prop where
  replayed : replayed runner start (recorded past) = some (tabled w.store.db)
  rows : w.store.db.migrations.getD [] = (recorded past).map (Recorded.row runner)
  once : ((recorded past).map Recorded.version).Nodup
  whole : ∀ t ∈ past, recordedStep t = none → tabled t.after.store.db = tabled t.before.store.db
  inOrder : ∀ slot call, w.proc slot = some call →
    (call.applied.Pairwise fun a b => runner.precedes a b = true) ∧
      ∀ version ∈ call.applied, version ∈ (recorded past).map Recorded.version
  failed : ∀ slot call version, w.proc slot = some call →
    call.stage = .threw (.migrationFailed version) → version ∉ call.applied
  settled : ∀ slot call, w.proc slot = some call → call.stage = .returned →
    ∀ migration ∈ call.migrations, ∀ entry ∈ recorded past,
      entry.version = migration.version → entry.migration = migration

/-- A step at a stage executes no statement that changes the runner's own table, and passes over no
migration that was recorded under another name. -/
def Careful (runner : Runner σ) (fails : Bool) (store : Store σ) : Stage σ → Prop
  | .executing _ _ _ begun (statement :: _) => fails = false →
    ∀ work ∈ runner.execute statement (unitOf store begun).work,
      work.migrations = (unitOf store begun).work.migrations
  | .choosing existing (migration :: _) =>
    ∀ already ∈ existing.find? (·.version = migration.version),
      already.checksum = checksumOf runner migration → already.name = migration.name
  | _ => True

instance carefulDecidable : ∀ stage, Decidable (Careful runner fails store stage)
  | .executing _ _ _ begun (statement :: _) =>
    inferInstanceAs (Decidable (fails = false →
      ∀ work ∈ runner.execute statement (unitOf store begun).work,
        work.migrations = (unitOf store begun).work.migrations))
  | .choosing existing (migration :: _) =>
    inferInstanceAs (Decidable (∀ already ∈ existing.find? (·.version = migration.version),
      already.checksum = checksumOf runner migration → already.name = migration.name))
  | .ensuring | .reensuring | .reading | .choosing _ [] | .executing _ _ _ _ []
  | .committing _ _ _ _ | .returned | .threw _ => isTrue trivial

def CarefulStep (runner : Runner σ)
    (t : Taken (World (Store σ) (Call σ)) (Event Bool (Call σ))) : Prop :=
  match t.event with
  | .act slot fails =>
    ∀ call ∈ t.before.proc slot, Careful runner fails t.before.store call.stage
  | _ => True

instance : DecidablePred (CarefulStep runner)
  | ⟨w, .act slot fails, _⟩ =>
    inferInstanceAs (Decidable (∀ call ∈ w.proc slot, Careful runner fails w.store call.stage))
  | ⟨_, .start _, _⟩ | ⟨_, .crash _, _⟩ => isTrue trivial

section Knowledge

/-- What the database is, by what was recorded. -/
structure Replayed (runner : Runner σ) (start : Database σ) (log : List Recorded)
    (store : Store σ) : Prop where
  made : replayed runner start log = some (tabled store.db)
  rows : store.db.migrations.getD [] = log.map (Recorded.row runner)
  once : (log.map Recorded.version).Nodup

/-- A call has dealt with some of its migrations and has the others before it. -/
structure Going (runner : Runner σ) (log : List Recorded) (store : Store σ) (call : Call σ)
    (existing : List MigrationRow) (todo : List Migration) : Prop where
  there : store.db.migrations ≠ none
  rows : ∀ row ∈ existing, ∃ entry ∈ log, entry.row runner = row
  done : ∃ done, ordered runner call.migrations = done ++ todo ∧
    call.applied.Sublist (done.map Migration.version) ∧
    ∀ migration ∈ done, ∃ entry ∈ log, entry.migration = migration

/-- A unit that would still be committed has executed these statements on what is there. -/
def Doing (runner : Runner σ) (store : Store σ) (unit : UnitOfWork σ) (statements : List String) :
    Prop :=
  unit.commits ≤ store.commits ∧ (unit.commits = store.commits →
    executeAll runner statements store.db = some unit.work ∧
      unit.work.migrations = store.db.migrations)

/-- What a call knows at its stage. -/
def AtStage (runner : Runner σ) (log : List Recorded) (store : Store σ) (call : Call σ) :
    Stage σ → Prop
  | .ensuring => call.applied = []
  | .reensuring | .reading => call.applied = [] ∧ store.db.migrations ≠ none
  | .choosing existing todo => Going runner log store call existing todo
  | .executing existing migration todo begun statements =>
    Going runner log store call existing (migration :: todo) ∧
      ∃ before, runner.statements migration.sql = before ++ statements ∧
        (begun = none → before = []) ∧ Doing runner store (unitOf store begun) before
  | .committing existing migration todo unit =>
    Going runner log store call existing (migration :: todo) ∧
      unit.commits ≤ store.commits ∧ (unit.commits = store.commits →
        ∃ mid, executeAll runner (runner.statements migration.sql) store.db = some mid ∧
          mid.migrations = store.db.migrations ∧
          insertRow (rowOf runner migration call.now) mid = some unit.work)
  | .returned => ∀ migration ∈ call.migrations, ∃ entry ∈ log, entry.migration = migration
  | .threw error => ∀ version, error = .migrationFailed version → version ∉ call.applied

structure Knows (runner : Runner σ) (log : List Recorded) (store : Store σ) (call : Call σ) :
    Prop where
  distinct : (call.migrations.map Migration.version).Nodup
  sorted : call.applied.Sublist ((ordered runner call.migrations).map Migration.version)
  listed : ∀ version ∈ call.applied, version ∈ log.map Recorded.version
  stage : AtStage runner log store call call.stage

/-- What a step makes of the database as another call sees it. -/
structure Moves (store store' : Store σ) : Prop where
  later : store.commits ≤ store'.commits
  same : store'.commits = store.commits → store' = store
  there : store.db.migrations ≠ none → store'.db.migrations ≠ none

theorem Moves.refl (store : Store σ) : Moves store store :=
  ⟨Nat.le_refl _, fun _ => rfl, fun there => there⟩

theorem Going.moves (going : Going runner log store call existing todo)
    (moves : Moves store store') (more : List Recorded) :
    Going runner (log ++ more) store' call existing todo where
  there := moves.there going.there
  rows row mem := by
    obtain ⟨entry, listed, same⟩ := going.rows row mem
    exact ⟨entry, List.mem_append_left _ listed, same⟩
  done := by
    obtain ⟨done, split, applied, recorded⟩ := going.done
    refine ⟨done, split, applied, fun migration mem => ?_⟩
    obtain ⟨entry, listed, same⟩ := recorded migration mem
    exact ⟨entry, List.mem_append_left _ listed, same⟩

theorem Doing.moves {unit : UnitOfWork σ} {statements : List String}
    (doing : Doing runner store unit statements) (moves : Moves store store') :
    Doing runner store' unit statements := by
  refine ⟨Nat.le_trans doing.1 moves.later, fun current => ?_⟩
  have before := doing.1
  have after := moves.later
  have same := moves.same (by omega)
  rw [same] at current ⊢
  exact doing.2 current

/-- What another call does leaves a call's knowledge true: a unit it has begun is stale once another
was committed. -/
theorem Knows.moves (knows : Knows runner log store call) (moves : Moves store store')
    (more : List Recorded) : Knows runner (log ++ more) store' call where
  distinct := knows.distinct
  sorted := knows.sorted
  listed version mem := by
    rw [List.map_append]
    exact List.mem_append_left _ (knows.listed version mem)
  stage := by
    have at' := knows.stage
    cases stage : call.stage with
    | ensuring =>
      rw [stage] at at'
      exact at'
    | reensuring | reading =>
      rw [stage] at at'
      exact ⟨at'.1, moves.there at'.2⟩
    | choosing existing todo =>
      rw [stage] at at'
      exact Going.moves at' moves more
    | executing existing migration todo begun statements =>
      rw [stage] at at'
      obtain ⟨going, before, split, unbegun, doing⟩ := at'
      refine ⟨going.moves moves more, before, split, unbegun, ?_⟩
      cases begun with
      | some unit => exact doing.moves moves
      | none =>
        rw [unbegun rfl]
        exact ⟨Nat.le_refl _, fun _ => ⟨rfl, rfl⟩⟩
    | committing existing migration todo unit =>
      rw [stage] at at'
      obtain ⟨going, older, current⟩ := at'
      refine ⟨going.moves moves more, Nat.le_trans older moves.later, fun now => ?_⟩
      have after := moves.later
      have same := moves.same (by omega)
      rw [same] at now ⊢
      exact current now
    | returned =>
      rw [stage] at at'
      intro migration mem
      obtain ⟨entry, listed, same⟩ := at' migration mem
      exact ⟨entry, List.mem_append_left _ listed, same⟩
    | threw error =>
      rw [stage] at at'
      exact at'

end Knowledge

section Steps

theorem executeAll_append (statements more : List String) :
    executeAll runner (statements ++ more) db =
      (executeAll runner statements db).bind (executeAll runner more) := by
  unfold executeAll
  rw [List.foldlM_append]
  rfl

theorem insertRow_some {row : MigrationRow} (inserted : insertRow row db = some db') :
    ∃ rows, db.migrations = some rows ∧ row.version ∉ rows.map MigrationRow.version ∧
      db' = { db with migrations := some (rows ++ [row]) } := by
  unfold insertRow at inserted
  cases rows : db.migrations with
  | none =>
    rw [rows] at inserted
    cases inserted
  | some listed =>
    simp only [rows] at inserted
    by_cases there : listed.any (·.version = row.version) = true
    · rw [if_pos there] at inserted
      cases inserted
    · rw [if_neg there] at inserted
      refine ⟨listed, rfl, fun mem => there ?_, (Option.some.inj inserted).symm⟩
      obtain ⟨row', mem, same⟩ := List.mem_map.mp mem
      exact List.any_eq_true.mpr ⟨row', mem, decide_eq_true same⟩

theorem tabled_of_there (there : db.migrations ≠ none) : tabled db = db := by
  obtain ⟨content, migrations⟩ := db
  cases migrations with
  | none => exact absurd rfl there
  | some rows => rfl

theorem ensure_there : (ensureMigrationTable store).db.migrations ≠ none := by
  unfold ensureMigrationTable
  cases rows : store.db.migrations with
  | none => simp [Store.commit]
  | some rows' => simp [rows]

theorem ensure_tabled : tabled (ensureMigrationTable store).db = tabled store.db := by
  unfold ensureMigrationTable
  cases rows : store.db.migrations with
  | none => simp [Store.commit, tabled, rows]
  | some rows' => rfl

theorem ensure_moves : Moves store (ensureMigrationTable store) := by
  unfold ensureMigrationTable
  cases rows : store.db.migrations with
  | none =>
    refine ⟨Nat.le_succ _, fun same => ?_, fun there => absurd rows there⟩
    exact absurd same (Nat.succ_ne_self _)
  | some rows' => exact Moves.refl store

theorem Replayed.ensure (made : Replayed runner start log store) :
    Replayed runner start log (ensureMigrationTable store) := by
  refine ⟨?_, ?_, made.once⟩
  · rw [ensure_tabled]
    exact made.made
  · have same := congrArg Database.migrations (@ensure_tabled σ store)
    have rows := Option.some.inj same
    rw [rows]
    exact made.rows

/-- A unit that is committed adds its migration to what the database is. -/
theorem Replayed.commit (made : Replayed runner start log store)
    (there : store.db.migrations ≠ none) {mid work : Database σ} {now : String}
    (ran : executeAll runner (runner.statements migration.sql) store.db = some mid)
    (left : mid.migrations = store.db.migrations)
    (inserted : insertRow (rowOf runner migration now) mid = some work) :
    Replayed runner start (log ++ [⟨migration, now⟩]) (store.commit work) ∧
      work.migrations ≠ none := by
  obtain ⟨rows, listed, new, rfl⟩ := insertRow_some inserted
  have known : rows = log.map (Recorded.row runner) := by
    have before := made.rows
    rw [← left, listed] at before
    exact before
  refine ⟨⟨?_, ?_, ?_⟩, by simp⟩
  · unfold replayed
    rw [List.foldlM_append]
    have before := made.made
    rw [tabled_of_there there] at before
    change (replayed runner start log).bind _ = _
    rw [before, Option.bind_some]
    have run : executed runner store.db ⟨migration, now⟩ =
        insertRow (rowOf runner migration now) mid := by
      rw [executed, ran, Option.bind_some]
      rfl
    change (executed runner store.db ⟨migration, now⟩).bind some = _
    rw [run, inserted]
    rfl
  · change rows ++ [_] = _
    rw [known, List.map_append]
    rfl
  · rw [List.map_append, List.nodup_append]
    refine ⟨made.once, List.nodup_singleton _, ?_⟩
    intro version mem last only same
    have recorded : version = migration.version := same.trans (List.mem_singleton.mp only)
    apply new
    rw [known, List.map_map]
    have versions : (MigrationRow.version ∘ Recorded.row runner) = Recorded.version := rfl
    rw [versions]
    change migration.version ∈ _
    rw [← recorded]
    exact mem

/-- A row that was there under the name and the checksum of a migration is its own, where digests
are told apart. -/
theorem recorded_same (apart : ∀ one two, runner.digest one = runner.digest two → one = two)
    {entry : Recorded} (version : entry.version = migration.version)
    (name : entry.migration.name = migration.name)
    (checksum : checksumOf runner entry.migration = checksumOf runner migration) :
    entry.migration = migration := by
  obtain ⟨⟨version', name', sql'⟩, now⟩ := entry
  obtain ⟨version'', name'', sql''⟩ := migration
  change version' = version'' at version
  change name' = name'' at name
  subst version
  subst name
  have texts := apart _ _ checksum
  have chars := congrArg String.toList texts
  simp only [String.toList_append] at chars
  have sql : sql'.toList = sql''.toList := List.append_cancel_left chars
  rw [String.toList_inj.mp sql]

theorem ordered_perm (runner : Runner σ) (migrations : List Migration) :
    (ordered runner migrations).Perm migrations :=
  List.perm_insertionSort _ migrations

/-- The migration that comes next is none that was applied. -/
theorem Knows.fresh (knows : Knows runner log store call)
    (going : Going runner log store call existing (migration :: todo)) :
    migration.version ∉ call.applied := by
  obtain ⟨done, split, applied, _⟩ := going.done
  have distinct := ((ordered_perm runner call.migrations).map Migration.version).nodup_iff.mpr
    knows.distinct
  rw [split, List.map_append, List.map_cons] at distinct
  intro mem
  have before := applied.subset mem
  have later : migration.version ∈ migration.version :: todo.map Migration.version :=
    List.mem_cons_self ..
  exact (List.nodup_append.mp distinct).2.2 _ before _ later rfl

/-- A call that throws has applied what it had before. -/
theorem Knows.throws (knows : Knows runner log store call) (error : MigrationError)
    (fresh : ∀ version, error = .migrationFailed version → version ∉ call.applied) :
    Knows runner log store (call.throws error) :=
  ⟨knows.distinct, knows.sorted, knows.listed, fresh⟩

/-- What a step of a call makes of the database and of its own knowledge. -/
structure Stepped (runner : Runner σ) (start : Database σ) (log : List Recorded)
    (store store' : Store σ) (call' : Call σ) (more : List Recorded) : Prop where
  made : Replayed runner start (log ++ more) store'
  knows : Knows runner (log ++ more) store' call'
  moves : Moves store store'
  whole : more = [] → tabled store'.db = tabled store.db

theorem Stepped.still {call' : Call σ} (made : Replayed runner start log store)
    (knows : Knows runner log store call') : Stepped runner start log store store call' [] := by
  refine ⟨?_, ?_, Moves.refl store, fun _ => rfl⟩
  · rw [List.append_nil]
    exact made
  · rw [List.append_nil]
    exact knows

theorem Stepped.ensured {call' : Call σ} (made : Replayed runner start log store)
    (knows : Knows runner log (ensureMigrationTable store) call') :
    Stepped runner start log store (ensureMigrationTable store) call' [] := by
  refine ⟨?_, ?_, ensure_moves, fun _ => ensure_tabled⟩
  · rw [List.append_nil]
    exact made.ensure
  · rw [List.append_nil]
    exact knows

/-- A migration that is there already is passed over, and was recorded as it is. -/
theorem Going.skip (going : Going runner log store call existing (migration :: todo))
    (found : ∃ entry ∈ log, entry.migration = migration) (skipped : List String) :
    Going runner log store { call with stage := .choosing existing todo, skipped } existing
      todo where
  there := going.there
  rows := going.rows
  done := by
    obtain ⟨done, split, applied, recorded⟩ := going.done
    refine ⟨done ++ [migration], by rw [split, List.append_assoc]; rfl, ?_, ?_⟩
    · rw [List.map_append]
      exact applied.trans (List.sublist_append_left _ _)
    · intro other mem
      rcases List.mem_append.mp mem with before | last
      · exact recorded other before
      · rw [List.mem_singleton.mp last]
        exact found

/-- One step of a call, whatever its stage. -/
theorem advance_stepped (apart : ∀ one two, runner.digest one = runner.digest two → one = two)
    (made : Replayed runner start log store) (knows : Knows runner log store call)
    (careful : Careful runner fails store call.stage) :
    Stepped runner start log store (advance runner fails store call).1
      (advance runner fails store call).2 (commits fails store call).toList := by
  have at' := knows.stage
  cases stage : call.stage with
  | ensuring =>
    rw [stage] at at'
    simp only [advance, commits, stage]
    cases fails with
    | true =>
      exact .still made (knows.throws _ fun _ differs => by cases differs)
    | false =>
      refine .ensured made ⟨knows.distinct, knows.sorted, knows.listed, ?_⟩
      exact ⟨at', ensure_there⟩
  | reensuring =>
    rw [stage] at at'
    simp only [advance, commits, stage]
    cases fails with
    | true =>
      exact .still made (knows.throws _ fun _ differs => by cases differs)
    | false =>
      refine .ensured made ⟨knows.distinct, knows.sorted, knows.listed, ?_⟩
      exact ⟨at'.1, ensure_there⟩
  | reading =>
    rw [stage] at at'
    simp only [advance, commits, stage]
    cases fails with
    | true =>
      exact .still made (knows.throws _ fun _ differs => by cases differs)
    | false =>
      cases rows : store.db.migrations with
      | none => exact absurd rows at'.2
      | some listed =>
        refine .still made ⟨knows.distinct, knows.sorted, knows.listed, at'.2, ?_, ?_⟩
        · intro row mem
          have same := made.rows
          rw [rows] at same
          change listed = _ at same
          rw [same] at mem
          exact List.mem_map.mp mem
        · refine ⟨[], rfl, ?_, fun _ none => by cases none⟩
          rw [at'.1]
          exact List.nil_sublist _
  | choosing existing todo =>
    rw [stage] at at'
    cases todo with
    | nil =>
      simp only [advance, commits, stage]
      refine .still made ⟨knows.distinct, knows.sorted, knows.listed, ?_⟩
      intro migration mem
      obtain ⟨done, split, _, recorded⟩ := at'.done
      rw [List.append_nil] at split
      apply recorded
      rw [← split]
      exact (ordered_perm runner call.migrations).mem_iff.mpr mem
    | cons migration todo =>
      simp only [advance, commits, stage]
      cases found : existing.find? (·.version = migration.version) with
      | none =>
        refine .still made ⟨knows.distinct, knows.sorted, knows.listed, ?_⟩
        refine ⟨⟨at'.there, at'.rows, at'.done⟩, [], rfl, fun _ => rfl, ?_⟩
        exact ⟨Nat.le_refl _, fun _ => ⟨rfl, rfl⟩⟩
      | some already =>
        by_cases same : already.checksum = checksumOf runner migration
        · simp only [same, ne_eq, not_true_eq_false, if_false]
          rw [stage] at careful
          have name := careful already found same
          have version : already.version = migration.version := by
            simpa using List.find?_some found
          obtain ⟨entry, listed, rfl⟩ := at'.rows already (List.mem_of_find?_eq_some found)
          have recorded := recorded_same apart version name same
          refine .still made ⟨knows.distinct, knows.sorted, knows.listed, ?_⟩
          exact Going.skip at' ⟨entry, listed, recorded⟩ _
        · simp only [ne_eq, same, not_false_eq_true, if_true]
          exact .still made (knows.throws _ fun _ differs => by cases differs)
  | executing existing migration todo begun statements =>
    rw [stage] at at'
    obtain ⟨going, before, split, unbegun, doing⟩ := at'
    have failed : Stepped runner start log store store
        (call.throws (.migrationFailed migration.version)) [] := by
      refine .still made (knows.throws _ ?_)
      intro version same
      cases same
      exact knows.fresh going
    cases statements with
    | nil =>
      simp only [advance, commits, stage]
      rw [List.append_nil] at split
      cases fails with
      | true => exact failed
      | false =>
        cases inserted : insertRow (rowOf runner migration call.now) (unitOf store begun).work with
        | none => exact failed
        | some work =>
          refine .still made ⟨knows.distinct, knows.sorted, knows.listed, ?_⟩
          refine ⟨⟨going.there, going.rows, going.done⟩, doing.1, fun current => ?_⟩
          obtain ⟨ran, left⟩ := doing.2 current
          rw [← split] at ran
          exact ⟨_, ran, left, inserted⟩
    | cons statement statements =>
      simp only [advance, commits, stage]
      cases fails with
      | true => exact failed
      | false =>
        cases ran : runner.execute statement (unitOf store begun).work with
        | none => exact failed
        | some work =>
          rw [stage] at careful
          have left := careful rfl work ran
          refine .still made ⟨knows.distinct, knows.sorted, knows.listed, ?_⟩
          refine ⟨⟨going.there, going.rows, going.done⟩, before ++ [statement], ?_, ?_, ?_⟩
          · rw [split, List.append_assoc]
            rfl
          · intro none
            cases none
          · refine ⟨doing.1, fun current => ?_⟩
            obtain ⟨earlier, same⟩ := doing.2 current
            refine ⟨?_, left.trans same⟩
            rw [executeAll_append, earlier, Option.bind_some]
            change (runner.execute statement (unitOf store begun).work).bind some = _
            rw [ran]
            rfl
  | committing existing migration todo unit =>
    rw [stage] at at'
    obtain ⟨going, _, current⟩ := at'
    simp only [advance, commits, stage]
    by_cases now : fails = false ∧ unit.commits = store.commits
    · rw [if_pos now, if_pos now]
      obtain ⟨mid, ran, left, inserted⟩ := current now.2
      obtain ⟨made, there⟩ := made.commit going.there ran left inserted
      have moves : Moves store (store.commit unit.work) :=
        ⟨Nat.le_succ _, fun same => absurd same (Nat.succ_ne_self _), fun _ => there⟩
      refine ⟨made, ?_, moves, fun none => by cases none⟩
      obtain ⟨done, split, applied, recorded⟩ := going.done
      have version : (ordered runner call.migrations).map Migration.version =
          done.map Migration.version ++ migration.version :: todo.map Migration.version := by
        rw [split, List.map_append, List.map_cons]
      refine ⟨knows.distinct, ?_, ?_, ?_⟩
      · have more := applied.append (List.Sublist.refl [migration.version])
        have whole := List.append_cons (done.map Migration.version) migration.version
          (todo.map Migration.version)
        rw [version, whole]
        exact more.trans (List.sublist_append_left _ _)
      · intro version mem
        rw [List.map_append]
        rcases List.mem_append.mp mem with before | last
        · exact List.mem_append_left _ (knows.listed version before)
        · exact List.mem_append_right _ last
      · have going' := going.moves moves [⟨migration, call.now⟩]
        refine ⟨there, going'.rows, done ++ [migration], ?_, ?_, ?_⟩
        · rw [List.append_assoc]
          exact split
        · rw [List.map_append]
          exact applied.append (List.Sublist.refl _)
        · intro other mem
          rcases List.mem_append.mp mem with before | last
          · obtain ⟨entry, listed, same⟩ := recorded other before
            exact ⟨entry, List.mem_append_left _ listed, same⟩
          · rw [List.mem_singleton.mp last]
            exact ⟨⟨migration, call.now⟩, List.mem_append_right _ (List.mem_singleton_self _), rfl⟩
    · rw [if_neg now, if_neg now]
      refine .still made (knows.throws _ ?_)
      intro version same
      cases same
      exact knows.fresh going
  | returned | threw error =>
    simp only [advance, commits, stage]
    exact .still made knows

end Steps

section Runs

theorem recorded_cons (t : Taken (World (Store σ) (Call σ)) (Event Bool (Call σ))) :
    recorded (t :: past) = recorded past ++ (recordedStep t).toList := by
  unfold recorded
  rw [List.filterMap_cons]
  cases recordedStep t with
  | none | some entry => simp

theorem recordedStep_start (call : Call σ) : recordedStep ⟨w, .start call, w'⟩ = none :=
  rfl

theorem recordedStep_crash (slot : Nat) : recordedStep ⟨w, .crash slot, w'⟩ = none :=
  rfl

/-- What a run has made of the database, and what each call in it knows. -/
structure Known (runner : Runner σ) (start : Database σ) (log : List Recorded)
    (w : World (Store σ) (Call σ)) : Prop where
  made : Replayed runner start log w.store
  knows : ∀ slot call, w.proc slot = some call → Knows runner log w.store call

theorem start_knows (starts : Starts store call) : Knows runner log store call := by
  obtain ⟨distinct, fresh⟩ := starts
  have none : call.applied = [] := by rw [fresh]
  refine ⟨distinct, ?_, ?_, ?_⟩
  · rw [none]
    exact List.nil_sublist _
  · rw [none]
    exact fun _ mem => by cases mem
  · have stage : call.stage = .ensuring := by rw [fresh]
    rw [stage]
    exact none

/-- A step of any call, a start or a crash. -/
theorem known_step (apart : ∀ one two, runner.digest one = runner.digest two → one = two)
    {event : Event Bool (Call σ)} (known : Known runner start log w)
    (step : Pool (machine runner) Starts (fun _ _ call => call.isOver = false) w event w')
    (careful : CarefulStep runner ⟨w, event, w'⟩) :
    Known runner start (log ++ (recordedStep ⟨w, event, w'⟩).toList) w' ∧
      (recordedStep ⟨w, event, w'⟩ = none → tabled w'.store.db = tabled w.store.db) := by
  cases step with
  | start starts =>
    refine ⟨?_, fun _ => rfl⟩
    rw [recordedStep_start, Option.toList_none, List.append_nil]
    refine ⟨known.made, fun slot call here => ?_⟩
    rw [World.proc_start] at here
    split at here
    · cases here
      exact start_knows starts
    · exact known.knows slot call here
  | crash =>
    refine ⟨?_, fun _ => rfl⟩
    rw [recordedStep_crash, Option.toList_none, List.append_nil]
    refine ⟨known.made, fun slot call here => ?_⟩
    rw [World.proc_crash] at here
    split at here
    · cases here
    · exact known.knows slot call here
  | act here live moved =>
    rename_i call fails store' call' slot
    have stepped := advance_stepped apart known.made (known.knows slot call here)
      (careful call here)
    have advanced : advance runner fails w.store call = (store', call') := moved
    rw [advanced] at stepped
    have entry : recordedStep ⟨w, Event.act slot fails, ⟨store', w.procs.set slot (some call')⟩⟩ =
        commits fails w.store call := by
      simp only [recordedStep, here, Option.bind_some]
    rw [entry]
    refine ⟨⟨stepped.made, fun other call'' there => ?_⟩, fun none => ?_⟩
    · rw [World.proc_act here] at there
      split at there
      · cases there
        exact stepped.knows
      · exact (known.knows other call'' there).moves stepped.moves _
    · rw [none] at stepped
      exact stepped.whole rfl

theorem known_run (apart : ∀ one two, runner.digest one = runner.digest two → one = two)
    (fresh : Fresh start) (run : MigrationRun runner start past w)
    (careful : ∀ t ∈ past, CarefulStep runner t) :
    Known runner start (recorded past) w ∧
      ∀ t ∈ past, recordedStep t = none → tabled t.after.store.db = tabled t.before.store.db := by
  induction run with
  | start first =>
    rw [first]
    refine ⟨⟨⟨rfl, fresh, List.nodup_nil⟩, fun slot call here => ?_⟩, fun t none => by cases none⟩
    cases slot <;> cases here
  | @step past w event w' run step ih =>
    obtain ⟨now, earlier⟩ := List.forall_mem_cons.mp careful
    obtain ⟨known, whole⟩ := ih earlier
    obtain ⟨known', whole'⟩ := known_step apart known step now
    rw [recorded_cons]
    exact ⟨known', List.forall_mem_cons.mpr ⟨whole', whole⟩⟩

end Runs

/-- The versions of a call's migrations are applied in their order. -/
theorem ordered_sorted
    (total : ∀ one two, runner.precedes one two = true ∨ runner.precedes two one = true)
    (trans : ∀ one two three, runner.precedes one two = true → runner.precedes two three = true →
      runner.precedes one three = true) (migrations : List Migration) :
    ((ordered runner migrations).map Migration.version).Pairwise
      fun a b => runner.precedes a b = true := by
  rw [List.pairwise_map]
  have : Std.Total fun a b : Migration => runner.precedes a.version b.version = true :=
    ⟨fun a b => total a.version b.version⟩
  have : IsTrans Migration fun a b => runner.precedes a.version b.version = true :=
    ⟨fun a b c => trans a.version b.version c.version⟩
  exact List.pairwise_insertionSort _ migrations

/-- Where no migration's SQL changes the runner's own table, and none that is passed over was
recorded under another name, a database is what the recorded migrations make of it, whatever the
order of the calls' steps and wherever one of them fails or crashes. -/
theorem migrated (apart : ∀ one two, runner.digest one = runner.digest two → one = two)
    (total : ∀ one two, runner.precedes one two = true ∨ runner.precedes two one = true)
    (trans : ∀ one two three, runner.precedes one two = true → runner.precedes two three = true →
      runner.precedes one three = true)
    (fresh : Fresh start) (run : MigrationRun runner start past w)
    (careful : ∀ t ∈ past, CarefulStep runner t) : Migrated runner start past w := by
  obtain ⟨known, whole⟩ := known_run apart fresh run careful
  refine ⟨known.made.made, known.made.rows, known.made.once, whole, ?_, ?_, ?_⟩
  · intro slot call here
    have knows := known.knows slot call here
    exact ⟨(ordered_sorted total trans call.migrations).sublist knows.sorted, knows.listed⟩
  · intro slot call version here stage
    have at' := (known.knows slot call here).stage
    rw [stage] at at'
    exact at' version rfl
  · intro slot call here stage migration mem entry listed same
    have at' := (known.knows slot call here).stage
    rw [stage] at at'
    obtain ⟨other, listed', rfl⟩ := at' migration mem
    exact congrArg Recorded.migration
      (List.inj_on_of_nodup_map known.made.once listed listed' same)

/-- A database that lists the statements it executed, and digests that are the texts. -/
def plainRunner : Runner (List String) where
  digest text := text
  precedes one two := decide (one ≤ two)
  statements sql := [sql]
  execute statement db := some { db with content := db.content ++ [statement] }

def emptyDatabase : Database (List String) :=
  ⟨[], none⟩

/-- Calls on one database, with their steps, failures and crashes in the order given. -/
theorem played_run {events : List (Event Bool (Call (List String)))}
    (starts : ∀ call, .start call ∈ events → ∀ store, Starts store call)
    (playable : Playable (World.May (fun _ _ => True) fun _ _ call => call.isOver = false)
      (World.next (machine plainRunner)) events ⟨⟨emptyDatabase, 0⟩, []⟩) :
    MigrationRun plainRunner emptyDatabase
      (played (World.next (machine plainRunner)) events [] ⟨⟨emptyDatabase, 0⟩, []⟩).1
      (played (World.next (machine plainRunner)) events [] ⟨⟨emptyDatabase, 0⟩, []⟩).2 := by
  have began : MigrationRun plainRunner emptyDatabase [] ⟨⟨emptyDatabase, 0⟩, []⟩ := .start rfl
  exact began.play (fun w event may => Pool.next w event may) (playable_admits starts playable)

/-- A migration, and another whose name ends in what the first one's SQL begins with. -/
def accounts : Migration :=
  ⟨"001", "accounts", "CREATE TABLE a (x TEXT); --:\nCREATE TABLE b (x TEXT);"⟩

def renamed : Migration :=
  ⟨"001", "accounts:CREATE TABLE a (x TEXT); --", "\nCREATE TABLE b (x TEXT);"⟩

/-- The first is applied, and a second call passes over the other. -/
def editedList : List (Event Bool (Call (List String))) :=
  .start { migrations := [accounts], now := "one" } :: List.replicate 8 (.act 0 false) ++
    .start { migrations := [renamed], now := "two" } :: List.replicate 5 (.act 1 false)

theorem edited_passed_over : ¬ ∀ (runner : Runner (List String)) start past w,
    (∀ one two, runner.digest one = runner.digest two → one = two) →
    Fresh start → MigrationRun runner start past w → Migrated runner start past w := by
  intro always
  have run := @played_run editedList (by
    intro call mem store
    simp [editedList] at mem
    rcases mem with rfl | rfl
    · exact ⟨by decide, rfl⟩
    · exact ⟨by decide, rfl⟩) (by decide +kernel)
  have settled := (always plainRunner emptyDatabase _ _ (fun _ _ same => same) rfl run).settled 1
    { migrations := [renamed], now := "two", stage := .returned, skipped := ["001"] }
    (by rfl) rfl renamed (List.mem_singleton_self _) ⟨accounts, "one"⟩ (by decide +kernel) rfl
  revert settled
  decide

/-- Two migrations given out of order, the second failing once it has run: the first stays. -/
theorem migrated_halfway : Migrated plainRunner emptyDatabase
    (played (World.next (machine plainRunner))
      (.start { migrations := [⟨"002", "b", "B"⟩, ⟨"001", "a", "A"⟩], now := "one" } ::
        List.replicate 8 (.act 0 false) ++ [.act 0 false, .act 0 true]) []
      ⟨⟨emptyDatabase, 0⟩, []⟩).1
    (played (World.next (machine plainRunner))
      (.start { migrations := [⟨"002", "b", "B"⟩, ⟨"001", "a", "A"⟩], now := "one" } ::
        List.replicate 8 (.act 0 false) ++ [.act 0 false, .act 0 true]) []
      ⟨⟨emptyDatabase, 0⟩, []⟩).2 := by
  refine migrated (fun _ _ same => same) ?_ ?_ rfl (played_run ?_ (by decide +kernel))
    (by decide +kernel)
  · intro one two
    simpa [plainRunner] using le_total one two
  · intro one two three first second
    simp only [plainRunner, decide_eq_true_eq] at first second ⊢
    exact le_trans first second
  · intro call mem store
    simp at mem
    rcases mem with rfl
    exact ⟨by decide, rfl⟩

end Telga.Proofs.Migrations
