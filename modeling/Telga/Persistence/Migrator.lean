import Mathlib.Data.List.Sort
import Telga.Library.Pool

namespace Telga.Persistence.Migrator
open Library

structure Migration where
  version : String
  name : String
  sql : String
deriving DecidableEq, Repr

structure MigrationRow where
  version : String
  name : String
  checksum : String
  appliedAt : String
deriving DecidableEq, Repr

/-- A database: the runner's own table, where it is there, its rows in the order they were recorded,
and everything else. -/
structure Database (σ : Type) where
  content : σ
  migrations : Option (List MigrationRow)
deriving DecidableEq

/-- What the runner is given: the digest of its checksums, the order of versions, and how the
database splits SQL into statements and executes one, unless that fails. -/
structure Runner (σ : Type) where
  digest : String → String
  precedes : String → String → Bool
  statements : String → List String
  execute : String → Database σ → Option (Database σ)

variable {σ : Type} (runner : Runner σ)

def checksumOf (migration : Migration) : String :=
  runner.digest (migration.version ++ ":" ++ migration.name ++ ":" ++ migration.sql)

/-- The row that records a migration. -/
def rowOf (migration : Migration) (now : String) : MigrationRow :=
  ⟨migration.version, migration.name, checksumOf runner migration, now⟩

/-- The migrations in version order. -/
def ordered (migrations : List Migration) : List Migration :=
  migrations.insertionSort fun a b => runner.precedes a.version b.version = true

/-- A database with the number of units that were committed to it. -/
structure Store (σ : Type) where
  db : Database σ
  commits : Nat
deriving DecidableEq

def Store.commit (store : Store σ) (db : Database σ) : Store σ :=
  ⟨db, store.commits + 1⟩

def ensureMigrationTable (store : Store σ) : Store σ :=
  match store.db.migrations with
  | some _ => store
  | none => store.commit { store.db with migrations := some [] }

/-- Insert a migration's row, which the primary key allows once a version. -/
def insertRow (row : MigrationRow) (db : Database σ) : Option (Database σ) :=
  match db.migrations with
  | none => none
  | some rows =>
    if rows.any (·.version = row.version) then none
    else some { db with migrations := some (rows ++ [row]) }

inductive MigrationError
  | databaseFailed
  | checksumMismatch (version : String)
  | migrationFailed (version : String)
deriving DecidableEq, Repr

/-- A unit of work: the database as its own statements have left it, and how many units had been
committed when it read first. -/
structure UnitOfWork (σ : Type) where
  commits : Nat
  work : Database σ

/-- How far a call is. The rows that were there are read once; each migration that is not among
them is executed, statement by statement, recorded and committed. -/
inductive Stage (σ : Type)
  | ensuring
  | reensuring
  | reading
  | choosing (existing : List MigrationRow) (todo : List Migration)
  | executing (existing : List MigrationRow) (migration : Migration) (todo : List Migration)
      (begun : Option (UnitOfWork σ)) (statements : List String)
  | committing (existing : List MigrationRow) (migration : Migration) (todo : List Migration)
      (begun : UnitOfWork σ)
  | returned
  | threw (error : MigrationError)

/-- A call of `runMigrations`. -/
structure Call (σ : Type) where
  migrations : List Migration
  now : String
  stage : Stage σ := .ensuring
  applied : List String := []
  skipped : List String := []

def Call.throws (call : Call σ) (error : MigrationError) : Call σ :=
  { call with stage := .threw error }

/-- The unit a statement is part of: it begins with its first statement. -/
def unitOf (store : Store σ) (begun : Option (UnitOfWork σ)) : UnitOfWork σ :=
  begun.getD ⟨store.commits, store.db⟩

/-- One atomic step of a call, which the database may let fail. A unit is committed only if no
other was since it read first; one that fails is rolled back. -/
def advance (fails : Bool) (store : Store σ) (call : Call σ) : Store σ × Call σ :=
  match call.stage with
  | .ensuring =>
    if fails then (store, call.throws .databaseFailed)
    else (ensureMigrationTable store, { call with stage := .reensuring })
  | .reensuring =>
    if fails then (store, call.throws .databaseFailed)
    else (ensureMigrationTable store, { call with stage := .reading })
  | .reading =>
    match fails, store.db.migrations with
    | false, some rows =>
      (store, { call with stage := .choosing rows (ordered runner call.migrations) })
    | _, _ => (store, call.throws .databaseFailed)
  | .choosing _ [] => (store, { call with stage := .returned })
  | .choosing existing (migration :: todo) =>
    match existing.find? (·.version = migration.version) with
    | some already =>
      if already.checksum ≠ checksumOf runner migration then
        (store, call.throws (.checksumMismatch migration.version))
      else
        (store, { call with
          stage := .choosing existing todo
          skipped := call.skipped ++ [migration.version] })
    | none =>
      (store, { call with
        stage := .executing existing migration todo none (runner.statements migration.sql) })
  | .executing existing migration todo begun (statement :: statements) =>
    let unit := unitOf store begun
    match fails, runner.execute statement unit.work with
    | false, some work =>
      (store, { call with
        stage := .executing existing migration todo (some { unit with work }) statements })
    | _, _ => (store, call.throws (.migrationFailed migration.version))
  | .executing existing migration todo begun [] =>
    let unit := unitOf store begun
    match fails, insertRow (rowOf runner migration call.now) unit.work with
    | false, some work =>
      (store, { call with stage := .committing existing migration todo { unit with work } })
    | _, _ => (store, call.throws (.migrationFailed migration.version))
  | .committing existing migration todo unit =>
    if fails = false ∧ unit.commits = store.commits then
      (store.commit unit.work, { call with
        stage := .choosing existing todo
        applied := call.applied ++ [migration.version] })
    else (store, call.throws (.migrationFailed migration.version))
  | .returned | .threw _ => (store, call)

/-- A call that has returned or thrown. -/
def Call.isOver (call : Call σ) : Bool :=
  match call.stage with
  | .returned | .threw _ => true
  | _ => false

def machine : Machine (Store σ) Bool (Call σ) where
  advance := advance runner
  finished call := call.isOver = true

/-- A call starts with a list of distinct versions. -/
def Starts (_ : Store σ) (call : Call σ) : Prop :=
  (call.migrations.map Migration.version).Nodup ∧
    call = { migrations := call.migrations, now := call.now }

/-- A database the runner has recorded nothing in. -/
def Fresh (db : Database σ) : Prop :=
  db.migrations.getD [] = []

/-- Calls in one process or several, interleaved, with crashes between any two steps. -/
abbrev MigrationRun (start : Database σ) :=
  Run (· = (⟨⟨start, 0⟩, []⟩ : World (Store σ) (Call σ)))
    (Pool (machine runner) Starts fun _ _ call => call.isOver = false)

end Telga.Persistence.Migrator
