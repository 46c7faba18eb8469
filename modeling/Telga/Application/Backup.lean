import Telga.Domain.Recovery
import Telga.Library.Pool
import Telga.Library.Wal

namespace Telga.Application
open Domain Library

/-- The tables a backup counts, in the order it counts them. -/
inductive BackupTable
  | merchants
  | transactions
  | ledgerEntries
  | recoveryClaims
  | pendingResolutions
  | supportCases
  | auditEvents
  | merchantUsers
  | deviceEnrollments
  | sessions
deriving DecidableEq, Repr

def BackupTable.all : List BackupTable :=
  [.merchants, .transactions, .ledgerEntries, .recoveryClaims, .pendingResolutions, .supportCases,
    .auditEvents, .merchantUsers, .deviceEnrollments, .sessions]

/-- What SQLite reads from the pages of a database file, and what else a backup goes by. -/
structure BackupDeps (α : Type u) where
  count : List α → BackupTable → Nat
  ledgerResidualMinor : List α → Int
  appliedMigrations : List α → List String
  sizeBytes : List α → Nat
  sha256 : List α → String
  integrityCheck : List α → Bool
  migrations : List String
  sourceIdentifier : String

/-- The counts of a file. A table that is not there counts as empty. -/
def countRows (deps : BackupDeps α) (file : List α) : List (BackupTable × Nat) :=
  BackupTable.all.map fun table => (table, deps.count file table)

def missingMigrations (deps : BackupDeps α) (file : List α) : List String :=
  deps.migrations.filter fun version => version ∉ deps.appliedMigrations file

/-- The schema version a manifest gives, which says what is missing of it. -/
def schemaVersionOf (deps : BackupDeps α) (file : List α) : String :=
  let latest := (deps.appliedMigrations file).getLast?.getD "(none)"
  match missingMigrations deps file with
  | [] => latest
  | missing => latest ++ " (incomplete: missing " ++ ", ".intercalate missing ++ ")"

structure BackupManifest where
  manifestVersion : Nat
  schemaVersion : String
  createdAt : Timestamp
  databaseSizeBytes : Nat
  ledgerResidualMinor : Int
  rowCounts : List (BackupTable × Nat)
  checksumSha256 : String
  sourceIdentifier : String
deriving DecidableEq

inductive BackupRefusal
  | liveMode
  | pathNotAllowed
  | sourceNotFound
  | destinationExists
  | tooLarge
deriving DecidableEq, Repr

/-- What a backup has read of the database before it copies the file. -/
structure BackupFacts where
  schemaVersion : String
  residual : Int
  rowCounts : List (BackupTable × Nat)
  sizeBytes : Nat
deriving DecidableEq

inductive BackupPoint (α : Type u)
  | begin
  | checkpointing
  | migrations
  | balancing (schemaVersion : String)
  | counting (schemaVersion : String) (residual : Int) (counted : List (BackupTable × Nat))
      (rest : List BackupTable)
  | copying (facts : BackupFacts) (copied : List α)
  | hashing (facts : BackupFacts) (copied : List α)
  | completed (manifest : BackupManifest) (copied : List α)
  | refused (refusal : BackupRefusal)
deriving DecidableEq

/-- A running call of `runBackup`. -/
structure RunBackup (α : Type u) where
  training : Bool
  force : Bool
  maxBackupSizeBytes : Option Nat
  point : BackupPoint α
deriving DecidableEq

def RunBackup.at (call : RunBackup α) (point : BackupPoint α) : RunBackup α :=
  { call with point }

/-- What a step of a backup meets: the time, what the file system says of the two paths, and how
much of the log the checkpoint can move over before it has to give up. -/
structure BackupInput where
  now : Timestamp
  pathsAllowed : Bool
  sourceExists : Bool
  destinationExists : Bool
  folded : Nat

def RunBackup.refusal (call : RunBackup α) (input : BackupInput) : Option BackupRefusal :=
  if call.training = false then some .liveMode
  else if input.pathsAllowed = false then some .pathNotAllowed
  else if input.sourceExists = false then some .sourceNotFound
  else if input.destinationExists ∧ call.force = false then some .destinationExists
  else none

/-- One step of `runBackup`. Every count is a statement of its own; the file is copied without its
log, a page at a time. -/
def RunBackup.step (deps : BackupDeps α) (input : BackupInput) (db : Wal (List α))
    (call : RunBackup α) : Wal (List α) × RunBackup α :=
  match call.point with
  | .begin =>
    match call.refusal input with
    | some refusal => (db, call.at (.refused refusal))
    | none => (db, call.at .checkpointing)
  | .checkpointing => (db.checkpoint input.folded, call.at .migrations)
  | .migrations => (db, call.at (.balancing (schemaVersionOf deps db.view)))
  | .balancing schemaVersion =>
    (db, call.at (.counting schemaVersion (deps.ledgerResidualMinor db.view) [] BackupTable.all))
  | .counting schemaVersion residual counted (table :: rest) =>
    (db, call.at (.counting schemaVersion residual
      (counted ++ [(table, deps.count db.view table)]) rest))
  | .counting schemaVersion residual counted [] =>
    let sizeBytes := deps.sizeBytes db.main
    if ∃ most ∈ call.maxBackupSizeBytes, most < sizeBytes then (db, call.at (.refused .tooLarge))
    else (db, call.at (.copying { schemaVersion, residual, rowCounts := counted, sizeBytes } []))
  | .copying facts copied =>
    match db.main[copied.length]? with
    | some page => (db, call.at (.copying facts (copied ++ [page])))
    | none => (db, call.at (.hashing facts copied))
  | .hashing facts copied =>
    (db, call.at (.completed
      { manifestVersion := 1, schemaVersion := facts.schemaVersion, createdAt := input.now
        databaseSizeBytes := facts.sizeBytes, ledgerResidualMinor := facts.residual
        rowCounts := facts.rowCounts, checksumSha256 := deps.sha256 copied
        sourceIdentifier := deps.sourceIdentifier } copied))
  | .completed _ _ => (db, call)
  | .refused _ => (db, call)

inductive RestoreRefusal
  | checksumMismatch
  | schemaMismatch (missing : List String)
  | databaseIntegrity
  | nonZeroResidual (residual : Int)
  | rowCountMismatch (table : BackupTable) (expected actual : Nat)
deriving DecidableEq, Repr

/-- The first table whose rows are not as many as the manifest says. -/
def rowCountMismatch (deps : BackupDeps α) (file : List α) :
    List (BackupTable × Nat) → Option RestoreRefusal
  | [] => none
  | (table, expected) :: rest =>
    if deps.count file table ≠ expected then
      some (.rowCountMismatch table expected (deps.count file table))
    else rowCountMismatch deps file rest

/-- Why `runRestore` refuses a backup file with its manifest, if it does. -/
def restoreRefusal (deps : BackupDeps α) (manifest : BackupManifest) (file : List α) :
    Option RestoreRefusal :=
  if deps.sha256 file ≠ manifest.checksumSha256 then some .checksumMismatch
  else if missingMigrations deps file ≠ [] then
    some (.schemaMismatch (missingMigrations deps file))
  else if deps.integrityCheck file = false then some .databaseIntegrity
  else if deps.ledgerResidualMinor file ≠ 0 then
    some (.nonZeroResidual (deps.ledgerResidualMinor file))
  else rowCountMismatch deps file manifest.rowCounts

/-- What the other processes do to the database: commit a transaction to the log, or move some of
the log over to the file. -/
inductive BackupProcess (α : Type u)
  | backup (call : RunBackup α)
  | commit (change : List α → List α)
  | checkpoint (count : Nat)
  | ended

def BackupProcess.step (deps : BackupDeps α) (input : BackupInput) (db : Wal (List α)) :
    BackupProcess α → Wal (List α) × BackupProcess α
  | .backup call => (call.step deps input db).map id .backup
  | .commit change => (db.commit change, .ended)
  | .checkpoint count => (db.checkpoint count, .ended)
  | .ended => (db, .ended)

def BackupProcess.Starting : BackupProcess α → Prop
  | .backup call => (call.point matches .begin) = true
  | .commit _ => True
  | .checkpoint _ => True
  | .ended => False

instance BackupProcess.decidableStarting (process : BackupProcess α) :
    Decidable process.Starting :=
  match process with
  | .backup call => inferInstanceAs (Decidable ((call.point matches .begin) = true))
  | .commit _ => isTrue trivial
  | .checkpoint _ => isTrue trivial
  | .ended => isFalse id

def BackupProcess.finished : BackupProcess α → Bool
  | .backup call => (call.point matches .completed _ _ | .refused _)
  | .commit _ => false
  | .checkpoint _ => false
  | .ended => true

/-- Backups and the processes that sell, on one database. -/
def backupServer (deps : BackupDeps α) : Machine (Wal (List α)) BackupInput (BackupProcess α) where
  advance := BackupProcess.step deps
  finished process := process.finished = true

end Telga.Application
