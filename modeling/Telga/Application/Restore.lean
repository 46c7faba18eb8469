import Telga.Application.Backup
import Telga.Library.Attempt

namespace Telga.Application
open Domain Library

/-- How a session or a claim ended. -/
structure Ending where
  status : String
  moment : Timestamp
  reason : String
deriving DecidableEq

/-- A row of a session or a recovery claim, which is active until it has an ending. The other
columns are one. -/
structure StandingRow where
  columns : String
  ending : Option Ending
deriving DecidableEq

/-- The tables of a database: those whose rows stand or have ended, and all others. -/
structure RestoredTables (β : Type u) where
  sessions : List StandingRow
  adminSessions : List StandingRow
  recoveryClaims : List StandingRow
  others : β

/-- What a restore goes by, besides what a backup does: the tables of a file, and what a statement
does to it. -/
structure RestoreDeps (α : Type u) (β : Type v) extends BackupDeps α where
  tables : List α → RestoredTables β
  update : (RestoredTables β → RestoredTables β) → List α → List α
  tables_update : ∀ change file, tables (update change file) = change (tables file)
  /-- Whether the ledger has no entry, or its triggers refuse to change one. -/
  appendOnly : List α → Bool

/-- What may fail of itself on the way. -/
inductive RestoreStep
  | copying
  | opening
  | migrations
  | health
  | appendOnly
  | residual
  | counting
  | revoking
  | releasing
  | reporting
  | closing
deriving DecidableEq

inductive RestoreError
  | liveMode
  | pathNotAllowed
  | backupNotFound
  | manifestMissing
  | targetExists
  | appendOnlyMissing
  | refused (refusal : RestoreRefusal)
  | failed (step : RestoreStep)
deriving DecidableEq

/-- What lies at a path: the database, the log beside it with the transactions that were not moved
over, and the shared-memory file. -/
structure RestoreTarget (α : Type u) where
  main : Option (List α) := none
  wal : Option (List (List α → List α)) := none
  shm : Bool := false

/-- A call of `runRestore` and what it meets. `torn` is what a copy that fails leaves, and `debris`
what a clean-up leaves that fails. -/
structure RestoreCall (α : Type u) where
  training : Bool := true
  pathsAllowed : Bool := true
  backup : Option (List α)
  manifest : Option BackupManifest
  allowExistingTarget : Bool := false
  now : Timestamp
  fails : RestoreStep → Bool := fun _ => false
  torn : Option (List α) := none
  debris : Option (RestoreTarget α) := none

/-- What the call is refused for before anything is copied, or else the backup and its manifest. -/
def RestoreCall.begins (deps : BackupDeps α) (call : RestoreCall α) (target : RestoreTarget α) :
    Except RestoreError (List α × BackupManifest) :=
  if call.training = false then .error .liveMode
  else if call.pathsAllowed = false then .error .pathNotAllowed
  else
    match call.backup with
    | none => .error .backupNotFound
    | some backup =>
      match call.manifest with
      | none => .error .manifestMissing
      | some manifest =>
        if deps.sha256 backup ≠ manifest.checksumSha256 then .error (.refused .checksumMismatch)
        else if target.main.isSome ∧ call.allowExistingTarget = false then .error .targetExists
        else .ok (backup, manifest)

def RestoreCall.attempt (call : RestoreCall α) (step : RestoreStep) : Except RestoreError Unit :=
  if call.fails step then .error (.failed step) else .ok ()

/-- A check that has to find what it looks for. -/
def require (found : Bool) (error : RestoreError) : Except RestoreError Unit :=
  if found then .ok () else .error error

/-- The manifest's counts, one table after the other. -/
def checkCounts (deps : BackupDeps α) (manifest : BackupManifest) (file : List α) :
    Except RestoreError Unit :=
  match rowCountMismatch deps file manifest.rowCounts with
  | some refusal => .error (.refused refusal)
  | none => .ok ()

/-- The verifications, in their order, of what the opened copy shows. -/
def RestoreCall.verify (deps : RestoreDeps α β) (call : RestoreCall α) (manifest : BackupManifest)
    (file : List α) : Except RestoreError Unit := do
  call.attempt .migrations
  let missing := missingMigrations deps.toBackupDeps file
  require (missing.isEmpty) (.refused (.schemaMismatch missing))
  call.attempt .health
  require (deps.integrityCheck file) (.refused .databaseIntegrity)
  call.attempt .appendOnly
  require (deps.appendOnly file) .appendOnlyMissing
  call.attempt .residual
  let residual := deps.ledgerResidualMinor file
  require (residual = 0) (.refused (.nonZeroResidual residual))
  call.attempt .counting
  checkCounts deps.toBackupDeps manifest file

def endRow (ending : Ending) (row : StandingRow) : StandingRow :=
  if row.ending = none then { row with ending := some ending } else row

/-- Every row that is active ends. -/
def endActive (ending : Ending) (rows : List StandingRow) : List StandingRow :=
  rows.map (endRow ending)

def revokeSessions (now : Timestamp) (tables : RestoredTables β) : RestoredTables β :=
  { tables with
    sessions := endActive ⟨"REVOKED", now, "RESTORED_FROM_BACKUP"⟩ tables.sessions }

def releaseClaims (now : Timestamp) (tables : RestoredTables β) : RestoredTables β :=
  { tables with recoveryClaims := endActive ⟨"RELEASED", now, ""⟩ tables.recoveryClaims }

/-- The copy from its opening to its closing, when the log is moved over. SQLite reads a log that
lies beside a file with it, wherever it comes from. -/
def RestoreCall.settle (deps : RestoreDeps α β) (call : RestoreCall α) (manifest : BackupManifest)
    (copy : Wal (List α)) : Except RestoreError (List α) := do
  call.attempt .opening
  call.verify deps manifest copy.view
  call.attempt .revoking
  let revoked := copy.commit (deps.update (revokeSessions call.now))
  call.attempt .releasing
  let released := revoked.commit (deps.update (releaseClaims call.now))
  call.attempt .reporting
  call.attempt .closing
  return (released.checkpoint released.log.length).main

/-- The restore, and what lies at the target path afterwards. -/
def RestoreCall.runRestore (deps : RestoreDeps α β) (call : RestoreCall α)
    (target : RestoreTarget α) : Except RestoreError Unit × RestoreTarget α :=
  match call.begins deps.toBackupDeps target with
  | .error error => (.error error, target)
  | .ok (backup, manifest) =>
    -- The copy is made outside of the `try`.
    if call.fails .copying then (.error (.failed .copying), { target with main := call.torn })
    else
      match call.settle deps manifest ⟨backup, target.wal.getD []⟩ with
      | .ok main => (.ok (), { main := some main })
      -- No partial or failed target is left behind, as far as the clean-up goes.
      | .error error => (.error error, call.debris.getD {})

end Telga.Application
