import Mathlib.Data.List.Forall2
import Telga.Application.Restore

namespace Telga.Proofs.Restores
open Application Domain Library

variable {α β : Type} {deps : RestoreDeps α β} {call : RestoreCall α}
  {target : RestoreTarget α} {backup file : List α} {manifest : BackupManifest}

/-- A row that stayed as it was, but for being active. -/
def Ended (row row' : StandingRow) : Prop :=
  row'.columns = row.columns ∧ row'.ending ≠ none ∧ (row.ending ≠ none → row' = row)

/-- Tables row for row, except that no session, of a merchant or an administrator, and no recovery
claim is active. -/
structure Deactivated (before after : RestoredTables β) : Prop where
  sessions : List.Forall₂ Ended before.sessions after.sessions
  adminSessions : List.Forall₂ Ended before.adminSessions after.adminSessions
  recoveryClaims : List.Forall₂ Ended before.recoveryClaims after.recoveryClaims
  others : after.others = before.others

/-- A restore that throws has left the target as it was, and one that returns has put the backup
there with nothing active in it. -/
def RestoresRight (deps : RestoreDeps α β) (call : RestoreCall α) (target : RestoreTarget α) :
    Prop :=
  match call.runRestore deps target with
  | (.error _, left) => left = target
  | (.ok _, left) => ∃ main backup, left.main = some main ∧ left.wal = none ∧
      call.backup = some backup ∧ Deactivated (deps.tables backup) (deps.tables main)

/-- Nothing fails of itself after the copy, and every check finds what it looks for. -/
structure Passes (deps : RestoreDeps α β) (call : RestoreCall α) (manifest : BackupManifest)
    (file : List α) : Prop where
  steps : ∀ step, step ≠ .copying → call.fails step = false
  migrated : missingMigrations deps.toBackupDeps file = []
  integrity : deps.integrityCheck file = true
  appendOnly : deps.appendOnly file = true
  residual : deps.ledgerResidualMinor file = 0
  counted : rowCountMismatch deps.toBackupDeps file manifest.rowCounts = none

/-- What the log beside the target makes of a row of the backup is that row, whether it is active
apart: one that had ended is as it was once those that stand have ended. -/
def Kept (ending : Ending) (row row' : StandingRow) : Prop :=
  row'.columns = row.columns ∧ (row.ending ≠ none → endRow ending row' = row)

/-- The log that lies beside the target changes nothing of the backup, what is active apart, and no
administrator's session is active. -/
structure Harmless (now : Timestamp) (before opened : RestoredTables β) : Prop where
  sessions : List.Forall₂ (Kept ⟨"REVOKED", now, "RESTORED_FROM_BACKUP"⟩) before.sessions
    opened.sessions
  adminSessions : List.Forall₂ Ended before.adminSessions opened.adminSessions
  recoveryClaims : List.Forall₂ (Kept ⟨"RELEASED", now, ""⟩) before.recoveryClaims
    opened.recoveryClaims
  others : opened.others = before.others

/-- What SQLite reads of a backup beside the log of the database that was there before. -/
def openedWith (backup : List α) (target : RestoreTarget α) : List α :=
  replay (target.wal.getD []) backup

/-- When a restore does what it should: it is refused before it copies, or its copy fails and
leaves what was there, or a step or a check fails and the clean-up leaves what was there, or
everything passes and the old log is harmless. -/
def Safe (deps : RestoreDeps α β) (call : RestoreCall α) (target : RestoreTarget α) : Prop :=
  ∀ backup manifest, call.begins deps.toBackupDeps target = .ok (backup, manifest) →
    (call.fails .copying = true → call.torn = target.main) ∧
    (call.fails .copying = false → ¬ Passes deps call manifest (openedWith backup target) →
      call.debris.getD {} = target) ∧
    (call.fails .copying = false → Passes deps call manifest (openedWith backup target) →
      Harmless call.now (deps.tables backup) (deps.tables (openedWith backup target)))

theorem attempt_ok {step : RestoreStep} {u : Unit} :
    call.attempt step = .ok u ↔ call.fails step = false := by
  rw [RestoreCall.attempt]
  cases call.fails step with
  | true => exact ⟨nofun, nofun⟩
  | false => exact ⟨fun _ => rfl, fun _ => rfl⟩

theorem require_ok {found : Bool} {error : RestoreError} {u : Unit} :
    require found error = .ok u ↔ found = true := by
  cases found with
  | true => exact ⟨fun _ => rfl, fun _ => rfl⟩
  | false => exact ⟨nofun, nofun⟩

theorem counted_ok {u : Unit} :
    checkCounts deps.toBackupDeps manifest file = .ok u ↔
      rowCountMismatch deps.toBackupDeps file manifest.rowCounts = none := by
  rw [checkCounts]
  cases rowCountMismatch deps.toBackupDeps file manifest.rowCounts with
  | none => exact ⟨fun _ => rfl, fun _ => rfl⟩
  | some _ => exact ⟨nofun, nofun⟩

/-- What a restore leaves when nothing stops it: the old log's view of the backup, with its
sessions revoked and its claims released. -/
def settledFile (deps : RestoreDeps α β) (now : Timestamp) (file : List α) : List α :=
  deps.update (releaseClaims now) (deps.update (revokeSessions now) file)

theorem settle_ok {copy : Wal (List α)} {main : List α} :
    call.settle deps manifest copy = .ok main ↔
      Passes deps call manifest copy.view ∧ main = settledFile deps call.now copy.view := by
  have closed : ∀ w : Wal (List α), (w.checkpoint w.log.length).main = w.view := fun w =>
    Wal.main_checkpoint (Nat.le_refl _)
  simp only [RestoreCall.settle, RestoreCall.verify, bind_ok, attempt_ok, require_ok, counted_ok,
    pure_ok, closed, Wal.view_commit, List.isEmpty_iff, decide_eq_true_eq, exists_const]
  constructor
  · rintro ⟨opening, ⟨migrations, migrated, health, integrity, appendOnly, guarded, residual, zero,
      counting, counted⟩, revoking, releasing, reporting, closing, told⟩
    refine ⟨⟨?_, migrated, integrity, guarded, zero, counted⟩, told.symm⟩
    intro step other
    cases step with
    | copying => exact absurd rfl other
    | opening => exact opening
    | migrations => exact migrations
    | health => exact health
    | appendOnly => exact appendOnly
    | residual => exact residual
    | counting => exact counting
    | revoking => exact revoking
    | releasing => exact releasing
    | reporting => exact reporting
    | closing => exact closing
  · rintro ⟨passes, told⟩
    have step := passes.steps
    exact ⟨step _ (by simp), ⟨step _ (by simp), passes.migrated, step _ (by simp), passes.integrity,
      step _ (by simp), passes.appendOnly, step _ (by simp), passes.residual, step _ (by simp),
      passes.counted⟩, step _ (by simp), step _ (by simp), step _ (by simp), step _ (by simp), told.symm⟩

/-- A row that has ended for certain is right exactly when the row it was made from was kept. -/
theorem ended_endRow {ending : Ending} {row row' : StandingRow} :
    Ended row (endRow ending row') ↔ Kept ending row row' := by
  have columns : (endRow ending row').columns = row'.columns := by
    rw [endRow]
    split
    · rfl
    · rfl
  have past : (endRow ending row').ending ≠ none := by
    rw [endRow]
    split
    · nofun
    · assumption
  rw [Ended, Kept, columns]
  exact ⟨fun ⟨same, _, kept⟩ => ⟨same, kept⟩, fun ⟨same, kept⟩ => ⟨same, past, kept⟩⟩

/-- What is settled has the backup's rows with nothing active exactly when the old log was
harmless. -/
theorem deactivated_settled :
    Deactivated (deps.tables backup) (deps.tables (settledFile deps call.now file)) ↔
      Harmless call.now (deps.tables backup) (deps.tables file) := by
  rw [settledFile, deps.tables_update, deps.tables_update]
  constructor
  · intro ⟨sessions, admins, claims, others⟩
    refine ⟨?_, admins, ?_, others⟩
    · exact (List.forall₂_map_right_iff.mp sessions).imp fun _ _ => ended_endRow.mp
    · exact (List.forall₂_map_right_iff.mp claims).imp fun _ _ => ended_endRow.mp
  · intro ⟨sessions, admins, claims, others⟩
    refine ⟨?_, admins, ?_, others⟩
    · exact List.forall₂_map_right_iff.mpr (sessions.imp fun _ _ => ended_endRow.mpr)
    · exact List.forall₂_map_right_iff.mpr (claims.imp fun _ _ => ended_endRow.mpr)

theorem begins_backup (begins : call.begins deps.toBackupDeps target = .ok (backup, manifest)) :
    call.backup = some backup := by
  unfold RestoreCall.begins at begins
  split at begins
  · cases begins
  split at begins
  · cases begins
  split at begins
  · cases begins
  rename_i found
  split at begins
  · cases begins
  split at begins
  · cases begins
  split at begins
  · cases begins
  cases begins
  exact found

/-- A restore that throws has left the target path as it was, and one that returns has put the
backup there with nothing active, exactly where it is refused in time, or what fails leaves what
was there, or everything passes on a backup without active administrators and without a log of
another database beside it that changes a table. -/
theorem restore_right (deps : RestoreDeps α β) (call : RestoreCall α)
    (target : RestoreTarget α) :
    RestoresRight deps call target ↔ Safe deps call target := by
  unfold RestoresRight Safe RestoreCall.runRestore
  cases begins : call.begins deps.toBackupDeps target with
  | error error => exact ⟨fun _ _ _ => nofun, fun _ => rfl⟩
  | ok started =>
    obtain ⟨backup, manifest⟩ := started
    have there := begins_backup begins
    have only : ∀ {p : List α → BackupManifest → Prop},
        (∀ backup' manifest', Except.ok (backup, manifest) =
          (Except.ok (backup', manifest') : Except RestoreError _) → p backup' manifest') ↔
          p backup manifest := by
      intro p
      refine ⟨fun all => all _ _ rfl, ?_⟩
      intro one backup' manifest' same
      cases same
      exact one
    rw [only]
    cases copying : call.fails .copying with
    | true =>
      simp only [↓reduceIte]
      constructor
      · intro same
        exact ⟨fun _ => congrArg RestoreTarget.main same, nofun, nofun⟩
      · intro ⟨torn, _, _⟩
        rw [torn (by trivial)]
    | false =>
      simp only [Bool.false_eq_true, ↓reduceIte]
      have opened : (⟨backup, target.wal.getD []⟩ : Wal (List α)).view =
          openedWith backup target := rfl
      cases settled : call.settle deps manifest ⟨backup, target.wal.getD []⟩ with
      | error error =>
        have stopped : ¬ Passes deps call manifest (openedWith backup target) := by
          intro passes
          rw [← opened] at passes
          rw [settle_ok.mpr ⟨passes, rfl⟩] at settled
          cases settled
        exact ⟨fun same => ⟨nofun, fun _ _ => same, fun _ passes => absurd passes stopped⟩,
          fun safe => safe.2.1 (by trivial) stopped⟩
      | ok main =>
        obtain ⟨passes, rfl⟩ := settle_ok.mp settled
        rw [opened] at passes ⊢
        simp only
        constructor
        · intro ⟨main, backup', put, _, same, deactivated⟩
          rw [there] at same
          cases same
          cases put
          exact ⟨nofun, fun _ stopped => absurd passes stopped,
            fun _ _ => deactivated_settled.mp deactivated⟩
        · intro ⟨_, _, kept⟩
          exact ⟨_, backup, rfl, by trivial, there, deactivated_settled.mpr (kept (by trivial) passes)⟩

/-- A file whose one page is what it holds. -/
def onePage : RestoreDeps (RestoredTables Unit) Unit where
  count _ _ := 0
  ledgerResidualMinor file := if file.isEmpty then 1 else 0
  appliedMigrations _ := []
  sizeBytes _ := 0
  sha256 _ := ""
  integrityCheck _ := true
  migrations := []
  sourceIdentifier := "training"
  tables file := file.headD ⟨[], [], [], ()⟩
  update change file := [change (file.headD ⟨[], [], [], ()⟩)]
  tables_update _ _ := rfl
  appendOnly _ := true

/-- A backup of one administrator, signed in. -/
def signedInBackup : List (RestoredTables Unit) :=
  [⟨[], [⟨"adm_session_1", none⟩], [], ()⟩]

def emptyManifest : BackupManifest where
  manifestVersion := 1
  schemaVersion := ""
  createdAt := 0
  databaseSizeBytes := 0
  ledgerResidualMinor := 0
  rowCounts := []
  checksumSha256 := ""
  sourceIdentifier := "training"

/-- A restore over an existing database, of a backup whose ledger does not balance. -/
def overExisting : RestoreCall (RestoredTables Unit) where
  backup := some []
  manifest := some emptyManifest
  allowExistingTarget := true
  now := 0

/-- A restore that is refused takes away the database that was there, and one that goes through
leaves the backup's administrator signed in. -/
theorem target_lost :
    ¬ RestoresRight onePage overExisting { main := some signedInBackup } ∧
      ¬ RestoresRight onePage { overExisting with backup := some signedInBackup } {} := by
  constructor
  · intro right
    have gone : overExisting.runRestore onePage { main := some signedInBackup } =
        (.error (.refused (.nonZeroResidual 1)), {}) := rfl
    rw [RestoresRight, gone] at right
    cases right
  · intro right
    have restored : RestoreCall.runRestore onePage
        { overExisting with backup := some signedInBackup } {} =
          (.ok (), { main := some signedInBackup }) := rfl
    rw [RestoresRight, restored] at right
    obtain ⟨main, backup, put, _, _, deactivated⟩ := right
    cases put
    have admins := deactivated.adminSessions
    rcases List.forall₂_cons_right_iff.mp admins with ⟨_, _, ended, _⟩
    exact ended.2.1 rfl

end Telga.Proofs.Restores
