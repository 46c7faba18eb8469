import Mathlib.Data.Fintype.Basic
import Telga.Application.Backup

namespace Telga.Proofs.Backups
open Domain Application Library

variable {α : Type}

abbrev BackupWorld (α : Type) := World (Wal (List α)) (BackupProcess α)

abbrev BackupHappened (α : Type) :=
  Taken (BackupWorld α) (Event BackupInput (BackupProcess α))

abbrev BackupStep (deps : BackupDeps α) :=
  Pool (backupServer deps) (fun _ process => process.Starting) fun _ _ _ => True

/-- The processes at work on a database that nobody has started on yet. -/
abbrev BackupRun (deps : BackupDeps α) :=
  Run (fun w => w.procs = []) (BackupStep deps)

/-- A manifest says what is in the file it goes with, and a restore that gets as far as comparing
the rows finds as many as it says. -/
structure Restorable (deps : BackupDeps α) (manifest : BackupManifest) (file : List α) : Prop where
  rows : manifest.rowCounts = countRows deps file
  residual : manifest.ledgerResidualMinor = deps.ledgerResidualMinor file
  checksum : manifest.checksumSha256 = deps.sha256 file
  agrees : ∀ table expected actual,
    restoreRefusal deps manifest file ≠ some (.rowCountMismatch table expected actual)

/-- What is promised of backups: each that completes can be restored. -/
def BackupsRestorable (deps : BackupDeps α) (w : BackupWorld α) : Prop :=
  ∀ call, some (.backup call) ∈ w.procs → ∀ manifest file,
    call.point = .completed manifest file → Restorable deps manifest file

/-- Two files hold as many rows, and their books come out the same. -/
def SameBooks (deps : BackupDeps α) (file file' : List α) : Prop :=
  countRows deps file = countRows deps file' ∧
  deps.ledgerResidualMinor file = deps.ledgerResidualMinor file'

instance (deps : BackupDeps α) (file file' : List α) : Decidable (SameBooks deps file file') :=
  inferInstanceAs (Decidable (_ ∧ _))

/-- The backup has moved the log over and is still reading the database. -/
def reading : BackupProcess α → Option Unit
  | .backup call =>
    match call.point with
    | .migrations | .balancing _ | .counting .. => some ()
    | _ => none
  | _ => none

/-- The backup has moved the log over and has not finished copying the file. -/
def underway : BackupProcess α → Option Unit
  | .backup call =>
    match call.point with
    | .migrations | .balancing _ | .counting .. | .copying .. => some ()
    | _ => none
  | _ => none

def ownCheckpoint (input : BackupInput) : BackupProcess α → Option Nat
  | .backup call =>
    match call.point with
    | .checkpointing => some input.folded
    | _ => none
  | _ => none

def movedOver (input : BackupInput) : BackupProcess α → Option Nat
  | .checkpoint count => some count
  | process => ownCheckpoint input process

def committed (_ : BackupInput) : BackupProcess α → Option (List α → List α)
  | .commit change => some change
  | _ => none

/-- A backup's own checkpoint moves the whole log over. Nothing is moved over to the file while a
backup is under way that changes it, and nothing is committed while one is reading that changes the
rows or the books. -/
structure Undisturbed (deps : BackupDeps α) (taken : BackupHappened α) : Prop where
  whole : ∀ count ∈ ofActor ownCheckpoint taken, taken.before.store.log.length ≤ count
  unmoved : ∀ count ∈ ofActor movedOver taken, ∀ _call ∈ taken.before.shown underway,
    (taken.before.store.checkpoint count).main = taken.before.store.main
  quiet : ∀ change ∈ ofActor committed taken, ∀ _call ∈ taken.before.shown reading,
    SameBooks deps (change taken.before.store.view) taken.before.store.view

instance [DecidableEq α] (deps : BackupDeps α) (taken : BackupHappened α) :
    Decidable (Undisturbed deps taken) :=
  decidable_of_iff
    ((∀ count ∈ ofActor ownCheckpoint taken, taken.before.store.log.length ≤ count) ∧
      (∀ count ∈ ofActor movedOver taken, ∀ _call ∈ taken.before.shown underway,
        (taken.before.store.checkpoint count).main = taken.before.store.main) ∧
      ∀ change ∈ ofActor committed taken, ∀ _call ∈ taken.before.shown reading,
        SameBooks deps (change taken.before.store.view) taken.before.store.view)
    ⟨fun ⟨whole, unmoved, quiet⟩ => ⟨whole, unmoved, quiet⟩,
      fun ⟨whole, unmoved, quiet⟩ => ⟨whole, unmoved, quiet⟩⟩

/-- What has been read is what a file holds. -/
def FactsOf (deps : BackupDeps α) (file : List α) (facts : BackupFacts) : Prop :=
  facts.rowCounts = countRows deps file ∧ facts.residual = deps.ledgerResidualMinor file

/-- What a backup knows: while it reads, that readers see what the file holds; after that, that what
it has read is what the file holds, and then what the copy does. -/
def Knows (deps : BackupDeps α) (db : Wal (List α)) : BackupProcess α → Prop
  | .backup call =>
    match call.point with
    | .migrations | .balancing _ => SameBooks deps db.view db.main
    | .counting _ residual counted rest =>
      SameBooks deps db.view db.main ∧ residual = deps.ledgerResidualMinor db.main ∧
      counted ++ rest.map (fun table => (table, deps.count db.main table)) = countRows deps db.main
    | .copying facts copied =>
      FactsOf deps db.main facts ∧ copied = db.main.take copied.length
    | .hashing facts copied => FactsOf deps copied facts
    | .completed manifest copied => Restorable deps manifest copied
    | _ => True
  | _ => True

theorem SameBooks.count {deps : BackupDeps α} {file file' : List α}
    (same : SameBooks deps file file') (table : BackupTable) :
    deps.count file table = deps.count file' table := by
  have rows := same.1
  unfold countRows at rows
  have pair := List.map_inj_left.mp rows table (by cases table <;> decide)
  exact (Prod.mk.inj pair).2

theorem rowCountMismatch_none (deps : BackupDeps α) (file : List α) (tables : List BackupTable) :
    rowCountMismatch deps file (tables.map fun table => (table, deps.count file table)) = none := by
  induction tables with
  | nil => rfl
  | cons table rest ih =>
    simp only [List.map_cons, rowCountMismatch, ne_eq, not_true, if_false, ih]

/-- A manifest that says what is in its file passes the comparison of a restore. -/
theorem Restorable.of_rows {deps : BackupDeps α} {manifest : BackupManifest} {file : List α}
    (rows : manifest.rowCounts = countRows deps file)
    (residual : manifest.ledgerResidualMinor = deps.ledgerResidualMinor file)
    (checksum : manifest.checksumSha256 = deps.sha256 file) : Restorable deps manifest file := by
  refine ⟨rows, residual, checksum, fun table expected actual refused => ?_⟩
  unfold restoreRefusal at refused
  split at refused
  · cases refused
  · split at refused
    · cases refused
    · split at refused
      · cases refused
      · split at refused
        · cases refused
        · rw [rows, countRows, rowCountMismatch_none] at refused
          cases refused

/-- A backup's own step leaves it knowing what it goes by. -/
theorem knows_own (deps : BackupDeps α) (input : BackupInput) (db : Wal (List α))
    (process : BackupProcess α) (knows : Knows deps db process)
    (whole : ∀ count ∈ ownCheckpoint input process, db.log.length ≤ count) :
    Knows deps (process.step deps input db).1 (process.step deps input db).2 := by
  cases process with
  | commit change | checkpoint count | ended => exact trivial
  | backup call =>
    simp only [BackupProcess.step, Prod.map_fst, Prod.map_snd, id]
    unfold RunBackup.step
    cases point : call.point with
    | begin =>
      simp only []
      split
      · exact trivial
      · exact trivial
    | checkpointing =>
      have all := whole input.folded (by simp [ownCheckpoint, point])
      simp only [RunBackup.at, Knows, Wal.view_checkpoint, Wal.main_checkpoint all]
      exact ⟨rfl, rfl⟩
    | migrations =>
      simp only [Knows, point] at knows
      exact knows
    | balancing schemaVersion =>
      simp only [Knows, point] at knows
      exact ⟨knows, knows.2, rfl⟩
    | counting schemaVersion residual counted rest =>
      simp only [Knows, point] at knows
      obtain ⟨same, balanced, rows⟩ := knows
      cases rest with
      | nil =>
        simp only []
        split
        · exact trivial
        · refine ⟨⟨?_, balanced⟩, by simp⟩
          simpa using rows
      | cons table rest =>
        refine ⟨same, balanced, ?_⟩
        rw [same.count table, List.append_assoc]
        exact rows
    | copying facts copied =>
      simp only [Knows, point] at knows
      obtain ⟨facts, copied⟩ := knows
      simp only []
      split
      · rename_i page found
        refine ⟨facts, ?_⟩
        rw [List.length_append, List.length_singleton, List.take_add_one, found, ← copied]
        rfl
      · rename_i ended
        have whole : db.main.length ≤ _ := List.getElem?_eq_none_iff.mp ended
        rw [List.take_of_length_le whole] at copied
        simp only [RunBackup.at, Knows, copied]
        exact facts
    | hashing facts copied =>
      simp only [Knows, point] at knows
      exact .of_rows knows.1 knows.2 rfl
    | completed manifest copied =>
      simp only [Knows, point] at knows ⊢
      exact knows
    | refused _ => simp [Knows, point]

/-- A step leaves the database alone, moves some of its log over or commits to it. -/
theorem step_store (deps : BackupDeps α) (input : BackupInput) (db : Wal (List α))
    (process : BackupProcess α) :
    (process.step deps input db).1 = db ∨
    (∃ count, movedOver input process = some count ∧
      (process.step deps input db).1 = db.checkpoint count) ∨
    ∃ change, committed input process = some change ∧
      (process.step deps input db).1 = db.commit change := by
  cases process with
  | commit change => exact .inr (.inr ⟨change, rfl, rfl⟩)
  | checkpoint count => exact .inr (.inl ⟨count, rfl, rfl⟩)
  | ended => exact .inl rfl
  | backup call =>
    simp only [BackupProcess.step, Prod.map_fst, id]
    unfold RunBackup.step
    cases point : call.point with
    | begin =>
      left
      simp only []
      split
      · rfl
      · rfl
    | checkpointing => exact .inr (.inl ⟨input.folded, by simp [movedOver, ownCheckpoint, point], rfl⟩)
    | migrations => exact .inl rfl
    | balancing schemaVersion => exact .inl rfl
    | counting schemaVersion residual counted rest =>
      left
      cases rest with
      | nil =>
        simp only []
        split
        · rfl
        · rfl
      | cons table rest => rfl
    | copying facts copied =>
      left
      simp only []
      split
      · rfl
      · rfl
    | hashing facts copied => exact .inl rfl
    | completed manifest copied => exact .inl rfl
    | refused _ => exact .inl rfl

/-- What a backup knows stays true where the file does not change while it is under way, nor the
books while it reads. -/
theorem Knows.stays {deps : BackupDeps α} {db db' : Wal (List α)} {process : BackupProcess α}
    (knows : Knows deps db process)
    (unmoved : underway process = some () → db'.main = db.main)
    (quiet : reading process = some () → SameBooks deps db'.view db.view) :
    Knows deps db' process := by
  cases process with
  | commit change | checkpoint count | ended => exact trivial
  | backup call =>
    unfold underway at unmoved
    unfold reading at quiet
    cases point : call.point with
    | begin => simp [Knows, point]
    | checkpointing => simp [Knows, point]
    | refused _ => simp [Knows, point]
    | hashing facts copied =>
      simp only [Knows, point] at knows ⊢
      exact knows
    | completed manifest copied =>
      simp only [Knows, point] at knows ⊢
      exact knows
    | migrations =>
      simp only [Knows, point, true_implies] at knows unmoved quiet ⊢
      rw [unmoved]
      exact ⟨quiet.1.trans knows.1, quiet.2.trans knows.2⟩
    | balancing schemaVersion =>
      simp only [Knows, point, true_implies] at knows unmoved quiet ⊢
      rw [unmoved]
      exact ⟨quiet.1.trans knows.1, quiet.2.trans knows.2⟩
    | counting schemaVersion residual counted rest =>
      simp only [Knows, point, true_implies] at knows unmoved quiet ⊢
      rw [unmoved]
      exact ⟨⟨quiet.1.trans knows.1.1, quiet.2.trans knows.1.2⟩, knows.2⟩
    | copying facts copied =>
      simp only [Knows, point, true_implies] at knows unmoved ⊢
      rw [unmoved]
      exact knows

theorem knows_others (deps : BackupDeps α) (input : BackupInput) (db : Wal (List α))
    (process other : BackupProcess α) (knows : Knows deps db other)
    (unmoved : ∀ count ∈ movedOver input process, underway other = some () →
      (db.checkpoint count).main = db.main)
    (quiet : ∀ change ∈ committed input process, reading other = some () →
      SameBooks deps (change db.view) db.view) :
    Knows deps (process.step deps input db).1 other := by
  rcases step_store deps input db process with
    same | ⟨count, moves, same⟩ | ⟨change, commits, same⟩
  · rw [same]
    exact knows
  · rw [same]
    refine knows.stays (unmoved count moves) fun _ => ?_
    rw [Wal.view_checkpoint]
    exact ⟨rfl, rfl⟩
  · rw [same]
    refine knows.stays (fun _ => rfl) fun reads => ?_
    rw [Wal.view_commit]
    exact quiet change commits reads

theorem mem_shown {w : BackupWorld α} {view : BackupProcess α → Option Unit}
    {process : BackupProcess α} (mem : some process ∈ w.procs) (shows : view process = some ()) :
    () ∈ w.shown view :=
  List.mem_filterMap.mpr ⟨some process, mem, shows⟩

/-- In a run that disturbs no backup, every backup knows what it goes by. -/
theorem run_knows {deps : BackupDeps α} (run : BackupRun deps past w)
    (fair : ∀ taken ∈ past, Undisturbed deps taken) :
    ∀ process, some process ∈ w.procs → Knows deps w.store process := by
  induction run with
  | start nobody =>
    intro process mem
    rw [nobody] at mem
    cases mem
  | @step past w event w' run step ih =>
    have knows := ih fun taken mem => fair taken (List.mem_cons_of_mem _ mem)
    have undisturbed := fair _ (List.mem_cons_self ..)
    cases step with
    | @start process _ starting =>
      intro other mem
      rcases List.mem_append.mp mem with mem | mem
      · exact knows other mem
      · simp only [List.mem_singleton, Option.some.injEq] at mem
        subst mem
        cases other with
        | commit change => exact trivial
        | checkpoint count => exact trivial
        | ended => exact trivial
        | backup call =>
          have begins : BackupProcess.Starting (.backup call) := starting
          cases point : call.point with
          | begin => simp [Knows, point]
          | _ => simp [BackupProcess.Starting, point] at begins
    | crash =>
      intro other mem
      rcases List.mem_or_eq_of_mem_set mem with mem | mem
      · exact knows other mem
      · cases mem
    | @act process input store' process' _ slot here _ moved =>
      have moved : process.step deps input w.store = (store', process') := moved
      have whole := undisturbed.whole
      have unmoved := undisturbed.unmoved
      have quiet := undisturbed.quiet
      simp only [ofActor_act here] at whole unmoved quiet
      rw [show store' = (process.step deps input w.store).1 by rw [moved]]
      intro other mem
      rcases List.mem_or_eq_of_mem_set mem with mem | mem
      · refine knows_others deps input w.store process other (knows other mem) ?_ ?_
        · exact fun count moves under => unmoved count moves () (mem_shown mem under)
        · exact fun change commits reads => quiet change commits () (mem_shown mem reads)
      · cases mem
        rw [show process' = (process.step deps input w.store).2 by rw [moved]]
        exact knows_own deps input w.store process (knows process (World.proc_mem here)) whole

/-- In every run in which a backup's checkpoint moves the whole log over, and nothing changes the
file while a backup is under way or the books while it reads, every backup that completes can be
restored. -/
theorem backups_restorable {deps : BackupDeps α} (run : BackupRun deps past w)
    (fair : ∀ taken ∈ past, Undisturbed deps taken) : BackupsRestorable deps w := by
  intro call mem manifest file completed
  have knows := run_knows run fair (.backup call) mem
  simp only [Knows, completed] at knows
  exact knows

/-- A database with a sale on every page. -/
def salesOnly : BackupDeps Nat where
  count file table := if table = .transactions then file.length else 0
  ledgerResidualMinor _ := 0
  appliedMigrations _ := ["001"]
  sizeBytes file := 4096 * file.length
  sha256 file := toString file.length
  integrityCheck _ := true
  migrations := ["001"]
  sourceIdentifier := "telga"

def nightly : BackupProcess Nat :=
  .backup { training := true, force := false, maxBackupSizeBytes := none, point := .begin }

/-- Steps of the backup in the first slot. -/
def backupSteps (count : Nat) : List (Event BackupInput (BackupProcess Nat)) :=
  List.replicate count (.act 0
    { now := 0, pathsAllowed := true, sourceExists := true, destinationExists := false
      folded := 1000 })

/-- A sale that is committed by the process in a slot. -/
def saleCommitted (slot : Nat) : List (Event BackupInput (BackupProcess Nat)) :=
  [.start (.commit fun file => file ++ [0]),
    .act slot
      { now := 0, pathsAllowed := true, sourceExists := true, destinationExists := false
        folded := 0 }]

def backupPlayed (events : List (Event BackupInput (BackupProcess Nat))) :
    List (BackupHappened Nat) × BackupWorld Nat :=
  played (World.next (backupServer salesOnly)) events [] ⟨⟨[0, 0], []⟩, []⟩

theorem backupPlayed_run {events : List (Event BackupInput (BackupProcess Nat))}
    (playable : Playable (World.May (fun _ process => process.Starting) fun _ _ _ => True)
      (World.next (backupServer salesOnly)) events ⟨⟨[0, 0], []⟩, []⟩) :
    BackupRun salesOnly (backupPlayed events).1 (backupPlayed events).2 := by
  have nobody : (⟨⟨[0, 0], []⟩, []⟩ : BackupWorld Nat).procs = [] := rfl
  exact Run.play Pool.next (.start nobody) playable

/-- A sale is committed before the backup, and another once it has counted. -/
def soldAfterwards : List (Event BackupInput (BackupProcess Nat)) :=
  .start nightly :: saleCommitted 1 ++ backupSteps 15 ++ saleCommitted 2 ++ backupSteps 5

theorem soldAfterwards_run :
    BackupRun salesOnly (backupPlayed soldAfterwards).1 (backupPlayed soldAfterwards).2 :=
  backupPlayed_run (by decide +kernel)

theorem soldAfterwards_restorable : BackupsRestorable salesOnly (backupPlayed soldAfterwards).2 :=
  backups_restorable soldAfterwards_run (by decide +kernel)

/-- A sale is committed between the backup's checkpoint and its counts. -/
def soldMeanwhile : List (Event BackupInput (BackupProcess Nat)) :=
  .start nightly :: backupSteps 2 ++ saleCommitted 1 ++ backupSteps 17

theorem soldMeanwhile_run :
    BackupRun salesOnly (backupPlayed soldMeanwhile).1 (backupPlayed soldMeanwhile).2 :=
  backupPlayed_run (by decide +kernel)

/-- The manifest counts the sale, and the copy does not hold it. -/
theorem sale_not_copied :
    ¬ ∀ (deps : BackupDeps Nat) past w, BackupRun deps past w → BackupsRestorable deps w := by
  intro always
  have restorable := always _ _ _ soldMeanwhile_run
  have last : ∃ call manifest file, some (.backup call) ∈ (backupPlayed soldMeanwhile).2.procs ∧
      call.point = .completed manifest file ∧
      restoreRefusal salesOnly manifest file = some (.rowCountMismatch .transactions 3 2) := by
    refine ⟨_, _, _, List.mem_cons_self .., rfl, ?_⟩
    decide +kernel
  obtain ⟨call, manifest, file, mem, completed, refused⟩ := last
  exact (restorable call mem manifest file completed).agrees _ _ _ refused

end Telga.Proofs.Backups
