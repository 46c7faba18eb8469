import Telga.Application.Provisioning

namespace Telga.Proofs.Provisioning
open Domain Persistence Application Library

abbrev ProvisionWorld := World ProvisionDb ProvisionAttempt

abbrev ProvisionHappened := Taken ProvisionWorld (Event PortInput ProvisionAttempt)

abbrev ProvisionStep (deps : ProvisionDeps) :=
  Pool (provisionServer deps) (fun _ attempt => attempt.point = .begin) fun _ _ _ => True

/-- What a shop that can be served has: its own database, brought to the platform's version, and
its merchant record. -/
structure Ready (deps : ProvisionDeps) (db : ProvisionDb) (row : TenantRow) : Prop where
  created : (row.databaseName, deps.schemaVersion) ∈ db.tenantDatabases
  recorded : Present (·.id) row.merchantId db.merchants

/-- The shop is there: its registry row is active, and what the row stands for exists. -/
def Provisioned (deps : ProvisionDeps) (merchantId : MerchantId) (db : ProvisionDb) : Prop :=
  ∃ row ∈ db.tenantRegistry, row.merchantId = merchantId ∧ row.status = .active ∧
    Ready deps db row

/-- A shop is there as a whole, or nothing of it is. -/
structure Whole (deps : ProvisionDeps) (merchantId : MerchantId) (db : ProvisionDb) : Prop where
  rows : ∀ row ∈ db.tenantRegistry, row.merchantId = merchantId →
    row.status = .active ∧ Ready deps db row
  shop : Present (·.id) merchantId db.merchants →
    Present (·.merchantId) merchantId db.tenantRegistry

/-- Any number of attempts, on a database where the shop is there as a whole or not at all. -/
abbrev ProvisionRun (deps : ProvisionDeps) (merchantId : MerchantId) :=
  Run (fun w => w.procs = [] ∧ Whole deps merchantId w.store) (ProvisionStep deps)

/-- The attempt is at the shop, and between the claim of its row and the end of it. -/
def underway (merchantId : MerchantId) (attempt : ProvisionAttempt) : Option Unit :=
  if attempt.merchantId = merchantId then
    match attempt.point with
    | .database _ | .merchant .. | .failing _ | .activating .. => some ()
    | _ => none
  else none

/-- No other shop's row has the name this shop's database would get. -/
def NameFree (deps : ProvisionDeps) (merchantId : MerchantId) (db : ProvisionDb) : Prop :=
  ∀ row ∈ db.tenantRegistry, databaseNameFor deps.toLowerCase merchantId = some row.databaseName →
    row.merchantId = merchantId

/-- Every port of a provisioning works, and the database comes out at the platform's version. -/
def Works (deps : ProvisionDeps) (input : PortInput) : Prop :=
  input.fails = false ∧ input.reached = .ok deps.schemaVersion

/-- The step wrote a merchant record of the shop. -/
def Writes (merchantId : MerchantId) (taken : ProvisionHappened) : Prop :=
  taken.before.store.merchants.countP (fun row => row.id = merchantId) <
    taken.after.store.merchants.countP fun row => row.id = merchantId

/-- What is promised of provisioning a shop. -/
structure ProvisioningKept (deps : ProvisionDeps) (merchantId : MerchantId)
    (past : List ProvisionHappened) (w : ProvisionWorld) : Prop where
  active : ∀ row ∈ w.store.tenantRegistry, row.merchantId = merchantId → row.status = .active →
    Ready deps w.store row
  once : past.Pairwise fun later earlier => ¬ (Writes merchantId later ∧ Writes merchantId earlier)
  answered : ∀ attempt, some attempt ∈ w.procs → attempt.merchantId = merchantId →
    attempt.point = .refused .alreadyProvisioned → Provisioned deps merchantId w.store
  retried : ¬ Provisioned deps merchantId w.store → w.shown (underway merchantId) = [] →
    NameFree deps merchantId w.store → ∀ name, databaseNameFor deps.toLowerCase merchantId = some name →
    ∀ attempt : ProvisionAttempt, attempt.merchantId = merchantId → attempt.point = .begin →
    provisionable attempt.status = true → ∀ inputs : List PortInput, inputs.length = 5 →
    (∀ input ∈ inputs, Works deps input) →
    Provisioned deps merchantId (attempt.run deps inputs w.store).1 ∧
    (attempt.run deps inputs w.store).2.point =
      .provisioned { merchantId, databaseName := name, schemaVersion := deps.schemaVersion }

/-- What the claim of the shop's row meets, when an attempt at the shop is about to claim it. -/
def claiming (deps : ProvisionDeps) (merchantId : MerchantId) (input : PortInput)
    (attempt : ProvisionAttempt) : Option PortInput :=
  if attempt.merchantId = merchantId ∧ attempt.point = .begin ∧ provisionable attempt.status ∧
      (databaseNameFor deps.toLowerCase merchantId).isSome then some input
  else none

def creating (merchantId : MerchantId) (input : PortInput) (attempt : ProvisionAttempt) :
    Option PortInput :=
  match attempt.point with
  | .database _ => if attempt.merchantId = merchantId then some input else none
  | _ => none

def finishing (merchantId : MerchantId) (input : PortInput) (attempt : ProvisionAttempt) :
    Option PortInput :=
  match attempt.point with
  | .merchant .. | .activating .. => if attempt.merchantId = merchantId then some input else none
  | _ => none

/-- What an attempt that dies was in the middle of. -/
def dying (merchantId : MerchantId) (taken : ProvisionHappened) : Option Unit :=
  match taken.event with
  | .crash slot => (taken.before.proc slot).bind (underway merchantId)
  | _ => none

/-- No attempt at the shop finds its row claimed by another that is still under way; one that finds
no row can claim it; no port of an attempt at the shop fails from there to the activation, and the
database comes out at the platform's version; and no attempt at it dies on the way. -/
structure Smooth (deps : ProvisionDeps) (merchantId : MerchantId) (taken : ProvisionHappened) :
    Prop where
  claims : ∀ input ∈ ofActor (claiming deps merchantId) taken,
    if Present (·.merchantId) merchantId taken.before.store.tenantRegistry then
      taken.before.shown (underway merchantId) = []
    else input.fails = false ∧ NameFree deps merchantId taken.before.store
  creates : ∀ input ∈ ofActor (creating merchantId) taken,
    input.reached = .ok deps.schemaVersion
  finishes : ∀ input ∈ ofActor (finishing merchantId) taken, input.fails = false
  lives : dying merchantId taken = none

instance (deps : ProvisionDeps) (merchantId : MerchantId) (db : ProvisionDb) :
    Decidable (NameFree deps merchantId db) :=
  inferInstanceAs (Decidable (∀ row ∈ db.tenantRegistry, _))

instance (deps : ProvisionDeps) (merchantId : MerchantId) (taken : ProvisionHappened) :
    Decidable (Smooth deps merchantId taken) :=
  decidable_of_iff
    ((∀ input ∈ ofActor (claiming deps merchantId) taken,
        if Present (·.merchantId) merchantId taken.before.store.tenantRegistry then
          taken.before.shown (underway merchantId) = []
        else input.fails = false ∧ NameFree deps merchantId taken.before.store) ∧
      (∀ input ∈ ofActor (creating merchantId) taken, input.reached = .ok deps.schemaVersion) ∧
      (∀ input ∈ ofActor (finishing merchantId) taken, input.fails = false) ∧
      dying merchantId taken = none)
    ⟨fun ⟨claims, creates, finishes, lives⟩ => ⟨claims, creates, finishes, lives⟩,
      fun ⟨claims, creates, finishes, lives⟩ => ⟨claims, creates, finishes, lives⟩⟩

/-- What one call of a port does, and where it leaves the attempt. -/
inductive AttemptDeed (deps : ProvisionDeps) (input : PortInput) (db : ProvisionDb)
    (attempt : ProvisionAttempt) : ProvisionDb → AttemptPoint → Prop
  | ended : attempt.finished = true → AttemptDeed deps input db attempt db attempt.point
  | notStarted : attempt.point = .begin →
      provisionable attempt.status = false ∨
        databaseNameFor deps.toLowerCase attempt.merchantId = none →
      refusal ≠ .alreadyProvisioned →
      AttemptDeed deps input db attempt db (.refused refusal)
  | claimed : attempt.point = .begin → provisionable attempt.status →
      databaseNameFor deps.toLowerCase attempt.merchantId = some name → input.fails = false →
      ¬ Present (·.merchantId) attempt.merchantId db.tenantRegistry →
      AttemptDeed deps input db attempt
        { db with
          tenantRegistry := db.tenantRegistry ++
            [{ merchantId := attempt.merchantId, databaseName := name,
               schemaVersion := deps.schemaVersion, status := .provisioning,
               createdAt := input.now, updatedAt := input.now }] }
        (.database name)
  | turnedAway : attempt.point = .begin → provisionable attempt.status →
      databaseNameFor deps.toLowerCase attempt.merchantId = some name →
      (input.fails = false → ¬ Present (·.merchantId) attempt.merchantId db.tenantRegistry →
        Present (·.databaseName) name db.tenantRegistry) →
      AttemptDeed deps input db attempt db (.refused .alreadyProvisioned)
  | created : attempt.point = .database name → input.reached = .ok reached →
      AttemptDeed deps input db attempt
        { db with tenantDatabases := db.tenantDatabases ++ [(name, reached)] }
        (.merchant name reached)
  | notCreated : attempt.point = .database name → input.reached = .error () →
      AttemptDeed deps input db attempt db (.failing .databaseFailed)
  | recorded : attempt.point = .merchant name reached →
      ¬ Present (·.id) attempt.merchantId db.merchants →
      AttemptDeed deps input db attempt
        { db with
          merchants := db.merchants ++ [{ id := attempt.merchantId, status := .onboarding }] }
        (.activating name reached)
  | notRecorded : attempt.point = .merchant name reached →
      (input.fails = false → Present (·.id) attempt.merchantId db.merchants) →
      AttemptDeed deps input db attempt db (.failing .merchantWriteFailed)
  | failed : attempt.point = .failing refusal →
      db' = db ∨ db' = { db with
        toIntakeDb := setTenantStatus db.toIntakeDb attempt.merchantId .failed input.now } →
      AttemptDeed deps input db attempt db' (.refused refusal)
  | activated : attempt.point = .activating name reached →
      AttemptDeed deps input db attempt
        { db with
          toIntakeDb := setTenantStatus db.toIntakeDb attempt.merchantId .active input.now }
        (.linking name reached)
  | notActivated : attempt.point = .activating name reached → input.fails = true →
      AttemptDeed deps input db attempt db (.threw fault)
  | linked : attempt.point = .linking name reached →
      AttemptDeed deps input db attempt
        { db with
          toIntakeDb :=
            linkApplication db.toIntakeDb attempt.applicationId attempt.merchantId input.now }
        (.provisioned
          { merchantId := attempt.merchantId, databaseName := name, schemaVersion := reached })
  | notLinked : attempt.point = .linking name reached →
      AttemptDeed deps input db attempt db (.threw fault)

/-- A port that throws has a reason to, and changes nothing. -/
theorem callPort_cases (input : PortInput) (work : IntakeDb → Except Fault IntakeDb)
    (db : ProvisionDb) :
    (∃ next, input.fails = false ∧ work db.toIntakeDb = .ok next ∧
      callPort input work db = ({ db with toIntakeDb := next }, .ok ())) ∨
    ∃ fault, (input.fails = false → ∃ fault, work db.toIntakeDb = .error fault) ∧
      callPort input work db = (db, .error fault) := by
  by_cases works : input.fails = false
  · cases done : work db.toIntakeDb with
    | ok next =>
      refine .inl ⟨next, works, rfl, ?_⟩
      simp [callPort, commit, works, demand, done, bind, Except.bind, pure, Except.pure]
    | error fault =>
      refine .inr ⟨fault, fun _ => ⟨fault, rfl⟩, ?_⟩
      simp [callPort, commit, works, demand, done, bind, Except.bind]
  · refine .inr ⟨.busy, fun holds => absurd holds works, ?_⟩
    simp [callPort, commit, works, demand, bind, Except.bind]

theorem claimRegistryRow_error
    (failed : claimRegistryRow db merchantId name version now = .error fault) :
    Present (·.merchantId) merchantId db.tenantRegistry ∨
    Present (·.databaseName) name db.tenantRegistry := by
  by_cases there : Present (·.merchantId) merchantId db.tenantRegistry
  · exact .inl there
  · by_cases named : Present (·.databaseName) name db.tenantRegistry
    · exact .inr named
    · simp [claimRegistryRow, demand, there, named, bind, Except.bind, pure, Except.pure] at failed

theorem writeMerchantRecord_error (failed : writeMerchantRecord db merchantId = .error fault) :
    Present (·.id) merchantId db.merchants := by
  by_cases there : Present (·.id) merchantId db.merchants
  · exact there
  · simp [writeMerchantRecord, demand, there, bind, Except.bind, pure, Except.pure] at failed

theorem claimRegistryRow_added {db db' : IntakeDb}
    (claimed : claimRegistryRow db merchantId name version now = .ok db') :
    ¬ Present (·.merchantId) merchantId db.tenantRegistry ∧
    db' = { db with tenantRegistry := db.tenantRegistry ++
      [{ merchantId, databaseName := name, schemaVersion := version, status := .provisioning,
         createdAt := now, updatedAt := now }] } := by
  simp only [claimRegistryRow, bind_ok, demand_ok, pure_ok] at claimed
  obtain ⟨_, fresh, _, _, rfl⟩ := claimed
  exact ⟨fresh, rfl⟩

theorem step_same (deps : ProvisionDeps) (input : PortInput) (db : ProvisionDb)
    (attempt : ProvisionAttempt) :
    (attempt.step deps input db).2 = attempt.at (attempt.step deps input db).2.point := by
  simp only [ProvisionAttempt.step]
  repeat' split
  all_goals rfl

theorem step_deed (deps : ProvisionDeps) (input : PortInput) (db : ProvisionDb)
    (attempt : ProvisionAttempt) :
    AttemptDeed deps input db attempt (attempt.step deps input db).1
      (attempt.step deps input db).2.point := by
  cases point : attempt.point with
  | begin =>
    simp only [ProvisionAttempt.step, point]
    split
    · rename_i not
      exact .notStarted point (.inl not) (by decide)
    · rename_i may
      split
      · rename_i unnamed
        exact .notStarted point (.inr unnamed) (by decide)
      · rename_i name named
        rcases callPort_cases input (claimRegistryRow · attempt.merchantId name deps.schemaVersion
          input.now) db with ⟨next, works, done, same⟩ | ⟨fault, why, same⟩
        · obtain ⟨fresh, rfl⟩ := claimRegistryRow_added done
          rw [same]
          exact .claimed point (by simpa using may) named works fresh
        · rw [same]
          refine .turnedAway point (by simpa using may) named fun works absent => ?_
          obtain ⟨_, failed⟩ := why works
          exact (claimRegistryRow_error failed).resolve_left absent
  | database name =>
    simp only [ProvisionAttempt.step, point]
    cases reached : input.reached with
    | ok version => exact .created point reached
    | error _ => exact .notCreated point reached
  | merchant name reached =>
    simp only [ProvisionAttempt.step, point]
    rcases callPort_cases input (writeMerchantRecord · attempt.merchantId) db with
      ⟨next, works, done, same⟩ | ⟨fault, why, same⟩
    · obtain ⟨fresh, rfl⟩ := writeMerchantRecord_ok done
      rw [same]
      exact .recorded point fresh
    · rw [same]
      refine .notRecorded point fun works => ?_
      obtain ⟨_, failed⟩ := why works
      exact writeMerchantRecord_error failed
  | failing refusal =>
    simp only [ProvisionAttempt.step, point]
    rcases callPort_cases input
        (fun db => .ok (setTenantStatus db attempt.merchantId .failed input.now)) db with
      ⟨next, works, done, same⟩ | ⟨fault, _, same⟩
    · cases done
      rw [same]
      exact .failed point (.inr rfl)
    · rw [same]
      exact .failed point (.inl rfl)
  | activating name reached =>
    simp only [ProvisionAttempt.step, point]
    rcases callPort_cases input
        (fun db => .ok (setTenantStatus db attempt.merchantId .active input.now)) db with
      ⟨next, works, done, same⟩ | ⟨fault, why, same⟩
    · cases done
      rw [same]
      exact .activated point
    · rw [same]
      refine .notActivated point (Bool.eq_false_or_eq_true _ |>.resolve_right fun works => ?_)
      obtain ⟨_, failed⟩ := why works
      cases failed
  | linking name reached =>
    simp only [ProvisionAttempt.step, point]
    rcases callPort_cases input
        (fun db => .ok (linkApplication db attempt.applicationId attempt.merchantId input.now))
        db with ⟨next, works, done, same⟩ | ⟨fault, _, same⟩
    · cases done
      rw [same]
      exact .linked point
    · rw [same]
      exact .notLinked point
  | provisioned result | refused refusal | threw fault =>
    simp only [ProvisionAttempt.step, point]
    rw [← point]
    exact .ended (by simp [ProvisionAttempt.finished, point])

/-- What an attempt under way has brought about: its row says so, the database is there once it was
created, and the merchant once it was written, not before. -/
structure Midway (merchantId : MerchantId) (db : ProvisionDb) (databaseName : String) :
    Prop where
  rows : ∀ row ∈ db.tenantRegistry, row.merchantId = merchantId →
    row.status = .provisioning ∧ row.databaseName = databaseName
  claimed : Present (·.merchantId) merchantId db.tenantRegistry

def Knows (deps : ProvisionDeps) (merchantId : MerchantId) (db : ProvisionDb)
    (attempt : ProvisionAttempt) : Prop :=
  match attempt.point with
  | .database databaseName =>
    Midway merchantId db databaseName ∧ ¬ Present (·.id) merchantId db.merchants
  | .merchant databaseName _ =>
    Midway merchantId db databaseName ∧ ¬ Present (·.id) merchantId db.merchants ∧
    (databaseName, deps.schemaVersion) ∈ db.tenantDatabases
  | .activating databaseName _ =>
    Midway merchantId db databaseName ∧ Present (·.id) merchantId db.merchants ∧
    (databaseName, deps.schemaVersion) ∈ db.tenantDatabases
  | _ => False

/-- Where an attempt over the console's ports is when the console's provisioning is at a point. It
has created the shop's database as soon as it has claimed the row. -/
def Follows (call : ProvisionMerchant) (attempt : ProvisionAttempt) : Prop :=
  call.applicationId = attempt.applicationId ∧ call.status = attempt.status ∧
  match call.point with
  | .begin => attempt.point = .begin
  | .merchant => ∃ databaseName reached, attempt.point = .merchant databaseName reached
  | .failing refusal => attempt.point = .failing refusal
  | .activating => ∃ databaseName reached, attempt.point = .activating databaseName reached
  | .linking => ∃ databaseName reached, attempt.point = .linking databaseName reached
  | .provisioned => ∃ result, attempt.point = .provisioned result
  | .refused refusal => attempt.point = .refused refusal
  | .threw fault => attempt.point = .threw fault

theorem callPort_console (deps : IntakeDeps) (input : IntakeInput)
    (work : IntakeDb → Except Fault IntakeDb) (db : ProvisionDb) :
    callPort (consolePort deps input) work db =
      ({ db with toIntakeDb := (statement input work db.toIntakeDb).1 },
        (statement input work db.toIntakeDb).2) := by
  by_cases free : input.busy = false
  · cases done : work db.toIntakeDb <;>
      simp [callPort, statement, commit, consolePort, free, demand, done, bind, Except.bind, pure,
        Except.pure]
  · simp [callPort, statement, commit, consolePort, free, demand, bind, Except.bind]

/-- The console's provisioning is that of any ports, over the console's own. -/
theorem console_follows (deps : IntakeDeps) (input : IntakeInput) (db : ProvisionDb)
    {call : ProvisionMerchant} {attempt : ProvisionAttempt} (follows : Follows call attempt) :
    ∃ count, ∃ databases attempt',
      attempt.run (consolePorts deps) (List.replicate count (consolePort deps input)) db =
        (⟨(call.step deps input db.toIntakeDb).1, databases⟩, attempt') ∧
      Follows (call.step deps input db.toIntakeDb).2 attempt' := by
  obtain ⟨applicationId, status, point⟩ := call
  obtain ⟨_, _, point'⟩ := attempt
  obtain ⟨rfl, rfl, at_point⟩ := follows
  have ports := callPort_console deps input
  -- One call of a port for one statement, and one more for the database after a claim.
  cases point with
  | begin =>
    cases at_point
    simp only [ProvisionMerchant.step]
    split
    · rename_i not
      refine ⟨1, db.tenantDatabases, ⟨applicationId, status, .refused .notApproved⟩, ?_,
        rfl, rfl, rfl⟩
      simp only [List.replicate, ProvisionAttempt.run, ProvisionAttempt.step, not, if_true]
      rfl
    · rename_i may
      split
      · rename_i unnamed
        refine ⟨1, db.tenantDatabases, ⟨applicationId, status, .refused .unsafeName⟩, ?_,
          rfl, rfl, rfl⟩
        simp only [List.replicate, ProvisionAttempt.run, ProvisionAttempt.step, may, if_false,
          ProvisionAttempt.merchantId, consolePorts, unnamed]
        rfl
      · rename_i name named
        have claims := ports (claimRegistryRow · (merchantIdFor applicationId) name
          deps.schemaVersion (input.now 0)) db
        generalize statement input _ db.toIntakeDb = claimed at claims ⊢
        obtain ⟨next, _ | _⟩ := claimed
        · refine ⟨1, db.tenantDatabases, ⟨applicationId, status, .refused .alreadyProvisioned⟩, ?_,
            rfl, rfl, rfl⟩
          simp only [List.replicate, ProvisionAttempt.run, ProvisionAttempt.step, may, if_false,
            ProvisionAttempt.merchantId, consolePorts, named] at claims ⊢
          simp only [consolePort] at claims ⊢
          simp only [claims]
          rfl
        · refine ⟨2, db.tenantDatabases ++ [(name, deps.schemaVersion)],
            ⟨applicationId, status, .merchant name deps.schemaVersion⟩, ?_, rfl, rfl, _, _, rfl⟩
          simp only [List.replicate, ProvisionAttempt.run, ProvisionAttempt.step, may, if_false,
            ProvisionAttempt.merchantId, consolePorts, named] at claims ⊢
          simp only [consolePort] at claims ⊢
          simp only [claims]
          rfl
  | merchant =>
    obtain ⟨name, reached, at_point⟩ := at_point
    cases at_point
    have writes := ports (writeMerchantRecord · (merchantIdFor applicationId)) db
    simp only [ProvisionMerchant.step]
    generalize statement input _ db.toIntakeDb = written at writes ⊢
    obtain ⟨next, _ | _⟩ := written
    · refine ⟨1, db.tenantDatabases, ⟨applicationId, status, .failing .merchantWriteFailed⟩, ?_,
        rfl, rfl, rfl⟩
      simp only [List.replicate, ProvisionAttempt.run, ProvisionAttempt.step,
        ProvisionAttempt.merchantId, writes]
      rfl
    · refine ⟨1, db.tenantDatabases, ⟨applicationId, status, .activating name reached⟩, ?_,
        rfl, rfl, _, _, rfl⟩
      simp only [List.replicate, ProvisionAttempt.run, ProvisionAttempt.step,
        ProvisionAttempt.merchantId, writes]
      rfl
  | failing refusal =>
    cases at_point
    have marks := ports
      (fun db => .ok (setTenantStatus db (merchantIdFor applicationId) .failed (input.now 0))) db
    refine ⟨1, db.tenantDatabases, ⟨applicationId, status, .refused refusal⟩, ?_, rfl, rfl, rfl⟩
    simp only [List.replicate, ProvisionAttempt.run, ProvisionAttempt.step, ProvisionMerchant.step,
      ProvisionAttempt.merchantId]
    simp only [consolePort] at marks ⊢
    simp only [marks]
    rfl
  | activating =>
    obtain ⟨name, reached, at_point⟩ := at_point
    cases at_point
    have marks := ports
      (fun db => .ok (setTenantStatus db (merchantIdFor applicationId) .active (input.now 0))) db
    simp only [ProvisionMerchant.step]
    generalize statement input _ db.toIntakeDb = marked at marks ⊢
    obtain ⟨next, fault | _⟩ := marked
    · refine ⟨1, db.tenantDatabases, ⟨applicationId, status, .threw fault⟩, ?_, rfl, rfl, rfl⟩
      simp only [List.replicate, ProvisionAttempt.run, ProvisionAttempt.step,
        ProvisionAttempt.merchantId]
      simp only [consolePort] at marks ⊢
      simp only [marks]
      rfl
    · refine ⟨1, db.tenantDatabases, ⟨applicationId, status, .linking name reached⟩, ?_,
        rfl, rfl, _, _, rfl⟩
      simp only [List.replicate, ProvisionAttempt.run, ProvisionAttempt.step,
        ProvisionAttempt.merchantId]
      simp only [consolePort] at marks ⊢
      simp only [marks]
      rfl
  | linking =>
    obtain ⟨name, reached, at_point⟩ := at_point
    cases at_point
    have links := ports (fun db => .ok (linkApplication db applicationId
      (merchantIdFor applicationId) (input.now 0))) db
    simp only [ProvisionMerchant.step]
    generalize statement input _ db.toIntakeDb = linked at links ⊢
    obtain ⟨next, fault | _⟩ := linked
    · refine ⟨1, db.tenantDatabases, ⟨applicationId, status, .threw fault⟩, ?_, rfl, rfl, rfl⟩
      simp only [List.replicate, ProvisionAttempt.run, ProvisionAttempt.step,
        ProvisionAttempt.merchantId]
      simp only [consolePort] at links ⊢
      simp only [links]
      rfl
    · refine ⟨1, db.tenantDatabases, ⟨applicationId, status, .provisioned
        ⟨merchantIdFor applicationId, name, reached⟩⟩, ?_, rfl, rfl, _, rfl⟩
      simp only [List.replicate, ProvisionAttempt.run, ProvisionAttempt.step,
        ProvisionAttempt.merchantId]
      simp only [consolePort] at links ⊢
      simp only [links]
      rfl
  | provisioned | refused refusal | threw fault =>
    exact ⟨0, db.tenantDatabases, _, rfl, rfl, rfl, at_point⟩

/-- What other attempts leave alone of a shop. -/
structure SameShop (merchantId : MerchantId) (db db' : ProvisionDb) : Prop where
  rows : ∀ row, row.merchantId = merchantId →
    (row ∈ db'.tenantRegistry ↔ row ∈ db.tenantRegistry)
  shop : Present (·.id) merchantId db'.merchants ↔ Present (·.id) merchantId db.merchants
  databases : ∀ database ∈ db.tenantDatabases, database ∈ db'.tenantDatabases

theorem SameShop.refl (merchantId : MerchantId) (db : ProvisionDb) : SameShop merchantId db db :=
  ⟨fun _ _ => Iff.rfl, Iff.rfl, fun _ mem => mem⟩

theorem SameShop.claimed (same : SameShop merchantId db db') :
    Present (·.merchantId) merchantId db'.tenantRegistry ↔
      Present (·.merchantId) merchantId db.tenantRegistry := by
  constructor
  · rintro ⟨row, mem, own⟩
    exact ⟨row, (same.rows row own).mp mem, own⟩
  · rintro ⟨row, mem, own⟩
    exact ⟨row, (same.rows row own).mpr mem, own⟩

theorem SameShop.ready {row : TenantRow} (same : SameShop merchantId db db')
    (own : row.merchantId = merchantId) (ready : Ready deps db row) : Ready deps db' row := by
  refine ⟨same.databases _ ready.created, ?_⟩
  rw [own]
  exact same.shop.mpr (own ▸ ready.recorded)

theorem SameShop.whole (same : SameShop merchantId db db') (whole : Whole deps merchantId db) :
    Whole deps merchantId db' := by
  refine ⟨fun row mem own => ?_, fun present => ?_⟩
  · have ⟨active, ready⟩ := whole.rows row ((same.rows row own).mp mem) own
    exact ⟨active, same.ready own ready⟩
  · exact same.claimed.mpr (whole.shop (same.shop.mp present))

theorem SameShop.provisioned (same : SameShop merchantId db db')
    (there : Provisioned deps merchantId db) : Provisioned deps merchantId db' := by
  obtain ⟨row, mem, own, active, ready⟩ := there
  exact ⟨row, (same.rows row own).mpr mem, own, active, same.ready own ready⟩

theorem SameShop.midway (same : SameShop merchantId db db') (midway : Midway merchantId db name) :
    Midway merchantId db' name :=
  ⟨fun row mem own => midway.rows row ((same.rows row own).mp mem) own,
    same.claimed.mpr midway.claimed⟩

theorem SameShop.knows {attempt : ProvisionAttempt} (same : SameShop merchantId db db')
    (knows : Knows deps merchantId db attempt) : Knows deps merchantId db' attempt := by
  unfold Knows at knows ⊢
  split at knows
  · exact ⟨same.midway knows.1, fun present => knows.2 (same.shop.mp present)⟩
  · exact ⟨same.midway knows.1, fun present => knows.2.1 (same.shop.mp present),
      same.databases _ knows.2.2⟩
  · exact ⟨same.midway knows.1, same.shop.mpr knows.2.1, same.databases _ knows.2.2⟩
  · exact knows

/-- Only the rows of the shop whose status is set change. -/
theorem sameShop_status (db : ProvisionDb) (status : TenantStatus) (now : Timestamp)
    (apart : other ≠ merchantId) :
    SameShop merchantId db
      { db with toIntakeDb := setTenantStatus db.toIntakeDb other status now } := by
  refine ⟨fun row own => ?_, Iff.rfl, fun _ mem => mem⟩
  constructor
  · intro mem
    obtain ⟨old, stored, rfl⟩ := mem_update.mp mem
    by_cases hit : old.merchantId = other
    · simp only [hit, decide_true, if_true] at own
      exact absurd own apart
    · simp only [hit, decide_false]
      exact stored
  · intro mem
    have hit : row.merchantId ≠ other := fun same => apart (same.symm.trans own)
    have kept := update_mem (fun row => row.merchantId = other)
      (fun row : TenantRow => { row with status, updatedAt := now }) mem
    simp only [hit, decide_false] at kept
    exact kept

/-- An attempt at another shop leaves this one alone. -/
theorem AttemptDeed.elsewhere (deed : AttemptDeed deps input db attempt db' point)
    (apart : attempt.merchantId ≠ merchantId) : SameShop merchantId db db' := by
  cases deed with
  | claimed _ _ _ _ _ =>
    refine ⟨fun row own => ?_, Iff.rfl, fun _ mem => mem⟩
    simp only [List.mem_append, List.mem_singleton, or_iff_left_iff_imp]
    rintro rfl
    exact absurd own apart
  | created _ _ =>
    exact ⟨fun _ _ => Iff.rfl, Iff.rfl, fun _ mem => List.mem_append_left _ mem⟩
  | recorded _ _ =>
    refine ⟨fun _ _ => Iff.rfl, ⟨?_, ?_⟩, fun _ mem => mem⟩
    · rintro ⟨row, mem, own⟩
      rcases List.mem_append.mp mem with mem | mem
      · exact ⟨row, mem, own⟩
      · cases List.mem_singleton.mp mem
        exact absurd own apart
    · rintro ⟨row, mem, own⟩
      exact ⟨row, List.mem_append_left _ mem, own⟩
  | failed _ did =>
    rcases did with rfl | rfl
    · exact .refl merchantId _
    · exact sameShop_status _ _ _ apart
  | activated _ => exact sameShop_status _ _ _ apart
  | linked _ => exact ⟨fun _ _ => Iff.rfl, Iff.rfl, fun _ mem => mem⟩
  | _ => exact .refl merchantId _

theorem underway_none {attempt : ProvisionAttempt} (apart : attempt.merchantId ≠ merchantId) :
    underway merchantId attempt = none := by
  unfold underway
  rw [if_neg apart]

theorem Knows.underway {attempt : ProvisionAttempt} (own : attempt.merchantId = merchantId)
    (knows : Knows deps merchantId db attempt) : underway merchantId attempt = some () := by
  unfold Knows at knows
  unfold Provisioning.underway
  rw [if_pos own]
  split at knows
  · rename_i point
    rw [point]
  · rename_i point
    rw [point]
  · rename_i point
    rw [point]
  · cases knows

/-- An attempt under way has its shop's row, which is not active yet. -/
theorem Knows.midway {attempt : ProvisionAttempt} (knows : Knows deps merchantId db attempt) :
    ∃ name, Midway merchantId db name := by
  unfold Knows at knows
  split at knows
  · exact ⟨_, knows.1⟩
  · exact ⟨_, knows.1⟩
  · exact ⟨_, knows.1⟩
  · cases knows

theorem Knows.inactive {attempt : ProvisionAttempt} (knows : Knows deps merchantId db attempt)
    {row : TenantRow} (mem : row ∈ db.tenantRegistry) (own : row.merchantId = merchantId) :
    row.status ≠ .active := by
  obtain ⟨_, midway⟩ := knows.midway
  rw [(midway.rows row mem own).1]
  decide

/-- An attempt at the shop that is not under way leaves the shop alone, or claims its row. -/
theorem AttemptDeed.beside {attempt : ProvisionAttempt}
    (deed : AttemptDeed deps input db attempt db' point) (own : attempt.merchantId = merchantId)
    (idle : underway merchantId attempt = none) :
    (SameShop merchantId db db' ∧ underway merchantId (attempt.at point) = none) ∨
    (claiming deps merchantId input attempt = some input ∧
      ¬ Present (·.merchantId) merchantId db.tenantRegistry ∧
      (Whole deps merchantId db → Knows deps merchantId db' (attempt.at point))) := by
  cases deed with
  | ended _ => exact .inl ⟨.refl _ _, idle⟩
  | notStarted _ _ _ =>
    exact .inl ⟨.refl _ _, by unfold Provisioning.underway; split <;> rfl⟩
  | claimed start may named works fresh =>
    subst own
    refine .inr ⟨by simp [claiming, start, may, named], fresh, fun whole => ?_⟩
    refine ⟨⟨fun row mem own => ?_, _, List.mem_append_right _ (List.mem_singleton_self _), rfl⟩,
      fun present => fresh (whole.shop present)⟩
    rcases List.mem_append.mp mem with mem | mem
    · exact absurd ⟨row, mem, own⟩ fresh
    · cases List.mem_singleton.mp mem
      exact ⟨rfl, rfl⟩
  | turnedAway _ _ _ _ =>
    exact .inl ⟨.refl _ _, by unfold Provisioning.underway; split <;> rfl⟩
  | linked _ =>
    exact .inl ⟨⟨fun _ _ => Iff.rfl, Iff.rfl, fun _ mem => mem⟩,
      by unfold Provisioning.underway; split <;> rfl⟩
  | notLinked _ =>
    exact .inl ⟨.refl _ _, by unfold Provisioning.underway; split <;> rfl⟩
  | created here _ | notCreated here _ | recorded here _ | notRecorded here _ | failed here _
  | activated here | notActivated here _ =>
    simp only [Provisioning.underway, own, here, if_true, reduceCtorEq] at idle

/-- An attempt under way whose ports work goes on, or has made the shop whole. -/
theorem AttemptDeed.ahead {attempt : ProvisionAttempt}
    (deed : AttemptDeed deps input db attempt db' point) (own : attempt.merchantId = merchantId)
    (knows : Knows deps merchantId db attempt)
    (creates : ∀ input' ∈ creating merchantId input attempt, input'.reached = .ok deps.schemaVersion)
    (finishes : ∀ input' ∈ finishing merchantId input attempt, input'.fails = false) :
    Knows deps merchantId db' (attempt.at point) ∨
    (Whole deps merchantId db' ∧ underway merchantId (attempt.at point) = none ∧
      point ≠ .refused .alreadyProvisioned) := by
  cases deed with
  | created here reached =>
    simp only [Knows, here] at knows
    simp only [creating, here, own, if_true, Option.mem_def, Option.some.injEq, forall_eq',
      reached, Except.ok.injEq] at creates
    subst creates
    exact .inl ⟨⟨knows.1.rows, knows.1.claimed⟩, knows.2,
      List.mem_append_right _ (List.mem_singleton_self _)⟩
  | notCreated here reached =>
    simp only [creating, here, own, if_true, Option.mem_def, Option.some.injEq, forall_eq',
      reached, reduceCtorEq] at creates
  | recorded here fresh =>
    simp only [Knows, here] at knows
    exact .inl ⟨⟨knows.1.rows, knows.1.claimed⟩,
      ⟨_, List.mem_append_right _ (List.mem_singleton_self _), own⟩, knows.2.2⟩
  | notRecorded here why =>
    simp only [Knows, here] at knows
    simp only [finishing, here, own, if_true, Option.mem_def, Option.some.injEq,
      forall_eq'] at finishes
    exact absurd (own ▸ why finishes) knows.2.1
  | activated here =>
    simp only [Knows, here] at knows
    obtain ⟨midway, recorded, created⟩ := knows
    refine .inr ⟨⟨fun row mem at_shop => ?_, fun _ => ?_⟩, ?_, by simp⟩
    · obtain ⟨old, stored, rfl⟩ := mem_update.mp mem
      by_cases hit : old.merchantId = attempt.merchantId
      · have named := (midway.rows old stored (hit.trans own)).2
        simp only [hit, decide_true, if_true, true_and]
        refine ⟨?_, ?_⟩
        · simp only [named]
          exact created
        · simp only [own]
          exact recorded
      · simp only [hit, decide_false] at at_shop
        exact absurd (at_shop.trans own.symm) hit
    · obtain ⟨old, stored, at_shop⟩ := midway.claimed
      refine ⟨_, update_mem _ _ stored, ?_⟩
      split <;> exact at_shop
    · unfold Provisioning.underway
      split <;> rfl
  | notActivated here fails =>
    simp only [finishing, here, own, if_true, Option.mem_def, Option.some.injEq, forall_eq',
      fails, Bool.true_eq_false] at finishes
  | ended done =>
    unfold ProvisionAttempt.finished at done
    unfold Knows at knows
    split at knows <;> simp_all
  | notStarted here _ _ | claimed here _ _ _ _ | turnedAway here _ _ _ | failed here _
  | linked here | notLinked here =>
    simp only [Knows, here] at knows

/-- Either nobody is under way at the shop and it is there as a whole or not at all, or one attempt is
and knows how far it got. -/
def Attended (deps : ProvisionDeps) (merchantId : MerchantId) (w : ProvisionWorld) : Prop :=
  ((∀ slot attempt, w.proc slot = some attempt → underway merchantId attempt = none) ∧
    Whole deps merchantId w.store) ∨
  ∃ busy attempt, w.proc busy = some attempt ∧ attempt.merchantId = merchantId ∧
    Knows deps merchantId w.store attempt ∧
    ∀ slot other, w.proc slot = some other → slot ≠ busy → underway merchantId other = none

theorem shown_none {w : ProvisionWorld} (quiet : w.shown (underway merchantId) = [])
    (here : w.proc slot = some attempt) : underway merchantId attempt = none := by
  have shown := List.filterMap_eq_nil_iff.mp quiet _ (World.proc_mem here)
  exact shown

/-- Nobody else is under way once the attempt that took a step is not. -/
theorem quiet_act {w : ProvisionWorld} {attempt attempt' : ProvisionAttempt}
    (here : w.proc slot = some attempt) (store : ProvisionDb)
    (others : ∀ other q, w.proc other = some q → other ≠ slot → underway merchantId q = none)
    (own : underway merchantId attempt' = none) (other : Nat) (q : ProvisionAttempt)
    (there : World.proc ⟨store, w.procs.set slot (some attempt')⟩ other = some q) :
    underway merchantId q = none := by
  rw [World.proc_act here] at there
  split at there
  · cases there
    exact own
  · rename_i apart
    exact others other q there apart

theorem attended_act {w : ProvisionWorld} {attempt : ProvisionAttempt}
    (attended : Attended deps merchantId w) (here : w.proc slot = some attempt)
    (smooth : Smooth deps merchantId ⟨w, .act slot input, w'⟩) :
    Attended deps merchantId ⟨(attempt.step deps input w.store).1,
      w.procs.set slot (some (attempt.step deps input w.store).2)⟩ := by
  have deed := step_deed deps input w.store attempt
  rw [step_same deps input w.store attempt]
  generalize (attempt.step deps input w.store).1 = db' at deed ⊢
  generalize (attempt.step deps input w.store).2.point = point at deed ⊢
  have claims := smooth.claims
  have creates := smooth.creates
  have finishes := smooth.finishes
  simp only [ofActor_act here] at claims creates finishes
  by_cases own : attempt.merchantId = merchantId
  · rcases attended with ⟨quiet, whole⟩ | ⟨busy, midway, there, at_shop, knows, others⟩
    · rcases deed.beside own (quiet slot attempt here) with ⟨same, idle⟩ | ⟨_, _, claimed⟩
      · exact .inl ⟨quiet_act here db' (fun other q there _ => quiet other q there) idle,
          same.whole whole⟩
      · refine .inr ⟨slot, attempt.at point, ?_, own, claimed whole, ?_⟩
        · rw [World.proc_act here, if_pos rfl]
        · intro other q there apart
          rw [World.proc_act here, if_neg apart] at there
          exact quiet other q there
    · by_cases same_slot : slot = busy
      · subst same_slot
        rw [here] at there
        cases there
        rcases deed.ahead own knows creates finishes with knows | ⟨whole, idle, _⟩
        · refine .inr ⟨slot, attempt.at point, ?_, own, knows, ?_⟩
          · rw [World.proc_act here, if_pos rfl]
          · intro other q there apart
            rw [World.proc_act here, if_neg apart] at there
            exact others other q there apart
        · exact .inl ⟨quiet_act here db' others idle, whole⟩
      · rcases deed.beside own (others slot attempt here same_slot) with
          ⟨same, idle⟩ | ⟨_, fresh, _⟩
        · refine .inr ⟨busy, midway, ?_, at_shop, same.knows knows, ?_⟩
          · rw [World.proc_act here, if_neg fun hit => same_slot hit.symm]
            exact there
          · intro other q there apart
            rw [World.proc_act here] at there
            split at there
            · cases there
              exact idle
            · exact others other q there apart
        · obtain ⟨_, midway⟩ := knows.midway
          exact absurd midway.claimed fresh
  · have same := deed.elsewhere own
    have idle : underway merchantId (attempt.at point) = none := underway_none own
    rcases attended with ⟨quiet, whole⟩ | ⟨busy, midway, there, at_shop, knows, others⟩
    · exact .inl ⟨quiet_act here db' (fun other q there _ => quiet other q there) idle,
        same.whole whole⟩
    · have apart : busy ≠ slot := by
        rintro rfl
        rw [here] at there
        cases there
        exact own at_shop
      refine .inr ⟨busy, midway, ?_, at_shop, same.knows knows, ?_⟩
      · rw [World.proc_act here, if_neg apart]
        exact there
      · intro other q there apart
        rw [World.proc_act here] at there
        split at there
        · cases there
          exact idle
        · exact others other q there apart

/-- In a run without mishaps at the shop, whoever is under way there knows how far it got. -/
theorem run_attended (run : ProvisionRun deps merchantId past w)
    (fair : ∀ taken ∈ past, Smooth deps merchantId taken) : Attended deps merchantId w := by
  induction run with
  | start start =>
    refine .inl ⟨fun slot attempt here => ?_, start.2⟩
    have mem := World.proc_mem here
    rw [start.1] at mem
    cases mem
  | @step past w event w' run step ih =>
    have attended := ih fun taken mem => fair taken (List.mem_cons_of_mem _ mem)
    have smooth := fair _ (List.mem_cons_self ..)
    cases step with
    | @start attempt _ starting =>
      have starting : attempt.point = .begin := starting
      have idle : underway merchantId attempt = none := by
        unfold underway
        rw [starting]
        split <;> rfl
      rcases attended with ⟨quiet, whole⟩ | ⟨busy, midway, there, at_shop, knows, others⟩
      · refine .inl ⟨fun slot other here => ?_, whole⟩
        rw [World.proc_start] at here
        split at here
        · cases here
          exact idle
        · exact quiet slot other here
      · refine .inr ⟨busy, midway, ?_, at_shop, knows, fun slot other here apart => ?_⟩
        · rw [World.proc_start, if_neg (Nat.ne_of_lt (World.proc_lt there))]
          exact there
        · rw [World.proc_start] at here
          split at here
          · cases here
            exact idle
          · exact others slot other here apart
    | @crash _ slot =>
      have lives := smooth.lives
      simp only [dying] at lives
      rcases attended with ⟨quiet, whole⟩ | ⟨busy, midway, there, at_shop, knows, others⟩
      · refine .inl ⟨fun other q here => ?_, whole⟩
        rw [World.proc_crash] at here
        split at here
        · cases here
        · exact quiet other q here
      · have apart : busy ≠ slot := by
          rintro rfl
          rw [there, Option.bind_some, knows.underway at_shop] at lives
          cases lives
        refine .inr ⟨busy, midway, ?_, at_shop, knows, fun other q here distinct => ?_⟩
        · rw [World.proc_crash, if_neg apart]
          exact there
        · rw [World.proc_crash] at here
          split at here
          · cases here
          · exact others other q here distinct
    | @act attempt input store' attempt' _ slot here _ moved =>
      have moved : attempt.step deps input w.store = (store', attempt') := moved
      have after := attended_act attended here smooth
      rw [moved] at after
      exact after

/-- A shop that is there stays there. -/
theorem provisioned_stays {w : ProvisionWorld} {attempt : ProvisionAttempt}
    (attended : Attended deps merchantId w) (here : w.proc slot = some attempt)
    (there : Provisioned deps merchantId w.store) :
    Provisioned deps merchantId (attempt.step deps input w.store).1 := by
  have deed := step_deed deps input w.store attempt
  by_cases own : attempt.merchantId = merchantId
  · have idle : underway merchantId attempt = none := by
      rcases attended with ⟨quiet, _⟩ | ⟨busy, midway, _, _, knows, _⟩
      · exact quiet slot attempt here
      · obtain ⟨row, mem, at_shop, active, _⟩ := there
        exact absurd active (knows.inactive mem at_shop)
    rcases deed.beside own idle with ⟨same, _⟩ | ⟨_, fresh, _⟩
    · exact same.provisioned there
    · obtain ⟨row, mem, at_shop, _⟩ := there
      exact absurd ⟨row, mem, at_shop⟩ fresh
  · exact (deed.elsewhere own).provisioned there

/-- An attempt at the shop that is turned away found the shop there. -/
theorem turned_away {w : ProvisionWorld} {attempt : ProvisionAttempt}
    (attended : Attended deps merchantId w) (here : w.proc slot = some attempt)
    (own : attempt.merchantId = merchantId)
    (smooth : Smooth deps merchantId ⟨w, .act slot input, w'⟩)
    (begins : attempt.point ≠ .refused .alreadyProvisioned)
    (turned : (attempt.step deps input w.store).2.point = .refused .alreadyProvisioned) :
    Provisioned deps merchantId w.store := by
  have deed := step_deed deps input w.store attempt
  have claims := smooth.claims
  simp only [ofActor_act here] at claims
  generalize (attempt.step deps input w.store).1 = db' at deed
  rw [turned] at deed
  generalize refused : AttemptPoint.refused .alreadyProvisioned = point at deed
  cases deed with
  | ended _ => exact absurd refused.symm begins
  | notStarted _ _ other =>
    cases refused
    exact absurd rfl other
  | failed failing _ =>
    have under : underway merchantId attempt = some () := by
      unfold underway
      rw [if_pos own, failing]
    rcases attended with ⟨quiet, _⟩ | ⟨busy, midway, there, _, knows, others⟩
    · rw [quiet slot attempt here] at under
      cases under
    · by_cases same_slot : slot = busy
      · subst same_slot
        rw [here] at there
        cases there
        simp only [Knows, failing] at knows
      · rw [others slot attempt here same_slot] at under
        cases under
  | turnedAway start may named why =>
    subst own
    have claims := claims input (by simp [claiming, start, may, named])
    split at claims
    · rename_i there
      obtain ⟨row, mem, at_shop⟩ := there
      rcases attended with ⟨_, whole⟩ | ⟨busy, midway, there, at_shop, knows, _⟩
      · have ⟨active, ready⟩ := whole.rows row mem at_shop
        exact ⟨row, mem, at_shop, active, ready⟩
      · have idle := shown_none claims there
        rw [knows.underway at_shop] at idle
        cases idle
    · rename_i absent
      obtain ⟨row, mem, clash⟩ := why claims.1 absent
      have clash : row.databaseName = _ := clash
      exact absurd ⟨row, mem, claims.2 row mem (by rw [clash, named])⟩ absent
  | _ => cases refused

/-- Whoever was told that the shop is there finds it there from then on. -/
theorem run_answered (run : ProvisionRun deps merchantId past w)
    (fair : ∀ taken ∈ past, Smooth deps merchantId taken) :
    ∀ attempt, some attempt ∈ w.procs → attempt.merchantId = merchantId →
      attempt.point = .refused .alreadyProvisioned → Provisioned deps merchantId w.store := by
  induction run with
  | start start =>
    intro attempt mem
    rw [start.1] at mem
    cases mem
  | @step past w event w' run step ih =>
    have before : ∀ taken ∈ past, Smooth deps merchantId taken :=
      fun taken mem => fair taken (List.mem_cons_of_mem _ mem)
    have attended := run_attended run before
    have smooth := fair _ (List.mem_cons_self ..)
    have answered := ih before
    cases step with
    | @start attempt _ starting =>
      have starting : attempt.point = .begin := starting
      intro other mem own refused
      rcases List.mem_append.mp mem with mem | mem
      · exact answered other mem own refused
      · cases List.mem_singleton.mp mem
        rw [starting] at refused
        cases refused
    | crash =>
      intro other mem own refused
      rcases List.mem_or_eq_of_mem_set mem with mem | mem
      · exact answered other mem own refused
      · cases mem
    | @act attempt input store' attempt' _ slot here _ moved =>
      have moved : attempt.step deps input w.store = (store', attempt') := moved
      have same := step_same deps input w.store attempt
      rw [moved] at same
      rw [show store' = (attempt.step deps input w.store).1 by rw [moved]]
      intro other mem own refused
      rcases List.mem_or_eq_of_mem_set mem with mem | mem
      · exact provisioned_stays attended here (answered other mem own refused)
      · cases mem
        have own : attempt.merchantId = merchantId := by
          have same : attempt' = attempt.at attempt'.point := same
          rw [same] at own
          exact own
        by_cases already : attempt.point = .refused .alreadyProvisioned
        · exact provisioned_stays attended here
            (answered attempt (World.proc_mem here) own already)
        · refine provisioned_stays attended here (turned_away attended here own smooth already ?_)
          rw [moved]
          exact refused

/-- Every step writes a shop's merchant record at most where there is none, and it stays. -/
theorem AttemptDeed.writes (deed : AttemptDeed deps input db attempt db' point)
    (merchantId : MerchantId) :
    (Present (·.id) merchantId db.merchants → Present (·.id) merchantId db'.merchants) ∧
    (db.merchants.countP (fun row => row.id = merchantId) <
        db'.merchants.countP (fun row => row.id = merchantId) →
      ¬ Present (·.id) merchantId db.merchants ∧ Present (·.id) merchantId db'.merchants) := by
  cases deed with
  | recorded _ fresh =>
    refine ⟨fun ⟨row, mem, own⟩ => ⟨row, List.mem_append_left _ mem, own⟩, fun more => ?_⟩
    by_cases own : attempt.merchantId = merchantId
    · subst own
      exact ⟨fresh, _, List.mem_append_right _ (List.mem_singleton_self _), rfl⟩
    · simp [own] at more
  | failed _ did =>
    rcases did with rfl | rfl
    · exact ⟨id, fun more => absurd more (Nat.lt_irrefl _)⟩
    · exact ⟨id, fun more => absurd more (Nat.lt_irrefl _)⟩
  | _ => exact ⟨id, fun more => absurd more (Nat.lt_irrefl _)⟩

/-- In any run the shop's merchant record is written at most once. -/
theorem run_once (run : ProvisionRun deps merchantId past w) :
    past.Pairwise fun later earlier => ¬ (Writes merchantId later ∧ Writes merchantId earlier) := by
  have moves : ∀ (w : ProvisionWorld) event w', ProvisionStep deps w event w' →
      (Present (·.id) merchantId w.store.merchants →
        Present (·.id) merchantId w'.store.merchants) ∧
      (Writes merchantId ⟨w, event, w'⟩ → ¬ Present (·.id) merchantId w.store.merchants ∧
        Present (·.id) merchantId w'.store.merchants) := by
    intro w event w' step
    cases step with
    | start _ | crash => exact ⟨id, fun more => absurd more (Nat.lt_irrefl _)⟩
    | @act attempt input store' attempt' _ slot here _ moved =>
      have moved : attempt.step deps input w.store = (store', attempt') := moved
      have deed := step_deed deps input w.store attempt
      rw [moved] at deed
      exact deed.writes merchantId
  exact @Run.at_most_once _ _ _ _ (fun _ => True)
    (fun w : ProvisionWorld => Present (·.id) merchantId w.store.merchants) (Writes merchantId)
    (fun _ _ => trivial) (fun _ _ _ _ _ => trivial)
    (fun w event w' _ closed step => (moves w event w' step).1 closed)
    (fun w event w' _ step writes => (moves w event w' step).2 writes) _ _ run

theorem callPort_works (work : IntakeDb → Except Fault IntakeDb) (db : ProvisionDb)
    (works : input.fails = false) (done : work db.toIntakeDb = .ok next) :
    callPort input work db = ({ db with toIntakeDb := next }, .ok ()) := by
  rcases callPort_cases input work db with ⟨next', _, done', same⟩ | ⟨_, why, _⟩
  · rw [done] at done'
    cases done'
    exact same
  · obtain ⟨_, failed⟩ := why works
    rw [done] at failed
    cases failed

/-- The registry row an attempt claims. -/
def claimedRow (deps : ProvisionDeps) (merchantId : MerchantId) (name : String) (now : Timestamp) :
    TenantRow :=
  { merchantId, databaseName := name, schemaVersion := deps.schemaVersion, status := .provisioning,
    createdAt := now, updatedAt := now }

theorem begin_works {attempt : ProvisionAttempt} {db : ProvisionDb}
    (begins : attempt.point = .begin) (may : provisionable attempt.status = true)
    (named : databaseNameFor deps.toLowerCase attempt.merchantId = some name)
    (absent : ¬ Present (·.merchantId) attempt.merchantId db.tenantRegistry)
    (free : ¬ Present (·.databaseName) name db.tenantRegistry) (works : input.fails = false) :
    attempt.step deps input db =
      ({ db with
          tenantRegistry := db.tenantRegistry ++
            [claimedRow deps attempt.merchantId name input.now] },
        attempt.at (.database name)) := by
  have claims : claimRegistryRow db.toIntakeDb attempt.merchantId name deps.schemaVersion input.now =
      .ok { db.toIntakeDb with
        tenantRegistry := db.tenantRegistry ++
          [claimedRow deps attempt.merchantId name input.now] } := by
    simp only [claimRegistryRow, demand, absent, free, not_false_eq_true, if_true]
    rfl
  simp only [ProvisionAttempt.step, begins, may, named, Bool.true_eq_false, if_false,
    callPort_works (claimRegistryRow · attempt.merchantId name deps.schemaVersion input.now) db
      works claims]

theorem merchant_works (attempt : ProvisionAttempt) {db : ProvisionDb}
    (fresh : ¬ Present (·.id) attempt.merchantId db.merchants) (works : input.fails = false) :
    (attempt.at (.merchant name reached)).step deps input db =
      ({ db with merchants := db.merchants ++ [⟨attempt.merchantId, .onboarding⟩] },
        attempt.at (.activating name reached)) := by
  have writes : writeMerchantRecord db.toIntakeDb attempt.merchantId =
      .ok { db.toIntakeDb with
        merchants := db.merchants ++ [⟨attempt.merchantId, .onboarding⟩] } := by
    simp only [writeMerchantRecord, demand, fresh, not_false_eq_true, if_true]
    rfl
  have moves := callPort_works (writeMerchantRecord · attempt.merchantId) db works writes
  simp only [ProvisionAttempt.step, ProvisionAttempt.at, ProvisionAttempt.merchantId] at moves ⊢
  simp only [moves]

theorem activating_works (attempt : ProvisionAttempt) (db : ProvisionDb)
    (works : input.fails = false) :
    (attempt.at (.activating name reached)).step deps input db =
      ({ db with
          toIntakeDb := setTenantStatus db.toIntakeDb attempt.merchantId .active input.now },
        attempt.at (.linking name reached)) := by
  have moves := callPort_works
    (fun db => .ok (setTenantStatus db attempt.merchantId .active input.now)) db works rfl
  simp only [ProvisionAttempt.step, ProvisionAttempt.at, ProvisionAttempt.merchantId] at moves ⊢
  simp only [moves]

theorem linking_works (attempt : ProvisionAttempt) (db : ProvisionDb)
    (works : input.fails = false) :
    (attempt.at (.linking name reached)).step deps input db =
      ({ db with
          toIntakeDb :=
            linkApplication db.toIntakeDb attempt.applicationId attempt.merchantId input.now },
        attempt.at (.provisioned
          { merchantId := attempt.merchantId, databaseName := name, schemaVersion := reached })) := by
  have moves := callPort_works
    (fun db => .ok (linkApplication db attempt.applicationId attempt.merchantId input.now))
    db works rfl
  simp only [ProvisionAttempt.step, ProvisionAttempt.at, ProvisionAttempt.merchantId] at moves ⊢
  simp only [moves]

/-- Where nothing of the shop is there, an attempt whose ports all work provisions it. -/
theorem run_succeeds {attempt : ProvisionAttempt} {db : ProvisionDb}
    (begins : attempt.point = .begin) (may : provisionable attempt.status = true)
    (named : databaseNameFor deps.toLowerCase attempt.merchantId = some name)
    (absent : ¬ Present (·.merchantId) attempt.merchantId db.tenantRegistry)
    (free : ¬ Present (·.databaseName) name db.tenantRegistry)
    (fresh : ¬ Present (·.id) attempt.merchantId db.merchants)
    (five : inputs.length = 5) (works : ∀ input ∈ inputs, Works deps input) :
    Provisioned deps attempt.merchantId (attempt.run deps inputs db).1 ∧
    (attempt.run deps inputs db).2.point = .provisioned
      { merchantId := attempt.merchantId, databaseName := name,
        schemaVersion := deps.schemaVersion } := by
  obtain ⟨a, b, c, d, e, rfl⟩ : ∃ a b c d e, inputs = [a, b, c, d, e] := by
    match inputs, five with
    | [a, b, c, d, e], _ => exact ⟨a, b, c, d, e, rfl⟩
  simp only [List.forall_mem_cons] at works
  obtain ⟨worksA, worksB, worksC, worksD, worksE, _⟩ := works
  have creates (db : ProvisionDb) : (attempt.at (.database name)).step deps b db =
      ({ db with tenantDatabases := db.tenantDatabases ++ [(name, deps.schemaVersion)] },
        attempt.at (.merchant name deps.schemaVersion)) := by
    simp only [ProvisionAttempt.step, ProvisionAttempt.at, worksB.2]
  simp only [ProvisionAttempt.run, begin_works begins may named absent free worksA.1, creates]
  rw [merchant_works attempt (by exact fresh) worksC.1]
  simp only [activating_works _ _ worksD.1, linking_works _ _ worksE.1]
  refine ⟨⟨{ claimedRow deps attempt.merchantId name a.now with
    status := .active, updatedAt := d.now }, ?_, rfl, rfl, ?_, ?_⟩, rfl⟩
  · have claimed : claimedRow deps attempt.merchantId name a.now ∈
        db.tenantRegistry ++ [claimedRow deps attempt.merchantId name a.now] :=
      List.mem_append_right _ (List.mem_singleton_self _)
    have marked := update_mem (fun row => row.merchantId = attempt.merchantId)
      (fun row : TenantRow => { row with status := .active, updatedAt := d.now }) claimed
    simp only [claimedRow, decide_true, if_true] at marked
    exact marked
  · exact List.mem_append_right _ (List.mem_singleton_self _)
  · exact ⟨_, List.mem_append_right _ (List.mem_singleton_self _), rfl⟩

/-- In every run without mishaps at the shop, all that is promised of its provisioning holds. -/
theorem provisioning_kept (run : ProvisionRun deps merchantId past w)
    (fair : ∀ taken ∈ past, Smooth deps merchantId taken) :
    ProvisioningKept deps merchantId past w := by
  have attended := run_attended run fair
  refine ⟨fun row mem own active => ?_, run_once run, run_answered run fair, ?_⟩
  · rcases attended with ⟨_, whole⟩ | ⟨_, _, _, _, knows, _⟩
    · exact (whole.rows row mem own).2
    · exact absurd active (knows.inactive mem own)
  · rintro missing quiet free name named attempt rfl begins may inputs five works
    rcases attended with ⟨_, whole⟩ | ⟨busy, midway, there, own, knows, _⟩
    · have absent : ¬ Present (·.merchantId) attempt.merchantId w.store.tenantRegistry := by
        rintro ⟨row, mem, own⟩
        have ⟨active, ready⟩ := whole.rows row mem own
        exact missing ⟨row, mem, own, active, ready⟩
      refine run_succeeds begins may named absent ?_ (fun there => absent (whole.shop there)) five
        works
      rintro ⟨row, mem, clash⟩
      have clash : row.databaseName = name := clash
      exact absent ⟨row, mem, free row mem (by rw [clash, named])⟩
    · have idle := shown_none quiet there
      rw [knows.underway own] at idle
      cases idle

/-- A database with no shop and no application. -/
def noShops : ProvisionDb :=
  { migrated with
    merchantApplications := [], applicationDocuments := [], tenantRegistry := [],
    tenantDatabases := [] }

def plainPorts : ProvisionDeps where
  toLowerCase text := text
  schemaVersion := "037"

def approvedShop : ProvisionAttempt :=
  { applicationId := "app_1", status := .approved, point := .begin }

/-- The console's own call for that shop takes its first step. -/
theorem approvedShop_followed :
    let deps : IntakeDeps := ⟨id, "037", {}⟩
    let input : IntakeInput := ⟨fun _ => 0, fun _ => "", "", false⟩
    let stepped := ProvisionMerchant.step deps input noShops.toIntakeDb ⟨"app_1", .approved, .begin⟩
    ∃ count, ∃ databases attempt',
      approvedShop.run (consolePorts deps) (List.replicate count (consolePort deps input)) noShops =
        (⟨stepped.1, databases⟩, attempt') ∧ Follows stepped.2 attempt' :=
  console_follows _ _ noShops ⟨rfl, rfl, rfl⟩

/-- Steps of the attempt in a slot, each with a port that works. -/
def provisionSteps (slot count : Nat) : List (Event PortInput ProvisionAttempt) :=
  List.replicate count (.act slot { now := 0, fails := false, reached := .ok "037" })

def provisionPlayed (events : List (Event PortInput ProvisionAttempt)) :
    List ProvisionHappened × ProvisionWorld :=
  played (World.next (provisionServer plainPorts)) events [] ⟨noShops, []⟩

theorem provisionPlayed_run {events : List (Event PortInput ProvisionAttempt)}
    (playable : Playable (World.May (fun _ attempt => attempt.point = .begin) fun _ _ _ => True)
      (World.next (provisionServer plainPorts)) events ⟨noShops, []⟩) :
    ProvisionRun plainPorts "mch_1" (provisionPlayed events).1 (provisionPlayed events).2 := by
  refine Run.play Pool.next (.start ⟨rfl, ⟨fun row mem _ => ?_, fun ⟨row, mem, _⟩ => ?_⟩⟩) playable
  · cases mem
  · cases mem

/-- The application is provisioned, and provisioned once more. -/
def provisionedTwice : List (Event PortInput ProvisionAttempt) :=
  .start approvedShop :: provisionSteps 0 5 ++ .start approvedShop :: provisionSteps 1 1

theorem provisionedTwice_run :
    ProvisionRun plainPorts "mch_1" (provisionPlayed provisionedTwice).1
      (provisionPlayed provisionedTwice).2 :=
  provisionPlayed_run (by decide +kernel)

theorem provisionedTwice_kept :
    ProvisioningKept plainPorts "mch_1" (provisionPlayed provisionedTwice).1
      (provisionPlayed provisionedTwice).2 :=
  provisioning_kept provisionedTwice_run (by decide +kernel)

/-- The shop's database cannot be created at first. -/
def createdLate : List (Event PortInput ProvisionAttempt) :=
  .start approvedShop :: provisionSteps 0 1 ++
    .act 0 { now := 0, fails := false, reached := .error () } :: provisionSteps 0 1 ++
    .start approvedShop :: provisionSteps 1 1

theorem createdLate_run :
    ProvisionRun plainPorts "mch_1" (provisionPlayed createdLate).1
      (provisionPlayed createdLate).2 :=
  provisionPlayed_run (by decide +kernel)

/-- The second attempt is told that the shop is there, and it is not. -/
theorem retry_refused :
    ¬ ∀ (deps : ProvisionDeps) (merchantId : MerchantId) past w,
      ProvisionRun deps merchantId past w → ProvisioningKept deps merchantId past w := by
  intro always
  have kept := always _ _ _ _ createdLate_run
  have told : ∃ attempt, some attempt ∈ (provisionPlayed createdLate).2.procs ∧
      attempt.merchantId = "mch_1" ∧ attempt.point = .refused .alreadyProvisioned :=
    ⟨approvedShop.at (.refused .alreadyProvisioned), by decide +kernel⟩
  have failed : ∀ row ∈ (provisionPlayed createdLate).2.store.tenantRegistry,
      row.status = .failed := by
    decide +kernel
  obtain ⟨attempt, mem, own, refused⟩ := told
  obtain ⟨row, mem, _, active, _⟩ := kept.answered attempt mem own refused
  rw [failed row mem] at active
  cases active

end Telga.Proofs.Provisioning
