import Telga.Application.ApplicationReview

namespace Telga.Application
open Domain Persistence Library

/-- The console's database beside those of the shops, each with the version it was brought to. -/
structure ProvisionDb extends IntakeDb where
  tenantDatabases : List (String × String)

/-- What the ports of a provisioning go by: the version a new shop's database must end up on, and
what is lower case. -/
structure ProvisionDeps where
  toLowerCase : String → String
  schemaVersion : String

/-- What the port that is called next does: it may throw, and the one that creates the database
says which version it reached. -/
structure PortInput where
  now : Timestamp
  fails : Bool
  reached : Except Unit String

/-- A port that writes to the console's database: what it writes, or nothing when it throws. -/
def callPort (input : PortInput) (work : IntakeDb → Except Fault IntakeDb) (db : ProvisionDb) :
    ProvisionDb × Except Fault Unit :=
  commit (fun db => do
    demand (input.fails = false) .busy
    return ({ db with toIntakeDb := ← work db.toIntakeDb }, ())) db

structure ProvisioningResult where
  merchantId : MerchantId
  databaseName : String
  schemaVersion : String
deriving DecidableEq

inductive AttemptPoint
  | begin
  | database (databaseName : String)
  | merchant (databaseName reached : String)
  | failing (refusal : ProvisioningRefusal)
  | activating (databaseName reached : String)
  | linking (databaseName reached : String)
  | provisioned (result : ProvisioningResult)
  | refused (refusal : ProvisioningRefusal)
  | threw (fault : Fault)
deriving DecidableEq

/-- A running call of `provisionMerchant` over any ports. -/
structure ProvisionAttempt where
  applicationId : ApplicationId
  status : ApplicationStatus
  point : AttemptPoint
deriving DecidableEq

def ProvisionAttempt.at (attempt : ProvisionAttempt) (point : AttemptPoint) : ProvisionAttempt :=
  { attempt with point }

def ProvisionAttempt.merchantId (attempt : ProvisionAttempt) : MerchantId :=
  merchantIdFor attempt.applicationId

/-- One call of a port. A port that throws while the row is marked as failed changes nothing of the
answer, and whatever the port that claims the row throws, the shop is taken to exist. -/
def ProvisionAttempt.step (deps : ProvisionDeps) (input : PortInput) (db : ProvisionDb)
    (attempt : ProvisionAttempt) : ProvisionDb × ProvisionAttempt :=
  let merchantId := attempt.merchantId
  match attempt.point with
  | .begin =>
    if provisionable attempt.status = false then (db, attempt.at (.refused .notApproved))
    else
      match databaseNameFor deps.toLowerCase merchantId with
      | none => (db, attempt.at (.refused .unsafeName))
      | some databaseName =>
        match callPort input (claimRegistryRow · merchantId databaseName deps.schemaVersion
            input.now) db with
        | (db, .ok _) => (db, attempt.at (.database databaseName))
        | (db, .error _) => (db, attempt.at (.refused .alreadyProvisioned))
  | .database databaseName =>
    match input.reached with
    | .ok reached =>
      ({ db with tenantDatabases := db.tenantDatabases ++ [(databaseName, reached)] },
        attempt.at (.merchant databaseName reached))
    | .error _ => (db, attempt.at (.failing .databaseFailed))
  | .merchant databaseName reached =>
    match callPort input (writeMerchantRecord · merchantId) db with
    | (db, .ok _) => (db, attempt.at (.activating databaseName reached))
    | (db, .error _) => (db, attempt.at (.failing .merchantWriteFailed))
  | .failing refusal =>
    ((callPort input (fun db => .ok (setTenantStatus db merchantId .failed input.now)) db).1,
      attempt.at (.refused refusal))
  | .activating databaseName reached =>
    match callPort input (fun db => .ok (setTenantStatus db merchantId .active input.now)) db with
    | (db, .ok _) => (db, attempt.at (.linking databaseName reached))
    | (db, .error fault) => (db, attempt.at (.threw fault))
  | .linking databaseName reached =>
    match callPort input
        (fun db => .ok (linkApplication db attempt.applicationId merchantId input.now)) db with
    | (db, .ok _) =>
      (db, attempt.at (.provisioned { merchantId, databaseName, schemaVersion := reached }))
    | (db, .error fault) => (db, attempt.at (.threw fault))
  | .provisioned _ | .refused _ | .threw _ => (db, attempt)

/-- An attempt that nothing interrupts, one port after another. -/
def ProvisionAttempt.run (deps : ProvisionDeps) :
    List PortInput → ProvisionDb → ProvisionAttempt → ProvisionDb × ProvisionAttempt
  | [], db, attempt => (db, attempt)
  | input :: rest, db, attempt =>
    let (db, attempt) := attempt.step deps input db
    attempt.run deps rest db

def ProvisionAttempt.finished (attempt : ProvisionAttempt) : Bool :=
  attempt.point matches .provisioned _ | .refused _ | .threw _

/-- Attempts at work on one registry, each of which may die between two of its ports. -/
def provisionServer (deps : ProvisionDeps) :
    Machine ProvisionDb PortInput ProvisionAttempt where
  advance := ProvisionAttempt.step deps
  finished attempt := attempt.finished = true

/-- The answers of the console's own ports: there is no database to create, so the version is
always the console's. -/
def consolePort (deps : IntakeDeps) (input : IntakeInput) : PortInput :=
  { now := input.now 0, fails := input.busy, reached := .ok deps.schemaVersion }

/-- What the console's provisioning goes by. -/
def consolePorts (deps : IntakeDeps) : ProvisionDeps :=
  { toLowerCase := deps.toLowerCase, schemaVersion := deps.schemaVersion }

end Telga.Application
