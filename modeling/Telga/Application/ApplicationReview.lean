import Telga.Domain.Admin
import Telga.Library.Pool
import Telga.Persistence.Applications

namespace Telga.Application
open Domain Persistence Library

/-- What the surroundings answer during one atomic step of a request about applications. -/
structure IntakeInput where
  now : Nat → Timestamp
  newId : Nat → String
  newReference : String
  busy : Bool

/-- What the console is given besides the database. -/
structure IntakeDeps where
  toLowerCase : String → String
  schemaVersion : String
  policy : AdminAuthPolicy

/-- One statement or transaction: all of it or, when anything in it throws, nothing. -/
def statement (input : IntakeInput) (work : IntakeDb → Except Fault IntakeDb) (db : IntakeDb) :
    IntakeDb × Except Fault Unit :=
  commit (fun db => do
    demand (input.busy = false) .busy
    return (← work db, ())) db

inductive ProvisionPoint
  | begin
  | merchant
  | failing (refusal : ProvisioningRefusal)
  | activating
  | linking
  | provisioned
  | refused (refusal : ProvisioningRefusal)
  | threw (fault : Fault)
deriving DecidableEq

/-- A running call of `provisionMerchant`, on an application with the status it was given. -/
structure ProvisionMerchant where
  applicationId : ApplicationId
  status : ApplicationStatus
  point : ProvisionPoint

def ProvisionMerchant.at (call : ProvisionMerchant) (point : ProvisionPoint) : ProvisionMerchant :=
  { call with point }

/-- One statement of `provisionMerchant`. Every shop lives in the one database, so there is no
tenant database to create between the claim and the merchant record. -/
def ProvisionMerchant.step (deps : IntakeDeps) (input : IntakeInput) (db : IntakeDb)
    (call : ProvisionMerchant) : IntakeDb × ProvisionMerchant :=
  let merchantId := merchantIdFor call.applicationId
  match call.point with
  | .begin =>
    if provisionable call.status = false then (db, call.at (.refused .notApproved))
    else
      match databaseNameFor deps.toLowerCase merchantId with
      | none => (db, call.at (.refused .unsafeName))
      | some databaseName =>
        match statement input (claimRegistryRow · merchantId databaseName deps.schemaVersion
            (input.now 0)) db with
        | (db, .ok _) => (db, call.at .merchant)
        | (db, .error _) => (db, call.at (.refused .alreadyProvisioned))
  | .merchant =>
    match statement input (writeMerchantRecord · merchantId) db with
    | (db, .ok _) => (db, call.at .activating)
    | (db, .error _) => (db, call.at (.failing .merchantWriteFailed))
  | .failing refusal =>
    ((statement input (fun db => .ok (setTenantStatus db merchantId .failed (input.now 0))) db).1,
      call.at (.refused refusal))
  | .activating =>
    match statement input (fun db => .ok (setTenantStatus db merchantId .active (input.now 0)))
        db with
    | (db, .ok _) => (db, call.at .linking)
    | (db, .error fault) => (db, call.at (.threw fault))
  | .linking =>
    match statement input
        (fun db => .ok (linkApplication db call.applicationId merchantId (input.now 0))) db with
    | (db, .ok _) => (db, call.at .provisioned)
    | (db, .error fault) => (db, call.at (.threw fault))
  | .provisioned | .refused _ | .threw _ => (db, call)

/-- What the console tells the administrator. -/
inductive IntakeAnswer
  | done
  | denied (denial : AdminDenial)
  | notRecorded (refusal : ApplicationWriteRefusal)
  | notFound
  | unknownOutcome
  | notDecided (refusal : ReviewRefusal)
  | notProvisioned (refusal : ProvisioningRefusal)
  | provisioningFailed
  | failed (fault : Fault)
deriving DecidableEq

/-- A registration an admin took at a shop, whose form was accepted. -/
structure RegistrationForm where
  legalName : String
  ownerName : String
  phone : String
  email : String
  address : String
  locality : String
  documents : List ApplicationDocumentInput
  approveNow : Bool

/-- The application a registration is recorded as. -/
def applicationOf (form : RegistrationForm) (input : IntakeInput) : ApplicationInput :=
  { id := input.newId 0, reference := input.newReference, submittedVia := .admin,
    legalName := form.legalName, ownerName := form.ownerName, phone := form.phone,
    email := some form.email, address := form.address, locality := form.locality,
    now := input.now 0, documents := form.documents }

inductive RegisterPoint
  | begin
  | recorded (applicationId : ApplicationId) (now : Timestamp)
  | approved (provision : ProvisionMerchant)
  | answered (answer : IntakeAnswer)

/-- A running request that records a registration and, when asked to, approves it at once. -/
structure RegisterShop where
  deps : IntakeDeps
  context : AdminAuthContext
  form : RegistrationForm
  point : RegisterPoint

def RegisterShop.at (call : RegisterShop) (point : RegisterPoint) : RegisterShop :=
  { call with point }

/-- Provisioning an application that was just approved, from its beginning. -/
def provisionApproved (applicationId : ApplicationId) : ProvisionMerchant :=
  { applicationId, status := .approved, point := .begin }

/-- One statement of the request. The approval is checked separately from the recording, and here
any refusal of the provisioning reads the same. -/
def RegisterShop.step (input : IntakeInput) (db : IntakeDb) (call : RegisterShop) :
    IntakeDb × RegisterShop :=
  match call.point with
  | .begin =>
    match requireAdmin call.context .reviewApplication (input.now 0) call.deps.policy with
    | some denial => (db, call.at (.answered (.denied denial)))
    | none =>
      if input.busy then (db, call.at (.answered (.notRecorded .registrationNotSaved)))
      else
        match recordApplication db (applicationOf call.form input) with
        | .ok db => (db, call.at (.recorded (input.newId 0) (input.now 0)))
        | .error refusal => (db, call.at (.answered (.notRecorded refusal)))
  | .recorded applicationId now =>
    if call.form.approveNow = false then (db, call.at (.answered .done))
    else
      match requireAdmin call.context .approveMerchant (input.now 0) call.deps.policy with
      | some denial => (db, call.at (.answered (.denied denial)))
      | none =>
        match applicationById db applicationId with
        | none => (db, call.at (.answered .done))
        | some _ =>
          match statement input (fun db => .ok (decideApplication db applicationId
              { status := .approved,
                reason := "Registered and approved at the counter by the recording admin.",
                reviewer := call.context.user.id, now })) db with
          | (db, .ok _) => (db, call.at (.approved (provisionApproved applicationId)))
          | (db, .error fault) => (db, call.at (.answered (.failed fault)))
  | .approved provision =>
    match provision.point with
    | .provisioned => (db, call.at (.answered .done))
    | .refused _ | .threw _ => (db, call.at (.answered .provisioningFailed))
    | _ => (provision.step call.deps input db).map id fun next => call.at (.approved next)
  | .answered _ => (db, call)

inductive PickUpPoint
  | begin
  | answered (answer : IntakeAnswer)

/-- A running request that takes an application into review. -/
structure PickUp where
  deps : IntakeDeps
  context : AdminAuthContext
  applicationId : ApplicationId
  point : PickUpPoint

def PickUp.at (call : PickUp) (point : PickUpPoint) : PickUp :=
  { call with point }

def PickUp.step (input : IntakeInput) (db : IntakeDb) (call : PickUp) : IntakeDb × PickUp :=
  match call.point with
  | .begin =>
    match requireAdmin call.context .reviewApplication (input.now 0) call.deps.policy with
    | some denial => (db, call.at (.answered (.denied denial)))
    | none =>
      match statement input (fun db => .ok (pickUpApplication db call.applicationId
          call.context.user.id (input.now 1))) db with
      | (db, .ok _) => (db, call.at (.answered .done))
      | (db, .error fault) => (db, call.at (.answered (.failed fault)))
  | .answered _ => (db, call)

inductive DecideApplicationPoint
  | begin
  | approved (provision : ProvisionMerchant)
  | answered (answer : IntakeAnswer)

/-- A running request that decides an application under review. -/
structure DecideApplication where
  deps : IntakeDeps
  context : AdminAuthContext
  applicationId : ApplicationId
  outcome : Option String
  reason : Option String
  point : DecideApplicationPoint

def DecideApplication.at (call : DecideApplication) (point : DecideApplicationPoint) :
    DecideApplication :=
  { call with point }

/-- One statement of the request: the decision is recorded first, and an approval is then
provisioned. -/
def DecideApplication.step (input : IntakeInput) (db : IntakeDb) (call : DecideApplication) :
    IntakeDb × DecideApplication :=
  match call.point with
  | .begin =>
    match requireAdmin call.context .approveMerchant (input.now 0) call.deps.policy with
    | some denial => (db, call.at (.answered (.denied denial)))
    | none =>
      match applicationById db call.applicationId with
      | none => (db, call.at (.answered .notFound))
      | some found =>
        match parseReviewOutcome call.outcome with
        | none => (db, call.at (.answered .unknownOutcome))
        | some outcome =>
          let decision : ReviewDecision :=
            { outcome, reason := call.reason.getD "", reviewedBy := call.context.user.id }
          match reviewRefusal found.status decision with
          | some refusal => (db, call.at (.answered (.notDecided refusal)))
          | none =>
            let next := statusAfterReview decision
            match statement input (fun db => .ok (decideApplication db call.applicationId
                { status := next, reason := decision.reason, reviewer := decision.reviewedBy,
                  now := input.now 1 })) db with
            | (db, .ok _) =>
              if next = .approved then
                (db, call.at (.approved (provisionApproved call.applicationId)))
              else (db, call.at (.answered .done))
            | (db, .error fault) => (db, call.at (.answered (.failed fault)))
  | .approved provision =>
    match provision.point with
    | .provisioned => (db, call.at (.answered .done))
    | .refused refusal => (db, call.at (.answered (.notProvisioned refusal)))
    | .threw _ => (db, call.at (.answered (.notProvisioned .databaseFailed)))
    | _ => (provision.step call.deps input db).map id fun next => call.at (.approved next)
  | .answered _ => (db, call)

/-- A change made elsewhere that leaves the applications alone and no shop away. -/
def KeepsShops (db db' : IntakeDb) : Prop :=
  db'.merchantApplications = db.merchantApplications ∧
  ∀ merchantId, Present (·.id) merchantId db.merchants → Present (·.id) merchantId db'.merchants

/-- One running request: the console's three, a shop's own registration, and whatever else happens
to the database meanwhile. -/
inductive IntakeProcess
  | register (call : RegisterShop)
  | pickUp (call : PickUp)
  | decide (call : DecideApplication)
  | submit (application : ApplicationInput)
  | elsewhere (change : IntakeDb → IntakeDb) (keeps : ∀ db, KeepsShops db (change db))
  | ended

/-- One atomic step of a request. -/
def IntakeProcess.step (input : IntakeInput) (db : IntakeDb) :
    IntakeProcess → IntakeDb × IntakeProcess
  | .register call => (call.step input db).map id .register
  | .pickUp call => (call.step input db).map id .pickUp
  | .decide call => (call.step input db).map id .decide
  | .submit application =>
    match recordApplication db application with
    | .ok db => (db, .ended)
    | .error _ => (db, .ended)
  | .elsewhere change _ => (change db, .ended)
  | .ended => (db, .ended)

def IntakeProcess.Starting : IntakeProcess → Prop
  | .register { point := .begin, .. } | .pickUp { point := .begin, .. }
  | .decide { point := .begin, .. } | .submit _ | .elsewhere .. => True
  | _ => False

def IntakeProcess.finished : IntakeProcess → Bool
  | .register { point := .answered _, .. } | .pickUp { point := .answered _, .. }
  | .decide { point := .answered _, .. } | .ended => true
  | _ => false

instance : DecidablePred IntakeProcess.Starting := fun process => by
  unfold IntakeProcess.Starting
  split <;> infer_instance

/-- The console and the registration form at work on one database. -/
def intakeServer : Machine IntakeDb IntakeInput IntakeProcess where
  advance := IntakeProcess.step
  finished process := process.finished = true

instance (process : IntakeProcess) : Decidable (intakeServer.finished process) :=
  inferInstanceAs (Decidable (process.finished = true))

/-- Requests one after another. The console does not turn to the next one while a route is between
two statements; it may die there. -/
abbrev IntakeTurn :=
  Solo intakeServer (fun _ => IntakeProcess.Starting) fun _ _ _ => True

end Telga.Application
