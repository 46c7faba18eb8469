import Telga.Domain.Applications
import Telga.Persistence.Transactions

namespace Telga.Persistence
open Domain Library

structure MerchantApplicationRow where
  id : ApplicationId
  reference : String
  status : ApplicationStatus
  submittedVia : SubmissionChannel
  legalName : String
  tradingName : Option String := none
  ownerName : String
  phone : String
  email : Option String
  address : String
  locality : String
  merchantId : Option MerchantId := none
  reviewedBy : Option String := none
  reviewedAt : Option Timestamp := none
  decisionReason : Option String := none
  submittedAt : Option Timestamp
  createdAt : Timestamp
  updatedAt : Timestamp
deriving DecidableEq

structure ApplicationDocumentRow where
  id : String
  applicationId : ApplicationId
  kind : DocumentKind
  reference : String
  expiresAt : Option String
  documentUri : Option String
  mediaType : Option String
  byteSize : Option Nat
  createdAt : Timestamp
deriving DecidableEq

structure TenantRow where
  merchantId : MerchantId
  databaseName : String
  schemaVersion : String
  status : TenantStatus
  createdAt : Timestamp
  updatedAt : Timestamp
deriving DecidableEq

/-- The same database with the shops that apply and the registry of those that were provisioned. -/
structure IntakeDb extends Db where
  merchantApplications : List MerchantApplicationRow
  applicationDocuments : List ApplicationDocumentRow
  tenantRegistry : List TenantRow

/-- A scan that was stored. -/
structure StoredScan where
  documentUri : String
  mediaType : String
  bytes : Nat

/-- One paper of an application. Its scan, when it has one, is stored while its row is written,
which may fail. -/
structure ApplicationDocumentInput where
  id : String
  kind : DocumentKind
  reference : String
  expiresAt : Option String := none
  documentUri : Option String := none
  mediaType : Option String := none
  byteSize : Option Nat := none
  resolve : Except Unit (Option StoredScan) := .ok none

structure ApplicationInput where
  id : ApplicationId
  reference : String
  submittedVia : SubmissionChannel
  legalName : String
  ownerName : String
  phone : String
  email : Option String
  address : String
  locality : String
  now : Timestamp
  documents : List ApplicationDocumentInput

inductive ApplicationWriteRefusal
  | documentAlreadyRegisteredToAnotherShop
  | registrationNotSaved
deriving DecidableEq, Repr

/-- A text, unless it is blank. -/
def filled (text : String) : Option String :=
  if text = "" then none else some text

def applicationRow (input : ApplicationInput) : MerchantApplicationRow :=
  { id := input.id, reference := input.reference, status := .submitted,
    submittedVia := input.submittedVia, legalName := trim input.legalName,
    ownerName := trim input.ownerName, phone := trim input.phone,
    email := filled (trim (input.email.getD "")), address := trim input.address,
    locality := trim input.locality, submittedAt := some input.now, createdAt := input.now,
    updatedAt := input.now }

def documentRow (input : ApplicationInput) (document : ApplicationDocumentInput)
    (stored : Option StoredScan) : ApplicationDocumentRow :=
  { id := document.id, applicationId := input.id, kind := document.kind,
    reference := trim document.reference, expiresAt := document.expiresAt.bind filled,
    documentUri := (stored.map (·.documentUri)).or document.documentUri,
    mediaType := (stored.map (·.mediaType)).or document.mediaType,
    byteSize := (stored.map (·.bytes)).or document.byteSize, createdAt := input.now }

/-- Write the papers one after another. A paper of one kind and number is on record once. -/
def recordDocuments (db : IntakeDb) (input : ApplicationInput) :
    List ApplicationDocumentInput → Except ApplicationWriteRefusal IntakeDb
  | [] => .ok db
  | document :: rest => do
    match document.resolve with
    | .error _ => .error .registrationNotSaved
    | .ok stored =>
      let row := documentRow input document stored
      demand (¬ Present (·.id) row.id db.applicationDocuments)
        .documentAlreadyRegisteredToAnotherShop
      demand (¬ Present (fun row => (row.kind, row.reference)) (row.kind, row.reference)
        db.applicationDocuments) .documentAlreadyRegisteredToAnotherShop
      recordDocuments { db with applicationDocuments := db.applicationDocuments ++ [row] } input rest

/-- Write one application and its papers, or write nothing at all. -/
def recordApplication (db : IntakeDb) (input : ApplicationInput) :
    Except ApplicationWriteRefusal IntakeDb := do
  demand (¬ Present (·.id) input.id db.merchantApplications)
    .documentAlreadyRegisteredToAnotherShop
  demand (¬ Present (·.reference) input.reference db.merchantApplications)
    .documentAlreadyRegisteredToAnotherShop
  recordDocuments
    { db with merchantApplications := db.merchantApplications ++ [applicationRow input] }
    input input.documents

def applicationById (db : IntakeDb) (id : ApplicationId) : Option MerchantApplicationRow :=
  db.merchantApplications.find? fun row => row.id = id

/-- Take an application that was submitted into review. -/
def pickUpApplication (db : IntakeDb) (id : ApplicationId) (reviewer : String) (now : Timestamp) :
    IntakeDb :=
  { db with
    merchantApplications := update (fun row => row.id = id ∧ row.status = .submitted)
      (fun row => { row with
        status := .underReview, reviewedBy := some reviewer, updatedAt := now })
      db.merchantApplications }

structure ApplicationDecision where
  status : ApplicationStatus
  reason : String
  reviewer : String
  now : Timestamp

/-- Write a decision on an application, whatever its status. -/
def decideApplication (db : IntakeDb) (id : ApplicationId) (decision : ApplicationDecision) :
    IntakeDb :=
  { db with
    merchantApplications := update (fun row => row.id = id)
      (fun row => { row with
        status := decision.status, decisionReason := some decision.reason,
        reviewedBy := some decision.reviewer, reviewedAt := some decision.now,
        updatedAt := decision.now })
      db.merchantApplications }

/-- Claim a registry row. It is the lock: a second claim of the same shop throws. -/
def claimRegistryRow (db : IntakeDb) (merchantId : MerchantId)
    (databaseName schemaVersion : String) (now : Timestamp) : Except Fault IntakeDb := do
  demand (¬ Present (·.merchantId) merchantId db.tenantRegistry) .constraint
  demand (¬ Present (·.databaseName) databaseName db.tenantRegistry) .constraint
  return { db with
    tenantRegistry := db.tenantRegistry ++
      [{ merchantId, databaseName, schemaVersion, status := .provisioning, createdAt := now,
         updatedAt := now }] }

def setTenantStatus (db : IntakeDb) (merchantId : MerchantId) (status : TenantStatus)
    (now : Timestamp) : IntakeDb :=
  { db with
    tenantRegistry := update (fun row => row.merchantId = merchantId)
      (fun row => { row with status, updatedAt := now }) db.tenantRegistry }

/-- The merchant row of a new shop. -/
def writeMerchantRecord (db : IntakeDb) (merchantId : MerchantId) : Except Fault IntakeDb := do
  demand (¬ Present (·.id) merchantId db.merchants) .constraint
  return { db with
    merchants := db.merchants ++ [{ id := merchantId, status := .onboarding }] }

/-- Link an application to the shop it became, whose device comes next. -/
def linkApplication (db : IntakeDb) (id : ApplicationId) (merchantId : MerchantId)
    (now : Timestamp) : IntakeDb :=
  { db with
    merchantApplications := update (fun row => row.id = id)
      (fun row => { row with
        merchantId := some merchantId, status := .devicePending, updatedAt := now })
      db.merchantApplications }

/-- The papers an application comes with touch nothing else. -/
theorem recordDocuments_ok {db db' : IntakeDb} {documents : List ApplicationDocumentInput}
    (h : recordDocuments db input documents = .ok db') :
    ∃ papers, db' = { db with applicationDocuments := papers } := by
  induction documents generalizing db with
  | nil =>
    cases h
    exact ⟨_, rfl⟩
  | cons document rest ih =>
    unfold recordDocuments at h
    split at h
    · cases h
    · simp only [bind_ok, demand_ok] at h
      obtain ⟨_, _, _, _, h⟩ := h
      obtain ⟨papers, rfl⟩ := ih h
      exact ⟨papers, rfl⟩

/-- An application that was recorded is new, and the last. -/
theorem recordApplication_ok {db db' : IntakeDb} (h : recordApplication db input = .ok db') :
    ¬ Present (·.id) input.id db.merchantApplications ∧
    ∃ papers, db' = { db with
      merchantApplications := db.merchantApplications ++ [applicationRow input]
      applicationDocuments := papers } := by
  simp only [recordApplication, bind_ok, demand_ok] at h
  obtain ⟨_, fresh, _, _, h⟩ := h
  obtain ⟨papers, rfl⟩ := recordDocuments_ok h
  exact ⟨fresh, papers, rfl⟩

theorem claimRegistryRow_ok {db db' : IntakeDb}
    (h : claimRegistryRow db merchantId databaseName schemaVersion now = .ok db') :
    ∃ tenants, db' = { db with tenantRegistry := tenants } := by
  simp only [claimRegistryRow, bind_ok, demand_ok, pure_ok] at h
  obtain ⟨_, _, _, _, rfl⟩ := h
  exact ⟨_, rfl⟩

theorem writeMerchantRecord_ok {db db' : IntakeDb} (h : writeMerchantRecord db merchantId = .ok db') :
    ¬ Present (·.id) merchantId db.merchants ∧
    db' = { db with merchants := db.merchants ++ [{ id := merchantId, status := .onboarding }] } := by
  simp only [writeMerchantRecord, bind_ok, demand_ok, pure_ok] at h
  obtain ⟨_, fresh, rfl⟩ := h
  exact ⟨fresh, rfl⟩

end Telga.Persistence
