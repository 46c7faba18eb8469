import Telga.Domain.Funding
import Telga.Domain.TopupOrders
import Telga.Persistence.Operations

namespace Telga.Persistence
open Domain Library

structure TopupOrderRow where
  id : String
  method : DepositMethod
  providerReference : Option String := none
  providerStatus : Option ChapaPaymentStatus := none
  merchantId : MerchantId
  deviceId : DeviceId
  operatorId : MerchantUserId
  reference : String
  amountMinor : Int
  status : TopupOrderStatus
  fundingSubmissionId : Option String := none
  correlationId : CorrelationId
  createdAt : Timestamp
  expiresAt : Timestamp
  updatedAt : Timestamp
deriving DecidableEq

structure FundingSubmissionRow where
  id : String
  merchantId : Option MerchantId
  quotedReference : String
  bankReference : String
  claimedAmountMinor : Option Int
  bankAmountMinor : Option Int
  status : FundingStatus
  outcomeReason : Option String := none
  postingId : Option PostingId := none
  evidence : Option String := none
  recordedBy : Option String := none
  decidedBy : Option String := none
  decidedAt : Option Timestamp := none
  approvedBy : Option String := none
  approvedAt : Option Timestamp := none
  createdAt : Timestamp
  updatedAt : Timestamp
deriving DecidableEq

/-- The same database as the deposits see it: the shops' standing references and device keys,
the administrators, the top-up orders and the submissions that fund the shops. -/
structure DepositDb extends Db where
  depositReferences : List (MerchantId × String)
  depositLookups : List (MerchantId × String)
  adminUsers : List String
  topupOrders : List TopupOrderRow
  fundingSubmissions : List FundingSubmissionRow

/-- A write to the tables every service shares. -/
def DepositDb.shared (db : DepositDb) (work : Db → Except Fault Db) : Except Fault DepositDb := do
  let base ← work db.toDb
  return { db with toDb := base }

structure NewTopupOrder where
  id : String
  method : DepositMethod := .bankCounter
  merchantId : MerchantId
  deviceId : DeviceId
  operatorId : MerchantUserId
  amountMinor : Int
  correlationId : CorrelationId
  createdAt : Timestamp
  expiresAt : Timestamp

/-- Why an insert is refused: a key is taken, or anything else. -/
inductive InsertFault
  | unique
  | other (fault : Fault)
deriving DecidableEq

def topupOrderRow (input : NewTopupOrder) (reference : String) : TopupOrderRow :=
  { id := input.id, method := input.method, merchantId := input.merchantId,
    deviceId := input.deviceId, operatorId := input.operatorId, reference,
    amountMinor := input.amountMinor, status := .opened, correlationId := input.correlationId,
    createdAt := input.createdAt, expiresAt := input.expiresAt, updatedAt := input.createdAt }

/-- One insert of an open order, under the table's check, its keys and its reference. -/
def insertTopupOrder (db : DepositDb) (input : NewTopupOrder) (reference : String) :
    Except InsertFault DepositDb := do
  demand (0 < input.amountMinor) (.other .constraint)
  demand (∀ row ∈ db.topupOrders, row.id ≠ input.id ∧ row.reference ≠ reference) .unique
  demand (Present (·.id) input.merchantId db.merchants) (.other .constraint)
  return { db with topupOrders := db.topupOrders ++ [topupOrderRow input reference] }

/-- What saving an order throws: no unused reference was drawn, or the insert's own refusal. -/
inductive SaveFault
  | referenceExhausted
  | refused (fault : Fault)
deriving DecidableEq

/-- Draw and insert until a draw stands, at most so many times more. -/
def saveDrawn (db : DepositDb) (input : NewTopupOrder) (newReference : Nat → String)
    (normalize : String → String) (attempt : Nat) : Nat → Except SaveFault (DepositDb × String)
  | 0 => .error .referenceExhausted
  | left + 1 =>
    let reference := normalize (newReference attempt)
    match insertTopupOrder db input reference with
    | .ok db => .ok (db, reference)
    | .error .unique => saveDrawn db input newReference normalize (attempt + 1) left
    | .error (.other fault) => .error (.refused fault)

def referenceAttempts : Nat := 5

/-- Insert an order, drawing references until one is unused. -/
def saveTopupOrder (db : DepositDb) (input : NewTopupOrder) (newReference : Nat → String)
    (normalize : String → String) : Except SaveFault (DepositDb × String) :=
  saveDrawn db input newReference normalize 0 referenceAttempts

/-- Whose reference is this? Matched whole, whatever the order's status. -/
def findTopupOrderByReference (db : DepositDb) (reference : String) : Option TopupOrderRow :=
  db.topupOrders.find? fun row => row.reference = reference

/-- A shop's latest order that is open and not past its expiry, for one method or for any. -/
def findOpenTopupOrder (db : DepositDb) (merchantId : MerchantId) (now : Timestamp)
    (method : Option DepositMethod) : Option TopupOrderRow :=
  ((db.topupOrders.filter fun row =>
      row.merchantId = merchantId ∧ row.status = .opened ∧ now < row.expiresAt ∧
        ∀ wanted ∈ method, row.method = wanted).mergeSort
    fun a b => b.createdAt ≤ a.createdAt).head?

/-- The open order of a reference. -/
def openTopup (reference : String) (row : TopupOrderRow) : Bool :=
  row.reference = reference ∧ row.status = .opened

/-- Mark an open order paid, naming the submission that credited it. -/
def markTopupOrderPaid (db : DepositDb) (reference : String) (fundingSubmissionId : String)
    (now : Timestamp) : Except Fault (DepositDb × Nat) := do
  let changed := changes (openTopup reference) db.topupOrders
  demand (changed ≠ 0 → Present (·.id) fundingSubmissionId db.fundingSubmissions) .constraint
  return ({ db with
    topupOrders := update (openTopup reference)
      (fun row => { row with
        status := .paid, fundingSubmissionId := some fundingSubmissionId, updatedAt := now })
      db.topupOrders }, changed)

/-- Claim an open order for settlement, without naming the submission yet. -/
def claimTopupOrderForSettlement (db : DepositDb) (reference : String) (now : Timestamp) :
    DepositDb × Nat :=
  ({ db with
      topupOrders := update (openTopup reference)
        (fun row => { row with status := .paid, updatedAt := now }) db.topupOrders },
    changes (openTopup reference) db.topupOrders)

/-- An order of a reference that names no submission. -/
def unlinked (reference : String) (row : TopupOrderRow) : Bool :=
  row.reference = reference ∧ row.fundingSubmissionId = none

/-- Name the submission that settled an order, once that submission exists. -/
def linkTopupOrderSubmission (db : DepositDb) (reference : String) (fundingSubmissionId : String)
    (now : Timestamp) : Except Fault DepositDb := do
  demand (changes (unlinked reference) db.topupOrders ≠ 0 →
    Present (·.id) fundingSubmissionId db.fundingSubmissions) .constraint
  return { db with
    topupOrders := update (unlinked reference)
      (fun row => { row with fundingSubmissionId := some fundingSubmissionId, updatedAt := now })
      db.topupOrders }

/-- An open order by its id. -/
def openTopupId (id : String) (row : TopupOrderRow) : Bool :=
  row.id = id ∧ row.status = .opened

def cancelTopupOrder (db : DepositDb) (id : String) (now : Timestamp) : DepositDb × Nat :=
  ({ db with
      topupOrders := update (openTopupId id)
        (fun row => { row with status := .cancelled, updatedAt := now }) db.topupOrders },
    changes (openTopupId id) db.topupOrders)

/-- An open order whose window has passed. -/
def overdue (now : Timestamp) (row : TopupOrderRow) : Bool :=
  row.status = .opened ∧ row.expiresAt ≤ now

/-- Close out orders whose window has passed. The reference stays on the row. -/
def expireTopupOrders (db : DepositDb) (now : Timestamp) : DepositDb :=
  { db with
    topupOrders := update (overdue now)
      (fun row => { row with status := .expired, updatedAt := now }) db.topupOrders }

/-- Record what the payment provider last said about an order: evidence, not authority. -/
def recordTopupProviderOutcome (db : DepositDb) (reference providerReference : String)
    (providerStatus : ChapaPaymentStatus) (now : Timestamp) : DepositDb :=
  { db with
    topupOrders := update (fun row => row.reference = reference)
      (fun row => { row with
        providerReference := some providerReference, providerStatus := some providerStatus,
        updatedAt := now }) db.topupOrders }

/-- An administrator a row names, if it names one, is on record. -/
def Known (admins : List String) (admin : Option String) : Prop :=
  ∀ name ∈ admin, name ∈ admins

instance (admins : List String) (admin : Option String) : Decidable (Known admins admin) :=
  inferInstanceAs (Decidable (∀ name ∈ admin, _))

/-- What the table checks in every row of it: amounts above zero, references to rows that exist,
and two different people where two decided. -/
structure Sound (db : DepositDb) (row : FundingSubmissionRow) : Prop where
  claimed : ∀ amount ∈ row.claimedAmountMinor, 0 < amount
  bank : ∀ amount ∈ row.bankAmountMinor, 0 < amount
  merchant : ∀ merchantId ∈ row.merchantId, Present (·.id) merchantId db.merchants
  recorded : Known db.adminUsers row.recordedBy
  decided : Known db.adminUsers row.decidedBy
  approved : Known db.adminUsers row.approvedBy
  apart : ∀ approver ∈ row.approvedBy, ∀ decider ∈ row.decidedBy, approver ≠ decider

instance (db : DepositDb) (row : FundingSubmissionRow) : Decidable (Sound db row) :=
  decidable_of_iff
    ((∀ amount ∈ row.claimedAmountMinor, 0 < amount) ∧ (∀ amount ∈ row.bankAmountMinor, 0 < amount) ∧
      (∀ merchantId ∈ row.merchantId, Present (·.id) merchantId db.merchants) ∧
      Known db.adminUsers row.recordedBy ∧ Known db.adminUsers row.decidedBy ∧
      Known db.adminUsers row.approvedBy ∧
      ∀ approver ∈ row.approvedBy, ∀ decider ∈ row.decidedBy, approver ≠ decider)
    ⟨fun ⟨a, b, c, d, e, f, g⟩ => ⟨a, b, c, d, e, f, g⟩,
      fun ⟨a, b, c, d, e, f, g⟩ => ⟨a, b, c, d, e, f, g⟩⟩

/-- Insert a submission: its id is new, and no other one of its bank reference is credited when
it is. -/
def insertFundingSubmission (db : DepositDb) (row : FundingSubmissionRow) :
    Except Fault DepositDb := do
  demand (Sound db row) .constraint
  demand (¬ Present (·.id) row.id db.fundingSubmissions) .constraint
  demand (row.status = .credited → ∀ other ∈ db.fundingSubmissions,
    ¬ (other.bankReference = row.bankReference ∧ other.status = .credited)) .constraint
  return { db with fundingSubmissions := db.fundingSubmissions ++ [row] }

/-- True when a bank reference has already produced a credit. -/
def alreadyCredited (db : DepositDb) (bankReference : String) : Bool :=
  db.fundingSubmissions.any fun row => row.bankReference = bankReference ∧ row.status = .credited

def linkPosting (db : DepositDb) (id : String) (postingId : PostingId) (now : Timestamp) :
    DepositDb :=
  { db with
    fundingSubmissions := update (fun row => row.id = id)
      (fun row => { row with postingId := some postingId, updatedAt := now })
      db.fundingSubmissions }

/-- A submission still waiting for its second person. -/
def stillMatched (id : String) (row : FundingSubmissionRow) : Bool :=
  row.id = id ∧ row.status = .matched

/-- What a second approval makes of the row it finds waiting. -/
def approvedRow (approver : String) (postingId : PostingId) (now : Timestamp)
    (row : FundingSubmissionRow) : FundingSubmissionRow :=
  { row with
    status := .credited, approvedBy := some approver, approvedAt := some now,
    postingId := some postingId, updatedAt := now }

/-- Mark a waiting submission credited by a second person. How many rows that was is not told. -/
def approveSubmission (db : DepositDb) (id approver : String) (postingId : PostingId)
    (now : Timestamp) : Except Fault DepositDb := do
  demand (∀ row ∈ db.fundingSubmissions, stillMatched id row →
    Sound db (approvedRow approver postingId now row) ∧
    ∀ other ∈ db.fundingSubmissions,
      ¬ (other.bankReference = row.bankReference ∧ other.status = .credited)) .constraint
  return { db with
    fundingSubmissions := update (stillMatched id) (approvedRow approver postingId now)
      db.fundingSubmissions }

/-- The shop a quoted reference belongs to: a printed order's first, then a shop's standing
reference, then a device key's. -/
def merchantForReference (db : DepositDb) (normalized lookup : String) : Option MerchantId :=
  (findTopupOrderByReference db normalized).map (·.merchantId) <|>
    (db.depositReferences.find? fun shop => shop.2 = normalized).map (·.1) <|>
    (db.depositLookups.find? fun device => device.2 = lookup).map (·.1)

theorem shared_ok {db db' : DepositDb} (h : db.shared work = .ok db') :
    ∃ base, work db.toDb = .ok base ∧ db' = { db with toDb := base } := by
  simp only [DepositDb.shared, bind_ok, pure_ok] at h
  obtain ⟨base, done, rfl⟩ := h
  exact ⟨base, done, rfl⟩

theorem insertTopupOrder_ok {db db' : DepositDb} (h : insertTopupOrder db input reference = .ok db') :
    0 < input.amountMinor ∧
    (∀ row ∈ db.topupOrders, row.id ≠ input.id ∧ row.reference ≠ reference) ∧
    Present (·.id) input.merchantId db.merchants ∧
    db' = { db with topupOrders := db.topupOrders ++ [topupOrderRow input reference] } := by
  simp only [insertTopupOrder, bind_ok, demand_ok, pure_ok] at h
  obtain ⟨_, positive, _, fresh, _, merchant, rfl⟩ := h
  exact ⟨positive, fresh, merchant, rfl⟩

/-- An order that was saved is a new row under a reference nobody had. -/
theorem saveTopupOrder_ok {db db' : DepositDb} {normalize : String → String}
    (h : saveTopupOrder db input newReference normalize = .ok (db', reference)) :
    0 < input.amountMinor ∧
    (∀ row ∈ db.topupOrders, row.id ≠ input.id ∧ row.reference ≠ reference) ∧
    Present (·.id) input.merchantId db.merchants ∧
    db' = { db with topupOrders := db.topupOrders ++ [topupOrderRow input reference] } := by
  unfold saveTopupOrder at h
  generalize referenceAttempts = left at h
  generalize 0 = attempt at h
  induction left generalizing attempt with
  | zero => cases h
  | succ left ih =>
    simp only [saveDrawn] at h
    split at h
    · rename_i inserted
      cases h
      exact insertTopupOrder_ok inserted
    · exact ih _ h
    · cases h

theorem insertFundingSubmission_ok {db db' : DepositDb} (h : insertFundingSubmission db row = .ok db') :
    Sound db row ∧ ¬ Present (·.id) row.id db.fundingSubmissions ∧
    (row.status = .credited → ∀ other ∈ db.fundingSubmissions,
      ¬ (other.bankReference = row.bankReference ∧ other.status = .credited)) ∧
    db' = { db with fundingSubmissions := db.fundingSubmissions ++ [row] } := by
  simp only [insertFundingSubmission, bind_ok, demand_ok, pure_ok] at h
  obtain ⟨_, sound, _, fresh, _, once, rfl⟩ := h
  exact ⟨sound, fresh, once, rfl⟩

theorem approveSubmission_ok {db db' : DepositDb}
    (h : approveSubmission db submissionId approver postingId now = .ok db') :
    (∀ row ∈ db.fundingSubmissions, stillMatched submissionId row →
      Sound db (approvedRow approver postingId now row) ∧
      ∀ other ∈ db.fundingSubmissions,
        ¬ (other.bankReference = row.bankReference ∧ other.status = .credited)) ∧
    db' = { db with
      fundingSubmissions := update (stillMatched submissionId) (approvedRow approver postingId now)
        db.fundingSubmissions } := by
  simp only [approveSubmission, bind_ok, demand_ok, pure_ok] at h
  obtain ⟨_, allowed, rfl⟩ := h
  exact ⟨allowed, rfl⟩

end Telga.Persistence
