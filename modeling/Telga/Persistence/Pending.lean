import Telga.Persistence.Transactions

namespace Telga.Persistence
open Domain Library

structure PendingInput where
  transactionId : TransactionId
  merchantId : MerchantId
  idempotencyKey : IdempotencyKey
  providerReference : Option String
  correlationId : CorrelationId
  firstPendingAt : Timestamp
  deadlineAt : Timestamp

def findPendingResolution (db : Db) (transactionId : TransactionId) :
    Option PendingResolutionRow :=
  db.pendingResolutions.find? fun row => row.transactionId = transactionId

/-- Create the pending job if there is none. -/
def upsertPendingResolution (db : Db) (input : PendingInput) : Except Fault Db :=
  if Present (·.transactionId) input.transactionId db.pendingResolutions then .ok db
  else do
    demand (Present (·.id) input.transactionId db.transactions) .constraint
    demand (Present (·.id) input.merchantId db.merchants) .constraint
    return { db with
      pendingResolutions := db.pendingResolutions ++
        [{ transactionId := input.transactionId, merchantId := input.merchantId,
           idempotencyKey := input.idempotencyKey, providerReference := input.providerReference,
           correlationId := input.correlationId, attempts := 0, status := .awaiting,
           firstPendingAt := input.firstPendingAt, lastAttemptAt := none,
           deadlineAt := input.deadlineAt, updatedAt := input.firstPendingAt }] }

/-- The pending jobs of a transaction that are still awaited. -/
def awaited (transactionId : TransactionId) (row : PendingResolutionRow) : Bool :=
  row.transactionId = transactionId ∧ row.status = .awaiting

def recordResolutionAttempt (db : Db) (transactionId : TransactionId) (now : Timestamp) : Db :=
  { db with
    pendingResolutions := update (awaited transactionId)
      (fun row => { row with
        attempts := row.attempts + 1, lastAttemptAt := some now, updatedAt := now })
      db.pendingResolutions }

/-- Close a pending job, only if it is still awaited. -/
def closePendingResolution (db : Db) (transactionId : TransactionId) (status : PendingStatus)
    (now : Timestamp) : Db × Bool :=
  ({ db with
      pendingResolutions := update (awaited transactionId)
        (fun row => { row with status, updatedAt := now }) db.pendingResolutions },
    decide (changes (awaited transactionId) db.pendingResolutions = 1))

structure PendingMetadata where
  now : Timestamp
  nextCheckAt : Option Timestamp := none
  lastOutcomeCategory : Option ProviderLookupOutcome := none
  currentState : Option TransactionState := none
  manualReviewOpen : Bool := false

/-- What a sweep keeps about an unresolved transaction; a field left out stays as it was. -/
def updatePendingMetadata (db : Db) (transactionId : TransactionId) (input : PendingMetadata) :
    Db :=
  { db with
    pendingResolutions := update (fun row => row.transactionId = transactionId)
      (fun row => { row with
        nextCheckAt := input.nextCheckAt <|> row.nextCheckAt
        lastOutcomeCategory := input.lastOutcomeCategory <|> row.lastOutcomeCategory
        currentState := input.currentState <|> row.currentState
        manualReviewOpen := input.manualReviewOpen || row.manualReviewOpen
        updatedAt := input.now })
      db.pendingResolutions }

structure SupportInput where
  id : String
  merchantId : MerchantId
  transactionId : TransactionId
  reason : SupportReason
  reference : String
  correlationId : CorrelationId
  now : Timestamp

def createSupportCase (db : Db) (input : SupportInput) : Except Fault Db :=
  if Present (·.id) input.id db.supportCases then .ok db
  else do
    demand (¬ Present (·.reference) input.reference db.supportCases) .constraint
    demand (Present (·.id) input.merchantId db.merchants) .constraint
    demand (Present (·.id) input.transactionId db.transactions) .constraint
    return { db with
      supportCases := db.supportCases ++
        [{ id := input.id, merchantId := input.merchantId,
           transactionId := input.transactionId, reason := input.reason,
           reference := input.reference, correlationId := input.correlationId,
           createdAt := input.now }] }

def findSupportCaseByTransaction (db : Db) (transactionId : TransactionId)
    (merchantId : MerchantId) : Option SupportCaseRow :=
  db.supportCases.find? fun row =>
    row.transactionId = transactionId ∧ row.merchantId = merchantId

/-- Record a supervisor approval against a support case that has none. -/
def approveSupportCase (db : Db) (id : String) (approvedBy : String) (now : Timestamp) : Db :=
  { db with
    supportCases := update (fun row => row.id = id ∧ row.approvedBy = none)
      (fun row => { row with approvedBy := some approvedBy, approvedAt := some now })
      db.supportCases }

structure ClaimInput where
  transactionId : TransactionId
  workerId : String
  scanId : String
  now : Timestamp
  expiresAt : Timestamp

def findClaim (db : Db) (transactionId : TransactionId) : Option RecoveryClaimRow :=
  db.recoveryClaims.find? fun row => row.transactionId = transactionId

/-- A lease that was released or has expired may be taken over. -/
def claimable (transactionId : TransactionId) (now : Timestamp) (row : RecoveryClaimRow) : Bool :=
  row.transactionId = transactionId ∧ (row.active = false ∨ row.expiresAt ≤ now)

/-- Claim a transaction for recovery: a new lease, or one that may be taken over. The second
component says whether this worker won. -/
def claimTransaction (db : Db) (input : ClaimInput) : Except Fault (Db × Bool) :=
  if Present (·.transactionId) input.transactionId db.recoveryClaims then
    .ok ({ db with
        recoveryClaims := update (claimable input.transactionId input.now)
          (fun row => { row with
            workerId := input.workerId, scanId := input.scanId, attemptNo := row.attemptNo + 1,
            claimedAt := input.now, expiresAt := input.expiresAt, releasedAt := none,
            active := true })
          db.recoveryClaims },
      decide (changes (claimable input.transactionId input.now) db.recoveryClaims = 1))
  else do
    demand (Present (·.id) input.transactionId db.transactions) .constraint
    return ({ db with
        recoveryClaims := db.recoveryClaims ++
          [{ transactionId := input.transactionId, workerId := input.workerId,
             scanId := input.scanId, attemptNo := 1, claimedAt := input.now,
             expiresAt := input.expiresAt, releasedAt := none, active := true }] }, true)

def releaseClaim (db : Db) (transactionId : TransactionId) (workerId : String)
    (now : Timestamp) : Db :=
  { db with
    recoveryClaims :=
      update (fun row => row.transactionId = transactionId ∧ row.workerId = workerId ∧
          row.active = true)
        (fun row => { row with active := false, releasedAt := some now }) db.recoveryClaims }

/-- A row the sweep found. -/
structure Candidate where
  id : TransactionId
  merchantId : MerchantId
deriving DecidableEq

/-- Transactions in one of the states that were last touched at the cutoff or before, the
longest waiting first. -/
def findInFlightOlderThan (db : Db) (states : List TransactionState) (cutoff : Timestamp)
    (limit : Nat) (merchantId : Option MerchantId) : List Candidate :=
  let found := db.transactions.filter fun row =>
    row.state ∈ states ∧ row.updatedAt ≤ cutoff ∧ ∀ wanted ∈ merchantId, row.merchantId = wanted
  let ordered := found.mergeSort fun a b =>
    decide (a.updatedAt < b.updatedAt) || (a.updatedAt == b.updatedAt && decide (a.id ≤ b.id))
  (ordered.take limit).map fun row => ⟨row.id, row.merchantId⟩

theorem upsertPendingResolution_ok (h : upsertPendingResolution db input = .ok db') :
    ∃ jobs, db' = { db with pendingResolutions := jobs } := by
  unfold upsertPendingResolution at h
  split at h
  · cases h
    exact ⟨_, rfl⟩
  · simp only [bind_ok, demand_ok, pure_ok] at h
    obtain ⟨_, _, _, _, rfl⟩ := h
    exact ⟨_, rfl⟩

theorem createSupportCase_ok (h : createSupportCase db input = .ok db') :
    ∃ cases, db' = { db with supportCases := cases } := by
  unfold createSupportCase at h
  split at h
  · cases h
    exact ⟨_, rfl⟩
  · simp only [bind_ok, demand_ok, pure_ok] at h
    obtain ⟨_, _, _, _, _, _, rfl⟩ := h
    exact ⟨_, rfl⟩

theorem claimTransaction_ok (h : claimTransaction db input = .ok (db', won)) :
    ∃ claims, db' = { db with recoveryClaims := claims } := by
  unfold claimTransaction at h
  split at h
  · simp only [Except.ok.injEq, Prod.mk.injEq] at h
    exact ⟨_, h.1.symm⟩
  · simp only [bind_ok, demand_ok, pure_ok, Prod.mk.injEq] at h
    obtain ⟨_, _, rfl, _⟩ := h
    exact ⟨_, rfl⟩

end Telga.Persistence
