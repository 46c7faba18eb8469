import Telga.Persistence.Operations
import Telga.Persistence.Pending

namespace Telga.Application
open Domain Persistence Library

/-- What the surroundings answer during one atomic step: the clock's readings and the ids drawn,
in order, what an awaited provider call ends in, and whether the database throws instead of
doing a unit of work. -/
structure Input where
  now : Nat → Timestamp
  newId : Nat → String
  busy : Bool
  health : Answer Bool
  submission : Answer ProviderSubmissionResult
  status : Answer ProviderStatus
  reversal : Answer Unit
  shouldContinue : Bool

/-- One unit of work: all of it or, when anything in it throws, nothing. -/
def unit (input : Input) (work : Db → Except Fault (Db × α)) (db : Db) : Db × Except Fault α :=
  commit (fun db => do
    demand (input.busy = false) .busy
    work db) db

/-- The unit of work goes through: nothing in it throws. -/
def Commits (input : Input) (work : Db → Except Fault (Db × α)) (db : Db) : Prop :=
  ∃ next answer, unit input work db = (next, .ok answer)

/-- What the sale services are given besides the database. -/
structure SaleDeps where
  providerId : ProviderId
  catalog : ProductId → Option Bool
  mode : OperatingMode
  pendingMaximumMs : Int := 5 * 60 * 1000
  providerReverses : Bool := false

structure SaleRequest where
  merchantId : MerchantId
  deviceId : DeviceId
  operatorId : MerchantUserId
  productId : ProductId
  amount : Money
  recipient : String
  recipientMasked : Option String := none
  clientRequestId : String
  correlationId : Option CorrelationId := none

/-- True when the first instant has reached the second. -/
def isAfter (a b : Timestamp) : Bool :=
  decide (b ≤ a)

/-- Coarse, safe categories. Never a provider message verbatim. -/
inductive ProviderErrorCategory
  | none
  | confirmedFailure
  | rejected
  | indeterminate
  | duplicate
  | unreachable
deriving DecidableEq, Repr

inductive RejectionKind
  | payloadMismatch
  | insufficientBalance
  | unauthorized
  | productUnavailable
  | providerUnavailable
  | simulatedOnly
  | persistenceFailure
  | invalidRequest
deriving DecidableEq, Repr

/-- Where a sale stands when its state is told to the shop. -/
structure SaleOutcome where
  transactionId : TransactionId
  state : TransactionState
  correlationId : CorrelationId
  idempotencyKey : IdempotencyKey
  providerReference : Option String
  category : ProviderErrorCategory
  deadlineAt : Option Timestamp := .none
  supportReference : Option String := .none
deriving DecidableEq

/-- What a sale service answers: the state a sale is in, the sale an earlier request already
made, or a rejection. -/
inductive SaleResult
  | outcome (outcome : SaleOutcome)
  | duplicateRequest (originalTransactionId : TransactionId) (state : TransactionState)
      (correlationId : CorrelationId) (idempotencyKey : IdempotencyKey)
  | rejected (kind : RejectionKind) (reasonCode : String) (correlationId : CorrelationId)
      (idempotencyKey : Option IdempotencyKey) (transactionId : Option TransactionId)
deriving DecidableEq

/-- A stored row read back as the aggregate. -/
def rehydrate (row : TransactionRow) : Transaction :=
  { id := row.id, merchantId := row.merchantId, deviceId := row.deviceId,
    operatorId := row.operatorId, productId := row.productType, providerId := row.providerId,
    amount := row.amount, idempotencyKey := row.idempotencyKey,
    providerReference := row.providerReference, state := row.state, createdAt := row.createdAt,
    updatedAt := row.updatedAt }

/-- Persist a rehydrated transaction, carrying its stored fields forward. -/
def persistRehydrated (db : Db) (transaction : Transaction) (row : TransactionRow) :
    Except Fault Db :=
  saveTransaction db
    { transaction, productType := row.productType, recipientMasked := row.recipientMasked,
      payloadFingerprint := row.payloadFingerprint }

/-- The case number a support case of a transaction is given. -/
def supportReference (transactionId : TransactionId) : String :=
  "TG-" ++ transactionId.toUpper

/-- An audit event about a transaction. -/
def saveAudit (db : Db) (id : AuditEventId) (now : Timestamp) (action : AuditAction)
    (actor : AuditActor) (merchantId : MerchantId) (transactionId : TransactionId)
    (correlationId : CorrelationId) : Except Fault Db :=
  saveAuditEvent db
    { event := { id, occurredAt := now, action, actor, merchantId,
                 transactionId := some transactionId }
      correlationId
      entityType := "transaction"
      entityId := some transactionId }

/-- A unit of work that went through did its work on the database it found; one that threw left
the database as it was. -/
theorem unit_cases (input : Input) (work : Db → Except Fault (Db × α)) (db : Db) :
    (∃ next answer, input.busy = false ∧ work db = .ok (next, answer) ∧
      unit input work db = (next, .ok answer)) ∨
    (∃ fault, unit input work db = (db, .error fault)) := by
  unfold unit
  rcases commit_cases (fun db => do
      demand (input.busy = false) .busy
      work db) db with ⟨next, answer, done, same⟩ | ⟨fault, _, same⟩
  · simp only [bind_ok, demand_ok] at done
    obtain ⟨_, free, done⟩ := done
    exact .inl ⟨next, answer, free, done, same⟩
  · exact .inr ⟨fault, same⟩

theorem unit_ok (h : unit input work db = (db', .ok answer)) : work db = .ok (db', answer) := by
  rcases unit_cases input work db with ⟨next, told, _, done, same⟩ | ⟨fault, same⟩
  · rw [same] at h
    cases h
    exact done
  · rw [same] at h
    cases h

theorem unit_error (h : unit input work db = (db', .error fault)) : db' = db := by
  rcases unit_cases input work db with ⟨next, told, _, _, same⟩ | ⟨fault, same⟩
  · rw [same] at h
    cases h
  · rw [same] at h
    cases h
    rfl

/-- A unit of work that throws for no reason of its own is one the database was too busy for. -/
theorem unit_busy {work : Db → Except Fault (Db × α)} (done : work db = .ok (next, answer))
    (refused : unit input work db = (db', .error fault)) : ¬ input.busy = false := by
  intro free
  simp [unit, commit, demand, free, done, bind, Except.bind] at refused

theorem saveAudit_ok
    (h : saveAudit db auditId now action actor merchantId transactionId correlationId = .ok db') :
    ∃ audits, db' = { db with auditEvents := audits } :=
  saveAuditEvent_ok h

end Telga.Application
