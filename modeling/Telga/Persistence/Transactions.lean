import Telga.Library.Table
import Telga.Persistence.Schema

namespace Telga.Persistence
open Domain Library

def findMerchant (db : Db) (id : MerchantId) : Option MerchantRow :=
  db.merchants.find? fun row => row.id = id

def findDevice (db : Db) (id : DeviceId) : Option DeviceRow :=
  db.devices.find? fun row => row.id = id

/-- A device of one merchant. Another merchant's device is not found. -/
def findDeviceOf (db : Db) (id : DeviceId) (merchantId : MerchantId) : Option DeviceRow :=
  db.devices.find? fun row => row.id = id ∧ row.merchantId = merchantId

def activeMerchantIds (db : Db) : List MerchantId :=
  ((db.merchants.filter fun row => row.status = .active).map (·.id)).mergeSort fun a b => a ≤ b

/-- What a stored transaction carries beside the aggregate itself. -/
structure TransactionInput where
  transaction : Transaction
  productType : ProductId
  recipientMasked : String
  payloadFingerprint : String

def transactionRow (input : TransactionInput) : TransactionRow :=
  let t := input.transaction
  { id := t.id, merchantId := t.merchantId, deviceId := t.deviceId, operatorId := t.operatorId,
    productType := input.productType, providerId := t.providerId, amount := t.amount,
    recipientMasked := input.recipientMasked, state := t.state, idempotencyKey := t.idempotencyKey,
    payloadFingerprint := input.payloadFingerprint, providerReference := t.providerReference,
    createdAt := t.createdAt, updatedAt := t.updatedAt }

/-- The columns a conflicting save rewrites. -/
def overwrite (t : Transaction) (row : TransactionRow) : TransactionRow :=
  { row with
    state := t.state
    providerReference := t.providerReference
    updatedAt := t.updatedAt }

/-- Insert the row, or overwrite the state, reference and time of the one already stored under
the id. Nothing asks what state that one was in. -/
def saveTransaction (db : Db) (input : TransactionInput) : Except Fault Db := do
  let t := input.transaction
  demand (0 < t.amount.minor) .constraint
  if Present (·.id) t.id db.transactions then
    return { db with
      transactions := update (fun row => row.id = t.id) (overwrite t) db.transactions }
  else
    demand (∀ row ∈ db.transactions,
      ¬ (row.merchantId = t.merchantId ∧ row.idempotencyKey = t.idempotencyKey)) .constraint
    demand (Present (·.id) t.merchantId db.merchants) .constraint
    demand (Present (·.id) t.deviceId db.devices) .constraint
    return { db with transactions := db.transactions ++ [transactionRow input] }

/-- A transaction of one merchant. Merchant scoping is applied in the query. -/
def findTransaction (db : Db) (id : TransactionId) (merchantId : MerchantId) :
    Option TransactionRow :=
  db.transactions.find? fun row => row.id = id ∧ row.merchantId = merchantId

structure IdempotencyInput where
  key : IdempotencyKey
  merchantId : MerchantId
  requestIdentity : String
  payloadFingerprint : String
  transactionId : TransactionId
  now : Timestamp

def findIdempotencyRecord (db : Db) (merchantId : MerchantId) (key : IdempotencyKey) :
    Option IdempotencyRow :=
  db.idempotencyRecords.find? fun row => row.merchantId = merchantId ∧ row.key = key

/-- The primary key is merchant and key together, so merchants cannot collide. -/
def saveIdempotencyRecord (db : Db) (input : IdempotencyInput) : Except Fault Db := do
  demand (findIdempotencyRecord db input.merchantId input.key = none) .duplicateIdempotencyRecord
  demand (Present (·.id) input.merchantId db.merchants) .constraint
  demand (Present (·.id) input.transactionId db.transactions) .constraint
  return { db with
    idempotencyRecords := db.idempotencyRecords ++
      [{ key := input.key, merchantId := input.merchantId,
         requestIdentity := input.requestIdentity,
         payloadFingerprint := input.payloadFingerprint,
         transactionId := input.transactionId, resultState := none, updatedAt := input.now }] }

/-- Record the settled outcome against an idempotency record, for replay. -/
def recordIdempotencyResult (db : Db) (merchantId : MerchantId) (key : IdempotencyKey)
    (state : TransactionState) (now : Timestamp) : Db :=
  { db with
    idempotencyRecords :=
      update (fun row => row.merchantId = merchantId ∧ row.key = key)
        (fun row => { row with resultState := some state, updatedAt := now })
        db.idempotencyRecords }

structure AuditInput where
  event : AuditEvent
  correlationId : CorrelationId
  entityType : String
  entityId : Option String

def saveAuditEvent (db : Db) (input : AuditInput) : Except Fault Db := do
  demand (¬ Present (·.event.id) input.event.id db.auditEvents) .constraint
  return { db with
    auditEvents := db.auditEvents ++
      [{ event := input.event, entityType := input.entityType,
         entityId := input.entityId <|> input.event.transactionId,
         correlationId := input.correlationId }] }

theorem findTransaction_ok (h : findTransaction db transactionId merchantId = some row) :
    row ∈ db.transactions ∧ row.id = transactionId ∧ row.merchantId = merchantId := by
  have fits := List.find?_some h
  simp only [decide_eq_true_eq] at fits
  exact ⟨List.mem_of_find?_eq_some h, fits.1, fits.2⟩

theorem saveTransaction_ok (h : saveTransaction db input = .ok db') :
    0 < input.transaction.amount.minor ∧
    ((Present (·.id) input.transaction.id db.transactions ∧
      db' = { db with
        transactions := update (fun row => row.id = input.transaction.id)
          (overwrite input.transaction) db.transactions }) ∨
     (¬ Present (·.id) input.transaction.id db.transactions ∧
      (∀ row ∈ db.transactions, ¬ (row.merchantId = input.transaction.merchantId ∧
        row.idempotencyKey = input.transaction.idempotencyKey)) ∧
      Present (·.id) input.transaction.merchantId db.merchants ∧
      Present (·.id) input.transaction.deviceId db.devices ∧
      db' = { db with transactions := db.transactions ++ [transactionRow input] })) := by
  simp only [saveTransaction, bind_ok, demand_ok] at h
  obtain ⟨_, positive, h⟩ := h
  refine ⟨positive, ?_⟩
  split at h
  · rename_i stored
    simp only [pure_ok] at h
    exact .inl ⟨stored, h.symm⟩
  · rename_i absent
    simp only [bind_ok, demand_ok, pure_ok] at h
    obtain ⟨_, apart, _, merchant, _, device, rfl⟩ := h
    exact .inr ⟨absent, apart, merchant, device, rfl⟩

theorem saveIdempotencyRecord_ok (h : saveIdempotencyRecord db input = .ok db') :
    findIdempotencyRecord db input.merchantId input.key = none ∧
    db' = { db with
      idempotencyRecords := db.idempotencyRecords ++
        [{ key := input.key, merchantId := input.merchantId,
           requestIdentity := input.requestIdentity,
           payloadFingerprint := input.payloadFingerprint,
           transactionId := input.transactionId, resultState := none,
           updatedAt := input.now }] } := by
  simp only [saveIdempotencyRecord, bind_ok, demand_ok, pure_ok] at h
  obtain ⟨_, absent, _, _, _, _, rfl⟩ := h
  exact ⟨absent, rfl⟩

theorem saveAuditEvent_ok (h : saveAuditEvent db input = .ok db') :
    ∃ audits, db' = { db with auditEvents := audits } := by
  simp only [saveAuditEvent, bind_ok, demand_ok, pure_ok] at h
  obtain ⟨_, _, rfl⟩ := h
  exact ⟨_, rfl⟩

/-- One event is appended, under its own id. -/
theorem saveAuditEvent_appends (h : saveAuditEvent db input = .ok db') :
    ∃ row, row.event = input.event ∧
      db' = { db with auditEvents := db.auditEvents ++ [row] } := by
  simp only [saveAuditEvent, bind_ok, demand_ok, pure_ok] at h
  obtain ⟨_, _, rfl⟩ := h
  exact ⟨_, rfl, rfl⟩

end Telga.Persistence
