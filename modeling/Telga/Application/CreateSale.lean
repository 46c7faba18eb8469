import Telga.Application.Context
import Telga.Domain.Idempotency

namespace Telga.Application
open Domain Persistence Library

/-- One request to sell, with what the service was given to answer it. -/
structure SaleCall where
  deps : SaleDeps
  request : SaleRequest

def SaleCall.intent (call : SaleCall) : SaleIntent :=
  { merchantId := call.request.merchantId, deviceId := call.request.deviceId,
    productId := call.request.productId, amount := call.request.amount,
    recipient := call.request.recipient, clientRequestId := call.request.clientRequestId }

def SaleCall.key (call : SaleCall) : IdempotencyKey :=
  deriveIdempotencyKey call.intent

def SaleCall.fingerprint (call : SaleCall) : String :=
  payloadFingerprint call.intent

/-- The mask the sale is stored with: the one the caller holds, or that of the recipient. -/
def SaleCall.recipientMasked (call : SaleCall) : String :=
  call.request.recipientMasked.getD (maskRecipient call.request.recipient)

/-- Who is acting: the operator at the counter. -/
def SaleCall.actor (call : SaleCall) : AuditActor :=
  ⟨call.request.operatorId, .merchantOperator⟩

/-- What a submission came to, once the provider answered or threw. -/
structure Submitted where
  state : SubmissionState
  providerReference : Option String
  category : ProviderErrorCategory
deriving DecidableEq

/-- Where a call stands between two atomic steps. -/
inductive SalePoint
  | begin
  | device
  | lookUp
  | original (record : IdempotencyRow)
  | health
  | reserving
  | submitting (reserved : Transaction)
  | awaiting (processing : Transaction)
  | applying (processing : Transaction) (submitted : Submitted)
  | releasing (processing : Transaction)
  | returned (result : SaleResult)
  | threw (fault : Fault)
deriving DecidableEq

/-- A running call of `createSale`. -/
structure CreateSale extends SaleCall where
  correlationId : CorrelationId
  point : SalePoint

def CreateSale.reject (sale : CreateSale) (kind : RejectionKind) (reasonCode : String)
    (idempotencyKey : Option IdempotencyKey := none) (transactionId : Option TransactionId := none) :
    SalePoint :=
  .returned (.rejected kind reasonCode sale.correlationId idempotencyKey transactionId)

/-- The checks on the request itself, in order; nothing when it passes. -/
def validationFailure (call : SaleCall) : Option (RejectionKind × String) :=
  if call.deps.catalog call.request.productId ≠ some true then
    some (.productUnavailable, "PRODUCT_NOT_AVAILABLE")
  else if isPositive call.request.amount = false then
    some (.invalidRequest, "AMOUNT_INVALID")
  else if textLength (trim call.request.recipient) < 6 then
    some (.invalidRequest, "RECIPIENT_INVALID")
  else if textLength (trim call.request.clientRequestId) = 0 then
    some (.invalidRequest, "CLIENT_REQUEST_ID_MISSING")
  else none

/-- Persist the transaction row at its current state. -/
def persist (db : Db) (call : SaleCall) (transaction : Transaction) : Except Fault Db :=
  saveTransaction db
    { transaction, productType := transaction.productId,
      recipientMasked := call.recipientMasked
      payloadFingerprint := call.fingerprint }

def auditSale (db : Db) (call : SaleCall) (transaction : Transaction) (action : AuditAction)
    (correlationId : CorrelationId) (auditId : AuditEventId) (now : Timestamp) : Except Fault Db :=
  saveAudit db auditId now action ⟨transaction.operatorId, .merchantOperator⟩
    transaction.merchantId transaction.id correlationId

/-- What the ledger operations of a call are given. -/
def CreateSale.operation (sale : CreateSale) (transactionId : TransactionId) (now : Timestamp)
    (postingId : PostingId) (auditId : AuditEventId) : OperationContext :=
  { merchantId := sale.request.merchantId, transactionId, amount := sale.request.amount, now,
    correlationId := sale.correlationId, actor := sale.actor, postingId, auditId }

/-- Unit of work 1: create, validate, reserve, record. -/
def openSale (sale : CreateSale) (input : Input) (db : Db) : Except Fault (Db × Transaction) := do
  let call := sale.toSaleCall
  let created ← createTransaction
    { id := input.newId 0, merchantId := call.request.merchantId,
      deviceId := call.request.deviceId, operatorId := call.request.operatorId,
      productId := call.request.productId, providerId := some call.deps.providerId,
      amount := call.request.amount, idempotencyKey := call.key, mode := call.deps.mode,
      createdAt := input.now 0 }
  assertPositive created.amount
  let db ← persist db call created
  let db ← auditSale db call created .transactionCreated sale.correlationId (input.newId 1)
    (input.now 1)
  let validated ← transitionTo created .validated (input.now 2)
  let db ← persist db call validated
  let db ← reserve db
    (sale.operation (input.newId 0) (input.now 3) (input.newId 2) (input.newId 3))
    (some (input.newId 4))
  let reserved ← transitionTo validated .reserved (input.now 4)
  let db ← persist db call reserved
  let db ← auditSale db call reserved .transactionTransitioned sale.correlationId (input.newId 5)
    (input.now 5)
  let db ← saveIdempotencyRecord db
    { key := call.key, merchantId := call.request.merchantId,
      requestIdentity := canonicalKeySource call.intent,
      payloadFingerprint := call.fingerprint, transactionId := input.newId 0,
      now := input.now 6 }
  return (db, reserved)

/-- The unit of work before the submission, from the transaction held in memory. -/
def markProcessing (sale : CreateSale) (reserved : Transaction) (input : Input) (db : Db) :
    Except Fault (Db × Transaction) := do
  let next ← transitionTo reserved .processing (input.now 0)
  let db ← persist db sale.toSaleCall next
  let db ← auditSale db sale.toSaleCall next .providerSubmitted sale.correlationId (input.newId 0)
    (input.now 1)
  return (db, next)

/-- The outcome a sale has once its state is stored. -/
def CreateSale.answer (sale : CreateSale) (transaction : Transaction)
    (providerReference : Option String) (category : ProviderErrorCategory)
    (deadlineAt : Option Timestamp := none) : SaleResult :=
  .outcome
    { transactionId := transaction.id, state := transaction.state,
      correlationId := sale.correlationId, idempotencyKey := sale.key, providerReference,
      category, deadlineAt }

/-- Unit of work 2 when the provider confirmed delivery: debit, and record the commission. -/
def settleSale (sale : CreateSale) (processing : Transaction) (submitted : Submitted)
    (input : Input) (db : Db) : Except Fault (Db × SaleResult) := do
  let now := input.now 0
  let settled ← transitionTo processing .successful now submitted.providerReference
  let db ← persist db sale.toSaleCall settled
  let fees := db.platformFeeSettings
  let commissionBps := effectiveCommissionBps db (some sale.deps.providerId) sale.request.productId
  let split ← splitCommission sale.request.amount.minor commissionBps fees.shopShareBps.value
  let db ← finalizeSuccess db
    (sale.operation processing.id now (input.newId 0) (input.newId 1))
    split.shopShareMinor commissionBps
  let db ← recordCommission db
    { id := input.newId 2, transactionId := processing.id, merchantId := sale.request.merchantId,
      providerId := some sale.deps.providerId, productType := sale.request.productId,
      transactionAmount := sale.request.amount, split, now }
  let db ← auditSale db sale.toSaleCall settled .transactionTransitioned sale.correlationId
    (input.newId 3) (input.now 1)
  let db := recordIdempotencyResult db sale.request.merchantId sale.key .successful now
  return (db, sale.answer settled submitted.providerReference .none)

/-- Unit of work 2 when the provider confirmed failure or refused: release. -/
def failSale (sale : CreateSale) (processing : Transaction) (submitted : Submitted)
    (input : Input) (db : Db) : Except Fault (Db × SaleResult) := do
  let now := input.now 0
  let failed ← transitionTo processing .failed now submitted.providerReference
  let db ← persist db sale.toSaleCall failed
  let db ← release db (sale.operation processing.id now (input.newId 0) (input.newId 1))
  let db ← auditSale db sale.toSaleCall failed .transactionTransitioned sale.correlationId
    (input.newId 2) (input.now 1)
  let db := recordIdempotencyResult db sale.request.merchantId sale.key .failed now
  return (db, sale.answer failed submitted.providerReference submitted.category)

/-- Unit of work 2 when nobody knows: the reservation stays held, and a resolution job carries
the deadline. -/
def holdSale (sale : CreateSale) (processing : Transaction) (submitted : Submitted)
    (input : Input) (db : Db) : Except Fault (Db × SaleResult) := do
  let now := input.now 0
  let pending ← transitionTo processing .pending now submitted.providerReference
  let db ← persist db sale.toSaleCall pending
  let deadlineAt := now + sale.deps.pendingMaximumMs
  let db ← upsertPendingResolution db
    { transactionId := processing.id, merchantId := sale.request.merchantId,
      idempotencyKey := sale.key, providerReference := submitted.providerReference,
      correlationId := sale.correlationId, firstPendingAt := now, deadlineAt }
  let db ← auditSale db sale.toSaleCall pending .transactionTransitioned sale.correlationId
    (input.newId 0) (input.now 1)
  return (db, sale.answer pending submitted.providerReference submitted.category (some deadlineAt))

def applyOutcome (sale : CreateSale) (processing : Transaction) (submitted : Submitted)
    (input : Input) (db : Db) : Except Fault (Db × SaleResult) :=
  match submitted.state with
  | .successful => settleSale sale processing submitted input db
  | .failed => failSale sale processing submitted input db
  | .pending => holdSale sale processing submitted input db

/-- Release a reservation when the sale cannot proceed at all. -/
def releaseQuietly (sale : CreateSale) (processing : Transaction) (input : Input) (db : Db) :
    Except Fault (Db × Unit) := do
  let now := input.now 0
  let failed ← transitionTo processing .failed now
  let db ← persist db sale.toSaleCall failed
  let db ← release db (sale.operation processing.id now (input.newId 0) (input.newId 1))
  return (db, ())

/-- What an answered submission comes to. -/
def submittedAs (result : ProviderSubmissionResult) : Submitted :=
  { state := stateForSubmission result.outcome
    providerReference := result.providerReference
    category :=
      match result.outcome with
      | .confirmedFailure => .confirmedFailure
      | .rejected => .rejected
      | .duplicate => .duplicate
      | .indeterminate => .indeterminate
      | .confirmedSuccess => .none }

/-- The provider threw. Whether it delivered is not known. -/
def unreachable : Submitted :=
  { state := .pending, providerReference := none, category := .unreachable }

def CreateSale.at (sale : CreateSale) (point : SalePoint) : CreateSale :=
  { sale with point }

/-- What a call asks the provider for, while it waits for the answer. -/
def CreateSale.submission (sale : CreateSale) : Option ProviderSubmission :=
  match sale.point with
  | .awaiting processing =>
    some { transactionId := processing.id, merchantId := sale.request.merchantId,
           productId := sale.request.productId, amount := sale.request.amount,
           recipient := sale.request.recipient, idempotencyKey := sale.key }
  | _ => none

/-- A stable, safe code for an unexpected error, never the message itself. -/
def safeCode (fault : Fault) : String :=
  match faultCode fault with
  | some code => if isDomainError fault then code else "PERSISTENCE_" ++ code
  | none => "UNEXPECTED_PERSISTENCE_ERROR"

/-- How the first unit's refusal is told to the shop. Everything rolled back. -/
def CreateSale.refusal (sale : CreateSale) (fault : Fault) : SalePoint :=
  match fault with
  | .insufficientAvailableBalance =>
    sale.reject .insufficientBalance "INSUFFICIENT_AVAILABLE_BALANCE" (some sale.key)
  | .liveMoneyDisabled => sale.reject .simulatedOnly "LIVE_MODE_REFUSED" (some sale.key)
  | other => sale.reject .persistenceFailure (safeCode other) (some sale.key)

/-- One atomic step of `createSale`: a read, a unit of work or an awaited provider call, and the
decisions up to the next one. -/
def CreateSale.step (input : Input) (db : Db) (sale : CreateSale) : Db × CreateSale :=
  match sale.point with
  | .begin =>
    let sale := { sale with
      correlationId := sale.request.correlationId.getD (input.newId 0) }
    if sale.deps.mode ≠ .training then
      (db, sale.at (sale.reject .simulatedOnly "LIVE_MODE_REFUSED"))
    else if (findMerchant db sale.request.merchantId).any (fun row => row.status = .active) then
      (db, sale.at .device)
    else (db, sale.at (sale.reject .unauthorized "MERCHANT_NOT_ACTIVE"))
  | .device =>
    match findDeviceOf db sale.request.deviceId sale.request.merchantId with
    | none => (db, sale.at (sale.reject .unauthorized "DEVICE_NOT_OWNED_BY_MERCHANT"))
    | some device =>
      if device.status ≠ .active then
        (db, sale.at (sale.reject .unauthorized "DEVICE_NOT_ACTIVE"))
      else
        match validationFailure sale.toSaleCall with
        | some (kind, reasonCode) => (db, sale.at (sale.reject kind reasonCode))
        | none => (db, sale.at .lookUp)
  | .lookUp =>
    match findIdempotencyRecord db sale.request.merchantId sale.key with
    | none => (db, sale.at .health)
    | some existing =>
      if existing.payloadFingerprint ≠ sale.fingerprint then
        (db, sale.at (sale.reject .payloadMismatch "IDEMPOTENCY_PAYLOAD_MISMATCH" (some sale.key)))
      else (db, sale.at (.original existing))
  | .original record =>
    let state := ((findTransaction db record.transactionId sale.request.merchantId).map
      (·.state)).getD .created
    (db, sale.at (.returned
      (.duplicateRequest record.transactionId state sale.correlationId sale.key)))
  | .health =>
    match input.health with
    | .answered true => (db, sale.at .reserving)
    | .answered false =>
      (db, sale.at (sale.reject .providerUnavailable "PROVIDER_UNHEALTHY" (some sale.key)))
    | .threw _ _ => (db, sale.at (.threw .unexpected))
  | .reserving =>
    match unit input (openSale sale input) db with
    | (db, .ok reserved) => (db, sale.at (.submitting reserved))
    | (db, .error fault) => (db, sale.at (sale.refusal fault))
  | .submitting reserved =>
    match unit input (markProcessing sale reserved input) db with
    | (db, .ok processing) => (db, sale.at (.awaiting processing))
    | (db, .error fault) => (db, sale.at (.threw fault))
  | .awaiting processing =>
    match input.submission with
    | .answered result => (db, sale.at (.applying processing (submittedAs result)))
    | .threw true _ => (db, sale.at (.releasing processing))
    | .threw false _ => (db, sale.at (.applying processing unreachable))
  | .applying processing submitted =>
    match unit input (applyOutcome sale processing submitted input) db with
    | (db, .ok result) => (db, sale.at (.returned result))
    | (db, .error fault) => (db, sale.at (.threw fault))
  | .releasing processing =>
    match unit input (releaseQuietly sale processing input) db with
    | (db, .ok _) =>
      (db, sale.at (sale.reject .simulatedOnly "LIVE_MODE_REFUSED" (some sale.key)
        (some processing.id)))
    | (db, .error fault) => (db, sale.at (.threw fault))
  | .returned _ => (db, sale)
  | .threw _ => (db, sale)

end Telga.Application
