import Telga.Application.Context

namespace Telga.Application
open Domain Persistence Library

/-- Report the state a sale is in. -/
def terminalResult (state : TransactionState) (transactionId : TransactionId)
    (correlationId : CorrelationId) (idempotencyKey : IdempotencyKey)
    (providerReference : Option String) (reference : Option String := none) : SaleResult :=
  let told := fun (state : TransactionState) (category : ProviderErrorCategory)
      (reference : Option String) =>
    SaleResult.outcome
      { transactionId, state, correlationId, idempotencyKey, providerReference, category,
        supportReference := reference }
  match state with
  | .successful => told .successful .none none
  | .failed => told .failed .confirmedFailure none
  | .underReview => told .underReview .indeterminate (some (reference.getD ""))
  | _ => told .pending .indeterminate none

/-- Where a call stands between two atomic steps. -/
inductive ResolvePoint
  | begin
  | job (row : TransactionRow)
  | support (row : TransactionRow) (correlationId : CorrelationId)
  | recording (row : TransactionRow) (job : Option PendingResolutionRow)
      (correlationId : CorrelationId)
  | awaiting (row : TransactionRow) (job : Option PendingResolutionRow)
      (correlationId : CorrelationId)
  | applying (row : TransactionRow) (job : Option PendingResolutionRow)
      (correlationId : CorrelationId) (status : ProviderStatus)
  | returned (result : SaleResult)
  | threw (fault : Fault)
deriving DecidableEq

/-- A running call of `resolvePending`. -/
structure ResolvePending where
  transactionId : TransactionId
  merchantId : MerchantId
  point : ResolvePoint

def operatorOf (row : TransactionRow) : AuditActor :=
  ⟨row.operatorId, .merchantOperator⟩

/-- What the ledger operations of a call are given: the stored row's own amount. -/
def ResolvePending.operation (call : ResolvePending) (row : TransactionRow) (now : Timestamp)
    (correlationId : CorrelationId) (postingId : PostingId) (auditId : AuditEventId) :
    OperationContext :=
  { merchantId := call.merchantId, transactionId := call.transactionId, amount := row.amount, now,
    correlationId, actor := operatorOf row, postingId, auditId }

/-- The provider delivered: debit. -/
def resolveSuccess (call : ResolvePending) (current : TransactionRow)
    (correlationId : CorrelationId) (status : ProviderStatus) (input : Input) (db : Db) :
    Except Fault (Db × SaleResult) := do
  let now := input.now 0
  let next ← transitionTo (rehydrate current) .successful now status.providerReference
  let db ← persistRehydrated db next current
  let db ← finalizeSuccess db
    (call.operation current now correlationId (input.newId 0) (input.newId 1))
  let db ← saveAudit db (input.newId 2) now .transactionTransitioned (operatorOf current)
    call.merchantId call.transactionId correlationId
  let db := recordIdempotencyResult db call.merchantId current.idempotencyKey .successful now
  return (db, terminalResult .successful call.transactionId correlationId current.idempotencyKey
    status.providerReference)

/-- The provider did not deliver: release. -/
def resolveFailure (call : ResolvePending) (current : TransactionRow)
    (correlationId : CorrelationId) (status : ProviderStatus) (input : Input) (db : Db) :
    Except Fault (Db × SaleResult) := do
  let now := input.now 0
  let next ← transitionTo (rehydrate current) .failed now status.providerReference
  let db ← persistRehydrated db next current
  let db ← release db
    (call.operation current now correlationId (input.newId 0) (input.newId 1))
  let db ← saveAudit db (input.newId 2) now .transactionTransitioned (operatorOf current)
    call.merchantId call.transactionId correlationId
  let db := recordIdempotencyResult db call.merchantId current.idempotencyKey .failed now
  return (db, terminalResult .failed call.transactionId correlationId current.idempotencyKey
    status.providerReference)

/-- Past the deadline: escalate. No refund, no release, no guess. -/
def escalatePending (call : ResolvePending) (current : TransactionRow)
    (correlationId : CorrelationId) (input : Input) (db : Db) : Except Fault (Db × SaleResult) := do
  let now := input.now 0
  let escalated ← transitionTo (rehydrate current) .underReview now
  let db ← persistRehydrated db escalated current
  let db ← moveToUnderReview db
    (call.operation current now correlationId (input.newId 0) (input.newId 1))
  let db ← createSupportCase db
    { id := input.newId 2, merchantId := call.merchantId, transactionId := call.transactionId,
      reason := .underReview, reference := supportReference call.transactionId, correlationId,
      now }
  let db ← saveAudit db (input.newId 3) now .transactionTransitioned (operatorOf current)
    call.merchantId call.transactionId correlationId
  return (db, terminalResult .underReview call.transactionId correlationId current.idempotencyKey
    current.providerReference (some (supportReference call.transactionId)))

/-- Close the pending job and go on; when it is closed already, report and change nothing. -/
def closing (call : ResolvePending) (status : PendingStatus) (current : TransactionRow)
    (correlationId : CorrelationId) (now : Timestamp) (db : Db)
    (work : Db → Except Fault (Db × SaleResult)) : Except Fault (Db × SaleResult) :=
  let (closed, changed) := closePendingResolution db call.transactionId status now
  if changed then work closed
  else
    return (closed, terminalResult current.state call.transactionId correlationId
      current.idempotencyKey current.providerReference)

/-- The unit of work after the lookup, which reads the row again before it decides. -/
def applyStatus (call : ResolvePending) (row : TransactionRow) (job : Option PendingResolutionRow)
    (correlationId : CorrelationId) (status : ProviderStatus) (input : Input) (db : Db) :
    Except Fault (Db × SaleResult) :=
  let now := input.now 0
  let found := findTransaction db call.transactionId call.merchantId
  match found.filter fun current => current.state = .pending with
  | none =>
    return (db, terminalResult ((found.map (·.state)).getD row.state) call.transactionId
      correlationId row.idempotencyKey row.providerReference)
  | some current =>
    match status.outcome with
    | .success =>
      closing call .resolved current correlationId now db fun db =>
        resolveSuccess call current correlationId status input db
    | .failure =>
      closing call .resolved current correlationId now db fun db =>
        resolveFailure call current correlationId status input db
    | _ =>
      let deadline := (job.map (·.deadlineAt)).getD now
      if isAfter now deadline = false then
        return (db, .outcome
          { transactionId := call.transactionId, state := .pending, correlationId,
            idempotencyKey := current.idempotencyKey,
            providerReference := current.providerReference, category := .indeterminate,
            deadlineAt := some deadline })
      else
        closing call .escalated current correlationId now db fun db =>
          escalatePending call current correlationId input db

def ResolvePending.at (call : ResolvePending) (point : ResolvePoint) : ResolvePending :=
  { call with point }

/-- One atomic step of `resolvePending`. -/
def ResolvePending.step (input : Input) (db : Db) (call : ResolvePending) : Db × ResolvePending :=
  match call.point with
  | .begin =>
    match findTransaction db call.transactionId call.merchantId with
    | none =>
      (db, call.at (.returned (.rejected .unauthorized "TRANSACTION_NOT_FOUND_FOR_MERCHANT"
        (input.newId 0) none none)))
    | some row => (db, call.at (.job row))
  | .job row =>
    let job := findPendingResolution db call.transactionId
    let correlationId := (job.map (·.correlationId)).getD (input.newId 0)
    if row.state ≠ .pending then (db, call.at (.support row correlationId))
    else (db, call.at (.recording row job correlationId))
  | .support row correlationId =>
    let support := findSupportCaseByTransaction db call.transactionId call.merchantId
    (db, call.at (.returned (terminalResult row.state call.transactionId correlationId
      row.idempotencyKey row.providerReference (support.map (·.reference)))))
  | .recording row job correlationId =>
    match unit input
        (fun db => .ok (recordResolutionAttempt db call.transactionId (input.now 0), ())) db with
    | (db, .ok _) => (db, call.at (.awaiting row job correlationId))
    | (db, .error fault) => (db, call.at (.threw fault))
  | .awaiting row job correlationId =>
    match input.status with
    | .answered status => (db, call.at (.applying row job correlationId status))
    | .threw _ _ => (db, call.at (.threw .unexpected))
  | .applying row job correlationId status =>
    match unit input (applyStatus call row job correlationId status input) db with
    | (db, .ok result) => (db, call.at (.returned result))
    | (db, .error fault) => (db, call.at (.threw fault))
  | .returned _ => (db, call)
  | .threw _ => (db, call)

end Telga.Application
