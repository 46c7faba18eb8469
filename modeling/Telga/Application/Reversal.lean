import Telga.Application.Context

namespace Telga.Application
open Domain Persistence Library

/-- Who authorized a refund, reversal or exceptional balance action. -/
structure ReversalApproval where
  approvedBy : String
  role : ActorRole

/-- Only these roles may authorize a reversal. -/
def supervisorRoles : List ActorRole := [.opsApprover, .admin]

def notFound (correlationId : CorrelationId) : SaleResult :=
  .rejected .unauthorized "TRANSACTION_NOT_FOUND_FOR_MERCHANT" correlationId none none

def stateCode : TransactionState → String
  | .created => "CREATED"
  | .validated => "VALIDATED"
  | .reserved => "RESERVED"
  | .submitted => "SUBMITTED"
  | .processing => "PROCESSING"
  | .pending => "PENDING"
  | .underReview => "UNDER_REVIEW"
  | .reversalRequired => "REVERSAL_REQUIRED"
  | .successful => "SUCCESSFUL"
  | .failed => "FAILED"
  | .reversed => "REVERSED"
  | .rejected => "REJECTED"

def roleCode : ActorRole → String
  | .merchantOperator => "MERCHANT_OPERATOR"
  | .merchantOwner => "MERCHANT_OWNER"
  | .opsVerifier => "OPS_VERIFIER"
  | .opsApprover => "OPS_APPROVER"
  | .opsReconciler => "OPS_RECONCILER"
  | .opsSupport => "OPS_SUPPORT"
  | .admin => "ADMIN"
  | .system => "SYSTEM"

/-- The result of a sale in one of the reversal states; the case number stands for the
correlation id too. -/
def reversalResult (state : TransactionState) (row : TransactionRow) (reference : String) :
    SaleResult :=
  .outcome
    { transactionId := row.id, state, correlationId := reference,
      idempotencyKey := row.idempotencyKey, providerReference := row.providerReference,
      category := .indeterminate, supportReference := some reference }

/-- Where a call of `requireReversal` stands between two atomic steps. -/
inductive RequirePoint
  | begin
  | support (row : TransactionRow)
  | requiring (row : TransactionRow)
  | returned (result : SaleResult)
  | threw (fault : Fault)
deriving DecidableEq

/-- A running call of `requireReversal`. -/
structure RequireReversal where
  transactionId : TransactionId
  merchantId : MerchantId
  point : RequirePoint

/-- The unit of work that records that a reversal is required, from the row read before it. -/
def markReversalRequired (call : RequireReversal) (row : TransactionRow) (input : Input)
    (db : Db) : Except Fault (Db × SaleResult) := do
  let now := input.now 0
  let correlationId := ((findPendingResolution db call.transactionId).map
    (·.correlationId)).getD (input.newId 0)
  -- A row still pending has its resolution job closed, so no worker pass can move it afterwards.
  let db := if row.state = .pending then
      (closePendingResolution db call.transactionId .escalated now).1
    else db
  let next ← transitionTo (rehydrate row) .reversalRequired now
  let db ← persistRehydrated db next row
  let existing := findSupportCaseByTransaction db call.transactionId call.merchantId
  let reference := (existing.map (·.reference)).getD (supportReference call.transactionId)
  let db ← if existing = none then
      createSupportCase db
        { id := input.newId 1, merchantId := call.merchantId,
          transactionId := call.transactionId, reason := .reversalRequired, reference,
          correlationId, now }
    else .ok db
  let db ← saveAudit db (input.newId 2) now .transactionTransitioned ⟨"system", .opsSupport⟩
    call.merchantId call.transactionId correlationId
  return (db, reversalResult .reversalRequired row reference)

def RequireReversal.at (call : RequireReversal) (point : RequirePoint) : RequireReversal :=
  { call with point }

/-- One atomic step of `requireReversal`. -/
def RequireReversal.step (input : Input) (db : Db) (call : RequireReversal) :
    Db × RequireReversal :=
  match call.point with
  | .begin =>
    match findTransaction db call.transactionId call.merchantId with
    | none => (db, call.at (.returned (notFound (input.newId 0))))
    | some row =>
      if row.state = .reversalRequired then (db, call.at (.support row))
      else if row.state = .pending ∨ row.state = .underReview then (db, call.at (.requiring row))
      else
        (db, call.at (.returned (.rejected .invalidRequest
          ("REVERSAL_NOT_LEGAL_FROM_" ++ stateCode row.state) (input.newId 0) none
          (some call.transactionId))))
  | .support row =>
    let existing := findSupportCaseByTransaction db call.transactionId call.merchantId
    (db, call.at (.returned
      (reversalResult .reversalRequired row ((existing.map (·.reference)).getD ""))))
  | .requiring row =>
    match unit input (markReversalRequired call row input) db with
    | (db, .ok result) => (db, call.at (.returned result))
    | (db, .error fault) => (db, call.at (.threw fault))
  | .returned _ => (db, call)
  | .threw _ => (db, call)

/-- Where a call of `completeReversal` stands between two atomic steps. -/
inductive CompletePoint
  | begin
  | support (row : TransactionRow)
  | reversing (row : TransactionRow) (support : Option SupportCaseRow)
  | completing (row : TransactionRow) (support : Option SupportCaseRow)
  | returned (result : SaleResult)
  | threw (fault : Fault)
deriving DecidableEq

/-- A running call of `completeReversal`. -/
structure CompleteReversal where
  deps : SaleDeps
  transactionId : TransactionId
  merchantId : MerchantId
  approval : ReversalApproval
  point : CompletePoint

/-- The unit of work that posts the adjustment and returns the value, from whichever bucket
holds it. -/
def postReversal (call : CompleteReversal) (row : TransactionRow)
    (support : Option SupportCaseRow) (input : Input) (db : Db) :
    Except Fault (Db × SaleResult) := do
  let now := input.now 0
  let reference := (support.map (·.reference)).getD (supportReference call.transactionId)
  match (findTransaction db call.transactionId call.merchantId).filter fun current =>
      current.state = .reversalRequired with
  | none => return (db, reversalResult .reversed row reference)
  | some current =>
    let actor : AuditActor := ⟨"system", call.approval.role⟩
    let correlationId := (support.map (·.correlationId)).getD (input.newId 0)
    let context : OperationContext :=
      { merchantId := call.merchantId, transactionId := call.transactionId,
        amount := current.amount, now, correlationId, actor, postingId := input.newId 1,
        auditId := input.newId 2 }
    let reservation := findReservation db call.transactionId call.merchantId
    let db ← if reservation.any fun held => held.status = .underReview then
        releaseFromUnderReview db context
      else release db context
    let next ← transitionTo (rehydrate current) .reversed now
    let db ← persistRehydrated db next current
    let db ← saveAudit db (input.newId 3) now .adjustmentPosted actor call.merchantId
      call.transactionId correlationId
    let db := match support with
      | some case => approveSupportCase db case.id call.approval.approvedBy now
      | none => db
    let db := recordIdempotencyResult db call.merchantId current.idempotencyKey .reversed now
    return (db, reversalResult .reversed current reference)

def CompleteReversal.at (call : CompleteReversal) (point : CompletePoint) : CompleteReversal :=
  { call with point }

/-- One atomic step of `completeReversal`. -/
def CompleteReversal.step (input : Input) (db : Db) (call : CompleteReversal) :
    Db × CompleteReversal :=
  match call.point with
  | .begin =>
    if ¬ supervisorRoles.contains call.approval.role then
      (db, call.at (.returned (.rejected .unauthorized
        ("REVERSAL_REQUIRES_SUPERVISOR_APPROVAL_NOT_" ++ roleCode call.approval.role)
        (input.newId 0) none (some call.transactionId))))
    else
      match findTransaction db call.transactionId call.merchantId with
      | none => (db, call.at (.returned (notFound (input.newId 0))))
      | some row => (db, call.at (.support row))
  | .support row =>
    let support := findSupportCaseByTransaction db call.transactionId call.merchantId
    let reference := (support.map (·.reference)).getD (supportReference call.transactionId)
    if row.state = .reversed then
      (db, call.at (.returned (reversalResult .reversed row reference)))
    else if row.state ≠ .reversalRequired then
      (db, call.at (.returned (.rejected .invalidRequest
        ("REVERSED_NOT_LEGAL_FROM_" ++ stateCode row.state) (input.newId 0) none
        (some call.transactionId))))
    else if call.deps.providerReverses = true ∧ row.providerReference ≠ none then
      (db, call.at (.reversing row support))
    else (db, call.at (.completing row support))
  | .reversing row support =>
    match input.reversal with
    | .answered _ => (db, call.at (.completing row support))
    | .threw _ _ => (db, call.at (.threw .unexpected))
  | .completing row support =>
    match unit input (postReversal call row support input) db with
    | (db, .ok result) => (db, call.at (.returned result))
    | (db, .error fault) => (db, call.at (.threw fault))
  | .returned _ => (db, call)
  | .threw _ => (db, call)

end Telga.Application
