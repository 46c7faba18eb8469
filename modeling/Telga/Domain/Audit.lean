import Telga.Domain.Ids

namespace Telga.Domain

/-- The recorded actions of the operations and services. -/
inductive AuditAction
  | transactionCreated
  | transactionTransitioned
  | balanceReserved
  | balanceReleased
  | balanceUnderReview
  | ledgerPosted
  | providerSubmitted
  | adjustmentPosted
  | recoveryScanStarted
  | recoveryClaimed
  | recoveryDuplicateWorkerPrevented
  | recoveryStatusLookup
  | recoveryOutcomeReceived
  | recoveryRecoveredSuccessful
  | recoveryRecoveredFailed
  | recoveryMovedToPending
  | recoveryEscalatedUnderReview
  | recoveryAttemptFailed
  | manualReviewCreated
  | profitTransferredToBalance
deriving DecidableEq, Repr

inductive ActorRole
  | merchantOperator
  | merchantOwner
  | opsVerifier
  | opsApprover
  | opsReconciler
  | opsSupport
  | admin
  | system
deriving DecidableEq, Repr

structure AuditActor where
  userId : MerchantUserId
  role : ActorRole
deriving DecidableEq, Repr

structure AuditEvent where
  id : AuditEventId
  occurredAt : Timestamp
  action : AuditAction
  actor : AuditActor
  merchantId : MerchantId
  transactionId : Option TransactionId
deriving DecidableEq, Repr

end Telga.Domain
