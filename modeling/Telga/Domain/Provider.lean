import Telga.Domain.Ids
import Telga.Domain.Money

namespace Telga.Domain

/-- What a provider is asked to deliver. -/
structure ProviderSubmission where
  transactionId : TransactionId
  merchantId : MerchantId
  productId : ProductId
  amount : Money
  recipient : String
  idempotencyKey : IdempotencyKey
deriving DecidableEq

/-- What a submission tells us. -/
inductive ProviderSubmissionOutcome
  | confirmedSuccess
  | confirmedFailure
  | indeterminate
  | duplicate
  | rejected
deriving DecidableEq, Repr

structure ProviderSubmissionResult where
  outcome : ProviderSubmissionOutcome
  providerReference : Option String
deriving DecidableEq, Repr

inductive ProviderStatusOutcome
  | success
  | failure
  | stillPending
  | unknownReference
deriving DecidableEq, Repr

structure ProviderStatus where
  outcome : ProviderStatusOutcome
  providerReference : Option String
deriving DecidableEq, Repr

/-- What an awaited provider call ends in: an answer or a throw. -/
inductive Answer (α : Type)
  | answered (value : α)
  | threw (liveMoneyDisabled : Bool) (token : String)
deriving DecidableEq, Repr

/-- The states a submission outcome may ask for. -/
inductive SubmissionState
  | successful
  | failed
  | pending
deriving DecidableEq, Repr

/-- Map a submission outcome onto the state the transaction must move to. A duplicate is
resolved by status lookup, never by assuming an outcome. -/
def stateForSubmission : ProviderSubmissionOutcome → SubmissionState
  | .confirmedSuccess => .successful
  | .confirmedFailure => .failed
  | .rejected => .failed
  | .indeterminate => .pending
  | .duplicate => .pending

end Telga.Domain
