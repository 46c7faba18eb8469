import Telga.Domain.States

namespace Telga.Domain

/-- What the code under the services throws: the domain's and the store's typed errors, a
constraint the database refuses, a busy or failing database, and a plain error. -/
inductive Fault
  | illegalTransition (origin target : TransactionState)
  | terminalState (origin target : TransactionState)
  | invalidMoney
  | negativeAmount
  | insufficientAvailableBalance
  | ledgerNotBalanced
  | liveMoneyDisabled
  | unknownTransaction
  | invalidProfitRate
  | duplicateIdempotencyRecord
  | merchantScopeViolation
  | accountNotFound
  | constraint
  | busy
  | unexpected
deriving DecidableEq, Repr

/-- Is it one of the domain's own errors? -/
def isDomainError : Fault → Bool
  | .illegalTransition _ _ | .terminalState _ _ | .invalidMoney | .negativeAmount
  | .insufficientAvailableBalance | .ledgerNotBalanced | .liveMoneyDisabled
  | .unknownTransaction => true
  | _ => false

/-- The code an error carries; a plain error carries none. -/
def faultCode : Fault → Option String
  | .illegalTransition _ _ => some "ILLEGAL_TRANSITION"
  | .terminalState _ _ => some "TERMINAL_STATE"
  | .invalidMoney => some "INVALID_MONEY"
  | .negativeAmount => some "NEGATIVE_AMOUNT"
  | .insufficientAvailableBalance => some "INSUFFICIENT_AVAILABLE_BALANCE"
  | .ledgerNotBalanced => some "LEDGER_NOT_BALANCED"
  | .liveMoneyDisabled => some "LIVE_MONEY_DISABLED"
  | .unknownTransaction => some "UNKNOWN_TRANSACTION"
  | .invalidProfitRate => some "INVALID_PROFIT_RATE"
  | .duplicateIdempotencyRecord => some "DUPLICATE_IDEMPOTENCY_RECORD"
  | .merchantScopeViolation => some "MERCHANT_SCOPE_VIOLATION"
  | .accountNotFound => some "ACCOUNT_NOT_FOUND"
  | .constraint => some "SQLITE_CONSTRAINT"
  | .busy => some "SQLITE_BUSY"
  | .unexpected => none

/-- Throw unless the transition is in the map. Terminal origins get their own error. -/
def assertTransition (origin target : TransactionState) : Except Fault Unit :=
  if canTransition origin target then .ok ()
  else if isTerminal origin then .error (.terminalState origin target)
  else .error (.illegalTransition origin target)

@[simp] theorem assertTransition_ok {u : Unit} :
    assertTransition origin target = .ok u ↔ canTransition origin target = true := by
  unfold assertTransition
  split
  · simp_all
  · split <;> simp_all

end Telga.Domain
