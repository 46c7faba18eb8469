import Telga.Domain.Balance

namespace Telga.Domain
open Library

inductive OperatingMode
  | training
  | live
deriving DecidableEq, Repr

/-- Throw unless the mode is simulated. -/
def assertSimulated (mode : OperatingMode) : Except Fault Unit :=
  demand (mode = .training) .liveMoneyDisabled

/-- One logical sale. -/
structure Transaction where
  id : TransactionId
  merchantId : MerchantId
  deviceId : DeviceId
  operatorId : MerchantUserId
  productId : ProductId
  providerId : Option ProviderId
  amount : Money
  idempotencyKey : IdempotencyKey
  providerReference : Option String := none
  state : TransactionState
  createdAt : Timestamp
  updatedAt : Timestamp
deriving DecidableEq

/-- What a new sale is made of. -/
structure NewTransaction where
  id : TransactionId
  merchantId : MerchantId
  deviceId : DeviceId
  operatorId : MerchantUserId
  productId : ProductId
  providerId : Option ProviderId
  amount : Money
  idempotencyKey : IdempotencyKey
  mode : OperatingMode
  createdAt : Timestamp

def createTransaction (input : NewTransaction) : Except Fault Transaction := do
  assertSimulated input.mode
  assertPositive input.amount
  return { id := input.id, merchantId := input.merchantId, deviceId := input.deviceId,
           operatorId := input.operatorId, productId := input.productId,
           providerId := input.providerId, amount := input.amount,
           idempotencyKey := input.idempotencyKey, state := initialState,
           createdAt := input.createdAt, updatedAt := input.createdAt }

/-- Move a transaction to a new state, keeping the provider reference it had unless the move
brings one. -/
def transitionTo (transaction : Transaction) (target : TransactionState) (now : Timestamp)
    (providerReference : Option String := none) : Except Fault Transaction := do
  assertTransition transaction.state target
  return { transaction with
    state := target
    providerReference := providerReference <|> transaction.providerReference
    updatedAt := now }

theorem transitionTo_ok (h : transitionTo transaction target now reference = .ok moved) :
    canTransition transaction.state target = true ∧
    moved = { transaction with
      state := target
      providerReference := reference <|> transaction.providerReference
      updatedAt := now } := by
  simp only [transitionTo, bind_ok, assertTransition_ok, pure_ok] at h
  obtain ⟨_, allowed, rfl⟩ := h
  exact ⟨allowed, rfl⟩

end Telga.Domain
