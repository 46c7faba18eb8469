import Telga.Domain.Vouchers
import Telga.Persistence.Transactions

namespace Telga.Persistence
open Domain Library

inductive OrderStatus
  | opened
  | authorized
  | cancelled
  | expired
deriving DecidableEq, Repr

structure PendingOrderRow where
  id : String
  merchantId : MerchantId
  deviceId : DeviceId
  operatorId : MerchantUserId
  sessionId : String
  network : String
  productType : ProductType
  productId : ProductId
  amountMinor : Int
  quantity : Int
  totalMinor : Int
  clientRequestId : String
  status : OrderStatus
  createdAt : Timestamp
  expiresAt : Timestamp
  transactionId : Option TransactionId
  recipient : Option String
deriving DecidableEq

/-- What is stored of a secret: never the secret itself. -/
structure StoredSecret where
  hash : String
  salt : String
  params : String
deriving DecidableEq

structure MerchantUserRow where
  id : MerchantUserId
  merchantId : MerchantId
  pin : StoredSecret
deriving DecidableEq

inductive AttemptScope
  | login
  | sale
  | pinAuth
deriving DecidableEq, Repr

inductive AttemptOutcome
  | success
  | failure
deriving DecidableEq, Repr

structure AuthAttemptRow where
  scope : AttemptScope
  subject : String
  outcome : AttemptOutcome
  createdAt : Timestamp
deriving DecidableEq

structure SessionRow where
  id : String
  merchantId : MerchantId
  deviceId : DeviceId
  userId : MerchantUserId
deriving DecidableEq

/-- The same database as the point of sale sees it, with the tables its own requests use. -/
structure PosDb extends Db where
  merchantUsers : List MerchantUserRow
  sessions : List SessionRow
  pendingOrders : List PendingOrderRow
  authAttempts : List AuthAttemptRow

structure PendingOrderInput where
  id : String
  merchantId : MerchantId
  deviceId : DeviceId
  operatorId : MerchantUserId
  sessionId : String
  network : String
  productId : ProductId
  amountMinor : Int
  clientRequestId : String
  createdAt : Timestamp
  expiresAt : Timestamp
  productType : ProductType
  recipient : Option String
  quantity : Int

def pendingOrderRow (input : PendingOrderInput) : PendingOrderRow :=
  { id := input.id, merchantId := input.merchantId, deviceId := input.deviceId,
    operatorId := input.operatorId, sessionId := input.sessionId, network := input.network,
    productType := input.productType, productId := input.productId,
    amountMinor := input.amountMinor, quantity := input.quantity,
    totalMinor := input.amountMinor * input.quantity, clientRequestId := input.clientRequestId,
    status := .opened, createdAt := input.createdAt, expiresAt := input.expiresAt,
    transactionId := none, recipient := input.recipient }

/-- Insert an open order, under the table's keys, references and checks. -/
def createPendingOrder (pos : PosDb) (input : PendingOrderInput) :
    Except Fault (PosDb × PendingOrderRow) := do
  demand (¬ Present (·.id) input.id pos.pendingOrders) .constraint
  demand (∀ order ∈ pos.pendingOrders, ¬ (order.merchantId = input.merchantId ∧
    order.clientRequestId = input.clientRequestId)) .constraint
  demand (Present (·.id) input.merchantId pos.merchants) .constraint
  demand (Present (·.id) input.deviceId pos.devices) .constraint
  demand (Present (·.id) input.operatorId pos.merchantUsers) .constraint
  demand (Present (·.id) input.sessionId pos.sessions) .constraint
  demand (0 < input.amountMinor) .constraint
  demand (1 ≤ input.quantity ∧ input.quantity ≤ 20) .constraint
  let row := pendingOrderRow input
  return ({ pos with pendingOrders := pos.pendingOrders ++ [row] }, row)

def findPendingOrder (pos : PosDb) (id : String) : Option PendingOrderRow :=
  pos.pendingOrders.find? fun order => order.id = id

/-- An order that is open. -/
def openOrder (id : String) (order : PendingOrderRow) : Bool :=
  order.id = id ∧ order.status = .opened

/-- Marks an open order expired if the time is past its expiry. -/
def expireIfDue (pos : PosDb) (id : String) (now : Timestamp) : PosDb :=
  { pos with
    pendingOrders := update (fun order => openOrder id order && decide (order.expiresAt ≤ now))
      (fun order => { order with status := .expired }) pos.pendingOrders }

/-- Only succeeds from an open order. -/
def cancelPendingOrder (pos : PosDb) (id : String) : PosDb × Bool :=
  ({ pos with
      pendingOrders := update (openOrder id)
        (fun order => { order with status := .cancelled }) pos.pendingOrders },
    decide (changes (openOrder id) pos.pendingOrders = 1))

/-- Marks an open order authorized and records the transaction it produced. -/
def authorizePendingOrder (pos : PosDb) (id : String) (transactionId : TransactionId) :
    PosDb × Bool :=
  ({ pos with
      pendingOrders := update (openOrder id)
        (fun order => { order with status := .authorized, transactionId := some transactionId })
        pos.pendingOrders },
    decide (changes (openOrder id) pos.pendingOrders = 1))

def recordAttempt (pos : PosDb) (scope : AttemptScope) (subject : String)
    (outcome : AttemptOutcome) (now : Timestamp) : PosDb :=
  { pos with authAttempts := pos.authAttempts ++ [⟨scope, subject, outcome, now⟩] }

def countAttemptsSince (pos : PosDb) (scope : AttemptScope) (subject : String)
    (since : Timestamp) : Nat :=
  (pos.authAttempts.filter fun row =>
    row.scope = scope ∧ row.subject = subject ∧ since < row.createdAt).length

def countFailuresSince (pos : PosDb) (scope : AttemptScope) (subject : String)
    (since : Timestamp) : Nat :=
  (pos.authAttempts.filter fun row =>
    row.scope = scope ∧ row.subject = subject ∧ row.outcome = .failure ∧
      since < row.createdAt).length

def findMerchantUser (pos : PosDb) (id : MerchantUserId) (merchantId : MerchantId) :
    Option MerchantUserRow :=
  pos.merchantUsers.find? fun user => user.id = id ∧ user.merchantId = merchantId

/-- Whose row a PIN is written to. -/
def operatorRow (id : MerchantUserId) (merchantId : MerchantId) (user : MerchantUserRow) : Bool :=
  user.id = id ∧ user.merchantId = merchantId

/-- Writes the derivation of a new PIN. Whether a row was written tells whether it is there. -/
def updateMerchantUserPin (pos : PosDb) (id : MerchantUserId) (merchantId : MerchantId)
    (pin : StoredSecret) : PosDb × Bool :=
  ({ pos with
      merchantUsers := update (operatorRow id merchantId) (fun user => { user with pin })
        pos.merchantUsers },
    decide (changes (operatorRow id merchantId) pos.merchantUsers = 1))

theorem createPendingOrder_ok (h : createPendingOrder pos input = .ok (pos', row)) :
    row = pendingOrderRow input ∧ ¬ Present (·.id) row.id pos.pendingOrders ∧
    pos' = { pos with pendingOrders := pos.pendingOrders ++ [row] } := by
  simp only [createPendingOrder, bind_ok, demand_ok, pure_ok, Prod.mk.injEq] at h
  obtain ⟨_, absent, _, _, _, _, _, _, _, _, _, _, _, _, _, _, rfl, rfl⟩ := h
  exact ⟨rfl, absent, rfl⟩

end Telga.Persistence
