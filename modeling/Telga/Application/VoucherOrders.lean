import Telga.Application.CreateSale
import Telga.Persistence.PendingOrders

namespace Telga.Application
open Domain Persistence Library

/-- One unit of work on the tables of the point of sale: all of it or nothing. -/
def posUnit (input : Input) (work : PosDb → Except Fault (PosDb × α)) (pos : PosDb) :
    PosDb × Except Fault α :=
  commit (fun pos => do
    demand (input.busy = false) .busy
    work pos) pos

structure LockoutPolicy where
  maxFailedAttempts : Nat
  lockoutMs : Int
  maxAttemptsPerWindow : Nat
  rateWindowMs : Int

/-- What the requests of the point of sale are given besides the database. -/
structure PosDeps extends SaleDeps where
  vouchers : ProductId → Option VoucherOrderProduct
  verifySecret : String → StoredSecret → Bool
  pinLockout : LockoutPolicy

/-- Who a session speaks for. -/
structure AuthContext where
  sessionId : String
  merchantId : MerchantId
  deviceId : DeviceId
  userId : MerchantUserId

/-- The payload's stand-in when a product has no recipient. -/
def noRecipient : String := "VOUCHER-SALE-NO-RECIPIENT"

def pendingOrderExpiryMs : Int := 10 * 60000

structure CreatePendingOrderRequest where
  network : String
  productType : String
  productId : ProductId
  clientRequestId : String
  customAmountMinor : Option Int := none
  recipient : Option String := none
  quantity : Option Int := none

inductive CreatePendingOrderResult
  | created (order : PendingOrderRow)
  | simulatedOnly
  | productInvalid
  | recipientInvalid
  | quantityInvalid
  | amountInvalid (reason : CustomAmountRejection)
  | insufficientBalance (availableMinor requestedMinor : Int)
deriving DecidableEq

/-- What one voucher costs. A fixed product ignores any supplied amount entirely. -/
def orderAmount (product : VoucherOrderProduct) (supplied : Option Int) :
    Except CustomAmountRejection Int :=
  if product.isCustom then
    match supplied with
    | none => .error .notANumber
    | some amountMinor =>
      match customAmountRejection amountMinor with
      | some rejection => .error rejection
      | none => .ok amountMinor
  else .ok product.amountMinor

inductive CreateOrderPoint
  | begin
  | creating (product : VoucherOrderProduct) (amountMinor quantity : Int) (supplied : String)
  | returned (result : CreatePendingOrderResult)
  | threw (fault : Fault)
deriving DecidableEq

/-- A running call of `createPendingOrder`. -/
structure CreatePendingOrder where
  deps : PosDeps
  context : AuthContext
  request : CreatePendingOrderRequest
  point : CreateOrderPoint

/-- The number a request carries, as it is looked at. -/
def CreatePendingOrder.supplied (call : CreatePendingOrder) : String :=
  trim (call.request.recipient.getD "")

/-- The order row a call writes: the recipient masked, the full number kept nowhere. -/
def CreatePendingOrder.order (call : CreatePendingOrder) (product : VoucherOrderProduct)
    (amountMinor quantity : Int) (supplied : String) (input : Input) : PendingOrderInput :=
  { id := input.newId 0, merchantId := call.context.merchantId,
    deviceId := call.context.deviceId, operatorId := call.context.userId,
    sessionId := call.context.sessionId, network := product.network,
    productId := product.productId, amountMinor,
    clientRequestId := call.request.clientRequestId, createdAt := input.now 0,
    expiresAt := input.now 0 + pendingOrderExpiryMs,
    productType :=
      if call.request.productType = "TOPUP" then .topup
      else if call.request.productType = "DATA" then .data
      else .airtime
    recipient := if 0 < textLength supplied then some (maskRecipient supplied) else none
    quantity }

def CreatePendingOrder.at (call : CreatePendingOrder) (point : CreateOrderPoint) :
    CreatePendingOrder :=
  { call with point }

/-- The checks of a call, in order, the balance among them. -/
def CreatePendingOrder.check (call : CreatePendingOrder) (pos : PosDb) : CreateOrderPoint :=
  if call.deps.mode ≠ .training then .returned .simulatedOnly
  else
    match call.deps.vouchers call.request.productId with
    | none => .returned .productInvalid
    | some product =>
      if product.available = false ∨ product.network ≠ call.request.network ∨
          product.productType.code ≠ call.request.productType then
        .returned .productInvalid
      else
        match orderAmount product call.request.customAmountMinor with
        | .error reason => .returned (.amountInvalid reason)
        | .ok amountMinor =>
          let quantity := call.request.quantity.getD 1
          if quantityRejection quantity ≠ none then .returned .quantityInvalid
          else
            match balanceFor pos.toDb call.context.merchantId with
            | .error fault => .threw fault
            | .ok view =>
              if view.available.minor < amountMinor * quantity then
                .returned (.insufficientBalance view.available.minor (amountMinor * quantity))
              else if (call.request.productType = "TOPUP" ∨ call.request.productType = "DATA") ∧
                  textLength call.supplied = 0 then
                .returned .recipientInvalid
              else if 0 < textLength call.supplied ∧ recipientRejection call.supplied ≠ none then
                .returned .recipientInvalid
              else .creating product amountMinor quantity call.supplied

/-- One atomic step of `createPendingOrder`. -/
def CreatePendingOrder.step (input : Input) (pos : PosDb) (call : CreatePendingOrder) :
    PosDb × CreatePendingOrder :=
  match call.point with
  | .begin => (pos, call.at (call.check pos))
  | .creating product amountMinor quantity supplied =>
    match posUnit input (fun pos => createPendingOrder pos
        (call.order product amountMinor quantity supplied input)) pos with
    | (pos, .ok order) => (pos, call.at (.returned (.created order)))
    | (pos, .error fault) => (pos, call.at (.threw fault))
  | .returned _ => (pos, call)
  | .threw _ => (pos, call)

/-- The transactions one order produced, in print order. Re-derived rather than stored: each
voucher's key is derived again and looked up. A missing record is skipped rather than faked. -/
def batchTransactionIds (pos : PosDb) (order : PendingOrderRow) :
    Except Fault (List TransactionId) := do
  let records ← (List.range order.quantity.toNat).mapM fun index => do
    let amount ← money order.amountMinor
    return findIdempotencyRecord pos.toDb order.merchantId (deriveIdempotencyKey
      { merchantId := order.merchantId, deviceId := order.deviceId, productId := order.productId,
        amount, recipient := order.recipient.getD noRecipient,
        clientRequestId := batchRequestId order.clientRequestId index })
  return records.filterMap fun record => record.map (·.transactionId)

/-- What an order is shown as. -/
structure CreateOrderDto where
  orderId : String
  network : String
  productId : ProductId
  productType : String
  amountMinor : Int
  quantity : Int
  totalMinor : Int
  expiresAt : Timestamp
  status : OrderStatus
  transactionId : Option TransactionId
  transactionIds : List TransactionId
  recipientMasked : Option String
  profitMinor : Int
  profitBps : Int

/-- The profit shown is the shop's share of one voucher, times the vouchers. -/
def toCreateOrderDto (deps : PosDeps) (pos : PosDb) (order : PendingOrderRow) :
    Except Fault CreateOrderDto := do
  let fees := pos.platformFeeSettings
  let commissionBps := effectiveCommissionBps pos.toDb (some deps.providerId) order.productType.code
  let split ← splitCommission order.amountMinor commissionBps fees.shopShareBps.value
  let transactionIds ←
    (if order.status = .authorized then batchTransactionIds pos order else .ok [])
  return { orderId := order.id, network := order.network, productId := order.productId,
           productType := order.productType.code, amountMinor := order.amountMinor,
           quantity := order.quantity, totalMinor := order.totalMinor,
           expiresAt := order.expiresAt, status := order.status,
           transactionId := order.transactionId, transactionIds,
           recipientMasked := order.recipient,
           profitMinor := split.shopShareMinor * order.quantity, profitBps := commissionBps }

/-- An order belongs to the session, device and merchant asking. -/
def AuthContext.owns (context : AuthContext) (order : PendingOrderRow) : Bool :=
  order.sessionId = context.sessionId ∧ order.deviceId = context.deviceId ∧
    order.merchantId = context.merchantId

/-- The first write of `getOrderForContext`. -/
def expiring (input : Input) (orderId : String) (pos : PosDb) : PosDb × Except Fault Unit :=
  posUnit input (fun pos => .ok (expireIfDue pos orderId (input.now 0), ())) pos

/-- What `getOrderForContext` answers once the order was expired if it was due. -/
def ownOrder (pos : PosDb) (context : AuthContext) (orderId : String) : Option PendingOrderRow :=
  (findPendingOrder pos orderId).filter context.owns

inductive GetOrderPoint
  | begin
  | finding
  | returned (order : Option PendingOrderRow)
  | threw (fault : Fault)
deriving DecidableEq

/-- A running call of `getOrderForContext`. -/
structure GetOrder where
  context : AuthContext
  orderId : String
  point : GetOrderPoint

def GetOrder.at (call : GetOrder) (point : GetOrderPoint) : GetOrder :=
  { call with point }

def GetOrder.step (input : Input) (pos : PosDb) (call : GetOrder) : PosDb × GetOrder :=
  match call.point with
  | .begin =>
    match expiring input call.orderId pos with
    | (pos, .ok _) => (pos, call.at .finding)
    | (pos, .error fault) => (pos, call.at (.threw fault))
  | .finding => (pos, call.at (.returned (ownOrder pos call.context call.orderId)))
  | .returned _ => (pos, call)
  | .threw _ => (pos, call)

inductive CancelPoint
  | begin
  | finding
  | cancelling
  | returned (cancelled : Bool)
  | threw (fault : Fault)
deriving DecidableEq

/-- A running call of `cancelOrder`. -/
structure CancelOrder where
  context : AuthContext
  orderId : String
  point : CancelPoint

def CancelOrder.at (call : CancelOrder) (point : CancelPoint) : CancelOrder :=
  { call with point }

/-- One atomic step of `cancelOrder`. An order that is not open any more is left as it is. -/
def CancelOrder.step (input : Input) (pos : PosDb) (call : CancelOrder) : PosDb × CancelOrder :=
  match call.point with
  | .begin =>
    match expiring input call.orderId pos with
    | (pos, .ok _) => (pos, call.at .finding)
    | (pos, .error fault) => (pos, call.at (.threw fault))
  | .finding =>
    match ownOrder pos call.context call.orderId with
    | none => (pos, call.at (.returned false))
    | some _ => (pos, call.at .cancelling)
  | .cancelling =>
    match posUnit input (fun pos => .ok (cancelPendingOrder pos call.orderId)) pos with
    | (pos, .ok _) => (pos, call.at (.returned true))
    | (pos, .error fault) => (pos, call.at (.threw fault))
  | .returned _ => (pos, call)
  | .threw _ => (pos, call)

inductive AuthorizeOrderResult
  | notFound
  | notOpen
  | expired
  | locked
  | pinInvalid
  | simulatedOnly
  | sale (result : SaleResult) (results : List SaleResult)
deriving DecidableEq

inductive AuthorizePoint
  | begin
  | finding
  | failures (order : PendingOrderRow) (now : Timestamp)
  | attempts (order : PendingOrderRow) (now : Timestamp)
  | user (order : PendingOrderRow) (now : Timestamp)
  | verifying (order : PendingOrderRow) (now : Timestamp) (user : Option MerchantUserRow)
  | refusing (now : Timestamp)
  | accepting (order : PendingOrderRow) (now : Timestamp)
  | selling (order : PendingOrderRow) (results : List SaleResult) (sale : CreateSale)
  | claiming (order : PendingOrderRow) (results : List SaleResult)
  | returned (result : AuthorizeOrderResult)
  | threw (fault : Fault)

/-- A running call of `authorizeOrder`. -/
structure AuthorizeOrder where
  deps : PosDeps
  context : AuthContext
  orderId : String
  pin : String
  correlationId : CorrelationId
  point : AuthorizePoint

def AuthorizeOrder.at (call : AuthorizeOrder) (point : AuthorizePoint) : AuthorizeOrder :=
  { call with point }

/-- The sale of one voucher. The order row holds the mask, which is passed through. -/
def AuthorizeOrder.saleOf (call : AuthorizeOrder) (order : PendingOrderRow) (index : Nat)
    (amount : Money) : CreateSale :=
  { deps := call.deps.toSaleDeps
    request :=
      { merchantId := order.merchantId, deviceId := order.deviceId,
        operatorId := order.operatorId, productId := order.productId, amount,
        recipient := order.recipient.getD noRecipient,
        recipientMasked := some (order.recipient.getD ""),
        clientRequestId := batchRequestId order.clientRequestId index,
        correlationId := some call.correlationId }
    correlationId := "", point := .begin }

/-- On to the next voucher, or to the claim when each has been sold. -/
def AuthorizeOrder.onward (call : AuthorizeOrder) (order : PendingOrderRow)
    (results : List SaleResult) : AuthorizePoint :=
  if results.length < order.quantity then
    match money order.amountMinor with
    | .ok amount => .selling order results (call.saleOf order results.length amount)
    | .error fault => .threw fault
  else .claiming order results

/-- The sale a result names, if it names one. -/
def SaleResult.claimed : SaleResult → Option TransactionId
  | .outcome told => some told.transactionId
  | .duplicateRequest original _ _ _ => some original
  | .rejected _ _ _ _ transactionId => transactionId

/-- One atomic step of `authorizeOrder`: each voucher is sold before the order is claimed. -/
def AuthorizeOrder.step (input : Input) (pos : PosDb) (call : AuthorizeOrder) :
    PosDb × AuthorizeOrder :=
  match call.point with
  | .begin =>
    if call.deps.mode ≠ .training then (pos, call.at (.returned .simulatedOnly))
    else
      match expiring input call.orderId pos with
      | (pos, .ok _) => (pos, call.at .finding)
      | (pos, .error fault) => (pos, call.at (.threw fault))
  | .finding =>
    match ownOrder pos call.context call.orderId with
    | none => (pos, call.at (.returned .notFound))
    | some order =>
      if order.status = .expired then (pos, call.at (.returned .expired))
      else if order.status ≠ .opened then (pos, call.at (.returned .notOpen))
      else (pos, call.at (.failures order (input.now 0)))
  | .failures order now =>
    let policy := call.deps.pinLockout
    if policy.maxFailedAttempts ≤
        countFailuresSince pos .pinAuth call.context.userId (now - policy.lockoutMs) then
      (pos, call.at (.returned .locked))
    else (pos, call.at (.attempts order now))
  | .attempts order now =>
    let policy := call.deps.pinLockout
    if policy.maxAttemptsPerWindow ≤
        countAttemptsSince pos .pinAuth call.context.userId (now - policy.rateWindowMs) then
      (pos, call.at (.returned .locked))
    else (pos, call.at (.user order now))
  | .user order now =>
    (pos, call.at (.verifying order now
      (findMerchantUser pos call.context.userId call.context.merchantId)))
  | .verifying order now user =>
    if user.any fun user => call.deps.verifySecret call.pin user.pin then
      (pos, call.at (.accepting order now))
    else (pos, call.at (.refusing now))
  | .refusing now =>
    match posUnit input (fun pos =>
        .ok (recordAttempt pos .pinAuth call.context.userId .failure now, ())) pos with
    | (pos, .ok _) => (pos, call.at (.returned .pinInvalid))
    | (pos, .error fault) => (pos, call.at (.threw fault))
  | .accepting order now =>
    match posUnit input (fun pos =>
        .ok (recordAttempt pos .pinAuth call.context.userId .success now, ())) pos with
    | (pos, .ok _) => (pos, call.at (call.onward order []))
    | (pos, .error fault) => (pos, call.at (.threw fault))
  | .selling order results sale =>
    let (db, sale) := sale.step input pos.toDb
    let pos := { pos with toDb := db }
    match sale.point with
    | .returned result => (pos, call.at (call.onward order (results ++ [result])))
    | .threw fault => (pos, call.at (.threw fault))
    | _ => (pos, call.at (.selling order results sale))
  | .claiming _ results =>
    match results with
    | [] => (pos, call.at (.threw .unexpected))
    | result :: _ =>
      match result.claimed with
      | none => (pos, call.at (.returned (.sale result results)))
      | some transactionId =>
        match posUnit input (fun pos =>
            .ok (authorizePendingOrder pos call.orderId transactionId)) pos with
        | (pos, .ok _) => (pos, call.at (.returned (.sale result results)))
        | (pos, .error fault) => (pos, call.at (.threw fault))
  | .returned _ => (pos, call)
  | .threw _ => (pos, call)

end Telga.Application
