import Telga.Application.Context
import Telga.Persistence.TopupOrders

namespace Telga.Application
open Domain Persistence Library

/-- What the surroundings answer during one atomic step of a deposit: the clock, the ids and
references drawn, what the gateway answers, and whether the database throws. -/
structure DepositInput where
  now : Nat → Timestamp
  newId : Nat → String
  newReference : Nat → String
  busy : Bool
  initialized : InitializeResult
  verified : VerifyResult

/-- One unit of work on the tables of the deposits: all of it or nothing. -/
def depositUnit (input : DepositInput) (work : DepositDb → Except Fault (DepositDb × α))
    (db : DepositDb) : DepositDb × Except Fault α :=
  commit (fun db => do
    demand (input.busy = false) .busy
    work db) db

/-- What the deposits are given besides the database. -/
structure DepositDeps where
  mode : OperatingMode
  policy : TopupOrderPolicy
  secretKey : String
  toUpperCase : String → String
  sha256 : String → String

/-- The form a reference is stored and looked up in. -/
def DepositDeps.normalize (deps : DepositDeps) (reference : String) : String :=
  normalizeDepositReference deps.toUpperCase reference

/-- Who orders a deposit, at which till. -/
structure DepositContext where
  merchantId : MerchantId
  deviceId : DeviceId
  userId : MerchantUserId

/-- What `decideTopupOrder` is asked about a shop's new order of a method. -/
def topupOrderRequest (db : DepositDb) (context : DepositContext) (amount : Money)
    (method : DepositMethod) (now : Timestamp) : TopupOrderRequest :=
  { shopStatus := (findMerchant db.toDb context.merchantId).map (·.status), amount,
    hasOpenOrder := (findOpenTopupOrder db context.merchantId now (some method)).isSome,
    depositsEnabled := true }

/-- The order a shop asks for. -/
def newTopupOrder (deps : DepositDeps) (context : DepositContext) (method : DepositMethod)
    (amountMinor : Int) (correlationId : CorrelationId) (now : Timestamp) : NewTopupOrder :=
  { id := "top_" ++ correlationId, method, merchantId := context.merchantId,
    deviceId := context.deviceId, operatorId := context.userId, amountMinor, correlationId,
    createdAt := now, expiresAt := topupOrderExpiry now deps.policy }

/-- Saving an order, which is a single statement at a time and no unit of work. -/
def saveOrder (deps : DepositDeps) (order : NewTopupOrder) (input : DepositInput)
    (db : DepositDb) : Except SaveFault (DepositDb × String) :=
  if input.busy then .error (.refused .busy)
  else saveTopupOrder db order input.newReference deps.normalize

inductive ChapaStartResult
  | started (reference checkoutUrl : String)
  | refused (reason : TopupOrderRefusal)
  | providerUnavailable (detail : String)
deriving DecidableEq

inductive StartChapaPoint
  | begin
  | saving (now : Timestamp)
  | initializing (reference : String) (now : Timestamp)
  | cancelling (detail : String) (now : Timestamp)
  | returned (result : ChapaStartResult)
  | exhausted
  | threw (fault : Fault)
deriving DecidableEq

/-- A running call of `startChapaDeposit`. -/
structure StartChapaDeposit where
  deps : DepositDeps
  context : DepositContext
  amountMinor : Int
  correlationId : CorrelationId
  point : StartChapaPoint

def StartChapaDeposit.at (call : StartChapaDeposit) (point : StartChapaPoint) :
    StartChapaDeposit :=
  { call with point }

def StartChapaDeposit.order (call : StartChapaDeposit) (now : Timestamp) : NewTopupOrder :=
  newTopupOrder call.deps call.context .chapa call.amountMinor call.correlationId now

/-- What a call decides from what it reads: whether to go on to save its order. -/
def StartChapaDeposit.decide (call : StartChapaDeposit) (db : DepositDb) (now : Timestamp) :
    StartChapaPoint :=
  if isTestKey call.deps.secretKey = false then .threw .unexpected
  else
    match money call.amountMinor with
    | .error fault => .threw fault
    | .ok amount =>
      match decideTopupOrder (topupOrderRequest db call.context amount .chapa now)
        call.deps.policy with
      | some refusal => .returned (.refused refusal)
      | none => .saving now

/-- One atomic step of `startChapaDeposit`: decide, save the order, ask the gateway for a
checkout page, and cancel the order when it gives none. -/
def StartChapaDeposit.step (input : DepositInput) (db : DepositDb) (call : StartChapaDeposit) :
    DepositDb × StartChapaDeposit :=
  match call.point with
  | .begin => (db, call.at (call.decide db (input.now 0)))
  | .saving now =>
    match saveOrder call.deps (call.order now) input db with
    | .ok (db, reference) => (db, call.at (.initializing reference now))
    | .error .referenceExhausted => (db, call.at .exhausted)
    | .error (.refused fault) => (db, call.at (.threw fault))
  | .initializing reference now =>
    match input.initialized with
    | .started checkoutUrl => (db, call.at (.returned (.started reference checkoutUrl)))
    | .refused message => (db, call.at (.cancelling message now))
    | .unreachable detail => (db, call.at (.cancelling detail now))
  | .cancelling detail now =>
    match depositUnit input (fun db =>
        .ok (cancelTopupOrder db (call.order now).id now)) db with
    | (db, .ok _) => (db, call.at (.returned (.providerUnavailable detail)))
    | (db, .error fault) => (db, call.at (.threw fault))
  | .returned _ => (db, call)
  | .exhausted => (db, call)
  | .threw _ => (db, call)

inductive BankDepositResult
  | ordered (orderId reference : String) (amountMinor : Int) (issuedAt expiresAt : Timestamp)
  | refused (reason : TopupOrderRefusal)
  | simulatedOnly
deriving DecidableEq

inductive OrderBankPoint
  | begin
  | saving (now : Timestamp)
  | returned (result : BankDepositResult)
  | exhausted
  | threw (fault : Fault)
deriving DecidableEq

/-- A running call of `orderBankDeposit`. -/
structure OrderBankDeposit where
  deps : DepositDeps
  context : DepositContext
  amountMinor : Int
  correlationId : CorrelationId
  point : OrderBankPoint

def OrderBankDeposit.at (call : OrderBankDeposit) (point : OrderBankPoint) : OrderBankDeposit :=
  { call with point }

def OrderBankDeposit.order (call : OrderBankDeposit) (now : Timestamp) : NewTopupOrder :=
  newTopupOrder call.deps call.context .bankCounter call.amountMinor call.correlationId now

def OrderBankDeposit.decide (call : OrderBankDeposit) (db : DepositDb) (now : Timestamp) :
    OrderBankPoint :=
  if call.deps.mode ≠ .training then .returned .simulatedOnly
  else
    match money call.amountMinor with
    | .error fault => .threw fault
    | .ok amount =>
      match decideTopupOrder (topupOrderRequest db call.context amount .bankCounter now)
        call.deps.policy with
      | some refusal => .returned (.refused refusal)
      | none => .saving now

/-- One atomic step of `orderBankDeposit`: decide, then save the slip's order. -/
def OrderBankDeposit.step (input : DepositInput) (db : DepositDb) (call : OrderBankDeposit) :
    DepositDb × OrderBankDeposit :=
  match call.point with
  | .begin => (db, call.at (call.decide db (input.now 0)))
  | .saving now =>
    match saveOrder call.deps (call.order now) input db with
    | .ok (db, reference) =>
      (db, call.at (.returned (.ordered (call.order now).id reference call.amountMinor now
        (call.order now).expiresAt)))
    | .error .referenceExhausted => (db, call.at .exhausted)
    | .error (.refused fault) => (db, call.at (.threw fault))
  | .returned _ => (db, call)
  | .exhausted => (db, call)
  | .threw _ => (db, call)

inductive CancelBankPoint
  | begin
  | cancelling (orderId : String) (now : Timestamp)
  | returned (cancelled : Bool)
  | threw (fault : Fault)
deriving DecidableEq

/-- A running call of `cancelBankDeposit`. -/
structure CancelBankDeposit where
  context : DepositContext
  point : CancelBankPoint

def CancelBankDeposit.at (call : CancelBankDeposit) (point : CancelBankPoint) :
    CancelBankDeposit :=
  { call with point }

/-- One atomic step of `cancelBankDeposit`: find the shop's open order, of any method, then
cancel it. -/
def CancelBankDeposit.step (input : DepositInput) (db : DepositDb) (call : CancelBankDeposit) :
    DepositDb × CancelBankDeposit :=
  match call.point with
  | .begin =>
    match findOpenTopupOrder db call.context.merchantId (input.now 0) none with
    | none => (db, call.at (.returned false))
    | some order => (db, call.at (.cancelling order.id (input.now 0)))
  | .cancelling orderId now =>
    match depositUnit input (fun db => .ok (cancelTopupOrder db orderId now)) db with
    | (db, .ok changed) => (db, call.at (.returned (decide (changed = 1))))
    | (db, .error fault) => (db, call.at (.threw fault))
  | .returned _ => (db, call)
  | .threw _ => (db, call)

inductive ExpirePoint
  | begin
  | done
  | threw (fault : Fault)
deriving DecidableEq

/-- The sweep that closes out orders whose window has passed. -/
structure ExpireOrders where
  point : ExpirePoint

def ExpireOrders.step (input : DepositInput) (db : DepositDb) (call : ExpireOrders) :
    DepositDb × ExpireOrders :=
  match call.point with
  | .begin =>
    match depositUnit input (fun db => .ok (expireTopupOrders db (input.now 0), ())) db with
    | (db, .ok _) => (db, ⟨.done⟩)
    | (db, .error fault) => (db, ⟨.threw fault⟩)
  | .done => (db, call)
  | .threw _ => (db, call)

inductive ChapaSettleResult
  | credited (submissionId : String) (amountMinor : Int)
  | refused (reason : CreditRefusal)
  | unknownReference
  | unverifiable (detail : String)
deriving DecidableEq

/-- Where a settlement stands between two atomic steps. -/
inductive SettlePoint
  | begin
  | verifying (order : TopupOrderRow)
  | recording (order : TopupOrderRow) (payment : ChapaPayment)
  | settling (order : TopupOrderRow) (payment : ChapaPayment) (amountMinor : Int)
  | returned (result : ChapaSettleResult)
  | threw (fault : Fault)
deriving DecidableEq

/-- A running call of `settleChapaDeposit`. -/
structure SettleChapaDeposit where
  deps : DepositDeps
  txRef : String
  point : SettlePoint

def SettleChapaDeposit.at (call : SettleChapaDeposit) (point : SettlePoint) :
    SettleChapaDeposit :=
  { call with point }

/-- The reference a delivery names, as it is stored. -/
def SettleChapaDeposit.reference (call : SettleChapaDeposit) : String :=
  call.deps.normalize call.txRef

/-- What a call makes of the gateway's answer and the order it read before asking. -/
def SettleChapaDeposit.decision (call : SettleChapaDeposit) (order : TopupOrderRow)
    (payment : ChapaPayment) : CreditDecision :=
  decideChapaCredit call.deps.toUpperCase payment
    { reference := order.reference, amountMinor := order.amountMinor, status := order.status }

/-- The posting a payment is credited under: derived from the reference, never drawn. -/
def chapaPosting (reference : String) : PostingId :=
  "posting_chapa_" ++ reference

/-- The submission a settled payment is recorded as. -/
def SettleChapaDeposit.submission (call : SettleChapaDeposit) (order : TopupOrderRow)
    (payment : ChapaPayment) (amountMinor : Int) (input : DepositInput) : FundingSubmissionRow :=
  { id := input.newId 0, merchantId := some order.merchantId, quotedReference := call.reference,
    bankReference := payment.providerReference, claimedAmountMinor := some order.amountMinor,
    bankAmountMinor := some amountMinor, status := .credited,
    evidence := some ("Chapa " ++ payment.providerReference),
    createdAt := input.now 0, updatedAt := input.now 0 }

/-- The one transaction of a settlement: claim the order, credit the shop, record the
submission, link the two. Losing the claim writes nothing. -/
def SettleChapaDeposit.settle (call : SettleChapaDeposit) (order : TopupOrderRow)
    (payment : ChapaPayment) (amountMinor : Int) (input : DepositInput) (db : DepositDb) :
    Except Fault (DepositDb × Bool) := do
  let (db, claimed) := claimTopupOrderForSettlement db call.reference (input.now 0)
  if claimed ≠ 1 then return (db, false)
  else
    let amount ← money amountMinor
    let db ← db.shared fun base => fundMerchant base
      { merchantId := order.merchantId, amount, now := input.now 0,
        correlationId := call.reference, postingId := chapaPosting call.reference }
    let db ← insertFundingSubmission db (call.submission order payment amountMinor input)
    let db ← linkTopupOrderSubmission db call.reference (input.newId 0) (input.now 0)
    return (db, true)

/-- One atomic step of `settleChapaDeposit`: find the order, ask the gateway, record what it
said, settle. -/
def SettleChapaDeposit.step (input : DepositInput) (db : DepositDb) (call : SettleChapaDeposit) :
    DepositDb × SettleChapaDeposit :=
  match call.point with
  | .begin =>
    if isTestKey call.deps.secretKey = false then (db, call.at (.threw .unexpected))
    else
      match findTopupOrderByReference db call.reference with
      | none => (db, call.at (.returned .unknownReference))
      | some order => (db, call.at (.verifying order))
  | .verifying order =>
    match input.verified with
    | .unreachable detail => (db, call.at (.returned (.unverifiable detail)))
    | .notFound => (db, call.at (.returned (.refused .referenceMismatch)))
    | .answered payment => (db, call.at (.recording order payment))
  | .recording order payment =>
    match depositUnit input (fun db => .ok (recordTopupProviderOutcome db call.reference
        payment.providerReference payment.status (input.now 0), ())) db with
    | (db, .ok _) =>
      match call.decision order payment with
      | .refuse reason => (db, call.at (.returned (.refused reason)))
      | .credit amountMinor => (db, call.at (.settling order payment amountMinor))
    | (db, .error fault) => (db, call.at (.threw fault))
  | .settling order payment amountMinor =>
    match depositUnit input (call.settle order payment amountMinor input) db with
    | (db, .ok true) => (db, call.at (.returned (.credited (input.newId 0) amountMinor)))
    | (db, .ok false) => (db, call.at (.returned (.refused .alreadyCredited)))
    | (db, .error fault) => (db, call.at (.threw fault))
  | .returned _ => (db, call)
  | .threw _ => (db, call)

theorem depositUnit_cases (input : DepositInput)
    (work : DepositDb → Except Fault (DepositDb × α)) (db : DepositDb) :
    (∃ next answer, input.busy = false ∧ work db = .ok (next, answer) ∧
      depositUnit input work db = (next, .ok answer)) ∨
    (∃ fault, depositUnit input work db = (db, .error fault)) := by
  unfold depositUnit
  rcases commit_cases (fun db => do
      demand (input.busy = false) .busy
      work db) db with ⟨next, answer, done, same⟩ | ⟨fault, _, same⟩
  · simp only [bind_ok, demand_ok] at done
    obtain ⟨_, free, done⟩ := done
    exact .inl ⟨next, answer, free, done, same⟩
  · exact .inr ⟨fault, same⟩

end Telga.Application
