import Telga.Application.PinRequests

namespace Telga.Application
open Domain Persistence Library

inductive DepositRejection
  | amountNotANumber
  | amountNotAWholeBirr
  | amountBelowMinimum
  | amountAboveMaximum
deriving DecidableEq, Repr

/-- Why a deposit into the training float is refused, if it is: ten to fifty thousand whole birr. -/
def depositRejection (amountMinor : Option Int) : Option DepositRejection :=
  match amountMinor with
  | none => some .amountNotANumber
  | some amountMinor =>
    if ¬ SafeInteger amountMinor then some .amountNotANumber
    else if amountMinor % 100 ≠ 0 then some .amountNotAWholeBirr
    else if amountMinor < 1000 then some .amountBelowMinimum
    else if 5000000 < amountMinor then some .amountAboveMaximum
    else none

def cardMethods : List String := ["TAP", "INSERT", "SWIPE"]

/-- The fields of a training deposit's body. -/
structure DepositBody where
  amountMinor : Option Int
  method : String
  clientRequestId : String
deriving DecidableEq

/-- The posting a training deposit is kept under. -/
def depositPosting (body : DepositBody) : PostingId :=
  "posting_deposit_" ++ body.clientRequestId

def postingExists (db : Db) (postingId : PostingId) : Bool :=
  db.ledgerEntries.any fun entry => entry.postingId = postingId

inductive PostDepositResult
  | liveModeRefused
  | clientRequestIdRequired
  | amountInvalid (reason : DepositRejection)
  | cardMethodInvalid
  | credited (availableMinor : Int)
  | alreadyCredited (availableMinor : Int)
deriving DecidableEq

inductive PostDepositPoint
  | begin
  | checking (amount : Money) (now : Timestamp)
  | funding (deposit : Deposit)
  | balance (new : Bool)
  | returned (result : PostDepositResult)
  | threw (fault : Fault)

/-- A running request to credit the training float. -/
structure PostDeposit where
  deps : PosDeps
  context : AuthContext
  body : DepositBody
  point : PostDepositPoint

def PostDeposit.at (call : PostDeposit) (point : PostDepositPoint) : PostDeposit :=
  { call with point }

/-- The credit a deposit posts, under a posting named after the request. -/
def PostDeposit.deposit (call : PostDeposit) (amount : Money) (now : Timestamp) : Deposit :=
  { input := { merchantId := call.context.merchantId, amount, now,
               correlationId := call.body.clientRequestId,
               postingId := depositPosting call.body }
    point := .begin }

/-- One atomic step of `depositTrainingFunds`, behind the checks of its handler. -/
def PostDeposit.step (input : Input) (pos : PosDb) (call : PostDeposit) : PosDb × PostDeposit :=
  match call.point with
  | .begin =>
    if call.deps.mode ≠ .training then (pos, call.at (.returned .liveModeRefused))
    else if textLength (trim call.body.clientRequestId) = 0 then
      (pos, call.at (.returned .clientRequestIdRequired))
    else
      match depositRejection call.body.amountMinor with
      | some reason => (pos, call.at (.returned (.amountInvalid reason)))
      | none =>
        if call.body.method ∉ cardMethods then (pos, call.at (.returned .cardMethodInvalid))
        else
          match money (call.body.amountMinor.getD 0) with
          | .ok amount => (pos, call.at (.checking amount (input.now 0)))
          | .error fault => (pos, call.at (.threw fault))
  | .checking amount now =>
    if postingExists pos.toDb (depositPosting call.body) then (pos, call.at (.balance false))
    else (pos, call.at (.funding (call.deposit amount now)))
  | .funding deposit =>
    let (db, deposit) := deposit.step input pos.toDb
    let pos := { pos with toDb := db }
    match deposit.point with
    | .begin => (pos, call.at (.funding deposit))
    | .done => (pos, call.at (.balance true))
    | .threw fault => (pos, call.at (.threw fault))
  | .balance new =>
    match balanceFor pos.toDb call.context.merchantId with
    | .ok view =>
      (pos, call.at (.returned
        (if new then .credited view.available.minor else .alreadyCredited view.available.minor)))
    | .error fault => (pos, call.at (.threw fault))
  | .returned _ => (pos, call)
  | .threw _ => (pos, call)

/-- The slip of a training deposit. -/
structure DepositReceiptDto where
  depositId : PostingId
  merchantId : MerchantId
  amountMinor : Int
  method : String
  availableAfterMinor : Int
deriving DecidableEq

/-- The slip a deposit is answered with. But for the float it is made out from the request, also
when the posting was there already. -/
def PostDeposit.receipt (call : PostDeposit) : Option DepositReceiptDto :=
  match call.point with
  | .returned (.credited availableMinor) | .returned (.alreadyCredited availableMinor) =>
    some { depositId := depositPosting call.body, merchantId := call.context.merchantId
           amountMinor := call.body.amountMinor.getD 0, method := call.body.method
           availableAfterMinor := availableMinor }
  | _ => none

inductive PostProfitPoint
  | begin
  | transferring (call : TransferProfit)
  | refused (reasonCode : String)
  | returned (result : ProfitTransferResult)
  | threw (fault : Fault)

/-- A running request to move earned profit. The amount is what the body's comes to in minor units,
when it is a finite number. -/
structure PostProfitTransfer where
  deps : PosDeps
  context : AuthContext
  amountMinor : Option Int
  correlationId : CorrelationId
  point : PostProfitPoint

def PostProfitTransfer.at (call : PostProfitTransfer) (point : PostProfitPoint) :
    PostProfitTransfer :=
  { call with point }

/-- One atomic step of `postProfitTransfer`. Nothing in the body says which press of the button it
came from. -/
def PostProfitTransfer.step (input : Input) (pos : PosDb) (call : PostProfitTransfer) :
    PosDb × PostProfitTransfer :=
  match call.point with
  | .begin =>
    if call.deps.mode ≠ .training then (pos, call.at (.refused "LIVE_MODE_REFUSED"))
    else
      match call.amountMinor with
      | none => (pos, call.at (.refused "AMOUNT_NOT_A_NUMBER"))
      | some amountMinor =>
        (pos, call.at (.transferring
          { mode := call.deps.mode, merchantId := call.context.merchantId,
            actor := ⟨call.context.userId, .merchantOwner⟩, amountMinor,
            correlationId := call.correlationId, point := .begin }))
  | .transferring transfer =>
    let (db, transfer) := transfer.step input pos.toDb
    let pos := { pos with toDb := db }
    match transfer.point with
    | .begin => (pos, call.at (.transferring transfer))
    | .returned result => (pos, call.at (.returned result))
    | .threw fault => (pos, call.at (.threw fault))
  | .refused _ => (pos, call)
  | .returned _ => (pos, call)
  | .threw _ => (pos, call)

/-- The fields of a shop transfer's body, the PIN its form asks for among them. -/
structure TransferBody where
  recipientDeviceId : String
  amountMinor : Option Int
  pin : String
deriving DecidableEq

inductive PostTransferPoint
  | begin
  | settling (call : SettleShopTransfer)
  | refused (reasonCode : String)
  | returned (settlement : TransferSettlement)
  | threw (fault : Fault)

/-- A running request to send balance to another shop. -/
structure PostShopTransfer where
  deps : PosDeps
  context : AuthContext
  body : TransferBody
  point : PostTransferPoint

def PostShopTransfer.at (call : PostShopTransfer) (point : PostTransferPoint) : PostShopTransfer :=
  { call with point }

/-- The transfer a request asks for. -/
def PostShopTransfer.transfer (call : PostShopTransfer) (amountMinor : Int) : SettleShopTransfer :=
  { policy := trainingTransferPolicy
    attempt :=
      { senderMerchantId := call.context.merchantId, senderDeviceId := call.context.deviceId,
        senderOperatorId := call.context.userId,
        recipientDeviceId := trim call.body.recipientDeviceId, amountMinor }
    now := 0, correlationId := "", point := .begin }

/-- One atomic step of `postShopTransferRequest`. The body's PIN is not looked at. -/
def PostShopTransfer.step (input : Input) (pos : PosDb) (call : PostShopTransfer) :
    PosDb × PostShopTransfer :=
  match call.point with
  | .begin =>
    if call.deps.mode ≠ .training then (pos, call.at (.refused "LIVE_MODE_REFUSED"))
    else if textLength (trim call.body.recipientDeviceId) = 0 then
      (pos, call.at (.refused "RECIPIENT_UNKNOWN"))
    else
      match call.body.amountMinor with
      | none => (pos, call.at (.refused "AMOUNT_INVALID"))
      | some amountMinor => (pos, call.at (.settling (call.transfer amountMinor)))
  | .settling transfer =>
    let (db, transfer) := transfer.step input pos.toDb
    let pos := { pos with toDb := db }
    match transfer.point with
    | .returned settlement => (pos, call.at (.returned settlement))
    | .threw fault => (pos, call.at (.threw fault))
    | _ => (pos, call.at (.settling transfer))
  | .refused _ => (pos, call)
  | .returned _ => (pos, call)
  | .threw _ => (pos, call)

/-- A request to the point of sale, those that move value without a sale among them. -/
inductive CounterRequest
  | pin (request : PinRequest)
  | postDeposit (call : PostDeposit)
  | postProfitTransfer (call : PostProfitTransfer)
  | postShopTransfer (call : PostShopTransfer)

/-- One atomic step of a request. -/
def CounterRequest.step (input : PinInput) (pos : PosDb) :
    CounterRequest → PosDb × CounterRequest
  | .pin request => (request.step input pos).map id .pin
  | .postDeposit call => (call.step input.toInput pos).map id .postDeposit
  | .postProfitTransfer call => (call.step input.toInput pos).map id .postProfitTransfer
  | .postShopTransfer call => (call.step input.toInput pos).map id .postShopTransfer

/-- A request that has not taken a step yet. -/
def CounterRequest.Starting : CounterRequest → Prop
  | .pin request => request.Starting
  | .postDeposit call => (call.point matches .begin) = true
  | .postProfitTransfer call => (call.point matches .begin) = true
  | .postShopTransfer call => (call.point matches .begin) = true

/-- A request that has answered or thrown. -/
def CounterRequest.finished : CounterRequest → Bool
  | .pin request => request.finished
  | .postDeposit call => (call.point matches .returned _ | .threw _)
  | .postProfitTransfer call => (call.point matches .refused _ | .returned _ | .threw _)
  | .postShopTransfer call => (call.point matches .refused _ | .returned _ | .threw _)

/-- What a request is given: the options the server was built with. -/
def CounterRequest.given (options : PinDeps) : CounterRequest → Prop
  | .pin request => request.given options
  | .postDeposit call => call.deps = options.toPosDeps
  | .postProfitTransfer call => call.deps = options.toPosDeps
  | .postShopTransfer call => call.deps = options.toPosDeps

/-- The requests at work on one database. -/
def counterServer : Machine PosDb PinInput CounterRequest where
  advance := CounterRequest.step
  finished request := request.finished = true

/-- A rendered page that moves value when it is submitted: whom it was rendered for, and what it
holds itself. What is typed into it comes with each submission. -/
inductive Page
  | sell (context : AuthContext) (clientRequestId : String)
  | authorize (context : AuthContext) (orderId : String)
  | deposit (context : AuthContext) (clientRequestId : String)
  | profit (context : AuthContext)
  | transfer (context : AuthContext)

/-- The page a request is a submission of, if it moves value and comes from a screen. -/
def CounterRequest.page : CounterRequest → Option Page
  | .pin (.pos (.postSale call)) =>
    match call.origin with
    | .screen form => form.clientRequestId.map (.sell call.context)
    | .api _ => none
  | .pin (.pos (.authorizeOrder call)) => some (.authorize call.context call.orderId)
  | .postDeposit call => some (.deposit call.context call.body.clientRequestId)
  | .postProfitTransfer call => some (.profit call.context)
  | .postShopTransfer call => some (.transfer call.context)
  | _ => none

/-- A running request, with the rendered page it was submitted from, if it came from one. -/
structure Submission where
  rendering : Option Nat
  request : CounterRequest

def Submission.step (input : PinInput) (pos : PosDb) (submission : Submission) :
    PosDb × Submission :=
  (submission.request.step input pos).map id fun request => { submission with request }

/-- The requests of the pages and all others at work on one database. -/
def pageServer : Machine PosDb PinInput Submission where
  advance := Submission.step
  finished submission := submission.request.finished = true

end Telga.Application
