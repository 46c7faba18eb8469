import Telga.Application.Fees
import Telga.Persistence.Extensions

namespace Telga.Application
open Domain Persistence Library

structure TransferAttempt where
  senderMerchantId : MerchantId
  senderDeviceId : DeviceId
  senderOperatorId : MerchantUserId
  recipientDeviceId : DeviceId
  amountMinor : Int

inductive TransferSettlement
  | settled (transferId : String) (amountMinor feeMinor : Int) (recipientMerchantId : MerchantId)
  | needsApproval (transferId : String) (amountMinor feeMinor : Int)
  | refused (reason : String)
deriving DecidableEq, Repr

/-- Midnight UTC of the day containing an instant, for the daily limit. -/
def dayStart (now : Timestamp) : Timestamp :=
  now - now % msPerDay

/-- Where a call stands between two atomic steps. -/
inductive TransferPoint
  | begin
  | recipient (device : DeviceRow)
  | sender (recipient : Option MerchantRow)
  | balance (recipient : Option MerchantRow) (status : ShopStatus)
  | deciding (recipient : Option MerchantRow) (status : ShopStatus) (availableMinor : Int)
  | refusing (recipient : Option MerchantRow) (refusal : TransferRefusal)
  | queueing (recipient : MerchantId) (feeMinor creditMinor : Int)
  | settling (recipient : MerchantId) (feeMinor creditMinor : Int)
  | returned (settlement : TransferSettlement)
  | threw (fault : Fault)
deriving DecidableEq

/-- A running call of `settleShopTransfer`. -/
structure SettleShopTransfer where
  policy : TransferPolicy
  attempt : TransferAttempt
  now : Timestamp
  correlationId : CorrelationId
  point : TransferPoint

/-- The row of an attempt in a given status. -/
def SettleShopTransfer.row (call : SettleShopTransfer) (transferId : String)
    (recipient : MerchantId) (amountMinor feeMinor : Int) (status : TransferStatus) :
    ShopTransferRow :=
  { id := transferId, senderMerchantId := call.attempt.senderMerchantId,
    senderDeviceId := call.attempt.senderDeviceId,
    senderOperatorId := call.attempt.senderOperatorId,
    recipientDeviceId := call.attempt.recipientDeviceId, recipientMerchantId := recipient,
    amountMinor, feeMinor, status, correlationId := call.correlationId, createdAt := call.now,
    updatedAt := call.now }

/-- A refusal is recorded too. One with no resolvable recipient names the sender. -/
def recordRefusal (call : SettleShopTransfer) (recipient : Option MerchantRow)
    (refusal : TransferRefusal) (input : Input) (db : Db) :
    Except Fault (Db × TransferSettlement) := do
  let counterparty := (recipient.map (·.id)).getD call.attempt.senderMerchantId
  let amountMinor := if 0 < call.attempt.amountMinor then call.attempt.amountMinor else 1
  let db ← saveShopTransfer db
    { call.row (input.newId 0) counterparty amountMinor 0 .refused with
      refusalReason := some refusal.code }
  return (db, .refused refusal.code)

/-- Queued, not settled: no ledger entry exists yet. -/
def queueTransfer (call : SettleShopTransfer) (recipient : MerchantId)
    (feeMinor creditMinor : Int) (input : Input) (db : Db) :
    Except Fault (Db × TransferSettlement) := do
  let db ← saveShopTransfer db
    (call.row (input.newId 0) recipient creditMinor feeMinor .needsApproval)
  return (db, .needsApproval (input.newId 0) creditMinor feeMinor)

/-- Move both sides of a transfer: minor units become money at this boundary. -/
def postTransfer (db : Db) (sender recipient : MerchantId) (amountMinor feeMinor : Int)
    (postingId : PostingId) (correlationId : CorrelationId) (now : Timestamp) :
    Except Fault Db := do
  let amount ← money amountMinor
  let fee ← money feeMinor
  postShopTransfer db
    { senderMerchantId := sender, recipientMerchantId := recipient, amount, fee, now,
      correlationId, postingId }

/-- The row and both ledger sides commit together or not at all. The decision was made on a
balance read before. -/
def postSettlement (call : SettleShopTransfer) (recipient : MerchantId)
    (feeMinor creditMinor : Int) (input : Input) (db : Db) :
    Except Fault (Db × TransferSettlement) := do
  let db ← postTransfer db call.attempt.senderMerchantId recipient creditMinor feeMinor
    (input.newId 1) call.correlationId call.now
  let db ← saveShopTransfer db
    { call.row (input.newId 0) recipient creditMinor feeMinor .settled with
      postingId := some (input.newId 1) }
  return (db, .settled (input.newId 0) creditMinor feeMinor recipient)

def SettleShopTransfer.at (call : SettleShopTransfer) (point : TransferPoint) :
    SettleShopTransfer :=
  { call with point }

def SettleShopTransfer.finish (call : SettleShopTransfer) :
    Db × Except Fault TransferSettlement → Db × SettleShopTransfer
  | (db, .ok settlement) => (db, call.at (.returned settlement))
  | (db, .error fault) => (db, call.at (.threw fault))

/-- One atomic step of `settleShopTransfer`. -/
def SettleShopTransfer.step (input : Input) (db : Db) (call : SettleShopTransfer) :
    Db × SettleShopTransfer :=
  match call.point with
  | .begin =>
    let call := { call with now := input.now 0, correlationId := input.newId 0 }
    match findDevice db call.attempt.recipientDeviceId with
    | none => (db, call.at (.sender none))
    | some device => (db, call.at (.recipient device))
  | .recipient device => (db, call.at (.sender (findMerchant db device.merchantId)))
  | .sender recipient =>
    match findMerchant db call.attempt.senderMerchantId with
    | none => (db, call.at (.returned (.refused "SENDER_NOT_ACTIVE")))
    | some sender => (db, call.at (.balance recipient sender.status))
  | .balance recipient status =>
    match balanceFor db call.attempt.senderMerchantId with
    | .ok view => (db, call.at (.deciding recipient status view.available.minor))
    | .error fault => (db, call.at (.threw fault))
  | .deciding recipient status availableMinor =>
    let decision := decideTransfer
      { senderMerchantId := call.attempt.senderMerchantId, senderStatus := status,
        senderAvailableMinor := availableMinor,
        sentTodayMinor := sentTodayMinor db call.attempt.senderMerchantId (dayStart call.now),
        recipient := recipient.map fun row => (row.id, row.status),
        amountMinor := call.attempt.amountMinor } call.policy
    match decision, recipient with
    | .refused refusal, _ => (db, call.at (.refusing recipient refusal))
    | .accepted true feeMinor _ creditMinor, some to_ =>
      (db, call.at (.queueing to_.id feeMinor creditMinor))
    | .accepted false feeMinor _ creditMinor, some to_ =>
      (db, call.at (.settling to_.id feeMinor creditMinor))
    | .accepted _ _ _ _, none => (db, call.at (.threw .unexpected))
  | .refusing recipient refusal =>
    call.finish (unit input (recordRefusal call recipient refusal input) db)
  | .queueing recipient feeMinor creditMinor =>
    call.finish (unit input (queueTransfer call recipient feeMinor creditMinor input) db)
  | .settling recipient feeMinor creditMinor =>
    call.finish (unit input (postSettlement call recipient feeMinor creditMinor input) db)
  | .returned _ => (db, call)
  | .threw _ => (db, call)

/-- What the console tells the person who decided a transfer. -/
inductive TransferNotice
  | noSuchTransfer
  | alreadyDecided
  | reasonRequired
  | refused
  | couldNotBePosted
  | decidedFirst
  | approved
deriving DecidableEq, Repr

/-- Where a decision stands between two atomic steps. -/
inductive DecisionPoint
  | begin
  | refusing
  | approving (row : ShopTransferRow)
  | returned (notice : TransferNotice)
  | threw (fault : Fault)
deriving DecidableEq

/-- The operations console deciding one queued transfer. -/
structure DecideTransfer where
  id : String
  approve : Bool
  reason : String
  decidedBy : String
  point : DecisionPoint

/-- Claim the row, and post the pair when the claim won. The balance is not read again. -/
def approveTransfer (call : DecideTransfer) (row : ShopTransferRow) (input : Input) (db : Db) :
    Except Fault (Db × TransferNotice) := do
  let (db, claimed) := approveShopTransfer db call.id (input.newId 0) call.decidedBy (input.now 0)
  if claimed = 1 then
    let db ← postTransfer db row.senderMerchantId row.recipientMerchantId row.amountMinor
      row.feeMinor (input.newId 0) row.correlationId (input.now 0)
    return (db, .approved)
  else return (db, .decidedFirst)

def DecideTransfer.at (call : DecideTransfer) (point : DecisionPoint) : DecideTransfer :=
  { call with point }

/-- One atomic step of the console's decision on a transfer. -/
def DecideTransfer.step (input : Input) (db : Db) (call : DecideTransfer) : Db × DecideTransfer :=
  match call.point with
  | .begin =>
    match findShopTransfer db call.id with
    | none => (db, call.at (.returned .noSuchTransfer))
    | some row =>
      if row.status ≠ .needsApproval then (db, call.at (.returned .alreadyDecided))
      else if call.approve then (db, call.at (.approving row))
      else if textLength (trim call.reason) = 0 then (db, call.at (.returned .reasonRequired))
      else (db, call.at .refusing)
  | .refusing =>
    match unit input (fun db => .ok ((refuseShopTransfer db call.id (trim call.reason)
        call.decidedBy (input.now 0)).1, ())) db with
    | (db, .ok _) => (db, call.at (.returned .refused))
    | (db, .error fault) => (db, call.at (.threw fault))
  | .approving row =>
    match unit input (approveTransfer call row input) db with
    | (db, .ok notice) => (db, call.at (.returned notice))
    | (db, .error _) => (db, call.at (.returned .couldNotBePosted))
  | .returned _ => (db, call)
  | .threw _ => (db, call)

end Telga.Application
