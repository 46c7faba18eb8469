import Telga.Application.Context
import Telga.Persistence.Extensions

namespace Telga.Application
open Domain Persistence Library

/-- Where a filing stands between two atomic steps. -/
inductive FilePoint
  | begin
  | looking (sale : TransactionRow)
  | filing (sale : TransactionRow) (status : ReversalStatus)
  | filed
  | refused (error : String)
deriving DecidableEq

/-- A shop asking for a sale to be reversed, with what its form held, trimmed. -/
structure FileReversal where
  transactionId : TransactionId
  merchantId : MerchantId
  requestedBy : MerchantUserId
  deviceId : DeviceId
  reason : String
  point : FilePoint

/-- The request a filing saves: for the sale's own amount, its redemption unknown. -/
def FileReversal.request (call : FileReversal) (sale : TransactionRow) (status : ReversalStatus)
    (input : Input) : ReversalRequestRow :=
  { id := input.newId 1, transactionId := call.transactionId, merchantId := call.merchantId,
    requestedBy := call.requestedBy, deviceId := call.deviceId, reason := trim call.reason,
    amount := sale.amount, redemption := .unknown, status, correlationId := input.newId 0,
    createdAt := input.now 0, updatedAt := input.now 0 }

def FileReversal.at (call : FileReversal) (point : FilePoint) : FileReversal :=
  { call with point }

/-- One atomic step of the shop's request. -/
def FileReversal.step (input : Input) (db : Db) (call : FileReversal) : Db × FileReversal :=
  match call.point with
  | .begin =>
    if textLength call.transactionId = 0 then
      (db, call.at (.refused "TRANSACTION_REQUIRED"))
    else if textLength call.reason = 0 then (db, call.at (.refused "REASON_REQUIRED"))
    else
      match findTransaction db call.transactionId call.merchantId with
      | none => (db, call.at (.refused "TRANSACTION_NOT_FOUND"))
      | some sale => (db, call.at (.looking sale))
  | .looking sale =>
    let decision := decideReversal
      { state := sale.state, amountMinor := sale.amount.minor, soldAt := sale.createdAt,
        now := input.now 0, redemption := .unknown,
        alreadyRequested := (findOpenReversalRequest db call.transactionId).isSome }
      trainingReversalPolicy
    match decision with
    | .refused refusal => (db, call.at (.refused refusal.code))
    | .accepted true _ _ _ => (db, call.at (.filing sale .needsApproval))
    | .accepted false _ _ _ => (db, call.at (.filing sale .requested))
  | .filing sale status =>
    match unit input (fun db => (·, ()) <$>
        saveReversalRequest db (call.request sale status input)) db with
    | (db, .ok _) => (db, call.at .filed)
    | (db, .error _) => (db, call.at (.refused "REVERSAL_ALREADY_REQUESTED"))
  | .filed => (db, call)
  | .refused _ => (db, call)

/-- What the console tells the person who decided a reversal. -/
inductive ReversalNotice
  | reasonRequired
  | alreadyDecided
  | refused
  | notPosted
  | settled
  | stillHeld
deriving DecidableEq, Repr

/-- What the console reads about an approved request: the request and its sale's state. -/
structure ApprovedRequest where
  transactionId : TransactionId
  merchantId : MerchantId
  amount : Money
deriving DecidableEq

/-- Where a decision stands between two atomic steps. -/
inductive DecidePoint
  | begin
  | approved
  | posting (request : ApprovedRequest)
  | returned (notice : ReversalNotice)
  | threw (fault : Fault)
deriving DecidableEq

/-- The operations console deciding one reversal request. -/
structure DecideReversal where
  id : String
  approve : Bool
  reason : String
  decidedBy : String
  point : DecidePoint

/-- The credit, the sale's new state and the request's, in one unit of work. The sale is updated
whatever state it is in by then. -/
def postApproved (call : DecideReversal) (request : ApprovedRequest) (input : Input) (db : Db) :
    Except Fault (Db × Unit) := do
  let db ← postReversalAdjustment db
    { merchantId := request.merchantId, amount := request.amount, now := input.now 0,
      correlationId := input.newId 1, postingId := input.newId 0,
      transactionId := some request.transactionId }
  let db := { db with
    transactions := update (fun row => row.id = request.transactionId)
      (fun row => { row with state := .reversed, updatedAt := input.now 0 }) db.transactions }
  let db := { db with
    reversalRequests := update (fun row => row.id = call.id)
      (fun row => { row with
        status := .settled, reversalEntryId := some (input.newId 0), updatedAt := input.now 0 })
      db.reversalRequests }
  return (db, ())

def DecideReversal.at (call : DecideReversal) (point : DecidePoint) : DecideReversal :=
  { call with point }

/-- The status a decision records. -/
def DecideReversal.status (call : DecideReversal) : ReversalStatus :=
  if call.approve then .approved else .refused

/-- One atomic step of the console's decision on a reversal request: decide it, then, when it
was approved and the sale is settled, post the adjustment. -/
def DecideReversal.step (input : Input) (db : Db) (call : DecideReversal) : Db × DecideReversal :=
  match call.point with
  | .begin =>
    if textLength (trim call.reason) = 0 then (db, call.at (.returned .reasonRequired))
    else
      match unit input (fun db => .ok (decideReversalRequest db
          { id := call.id, status := call.status, decidedBy := call.decidedBy,
            reason := trim call.reason, now := input.now 0 })) db with
      | (db, .ok changed) =>
        if changed = 0 then (db, call.at (.returned .alreadyDecided))
        else if call.approve then (db, call.at .approved)
        else (db, call.at (.returned .refused))
      | (db, .error fault) => (db, call.at (.threw fault))
  | .approved =>
    match db.reversalRequests.find? fun row => row.id = call.id with
    | none => (db, call.at (.returned .stillHeld))
    | some row =>
      let state := (db.transactions.find? fun sale => sale.id = row.transactionId).map (·.state)
      if state = some .successful then
        (db, call.at (.posting
          { transactionId := row.transactionId, merchantId := row.merchantId,
            amount := row.amount }))
      else (db, call.at (.returned .stillHeld))
  | .posting request =>
    match unit input (postApproved call request input) db with
    | (db, .ok _) => (db, call.at (.returned .settled))
    | (db, .error _) => (db, call.at (.returned .notPosted))
  | .returned _ => (db, call)
  | .threw _ => (db, call)

end Telga.Application
