import Telga.Persistence.Transactions

namespace Telga.Persistence
open Domain Library

/-- The statuses of a request that is still open. -/
def isOpen (status : ReversalStatus) : Bool :=
  status == .requested || status == .needsApproval || status == .approved

/-- The statuses of a request nobody has decided. -/
def isUndecided (status : ReversalStatus) : Bool :=
  status == .requested || status == .needsApproval

def openOn (transactionId : TransactionId) (row : ReversalRequestRow) : Bool :=
  row.transactionId = transactionId ∧ isOpen row.status = true

/-- File a request. The partial unique index refuses a second open request on one sale. -/
def saveReversalRequest (db : Db) (request : ReversalRequestRow) : Except Fault Db := do
  demand (0 < request.amount.minor) .constraint
  demand (¬ Present (·.id) request.id db.reversalRequests) .constraint
  demand (isOpen request.status = true →
    ∀ row ∈ db.reversalRequests, openOn request.transactionId row = false) .constraint
  demand (Present (·.id) request.transactionId db.transactions) .constraint
  demand (Present (·.id) request.merchantId db.merchants) .constraint
  demand (Present (·.id) request.deviceId db.devices) .constraint
  return { db with reversalRequests := db.reversalRequests ++ [request] }

/-- The open request for a transaction, if one exists. -/
def findOpenReversalRequest (db : Db) (transactionId : TransactionId) :
    Option ReversalRequestRow :=
  db.reversalRequests.find? (openOn transactionId)

/-- Everything waiting for a person, oldest first. -/
def listReversalQueue (db : Db) : List ReversalRequestRow :=
  (db.reversalRequests.filter fun row => isUndecided row.status).mergeSort fun a b =>
    decide (a.createdAt ≤ b.createdAt)

structure DecisionInput where
  id : String
  status : ReversalStatus
  decidedBy : String
  reason : String
  now : Timestamp

def undecided (id : String) (row : ReversalRequestRow) : Bool :=
  row.id = id ∧ isUndecided row.status = true

/-- Record a supervisor's decision on a request nobody has decided. The second component is how
many rows changed. -/
def decideReversalRequest (db : Db) (input : DecisionInput) : Db × Nat :=
  ({ db with
      reversalRequests := update (undecided input.id)
        (fun row => { row with
          status := input.status, decidedBy := some input.decidedBy, decidedAt := some input.now,
          decisionReason := some input.reason, updatedAt := input.now })
        db.reversalRequests },
    changes (undecided input.id) db.reversalRequests)

def saveShopTransfer (db : Db) (row : ShopTransferRow) : Except Fault Db := do
  demand (0 < row.amountMinor ∧ 0 ≤ row.feeMinor) .constraint
  -- strict integer columns take what a signed word holds
  demand (row.amountMinor < 2 ^ 63 ∧ row.feeMinor < 2 ^ 63) .constraint
  demand (row.senderMerchantId ≠ row.recipientMerchantId) .constraint
  demand (¬ Present (·.id) row.id db.shopTransfers) .constraint
  demand (Present (·.id) row.senderMerchantId db.merchants) .constraint
  demand (Present (·.id) row.recipientMerchantId db.merchants) .constraint
  demand (Present (·.id) row.senderDeviceId db.devices) .constraint
  demand (Present (·.id) row.recipientDeviceId db.devices) .constraint
  return { db with shopTransfers := db.shopTransfers ++ [row] }

/-- What a shop has already sent since a time, for the daily limit: settled, or still queued. -/
def sentTodayMinor (db : Db) (merchantId : MerchantId) (since : Timestamp) : Int :=
  total (·.amountMinor) (db.shopTransfers.filter fun row =>
    row.senderMerchantId = merchantId ∧ since ≤ row.createdAt ∧ row.status ≠ .refused)

def findShopTransfer (db : Db) (id : String) : Option ShopTransferRow :=
  db.shopTransfers.find? fun row => row.id = id

def queued (id : String) (row : ShopTransferRow) : Bool :=
  row.id = id ∧ row.status = .needsApproval

/-- Approve a queued transfer. The claim is the lock: only a row that still needs approval
changes. -/
def approveShopTransfer (db : Db) (id : String) (postingId : PostingId) (approvedBy : String)
    (now : Timestamp) : Db × Nat :=
  ({ db with
      shopTransfers := update (queued id)
        (fun row => { row with
          status := .settled, postingId := some postingId, approvedBy := some approvedBy,
          approvedAt := some now, updatedAt := now })
        db.shopTransfers },
    changes (queued id) db.shopTransfers)

/-- Refuse a queued transfer. Nothing is returned, because nothing left the sender. -/
def refuseShopTransfer (db : Db) (id : String) (reason : String) (approvedBy : String)
    (now : Timestamp) : Db × Nat :=
  ({ db with
      shopTransfers := update (queued id)
        (fun row => { row with
          status := .refused, refusalReason := some reason, approvedBy := some approvedBy,
          approvedAt := some now, updatedAt := now })
        db.shopTransfers },
    changes (queued id) db.shopTransfers)

theorem saveReversalRequest_ok (h : saveReversalRequest db request = .ok db') :
    0 < request.amount.minor ∧ ¬ Present (·.id) request.id db.reversalRequests ∧
    (isOpen request.status = true →
      ∀ row ∈ db.reversalRequests, openOn request.transactionId row = false) ∧
    Present (·.id) request.transactionId db.transactions ∧
    db' = { db with reversalRequests := db.reversalRequests ++ [request] } := by
  simp only [saveReversalRequest, bind_ok, demand_ok, pure_ok] at h
  obtain ⟨_, positive, _, fresh, _, alone, _, stored, _, _, _, _, rfl⟩ := h
  exact ⟨positive, fresh, alone, stored, rfl⟩

theorem saveShopTransfer_ok (h : saveShopTransfer db row = .ok db') :
    0 < row.amountMinor ∧ 0 ≤ row.feeMinor ∧ row.senderMerchantId ≠ row.recipientMerchantId ∧
    db' = { db with shopTransfers := db.shopTransfers ++ [row] } := by
  simp only [saveShopTransfer, bind_ok, demand_ok, pure_ok] at h
  obtain ⟨_, ⟨amount, fee⟩, _, _, _, apart, _, _, _, _, _, _, _, _, _, _, rfl⟩ := h
  exact ⟨amount, fee, apart, rfl⟩

/-- A transfer row the table takes: amounts in range, two different shops, and the shops and
devices it names stored. -/
structure Recordable (db : Db) (row : ShopTransferRow) : Prop where
  positive : 0 < row.amountMinor ∧ 0 ≤ row.feeMinor
  word : row.amountMinor < 2 ^ 63 ∧ row.feeMinor < 2 ^ 63
  apart : row.senderMerchantId ≠ row.recipientMerchantId
  sender : Present (·.id) row.senderMerchantId db.merchants
  recipient : Present (·.id) row.recipientMerchantId db.merchants
  till : Present (·.id) row.senderDeviceId db.devices
  target : Present (·.id) row.recipientDeviceId db.devices

theorem saveShopTransfer_recordable (h : saveShopTransfer db row = .ok db') :
    Recordable db row := by
  simp only [saveShopTransfer, bind_ok, demand_ok, pure_ok] at h
  obtain ⟨_, positive, _, word, _, apart, _, _, _, sender, _, recipient, _, till, _, target, _⟩ := h
  exact ⟨positive, word, apart, sender, recipient, till, target⟩

theorem saveShopTransfer_goes (recordable : Recordable db row)
    (fresh : ¬ Present (·.id) row.id db.shopTransfers) :
    saveShopTransfer db row = .ok { db with shopTransfers := db.shopTransfers ++ [row] } := by
  obtain ⟨positive, word, apart, sender, recipient, till, target⟩ := recordable
  simp only [saveShopTransfer, bind_ok, demand_ok, pure_ok]
  exact ⟨(), positive, (), word, (), apart, (), fresh, (), sender, (), recipient, (), till, (),
    target, trivial⟩

end Telga.Persistence
