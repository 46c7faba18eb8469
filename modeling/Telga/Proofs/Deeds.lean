import Telga.Application.Process

namespace Telga.Proofs
open Domain Persistence Application Library

/-- What becomes of the value a sale holds. -/
inductive Disposal
  | release
  | settle (profitMinor profitBps : Int)
  | review
  | reviewRelease

/-- The status its reservation must still have. -/
def Disposal.origin : Disposal → ReservationState
  | .reviewRelease => .underReview
  | _ => .held

/-- The status its reservation is given. -/
def Disposal.target : Disposal → ReservationState
  | .release => .released
  | .settle _ _ => .settled
  | .review => .underReview
  | .reviewRelease => .released

def Disposal.legs (context : OperationContext) : Disposal → List DraftEntry
  | .release => releaseLegs context
  | .settle profitMinor profitBps => settlementLegs context profitMinor profitBps
  | .review => reviewLegs context
  | .reviewRelease => reviewReleaseLegs context

/-- What one atomic step does to the sales, their value and the requests about them. Nothing here
says which step may do it. -/
inductive Deed
  | quiet
  | opened (row : TransactionRow) (hold : ReservationRow) (record : IdempotencyRow)
      (context : OperationContext)
  | marked (transactionId : TransactionId) (state : TransactionState)
  | moved (state : TransactionState) (disposal : Disposal) (context : OperationContext)
      (commission : Option CommissionEntryRow)
  | posted (legs : List DraftEntry)
  | sent (row : ShopTransferRow) (legs : List DraftEntry)
  | approved (id : String) (legs : List DraftEntry)
  | dismissed (id : String)
  | filed (request : ReversalRequestRow)
  | decided (input : DecisionInput)
  | reversed (id : String) (movement : MovementInput) (transactionId : TransactionId)

/-- The legs a deed posts. -/
def Deed.legs : Deed → List DraftEntry
  | .opened _ _ _ context => holdLegs context
  | .moved _ disposal context _ => disposal.legs context
  | .posted legs => legs
  | .sent _ legs => legs
  | .approved _ legs => legs
  | .reversed _ movement _ => reversalLegs movement
  | _ => []

/-- The commission entries a deed records. -/
def Deed.commissions : Deed → List CommissionEntryRow
  | .moved _ _ _ commission => commission.toList
  | _ => []

/-- The state a deed gives a sale, if it gives it one. -/
def Deed.state (transactionId : TransactionId) : Deed → Option TransactionState
  | .opened row _ _ _ => if transactionId = row.id then some row.state else none
  | .marked given state => if transactionId = given then some state else none
  | .moved state _ context _ => if transactionId = context.transactionId then some state else none
  | .reversed _ _ given => if transactionId = given then some .reversed else none
  | _ => none

/-- Where a deed puts the value of a sale, if it touches it. -/
def Deed.value (transactionId : TransactionId) : Deed → Option ReservationState
  | .opened _ hold _ _ => if transactionId = hold.transactionId then some hold.status else none
  | .moved _ disposal context _ =>
    if transactionId = context.transactionId then some disposal.target else none
  | _ => none

/-- A change of a stored sale that gives it a state and leaves what it is alone. -/
def Restates (state : TransactionState) (change : TransactionRow → TransactionRow) : Prop :=
  ∀ row, ∃ providerReference updatedAt,
    change row = { row with state, providerReference, updatedAt }

/-- One stored sale is given a state. -/
def Restated (transactionId : TransactionId) (state : TransactionState)
    (before after : List TransactionRow) : Prop :=
  ∃ change, Restates state change ∧
    after = update (fun row => row.id = transactionId) change before

/-- One reservation is moved on. -/
def Moved (disposal : Disposal) (context : OperationContext)
    (before after : List ReservationRow) : Prop :=
  ∃ row now, row ∈ before ∧ row.transactionId = context.transactionId ∧
    row.merchantId = context.merchantId ∧ row.status = disposal.origin ∧
    after = update (guarded row.id disposal.origin) (setStatus disposal.target now) before

/-- Changes of idempotency records that touch only the result they keep. -/
def Answered (before after : List IdempotencyRow) : Prop :=
  ∃ change : IdempotencyRow → IdempotencyRow,
    (∀ row, ∃ resultState updatedAt, change row = { row with resultState, updatedAt }) ∧
    after = before.map change

def Deed.Sales (before after : List TransactionRow) : Deed → Prop
  | .opened row _ _ _ => after = before ++ [row]
  | .marked transactionId state => Restated transactionId state before after
  | .moved state _ context _ => Restated context.transactionId state before after
  | .reversed _ _ transactionId => Restated transactionId .reversed before after
  | _ => after = before

def Deed.Holds (before after : List ReservationRow) : Deed → Prop
  | .opened _ hold _ _ => after = before ++ [hold]
  | .moved _ disposal context _ => Moved disposal context before after
  | _ => after = before

def Deed.Records (before after : List IdempotencyRow) : Deed → Prop
  | .opened _ _ record _ => after = before ++ [record]
  | _ => Answered before after

def Deed.Requests (db : Db) (after : List ReversalRequestRow) : Deed → Prop
  | .filed request => after = db.reversalRequests ++ [request]
  | .decided input => after = (decideReversalRequest db input).1.reversalRequests
  | .reversed id movement _ =>
    after = update (fun row => row.id = id)
      (fun row => { row with
        status := .settled, reversalEntryId := some movement.postingId,
        updatedAt := movement.now })
      db.reversalRequests
  | _ => after = db.reversalRequests

def Deed.Transfers (before after : List ShopTransferRow) : Deed → Prop
  | .sent row _ => after = before ++ [row]
  | .approved id _ => ∃ postingId approvedBy now,
    after = update (queued id)
      (fun row => { row with
        status := .settled, postingId := some postingId, approvedBy := some approvedBy,
        approvedAt := some now, updatedAt := now })
      before
  | .dismissed id => ∃ reason approvedBy now,
    after = update (queued id)
      (fun row => { row with
        status := .refused, refusalReason := some reason, approvedBy := some approvedBy,
        approvedAt := some now, updatedAt := now })
      before
  | _ => after = before

/-- Two states of the database differ by a deed and by nothing else that the sales, the money or
the requests are read from. -/
structure Did (deed : Deed) (db db' : Db) : Prop where
  sales : deed.Sales db.transactions db'.transactions
  holds : deed.Holds db.balanceReservations db'.balanceReservations
  ledger : ∃ posting accounts,
    (∀ account ∈ accounts, account ∈ db.ledgerAccounts ∨ Named account) ∧
    db'.ledgerEntries = db.ledgerEntries ++ entryRows posting accounts 0 deed.legs
  accounts : ∀ account ∈ db'.ledgerAccounts, account ∈ db.ledgerAccounts ∨ Named account
  positive : ∀ leg ∈ deed.legs, 0 < leg.amount.minor
  commissions : db'.commissionEntries = db.commissionEntries ++ deed.commissions
  records : deed.Records db.idempotencyRecords db'.idempotencyRecords
  requests : deed.Requests db db'.reversalRequests
  transfers : deed.Transfers db.shopTransfers db'.shopTransfers
  shops : db'.merchants = db.merchants ∧ db'.devices = db.devices

theorem answered_refl (rows : List IdempotencyRow) : Answered rows rows :=
  ⟨id, fun row => ⟨row.resultState, row.updatedAt, rfl⟩, (List.map_id rows).symm⟩

theorem answered_update {hit : IdempotencyRow → Bool} (rows : List IdempotencyRow)
    (state : Option TransactionState) (now : Timestamp) :
    Answered rows (update hit
      (fun row => { row with resultState := state, updatedAt := now }) rows) := by
  refine ⟨fun row => if hit row then { row with resultState := state, updatedAt := now } else row,
    fun row => ?_, rfl⟩
  by_cases struck : hit row
  · exact ⟨state, now, by simp [struck]⟩
  · exact ⟨row.resultState, row.updatedAt, by simp [struck]⟩

theorem restates_overwrite (transaction : Transaction) :
    Restates transaction.state (overwrite transaction) :=
  fun _ => ⟨transaction.providerReference, transaction.updatedAt, rfl⟩

/-- A step that touches none of the tables below did nothing to them. -/
theorem Did.quiet (sales : db'.transactions = db.transactions)
    (holds : db'.balanceReservations = db.balanceReservations)
    (ledger : db'.ledgerEntries = db.ledgerEntries)
    (accounts : db'.ledgerAccounts = db.ledgerAccounts)
    (commissions : db'.commissionEntries = db.commissionEntries)
    (records : db'.idempotencyRecords = db.idempotencyRecords)
    (requests : db'.reversalRequests = db.reversalRequests)
    (transfers : db'.shopTransfers = db.shopTransfers)
    (shops : db'.merchants = db.merchants ∧ db'.devices = db.devices) : Did .quiet db db' where
  sales := sales
  holds := holds
  ledger := ⟨⟨"", "", 0, []⟩, [], by simp, by simpa [Deed.legs, entryRows] using ledger⟩
  accounts := fun _ mem => .inl (accounts ▸ mem)
  positive := by simp [Deed.legs]
  commissions := by simpa [Deed.commissions] using commissions
  records := by
    rw [records]
    exact answered_refl _
  requests := requests
  transfers := transfers
  shops := shops

/-- A step that only gives a stored sale a state. -/
theorem Did.marked (sales : Restated transactionId state db.transactions db'.transactions)
    (holds : db'.balanceReservations = db.balanceReservations)
    (ledger : db'.ledgerEntries = db.ledgerEntries)
    (accounts : db'.ledgerAccounts = db.ledgerAccounts)
    (commissions : db'.commissionEntries = db.commissionEntries)
    (records : Answered db.idempotencyRecords db'.idempotencyRecords)
    (requests : db'.reversalRequests = db.reversalRequests)
    (transfers : db'.shopTransfers = db.shopTransfers)
    (shops : db'.merchants = db.merchants ∧ db'.devices = db.devices) :
    Did (.marked transactionId state) db db' where
  sales := sales
  holds := holds
  ledger := ⟨⟨"", "", 0, []⟩, [], by simp, by simpa [Deed.legs, entryRows] using ledger⟩
  accounts := fun _ mem => .inl (accounts ▸ mem)
  positive := by simp [Deed.legs]
  commissions := by simpa [Deed.commissions] using commissions
  records := records
  requests := requests
  transfers := transfers
  shops := shops

/-- A step that gives a stored sale a state and moves its value on. -/
theorem Did.moved {disposal : Disposal}
    (sales : Restated context.transactionId state db.transactions db'.transactions)
    (holds : Moved disposal context db.balanceReservations db'.balanceReservations)
    (positive : ∀ leg ∈ disposal.legs context, 0 < leg.amount.minor)
    (ledger : db'.ledgerEntries = db.ledgerEntries ++
      entryRows (postingFor context (disposal.legs context)) db.ledgerAccounts 0
        (disposal.legs context))
    (accounts : db'.ledgerAccounts = db.ledgerAccounts)
    (commissions : db'.commissionEntries = db.commissionEntries ++ commission.toList)
    (records : Answered db.idempotencyRecords db'.idempotencyRecords)
    (requests : db'.reversalRequests = db.reversalRequests)
    (transfers : db'.shopTransfers = db.shopTransfers)
    (shops : db'.merchants = db.merchants ∧ db'.devices = db.devices) :
    Did (.moved state disposal context commission) db db' where
  sales := sales
  holds := holds
  ledger := ⟨_, _, fun _ mem => .inl mem, ledger⟩
  accounts := fun _ mem => .inl (accounts ▸ mem)
  positive := positive
  commissions := commissions
  records := records
  requests := requests
  transfers := transfers
  shops := shops

theorem Did.refl (db : Db) : Did .quiet db db :=
  .quiet rfl rfl rfl rfl rfl rfl rfl rfl ⟨rfl, rfl⟩

end Telga.Proofs
