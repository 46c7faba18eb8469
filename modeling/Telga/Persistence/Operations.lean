import Telga.Persistence.Fees
import Telga.Persistence.Ledger
import Telga.Persistence.Reservations

namespace Telga.Persistence
open Domain Library

/-- Deterministic account ids, so a merchant's accounts are addressable by name. -/
def merchantAccountId (merchantId : MerchantId) (kind : LedgerAccountKind) : LedgerAccountId :=
  .merchant merchantId kind

def merchantAccounts (merchantId : MerchantId) : List LedgerAccountRow :=
  [.merchantAvailable, .merchantReserved, .merchantUnderReview].map fun kind =>
    { id := merchantAccountId merchantId kind, merchantId := some merchantId, accountType := kind }

def platformAccounts : List LedgerAccountRow :=
  [.bankClearing, .providerSettlement, .telgaRevenue, .refundReserves, .hardwareDeposits].map
    fun kind => { id := .platform kind, merchantId := none, accountType := kind }

def ensureAll : List LedgerAccountRow → Db → Except Fault Db
  | [], db => .ok db
  | account :: rest, db => do
    let db ← ensureAccount db account
    ensureAll rest db

/-- Create the three merchant buckets and the platform accounts if absent. -/
def ensureAccounts (db : Db) (merchantId : MerchantId) : Except Fault Db :=
  ensureAll (merchantAccounts merchantId ++ platformAccounts) db

structure OperationContext where
  merchantId : MerchantId
  transactionId : TransactionId
  amount : Money
  now : Timestamp
  correlationId : CorrelationId
  actor : AuditActor
  postingId : PostingId
  auditId : AuditEventId

/-- One leg on a merchant's own account. -/
def merchantLeg (merchantId : MerchantId) (kind : LedgerAccountKind)
    (transactionId : Option TransactionId) (direction : EntryDirection) (amount : Money)
    (reason : EntryReason) : DraftEntry :=
  { accountId := merchantAccountId merchantId kind, accountKind := kind,
    merchantId := some merchantId, transactionId, direction, amount, reason }

/-- One leg on a platform account, attributed to no merchant. -/
def platformLeg (kind : LedgerAccountKind) (transactionId : Option TransactionId)
    (direction : EntryDirection) (amount : Money) (reason : EntryReason) : DraftEntry :=
  { accountId := .platform kind, accountKind := kind, transactionId, direction, amount, reason }

def bucketTransfer (merchantId : MerchantId) (origin target : LedgerAccountKind) (amount : Money)
    (transactionId : TransactionId) (reason : EntryReason) : List DraftEntry :=
  [merchantLeg merchantId origin (some transactionId) .debit amount reason,
   merchantLeg merchantId target (some transactionId) .credit amount reason]

def audit (db : Db) (context : OperationContext) (action : AuditAction) (entityType : String) :
    Except Fault Db :=
  saveAuditEvent db
    { event :=
        { id := context.auditId, occurredAt := context.now, action, actor := context.actor,
          merchantId := context.merchantId, transactionId := some context.transactionId }
      correlationId := context.correlationId
      entityType
      entityId := some context.transactionId }

/-- One posting of an operation on a sale. -/
def postingFor (context : OperationContext) (entries : List DraftEntry) : PostingInput :=
  { postingId := context.postingId, correlationId := context.correlationId, now := context.now,
    entries }

/-- What moves money outside any one sale: whose, how much, under which posting. -/
structure MovementInput where
  merchantId : MerchantId
  amount : Money
  now : Timestamp
  correlationId : CorrelationId
  postingId : PostingId
  transactionId : Option TransactionId := none

def movementPosting (input : MovementInput) (entries : List DraftEntry) : PostingInput :=
  { postingId := input.postingId, correlationId := input.correlationId, now := input.now,
    entries }

/-- Post legs after making sure the accounts exist. -/
def postMovement (db : Db) (input : MovementInput) (entries : List DraftEntry) :
    Except Fault Db := do
  let db ← ensureAccounts db input.merchantId
  appendEntries db (movementPosting input entries)

def profitLegs (input : MovementInput) : List DraftEntry :=
  [merchantLeg input.merchantId .merchantAvailable none .credit input.amount .adjustment,
   { platformLeg .telgaRevenue none .debit input.amount .adjustment with
     merchantId := some input.merchantId }]

/-- Move earned profit into the merchant's selling balance. Posts what it is given: the caller
checks the amount against `profitAvailableMinor` first. -/
def transferProfitToBalance (db : Db) (input : MovementInput) : Except Fault Db :=
  postMovement db input (profitLegs input)

def fundingLegs (input : MovementInput) : List DraftEntry :=
  [merchantLeg input.merchantId .merchantAvailable none .credit input.amount .fundingCredit,
   platformLeg .bankClearing none .debit input.amount .fundingCredit]

/-- Credit a merchant's available balance from a verified deposit. -/
def fundMerchant (db : Db) (input : MovementInput) : Except Fault Db :=
  postMovement db input (fundingLegs input)

def reversalLegs (input : MovementInput) : List DraftEntry :=
  [merchantLeg input.merchantId .merchantAvailable input.transactionId .credit input.amount
     .reversal,
   platformLeg .providerSettlement input.transactionId .debit input.amount .reversal]

/-- Return the value of a settled sale to a merchant: a compensating credit, not a release. -/
def postReversalAdjustment (db : Db) (input : MovementInput) : Except Fault Db :=
  postMovement db input (reversalLegs input)

structure ShopTransferInput where
  senderMerchantId : MerchantId
  recipientMerchantId : MerchantId
  amount : Money
  fee : Money
  now : Timestamp
  correlationId : CorrelationId
  postingId : PostingId

/-- The sender parts with amount and fee; the recipient gets the amount, never the fee; a nil
fee writes no third leg. -/
def transferLegs (input : ShopTransferInput) (debit : Money) : List DraftEntry :=
  [merchantLeg input.senderMerchantId .merchantAvailable none .debit debit .adjustment,
   merchantLeg input.recipientMerchantId .merchantAvailable none .credit input.amount
     .adjustment] ++
  (if 0 < input.fee.minor then
    [platformLeg .telgaRevenue none .credit input.fee .adjustment]
   else [])

def transferPosting (input : ShopTransferInput) (debit : Money) : PostingInput :=
  { postingId := input.postingId, correlationId := input.correlationId, now := input.now,
    entries := transferLegs input debit }

/-- Move balance from one shop to another. -/
def postShopTransfer (db : Db) (input : ShopTransferInput) : Except Fault Db := do
  let db ← ensureAccounts db input.senderMerchantId
  let db ← ensureAccounts db input.recipientMerchantId
  let debit ← money (input.amount.minor + input.fee.minor)
  appendEntries db (transferPosting input debit)

def holdLegs (context : OperationContext) : List DraftEntry :=
  bucketTransfer context.merchantId .merchantAvailable .merchantReserved context.amount
    context.transactionId .saleDebit

/-- Reserve value against a sale. -/
def reserve (db : Db) (context : OperationContext) (reservationId : Option ReservationId := none) :
    Except Fault Db := do
  let db ← ensureAccounts db context.merchantId
  let view ← balanceFor db context.merchantId
  assertSufficientAvailable view context.amount
  let reservation ← createReservation (reservationId.getD ("res_" ++ context.transactionId))
    context.merchantId context.transactionId context.amount context.now
  let db ← saveReservation db reservation context.correlationId
  let db ← appendEntries db (postingFor context (holdLegs context))
  audit db context .balanceReserved "balance_reservation"

/-- Move a sale's reservation on, post the movement of its value and audit it. The status update
comes first: it is the concurrency guard. -/
def moveValue (origin target : ReservationState) (entries : List DraftEntry)
    (action : AuditAction) (entityType : String) (db : Db) (context : OperationContext) :
    Except Fault Db := do
  let row ← expect (findReservation db context.transactionId context.merchantId) .accountNotFound
  let db ← guardedTransition db row.id origin target context.now
  let db ← appendEntries db (postingFor context entries)
  audit db context action entityType

def releaseLegs (context : OperationContext) : List DraftEntry :=
  bucketTransfer context.merchantId .merchantReserved .merchantAvailable context.amount
    context.transactionId .reversal

/-- Release a held reservation back to available. -/
def release (db : Db) (context : OperationContext) : Except Fault Db :=
  moveValue .held .released (releaseLegs context) .balanceReleased "balance_reservation" db context

/-- The profit leg, clamped so that a misconfigured rate cannot invert the provider leg. -/
def clampProfit (amount : Money) (profitMinor : Int) : Money where
  minor := max 0 (min profitMinor amount.minor)
  safe := by
    have := amount.safe
    unfold SafeInteger at *
    omega

/-- What is left for the provider. -/
def providerShare (amount : Money) (profitMinor : Int) : Money where
  minor := amount.minor - (clampProfit amount profitMinor).minor
  safe := by
    have := amount.safe
    unfold SafeInteger at *
    simp only [clampProfit]
    omega

def settlementLegs (context : OperationContext) (profitMinor profitBps : Int) : List DraftEntry :=
  [merchantLeg context.merchantId .merchantReserved (some context.transactionId) .debit
     context.amount .saleDebit,
   platformLeg .providerSettlement (some context.transactionId) .credit
     (providerShare context.amount profitMinor) .saleDebit] ++
  (if 0 < (clampProfit context.amount profitMinor).minor then
    [{ platformLeg .telgaRevenue (some context.transactionId) .credit
         (clampProfit context.amount profitMinor) .commissionCredit with
       merchantId := some context.merchantId
       ruleVersion := some (.commissionShare profitBps) }]
   else [])

/-- Finalize a successful sale: value leaves the reserved bucket for provider settlement, less
the shop's profit where one is given. -/
def finalizeSuccess (db : Db) (context : OperationContext) (profitMinor : Int := 0)
    (profitBps : Int := 0) : Except Fault Db :=
  moveValue .held .settled (settlementLegs context profitMinor profitBps) .ledgerPosted
    "transaction" db context

def reviewLegs (context : OperationContext) : List DraftEntry :=
  bucketTransfer context.merchantId .merchantReserved .merchantUnderReview context.amount
    context.transactionId .adjustment

/-- Move held value into the under-review bucket. Still excluded from available. -/
def moveToUnderReview (db : Db) (context : OperationContext) : Except Fault Db :=
  moveValue .held .underReview (reviewLegs context) .balanceUnderReview "balance_reservation" db
    context

def reviewReleaseLegs (context : OperationContext) : List DraftEntry :=
  bucketTransfer context.merchantId .merchantUnderReview .merchantAvailable context.amount
    context.transactionId .reversal

/-- Resolve an under-review reservation back to available. -/
def releaseFromUnderReview (db : Db) (context : OperationContext) : Except Fault Db :=
  moveValue .underReview .released (reviewReleaseLegs context) .adjustmentPosted
    "balance_reservation" db context

inductive ChargeOutcome
  | charged (amount : Money)
  | arrears (amount availableBalance : Money)
  | alreadyCharged
deriving DecidableEq

def feeLegs (input : ChargeInput) : List DraftEntry :=
  [{ merchantLeg input.merchantId .merchantAvailable none .debit input.amount .feeDebit with
     ruleVersion := some (.softwareFee input.period) },
   { platformLeg .telgaRevenue none .credit input.amount .feeDebit with
     ruleVersion := some (.softwareFee input.period) }]

/-- The correlation id a month's software fee is posted under. -/
def feeCorrelation (period : Period) : CorrelationId :=
  "software-fee-" ++ toString period.year ++ "-" ++
    (if period.month < 10 then "0" else "") ++ toString period.month

def feePosting (input : ChargeInput) : PostingInput :=
  { postingId := input.postingId, correlationId := feeCorrelation input.period, now := input.now,
    entries := feeLegs input }

/-- Charge one shop its monthly software fee, or record that it could not be taken. It refuses
rather than overdraws. -/
def chargeSoftwareFee (db : Db) (input : ChargeInput) : Except Fault (Db × ChargeOutcome) := do
  if (findCharge db input.merchantId input.period).any fun charge => charge.status ≠ .arrears then
    return (db, .alreadyCharged)
  else
    let view ← balanceFor db input.merchantId
    if view.available.minor < input.amount.minor then
      let db ← insertArrears db input
      return (db, .arrears input.amount view.available)
    else
      let db ← ensureAccounts db input.merchantId
      let db ← appendEntries db (feePosting input)
      let db ← insertPaidCharge db input
      return (db, .charged input.amount)

/-- An account's owner and kind are the ones its id names. -/
def Named (account : LedgerAccountRow) : Prop :=
  match account.id with
  | .merchant merchantId kind => account.merchantId = some merchantId ∧ account.accountType = kind
  | .platform kind => account.merchantId = none ∧ account.accountType = kind

instance (account : LedgerAccountRow) : Decidable (Named account) :=
  match account with
  | ⟨.merchant _ _, _, _⟩ => inferInstanceAs (Decidable (_ ∧ _))
  | ⟨.platform _, _, _⟩ => inferInstanceAs (Decidable (_ ∧ _))

theorem balanceFor_ok (h : balanceFor db merchantId = .ok view) :
    view.available.minor = netMinor db merchantId [.merchantAvailable, .merchantFunds] := by
  simp only [balanceFor, bind_ok, money_ok, pure_ok] at h
  obtain ⟨a, ha, _, _, _, _, _, _, rfl⟩ := h
  exact ha

theorem ensureAll_ok (h : ensureAll accounts db = .ok db') :
    ∃ rows, (∀ row ∈ rows, row ∈ accounts) ∧
      db' = { db with ledgerAccounts := db.ledgerAccounts ++ rows } := by
  induction accounts generalizing db with
  | nil =>
    cases h
    exact ⟨[], by simp, by simp⟩
  | cons account rest ih =>
    simp only [ensureAll, bind_ok] at h
    obtain ⟨next, first, others⟩ := h
    obtain ⟨rows, known, rfl⟩ := ih others
    rcases ensureAccount_ok first with rfl | rfl
    · exact ⟨rows, fun row mem => List.mem_cons_of_mem _ (known row mem), rfl⟩
    · refine ⟨account :: rows, ?_, by simp⟩
      intro row mem
      rcases List.mem_cons.mp mem with rfl | mem
      · exact List.mem_cons_self ..
      · exact List.mem_cons_of_mem _ (known row mem)

/-- The accounts are there afterwards, and none that was there is gone. -/
theorem ensureAll_present (h : ensureAll accounts db = .ok db') :
    (∀ id, Present (·.id) id db.ledgerAccounts → Present (·.id) id db'.ledgerAccounts) ∧
    ∀ account ∈ accounts, Present (·.id) account.id db'.ledgerAccounts := by
  induction accounts generalizing db with
  | nil =>
    cases h
    simp
  | cons account rest ih =>
    simp only [ensureAll, bind_ok] at h
    obtain ⟨next, first, others⟩ := h
    obtain ⟨kept, made⟩ := ih others
    have here : Present (·.id) account.id next.ledgerAccounts ∧
        ∀ id, Present (·.id) id db.ledgerAccounts → Present (·.id) id next.ledgerAccounts := by
      unfold ensureAccount at first
      split at first
      · rename_i there
        cases first
        exact ⟨there, fun _ there => there⟩
      · simp only [bind_ok, demand_ok, pure_ok] at first
        obtain ⟨_, _, _, _, rfl⟩ := first
        refine ⟨⟨account, by simp, rfl⟩, ?_⟩
        rintro id ⟨row, mem, same⟩
        exact ⟨row, List.mem_append_left _ mem, same⟩
    refine ⟨fun id there => kept id (here.2 id there), fun other mem => ?_⟩
    rcases List.mem_cons.mp mem with rfl | mem
    · exact kept _ here.1
    · exact made other mem

theorem ensureAccounts_ok (h : ensureAccounts db merchantId = .ok db') :
    ∃ rows, (∀ row ∈ rows, Named row) ∧
      db' = { db with ledgerAccounts := db.ledgerAccounts ++ rows } := by
  obtain ⟨rows, known, rfl⟩ := ensureAll_ok h
  refine ⟨rows, fun row mem => ?_, rfl⟩
  have listed := known row mem
  simp only [merchantAccounts, platformAccounts, merchantAccountId, List.map_cons, List.map_nil,
    List.cons_append, List.nil_append, List.mem_cons, List.not_mem_nil, or_false] at listed
  rcases listed with rfl | rfl | rfl | rfl | rfl | rfl | rfl | rfl <;> exact ⟨rfl, rfl⟩

/-- An account that is there is found, under its own name. -/
theorem account_found {accounts : List LedgerAccountRow} {wanted : LedgerAccountId}
    (named : ∀ row ∈ accounts, Named row)
    (there : Present (·.id) wanted accounts) :
    ∃ account, accounts.find? (fun row => row.id = wanted) = some account ∧ Named account ∧
      account.id = wanted := by
  obtain ⟨account, found, same, mem⟩ := there.find
  exact ⟨account, found, named account mem, same⟩

/-- Accounts are made where they are missing, when the shops they name are stored. -/
theorem ensureAll_goes {accounts : List LedgerAccountRow}
    (named : ∀ account ∈ db.ledgerAccounts, Named account)
    (wanted : ∀ account ∈ accounts, Named account ∧
      ∀ merchantId ∈ account.merchantId, Present (·.id) merchantId db.merchants) :
    ∃ db', ensureAll accounts db = .ok db' := by
  induction accounts generalizing db with
  | nil => exact ⟨db, rfl⟩
  | cons account rest ih =>
    have later := fun other mem => wanted other (List.mem_cons_of_mem account mem)
    obtain ⟨own, shop⟩ := wanted account (List.mem_cons_self ..)
    simp only [ensureAll, bind_ok, ensureAccount]
    split
    · exact (ih named later).imp fun db' others => ⟨db, rfl, others⟩
    · rename_i absent
      have apart : ∀ row ∈ db.ledgerAccounts, account.merchantId ≠ none →
          ¬ (row.merchantId = account.merchantId ∧ row.accountType = account.accountType) := by
        intro row mem owned same
        refine absent ⟨row, mem, ?_⟩
        have its := named row mem
        unfold Named at its own
        cases id : account.id with
        | platform kind => simp [id] at own; exact absurd own.1 owned
        | merchant merchantId kind =>
          cases id' : row.id with
          | platform kind => simp [id'] at its; rw [← same.1] at owned; exact absurd its.1 owned
          | merchant merchantId' kind' =>
            simp only [id, id'] at own its
            have first : merchantId' = merchantId := by simpa [its, own] using same.1
            have second : kind' = kind := by simpa [its, own] using same.2
            rw [first, second] at id'
            exact id'
      have fresh : ∀ row ∈ db.ledgerAccounts ++ [account], Named row := by
        intro row mem
        rcases List.mem_append.mp mem with mem | mem
        · exact named row mem
        · rw [List.mem_singleton.mp mem]
          exact own
      refine (@ih { db with ledgerAccounts := db.ledgerAccounts ++ [account] } fresh later).imp
        fun db' others => ⟨_, ?_, others⟩
      simp only [bind_ok, demand_ok, pure_ok]
      exact ⟨(), apart, (), shop, trivial⟩

theorem ensureAccounts_goes (named : ∀ account ∈ db.ledgerAccounts, Named account)
    (shop : Present (·.id) merchantId db.merchants) :
    ∃ db', ensureAccounts db merchantId = .ok db' := by
  refine ensureAll_goes named fun account mem => ?_
  simp only [merchantAccounts, platformAccounts, merchantAccountId, List.map_cons, List.map_nil,
    List.cons_append, List.nil_append, List.mem_cons, List.not_mem_nil, or_false] at mem
  rcases mem with rfl | rfl | rfl | rfl | rfl | rfl | rfl | rfl <;>
    exact ⟨⟨rfl, rfl⟩, by simp [shop]⟩

theorem merchantLeg_postable (named : ∀ account ∈ db.ledgerAccounts, Named account)
    (there : Present (·.id) (merchantAccountId merchantId kind) db.ledgerAccounts)
    (shop : Present (·.id) merchantId db.merchants) (positive : 0 < amount.minor) :
    Postable db (merchantLeg merchantId kind none direction amount reason) := by
  obtain ⟨account, found, its, same⟩ := account_found named there
  refine ⟨⟨account, found, ?_⟩, positive, by simp [merchantLeg], by simpa [owner, merchantLeg]⟩
  unfold Named at its
  rw [same] at its
  simp [merchantLeg, merchantAccountId] at its ⊢
  simp [its.1]

theorem platformLeg_postable (named : ∀ account ∈ db.ledgerAccounts, Named account)
    (there : Present (·.id) (LedgerAccountId.platform kind) db.ledgerAccounts)
    (positive : 0 < amount.minor) :
    Postable db (platformLeg kind none direction amount reason) := by
  obtain ⟨account, found, its, same⟩ := account_found named there
  unfold Named at its
  rw [same] at its
  refine ⟨⟨account, found, by simp [its.1]⟩, positive, by simp [platformLeg], ?_⟩
  have mine : owner db.ledgerAccounts (platformLeg kind none direction amount reason) =
      account.merchantId := by
    change (db.ledgerAccounts.find? fun row => row.id = .platform kind).bind (·.merchantId) = _
    rw [found]
    rfl
  rw [mine, its.1]
  simp

/-- Two stored shops' accounts take a transfer, whichever of them are missing. -/
theorem postShopTransfer_goes (named : ∀ account ∈ db.ledgerAccounts, Named account)
    (sender : Present (·.id) input.senderMerchantId db.merchants)
    (recipient : Present (·.id) input.recipientMerchantId db.merchants)
    (positive : 0 < input.amount.minor) (charge : 0 ≤ input.fee.minor)
    (safe : SafeInteger (input.amount.minor + input.fee.minor))
    (fresh : ∀ row ∈ db.ledgerEntries, row.id.1 ≠ input.postingId) :
    ∃ db', postShopTransfer db input = .ok db' := by
  obtain ⟨first, ensured⟩ := ensureAccounts_goes named sender
  have made := ensureAll_present ensured
  obtain ⟨rows, known, rfl⟩ := ensureAccounts_ok ensured
  have all : ∀ account ∈ db.ledgerAccounts ++ rows, Named account := by
    intro account mem
    rcases List.mem_append.mp mem with mem | mem
    · exact named account mem
    · exact known account mem
  obtain ⟨second, ensured'⟩ := @ensureAccounts_goes input.recipientMerchantId
    { db with ledgerAccounts := db.ledgerAccounts ++ rows } all recipient
  have made' := ensureAll_present ensured'
  obtain ⟨more, known', rfl⟩ := ensureAccounts_ok ensured'
  have every : ∀ account ∈ db.ledgerAccounts ++ rows ++ more, Named account := by
    intro account mem
    rcases List.mem_append.mp mem with mem | mem
    · exact all account mem
    · exact known' account mem
  have available := fun merchantId => show
    { id := merchantAccountId merchantId .merchantAvailable, merchantId := some merchantId,
      accountType := .merchantAvailable } ∈ merchantAccounts merchantId ++ platformAccounts by
    simp [merchantAccounts]
  have revenue := fun merchantId => show
    { id := .platform .telgaRevenue, merchantId := none, accountType := .telgaRevenue } ∈
      merchantAccounts merchantId ++ platformAccounts by
    simp [platformAccounts]
  simp only [postShopTransfer, bind_ok]
  obtain ⟨next, written⟩ : ∃ next, appendEntries
      { db with ledgerAccounts := db.ledgerAccounts ++ rows ++ more }
      (transferPosting input ⟨input.amount.minor + input.fee.minor, safe⟩) = .ok next := by
    refine appendEntries_goes ?_ ?_ fresh
    · simp only [transferPosting, transferLegs]
      split
      · simp [residualMinor, signedMinor, signed, merchantLeg, platformLeg]
      · simp [residualMinor, signedMinor, signed, merchantLeg]
        omega
    · intro entry mem
      simp only [transferPosting, transferLegs, List.mem_append, List.mem_cons, List.not_mem_nil,
        or_false] at mem
      rcases mem with (rfl | rfl) | mem
      · exact merchantLeg_postable every (made'.1 _ (made.2 _ (available _))) sender
          (by simp only; omega)
      · exact merchantLeg_postable every (made'.2 _ (available _)) recipient positive
      · split at mem
        · rename_i some
          rw [List.mem_singleton.mp mem]
          exact platformLeg_postable every (made'.2 _ (revenue _)) some
        · cases mem
  exact ⟨next, _, ensured, _, ensured', ⟨_, safe⟩, money_ok.mpr rfl, written⟩

theorem audit_ok (h : audit db context action entityType = .ok db') :
    ∃ audits, db' = { db with auditEvents := audits } :=
  saveAuditEvent_ok h

/-- What a movement outside the reservations leaves: its own posting, and any accounts that were
missing. -/
theorem postMovement_ok (h : postMovement db input entries = .ok db') :
    ∃ rows, (∀ row ∈ rows, Named row) ∧
      residualMinor entries = 0 ∧ (∀ entry ∈ entries, 0 < entry.amount.minor) ∧
      (∀ entry ∈ entries, ∀ t ∈ entry.transactionId, Present (·.id) t db.transactions) ∧
      db' = { db with
        ledgerAccounts := db.ledgerAccounts ++ rows
        ledgerEntries := db.ledgerEntries ++
          entryRows (movementPosting input entries) (db.ledgerAccounts ++ rows) 0 entries } := by
  simp only [postMovement, bind_ok] at h
  obtain ⟨next, accounts, posted⟩ := h
  obtain ⟨rows, named, rfl⟩ := ensureAccounts_ok accounts
  obtain ⟨balanced, positive, stored, rfl⟩ := appendEntries_ok posted
  exact ⟨rows, named, balanced, positive, stored, rfl⟩

theorem postShopTransfer_ok (h : postShopTransfer db input = .ok db') :
    ∃ rows debit, (∀ row ∈ rows, Named row) ∧
      debit.minor = input.amount.minor + input.fee.minor ∧
      residualMinor (transferLegs input debit) = 0 ∧
      (∀ entry ∈ transferLegs input debit, 0 < entry.amount.minor) ∧
      db' = { db with
        ledgerAccounts := db.ledgerAccounts ++ rows
        ledgerEntries := db.ledgerEntries ++
          entryRows (transferPosting input debit) (db.ledgerAccounts ++ rows) 0
            (transferLegs input debit) } := by
  simp only [postShopTransfer, bind_ok, money_ok] at h
  obtain ⟨first, sender, second, recipient, debit, sum, posted⟩ := h
  obtain ⟨rows, named, rfl⟩ := ensureAccounts_ok sender
  obtain ⟨more, named', rfl⟩ := ensureAccounts_ok recipient
  obtain ⟨balanced, positive, _, rfl⟩ := appendEntries_ok posted
  refine ⟨rows ++ more, debit, ?_, sum, balanced, positive, by simp [transferPosting]⟩
  intro row mem
  rcases List.mem_append.mp mem with mem | mem
  · exact named row mem
  · exact named' row mem

/-- The reservation a reserve asks for. -/
def holdFor (context : OperationContext) (reservationId : Option ReservationId) :
    BalanceReservation :=
  { id := reservationId.getD ("res_" ++ context.transactionId), merchantId := context.merchantId,
    transactionId := context.transactionId, amount := context.amount, state := .held,
    createdAt := context.now, updatedAt := context.now }

/-- How saving a reservation leaves the table: the row of that id set back to its status, or a
new row for a transaction that had none. -/
def Saved (old new : List ReservationRow) (reservation : BalanceReservation)
    (correlationId : CorrelationId) : Prop :=
  (Present (·.id) reservation.id old ∧
    new = update (fun row => row.id = reservation.id)
      (setStatus reservation.state reservation.updatedAt) old) ∨
  (¬ Present (·.id) reservation.id old ∧
    ¬ Present (·.transactionId) reservation.transactionId old ∧
    new = old ++ [reservationRow reservation correlationId])

theorem reserve_ok (h : reserve db context reservationId = .ok db') :
    ∃ rows reservations audits, (∀ row ∈ rows, Named row) ∧
      0 < context.amount.minor ∧
      context.amount.minor ≤
        netMinor db context.merchantId [.merchantAvailable, .merchantFunds] ∧
      Present (·.id) context.transactionId db.transactions ∧
      Saved db.balanceReservations reservations (holdFor context reservationId)
        context.correlationId ∧
      db' = { db with
        ledgerAccounts := db.ledgerAccounts ++ rows
        balanceReservations := reservations
        ledgerEntries := db.ledgerEntries ++
          entryRows (postingFor context (holdLegs context)) (db.ledgerAccounts ++ rows) 0
            (holdLegs context)
        auditEvents := audits } := by
  simp only [reserve, bind_ok, assertSufficientAvailable_ok, createReservation,
    assertPositive_ok, pure_ok] at h
  obtain ⟨first, accounts, view, balance, _, enough, _, ⟨_, positive, rfl⟩, second, saved, third,
    posted, audited⟩ := h
  obtain ⟨rows, named, rfl⟩ := ensureAccounts_ok accounts
  have covered : context.amount.minor ≤
      netMinor db context.merchantId [.merchantAvailable, .merchantFunds] := by
    rw [balanceFor_ok balance] at enough
    exact enough
  rcases saveReservation_ok saved with ⟨found, rfl⟩ | ⟨absent, apart, _, rfl⟩
  all_goals
    obtain ⟨_, _, stored, rfl⟩ := appendEntries_ok posted
    obtain ⟨audits, rfl⟩ := audit_ok audited
    have sold := stored _ (List.mem_cons_self ..) _ rfl
    refine ⟨rows, _, audits, named, positive, covered, sold, ?_, rfl⟩
  · exact .inl ⟨found, rfl⟩
  · exact .inr ⟨absent, apart, rfl⟩

/-- Moving a sale's value on: its reservation was in the status it is moved from, that one row
moved, the legs were posted, and only those two tables and the audit trail changed. -/
theorem moveValue_ok
    (h : moveValue origin target entries action entityType db context = .ok db') :
    ∃ row hit audits,
      findReservation db context.transactionId context.merchantId = some row ∧
      db.balanceReservations.filter (guarded row.id origin) = [hit] ∧
      hit ∈ db.balanceReservations ∧ hit.id = row.id ∧ hit.status = origin ∧
      (∀ entry ∈ entries, 0 < entry.amount.minor) ∧
      db' = { db with
        balanceReservations := update (guarded row.id origin) (setStatus target context.now)
          db.balanceReservations
        ledgerEntries := db.ledgerEntries ++
          entryRows (postingFor context entries) db.ledgerAccounts 0 entries
        auditEvents := audits } := by
  simp only [moveValue, bind_ok, expect_ok] at h
  obtain ⟨row, found, first, moved, second, posted, audited⟩ := h
  obtain ⟨⟨hit, one, mem, same, status⟩, rfl⟩ := guardedTransition_ok moved
  obtain ⟨_, positive, _, rfl⟩ := appendEntries_ok posted
  obtain ⟨audits, rfl⟩ := audit_ok audited
  exact ⟨row, hit, audits, found, one, mem, same, status, positive, rfl⟩

/-- What a movement of value posted balanced under a posting id that was not used before, and it
was audited. -/
theorem moveValue_recorded
    (h : moveValue origin target entries action entityType db context = .ok db') :
    residualMinor entries = 0 ∧
    (entries ≠ [] → ¬ Present (·.id) (context.postingId, 0) db.ledgerEntries) ∧
    ∃ row, row.event.id = context.auditId ∧ db'.auditEvents = db.auditEvents ++ [row] := by
  simp only [moveValue, bind_ok, expect_ok] at h
  obtain ⟨_, _, _, moved, _, posted, audited⟩ := h
  obtain ⟨_, rfl⟩ := guardedTransition_ok moved
  have fresh := appendEntries_fresh posted
  obtain ⟨balanced, _, _, rfl⟩ := appendEntries_ok posted
  obtain ⟨row, event, rfl⟩ := saveAuditEvent_appends audited
  exact ⟨balanced, fresh, row, by rw [event], rfl⟩

theorem reserve_recorded (h : reserve db context reservationId = .ok db') :
    residualMinor (holdLegs context) = 0 ∧
    ¬ Present (·.id) (context.postingId, 0) db.ledgerEntries ∧
    ∃ row, row.event.id = context.auditId ∧ db'.auditEvents = db.auditEvents ++ [row] := by
  simp only [reserve, bind_ok] at h
  obtain ⟨_, accounts, _, _, _, _, _, _, _, saved, _, posted, audited⟩ := h
  obtain ⟨_, _, rfl⟩ := ensureAccounts_ok accounts
  obtain ⟨row, event, rfl⟩ := saveAuditEvent_appends audited
  have fresh := appendEntries_fresh posted (by simp [postingFor, holdLegs, bucketTransfer])
  rcases saveReservation_ok saved with ⟨_, rfl⟩ | ⟨_, _, _, rfl⟩
  all_goals
    obtain ⟨balanced, _, _, rfl⟩ := appendEntries_ok posted
    exact ⟨balanced, fresh, row, by rw [event], rfl⟩

theorem postMovement_fresh (some : entries ≠ []) (h : postMovement db input entries = .ok db') :
    ¬ Present (·.id) (input.postingId, 0) db.ledgerEntries := by
  simp only [postMovement, bind_ok] at h
  obtain ⟨_, accounts, posted⟩ := h
  have fresh := appendEntries_fresh posted some
  obtain ⟨_, _, rfl⟩ := ensureAccounts_ok accounts
  exact fresh

theorem postShopTransfer_fresh (h : postShopTransfer db input = .ok db') :
    ¬ Present (·.id) (input.postingId, 0) db.ledgerEntries := by
  simp only [postShopTransfer, bind_ok] at h
  obtain ⟨_, sender, _, recipient, _, _, posted⟩ := h
  have fresh := appendEntries_fresh posted (by simp [transferPosting, transferLegs])
  obtain ⟨_, _, rfl⟩ := ensureAccounts_ok sender
  obtain ⟨_, _, rfl⟩ := ensureAccounts_ok recipient
  exact fresh

/-- How a charge's own row is written: inserted when its month had none, else whatever the
conflict clause makes of the rows there are. -/
def Charged (old new : List SoftwareFeeCharge) (charge : SoftwareFeeCharge)
    (conflict : List SoftwareFeeCharge → List SoftwareFeeCharge) : Prop :=
  ((∃ row ∈ old, row.merchantId = charge.merchantId ∧ row.period = charge.period) ∧
    new = conflict old) ∨
  ((∀ row ∈ old, ¬ (row.merchantId = charge.merchantId ∧ row.period = charge.period)) ∧
    new = old ++ [charge])

theorem insertCharge_charged (h : insertCharge db charge conflict = .ok db') :
    0 < charge.amount.minor ∧ ∃ charges, Charged db.softwareFeeCharges charges charge conflict ∧
      db' = { db with softwareFeeCharges := charges } := by
  simp only [insertCharge, bind_ok, demand_ok] at h
  obtain ⟨_, positive, h⟩ := h
  refine ⟨positive, ?_⟩
  split at h
  · rename_i stored
    simp only [pure_ok] at h
    obtain ⟨row, found⟩ := Option.ne_none_iff_exists'.mp stored
    have fits := List.find?_some found
    simp only [decide_eq_true_eq] at fits
    exact ⟨_, .inl ⟨⟨row, List.mem_of_find?_eq_some found, fits⟩, rfl⟩, h.symm⟩
  · rename_i absent
    simp only [bind_ok, demand_ok, pure_ok] at h
    obtain ⟨_, _, _, _, rfl⟩ := h
    refine ⟨_, .inr ⟨fun row mem fits => ?_, rfl⟩, rfl⟩
    have missed := List.find?_eq_none.mp (Decidable.not_not.mp absent) row mem
    simp only [decide_eq_true_eq] at missed
    exact missed fits

/-- Charging finds the month already charged or waived and changes nothing, or finds too little
and records the arrears, or takes the fee and records it paid. -/
theorem chargeSoftwareFee_cases (h : chargeSoftwareFee db input = .ok (db', outcome)) :
    (outcome = .alreadyCharged ∧ db' = db) ∨
    ((findCharge db input.merchantId input.period).all (fun charge => charge.status = .arrears) ∧
      ((∃ available charges, outcome = .arrears input.amount available ∧
          netMinor db input.merchantId [.merchantAvailable, .merchantFunds] < input.amount.minor ∧
          Charged db.softwareFeeCharges charges (arrearsRow input) id ∧
          db' = { db with softwareFeeCharges := charges }) ∨
        (∃ rows charges, outcome = .charged input.amount ∧ (∀ row ∈ rows, Named row) ∧
          input.amount.minor ≤
            netMinor db input.merchantId [.merchantAvailable, .merchantFunds] ∧
          0 < input.amount.minor ∧ residualMinor (feeLegs input) = 0 ∧
          ¬ Present (·.id) (input.postingId, 0) db.ledgerEntries ∧
          Charged db.softwareFeeCharges charges (paidRow input) (payArrears input) ∧
          db' = { db with
            ledgerAccounts := db.ledgerAccounts ++ rows
            softwareFeeCharges := charges
            ledgerEntries := db.ledgerEntries ++
              entryRows (feePosting input) (db.ledgerAccounts ++ rows) 0 (feeLegs input) }))) := by
  unfold chargeSoftwareFee at h
  split at h
  · simp only [pure_ok, Prod.mk.injEq] at h
    obtain ⟨rfl, rfl⟩ := h
    exact .inl ⟨rfl, rfl⟩
  · rename_i unpaid
    have owed : (findCharge db input.merchantId input.period).all
        (fun charge => charge.status = .arrears) = true := by
      cases found : findCharge db input.merchantId input.period with
      | none => rfl
      | some charge => simpa [found] using unpaid
    refine .inr ⟨owed, ?_⟩
    simp only [bind_ok] at h
    obtain ⟨view, balance, h⟩ := h
    have available := balanceFor_ok balance
    split at h
    · rename_i short
      simp only [insertArrears, bind_ok, pure_ok, Prod.mk.injEq] at h
      obtain ⟨next, arrears, rfl, rfl⟩ := h
      obtain ⟨_, charges, charged, rfl⟩ := insertCharge_charged arrears
      exact .inl ⟨_, charges, rfl, by omega, charged, rfl⟩
    · rename_i covered
      simp only [insertPaidCharge, bind_ok, pure_ok, Prod.mk.injEq] at h
      obtain ⟨first, accounts, second, posted, third, paid, rfl, rfl⟩ := h
      have fresh := appendEntries_fresh posted (by simp [feePosting, feeLegs])
      obtain ⟨rows, named, rfl⟩ := ensureAccounts_ok accounts
      obtain ⟨balanced, _, _, rfl⟩ := appendEntries_ok posted
      obtain ⟨positive, charges, charged, rfl⟩ := insertCharge_charged paid
      exact .inr ⟨rows, charges, rfl, named, by omega, positive, balanced, fresh, charged, rfl⟩

/-- Charging a fee takes it from a balance that covers it, or moves nothing. -/
theorem chargeSoftwareFee_ok (h : chargeSoftwareFee db input = .ok (db', outcome)) :
    (∃ charges, db' = { db with softwareFeeCharges := charges }) ∨
    (∃ rows charges, (∀ row ∈ rows, Named row) ∧
      input.amount.minor ≤ netMinor db input.merchantId [.merchantAvailable, .merchantFunds] ∧
      (∀ entry ∈ feeLegs input, 0 < entry.amount.minor) ∧
      db' = { db with
        ledgerAccounts := db.ledgerAccounts ++ rows
        softwareFeeCharges := charges
        ledgerEntries := db.ledgerEntries ++
          entryRows (feePosting input) (db.ledgerAccounts ++ rows) 0 (feeLegs input) }) := by
  rcases chargeSoftwareFee_cases h with ⟨_, rfl⟩ | ⟨_, ⟨_, charges, _, _, _, eq⟩ |
    ⟨rows, charges, _, named, covered, positive, _, _, _, eq⟩⟩
  · exact .inl ⟨_, rfl⟩
  · exact .inl ⟨charges, eq⟩
  · have positives : ∀ entry ∈ feeLegs input, 0 < entry.amount.minor := by
      simp [feeLegs, merchantLeg, platformLeg, positive]
    exact .inr ⟨rows, charges, named, covered, positives, eq⟩

end Telga.Persistence
