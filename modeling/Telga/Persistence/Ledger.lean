import Telga.Persistence.Transactions

namespace Telga.Persistence
open Domain Library

/-- Create an account if it is not there. -/
def ensureAccount (db : Db) (account : LedgerAccountRow) : Except Fault Db :=
  if Present (·.id) account.id db.ledgerAccounts then .ok db
  else do
    demand (∀ row ∈ db.ledgerAccounts, account.merchantId ≠ none →
      ¬ (row.merchantId = account.merchantId ∧ row.accountType = account.accountType)) .constraint
    demand (∀ merchantId ∈ account.merchantId, Present (·.id) merchantId db.merchants) .constraint
    return { db with ledgerAccounts := db.ledgerAccounts ++ [account] }

structure PostingInput where
  postingId : PostingId
  correlationId : CorrelationId
  now : Timestamp
  entries : List DraftEntry

/-- The merchant an entry is stored under: the one it names, else its account's. -/
def owner (accounts : List LedgerAccountRow) (entry : DraftEntry) : Option MerchantId :=
  entry.merchantId <|>
    (accounts.find? fun account => account.id = entry.accountId).bind (·.merchantId)

def entryRow (posting : PostingInput) (accounts : List LedgerAccountRow) (index : Nat)
    (entry : DraftEntry) : LedgerEntryRow :=
  { id := (posting.postingId, index), postingId := posting.postingId,
    transactionId := entry.transactionId, accountId := entry.accountId,
    merchantId := owner accounts entry,
    accountType := entry.accountKind, direction := entry.direction, amount := entry.amount,
    entryType := entry.reason, correlationId := posting.correlationId,
    ruleVersion := entry.ruleVersion, createdAt := posting.now }

def entryRows (posting : PostingInput) (accounts : List LedgerAccountRow) :
    Nat → List DraftEntry → List LedgerEntryRow
  | _, [] => []
  | index, entry :: rest =>
    entryRow posting accounts index entry :: entryRows posting accounts (index + 1) rest

/-- One insert: the account must exist and not belong to another merchant than the entry
claims, the amount must be positive, and the id must be new. -/
def appendEntry (posting : PostingInput) (index : Nat) (entry : DraftEntry) (db : Db) :
    Except Fault Db := do
  let account ← expect (db.ledgerAccounts.find? fun account => account.id = entry.accountId)
    .accountNotFound
  demand (∀ owner ∈ account.merchantId, ∀ claimed ∈ entry.merchantId, owner = claimed)
    .merchantScopeViolation
  let row := entryRow posting db.ledgerAccounts index entry
  demand (0 < entry.amount.minor) .constraint
  demand (¬ Present (·.id) row.id db.ledgerEntries) .constraint
  demand (∀ transactionId ∈ row.transactionId, Present (·.id) transactionId db.transactions)
    .constraint
  demand (∀ merchantId ∈ row.merchantId, Present (·.id) merchantId db.merchants) .constraint
  return { db with ledgerEntries := db.ledgerEntries ++ [row] }

def appendFrom (posting : PostingInput) : Nat → List DraftEntry → Db → Except Fault Db
  | _, [], db => .ok db
  | index, entry :: rest, db => do
    let db ← appendEntry posting index entry db
    appendFrom posting (index + 1) rest db

/-- Append a balanced posting. -/
def appendEntries (db : Db) (posting : PostingInput) : Except Fault Db := do
  assertBalanced posting.entries
  appendFrom posting 0 posting.entries db

def rowMinor (row : LedgerEntryRow) : Int :=
  signed row.direction row.amount.minor

/-- Signed net of some account types for one merchant. CREDIT positive, DEBIT negative. -/
def netMinor (db : Db) (merchantId : MerchantId) (accountTypes : List LedgerAccountKind) : Int :=
  total rowMinor (db.ledgerEntries.filter fun row =>
    row.merchantId = some merchantId ∧ row.accountType ∈ accountTypes)

/-- The four merchant-facing views, computed from postings alone. -/
def balanceFor (db : Db) (merchantId : MerchantId) : Except Fault BalanceView := do
  let availableMinor := netMinor db merchantId [.merchantAvailable, .merchantFunds]
  let reservedMinor := netMinor db merchantId [.merchantReserved]
  let underReviewMinor := netMinor db merchantId [.merchantUnderReview]
  let available ← money availableMinor
  let reserved ← money reservedMinor
  let underReview ← money underReviewMinor
  let total ← money (availableMinor + reservedMinor + underReviewMinor)
  return { available, reserved, underReview, total }

/-- Profit a merchant has earned and not yet moved to their selling balance. -/
def profitAvailableMinor (db : Db) (merchantId : MerchantId) : Int :=
  netMinor db merchantId [.telgaRevenue]

/-- Whole-ledger residual. Zero when double entry holds across every account. -/
def ledgerResidualMinor (db : Db) : Int :=
  total rowMinor db.ledgerEntries

/-- What an entry of a posting adds to a net. -/
def legNet (merchantId : MerchantId) (accountTypes : List LedgerAccountKind)
    (entry : DraftEntry) : Int :=
  if entry.merchantId = some merchantId ∧ entry.accountKind ∈ accountTypes then signedMinor entry
  else 0

@[simp] theorem owner_some (h : entry.merchantId = some merchantId) :
    owner accounts entry = entry.merchantId := by
  simp [owner, h]

/-- What a posting's rows add to a sum over the ledger is what its entries add, when each is
counted under the merchant it names. -/
theorem total_entryRows {accounts : List LedgerAccountRow} {entries : List DraftEntry}
    (counts : Option TransactionId → Option MerchantId → LedgerAccountKind → Bool)
    (attributed : ∀ entry ∈ entries,
      counts entry.transactionId (owner accounts entry) entry.accountKind =
        counts entry.transactionId entry.merchantId entry.accountKind) :
    total rowMinor ((entryRows posting accounts index entries).filter fun row =>
      counts row.transactionId row.merchantId row.accountType) =
    total (fun entry =>
      if counts entry.transactionId entry.merchantId entry.accountKind then signedMinor entry
      else 0) entries := by
  induction entries generalizing index with
  | nil => rfl
  | cons entry rest ih =>
    have later := @ih (index + 1) fun e mem => attributed e (List.mem_cons_of_mem _ mem)
    have here := attributed entry (List.mem_cons_self ..)
    rw [total_cons, ← later]
    cases counted : counts entry.transactionId entry.merchantId entry.accountKind with
    | true =>
      rw [counted] at here
      simp only [entryRows, List.filter_cons, entryRow, here, if_true, total_cons]
      rfl
    | false =>
      rw [counted] at here
      simp [entryRows, List.filter_cons, entryRow, here]

theorem net_entryRows {accounts : List LedgerAccountRow} {entries : List DraftEntry}
    (attributed : ∀ entry ∈ entries, entry.accountKind ∈ accountTypes →
      owner accounts entry = entry.merchantId) :
    total rowMinor ((entryRows posting accounts index entries).filter fun row =>
      row.merchantId = some merchantId ∧ row.accountType ∈ accountTypes) =
    total (legNet merchantId accountTypes) entries := by
  have counted : ∀ entry ∈ entries,
      decide (owner accounts entry = some merchantId ∧ entry.accountKind ∈ accountTypes) =
        decide (entry.merchantId = some merchantId ∧ entry.accountKind ∈ accountTypes) := by
    intro entry mem
    refine decide_eq_decide.mpr (and_congr_left fun kind => ?_)
    rw [attributed entry mem kind]
  refine (total_entryRows
    (fun _ merchant kind => merchant = some merchantId ∧ kind ∈ accountTypes) counted).trans ?_
  simp only [decide_eq_true_eq]
  rfl

/-- A posting moves a net by what its entries add, when each entry of those kinds is stored
under the merchant it names. -/
theorem netMinor_posting {db db' : Db} {accounts : List LedgerAccountRow}
    {entries : List DraftEntry}
    (grown : db'.ledgerEntries = db.ledgerEntries ++ entryRows posting accounts index entries)
    (attributed : ∀ entry ∈ entries, entry.accountKind ∈ accountTypes →
      owner accounts entry = entry.merchantId) :
    netMinor db' merchantId accountTypes =
      netMinor db merchantId accountTypes + total (legNet merchantId accountTypes) entries := by
  rw [netMinor, grown, List.filter_append, total_append, net_entryRows attributed]
  rfl

/-- The rows of a posting sum up to its entries' residual. -/
theorem total_rowMinor_entryRows :
    total rowMinor (entryRows posting accounts index entries) = residualMinor entries := by
  induction entries generalizing index with
  | nil => rfl
  | cons entry rest ih =>
    simp only [entryRows, total_cons, ih]
    rfl

/-- The rows of a posting are its entries, one row each. -/
theorem mem_entryRows {entries : List DraftEntry} :
    row ∈ entryRows posting accounts index entries ↔
      ∃ offset entry, entries[offset]? = some entry ∧
        row = entryRow posting accounts (index + offset) entry := by
  induction entries generalizing index with
  | nil => simp [entryRows]
  | cons first rest ih =>
    simp only [entryRows, List.mem_cons, ih]
    constructor
    · rintro (rfl | ⟨offset, entry, found, rfl⟩)
      · exact ⟨0, first, rfl, rfl⟩
      · refine ⟨offset + 1, entry, found, ?_⟩
        rw [show index + 1 + offset = index + (offset + 1) by omega]
    · rintro ⟨offset, entry, found, rfl⟩
      cases offset with
      | zero =>
        cases found
        exact .inl rfl
      | succ offset =>
        refine .inr ⟨offset, entry, found, ?_⟩
        rw [show index + 1 + offset = index + (offset + 1) by omega]

theorem ensureAccount_ok (h : ensureAccount db account = .ok db') :
    db' = db ∨ db' = { db with ledgerAccounts := db.ledgerAccounts ++ [account] } := by
  unfold ensureAccount at h
  split at h
  · cases h
    exact .inl rfl
  · simp only [bind_ok, demand_ok, pure_ok] at h
    obtain ⟨_, _, _, _, rfl⟩ := h
    exact .inr rfl

theorem appendEntry_ok (h : appendEntry posting index entry db = .ok db') :
    0 < entry.amount.minor ∧
    (∀ t ∈ entry.transactionId, Present (·.id) t db.transactions) ∧
    (∃ account, db.ledgerAccounts.find? (fun account => account.id = entry.accountId) =
      some account) ∧
    db' = { db with
      ledgerEntries := db.ledgerEntries ++ [entryRow posting db.ledgerAccounts index entry] } := by
  simp only [appendEntry, bind_ok, demand_ok, expect_ok, pure_ok] at h
  obtain ⟨account, found, _, _, _, positive, _, _, _, stored, _, _, rfl⟩ := h
  exact ⟨positive, stored, ⟨account, found⟩, rfl⟩

theorem appendFrom_ok (h : appendFrom posting index entries db = .ok db') :
    (∀ entry ∈ entries, 0 < entry.amount.minor) ∧
    (∀ entry ∈ entries, ∀ t ∈ entry.transactionId, Present (·.id) t db.transactions) ∧
    db' = { db with
      ledgerEntries := db.ledgerEntries ++
        entryRows posting db.ledgerAccounts index entries } := by
  induction entries generalizing index db with
  | nil =>
    cases h
    simp [entryRows]
  | cons entry rest ih =>
    simp only [appendFrom, bind_ok] at h
    obtain ⟨next, first, others⟩ := h
    obtain ⟨positive, stored, _, rfl⟩ := appendEntry_ok first
    obtain ⟨positives, storeds, rfl⟩ := ih others
    refine ⟨?_, ?_, ?_⟩
    · simpa using ⟨positive, positives⟩
    · simpa using ⟨stored, storeds⟩
    · simp [entryRows]

/-- A posting that was written balanced, had only positive amounts on sales that are stored, and
added its own rows to the ledger and nothing else. -/
theorem appendEntries_ok (h : appendEntries db posting = .ok db') :
    residualMinor posting.entries = 0 ∧
    (∀ entry ∈ posting.entries, 0 < entry.amount.minor) ∧
    (∀ entry ∈ posting.entries, ∀ t ∈ entry.transactionId,
      Present (·.id) t db.transactions) ∧
    db' = { db with
      ledgerEntries := db.ledgerEntries ++
        entryRows posting db.ledgerAccounts 0 posting.entries } := by
  simp only [appendEntries, assertBalanced, bind_ok, demand_ok] at h
  obtain ⟨_, balanced, h⟩ := h
  exact ⟨balanced, appendFrom_ok h⟩

/-- An entry the ledger takes under an id that is new: its account is there and not another
merchant's, its amount is positive, and what it refers to is stored. -/
structure Postable (db : Db) (entry : DraftEntry) : Prop where
  account : ∃ account,
    db.ledgerAccounts.find? (fun account => account.id = entry.accountId) = some account ∧
    ∀ owner ∈ account.merchantId, ∀ claimed ∈ entry.merchantId, owner = claimed
  positive : 0 < entry.amount.minor
  sale : ∀ t ∈ entry.transactionId, Present (·.id) t db.transactions
  shop : ∀ merchantId ∈ owner db.ledgerAccounts entry, Present (·.id) merchantId db.merchants

theorem appendEntry_goes {posting : PostingInput} (postable : Postable db entry)
    (fresh : ¬ Present (·.id) (posting.postingId, index) db.ledgerEntries) :
    appendEntry posting index entry db =
      .ok { db with
        ledgerEntries := db.ledgerEntries ++ [entryRow posting db.ledgerAccounts index entry] } := by
  obtain ⟨account, found, unclaimed⟩ := postable.account
  simp only [appendEntry, bind_ok, demand_ok, expect_ok, pure_ok]
  exact ⟨account, found, (), unclaimed, (), postable.positive, (), fresh, (), postable.sale, (),
    postable.shop, trivial⟩

/-- Every entry of a posting that was written is one the ledger takes. -/
theorem appendFrom_postable (h : appendFrom posting index entries db = .ok db') :
    ∀ entry ∈ entries, Postable db entry := by
  induction entries generalizing index db with
  | nil => simp
  | cons entry rest ih =>
    simp only [appendFrom, bind_ok] at h
    obtain ⟨next, first, others⟩ := h
    simp only [appendEntry, bind_ok, demand_ok, expect_ok, pure_ok] at first
    obtain ⟨account, found, _, unclaimed, _, positive, _, _, _, sale, _, shop, rfl⟩ := first
    intro other mem
    rcases List.mem_cons.mp mem with rfl | mem
    · exact ⟨⟨account, found, unclaimed⟩, positive, sale, shop⟩
    · have kept := ih others other mem
      exact ⟨kept.account, kept.positive, kept.sale, kept.shop⟩

theorem appendEntries_postable (h : appendEntries db posting = .ok db') :
    ∀ entry ∈ posting.entries, Postable db entry := by
  simp only [appendEntries, bind_ok] at h
  obtain ⟨_, _, written⟩ := h
  exact appendFrom_postable written

theorem appendFrom_goes {posting : PostingInput} {entries : List DraftEntry}
    (postable : ∀ entry ∈ entries, Postable db entry)
    (fresh : ∀ row ∈ db.ledgerEntries, row.id.1 = posting.postingId → row.id.2 < index) :
    ∃ db', appendFrom posting index entries db = .ok db' := by
  induction entries generalizing index db with
  | nil => exact ⟨db, rfl⟩
  | cons entry rest ih =>
    have new : ¬ Present (·.id) (posting.postingId, index) db.ledgerEntries := by
      intro ⟨row, mem, same⟩
      have below := fresh row mem (congrArg Prod.fst same)
      rw [congrArg Prod.snd same] at below
      exact Nat.lt_irrefl index below
    simp only [appendFrom, bind_ok]
    have first := appendEntry_goes (postable entry (List.mem_cons_self ..)) new
    refine (ih (fun other mem => ?_) ?_).imp fun db' others => ⟨_, first, others⟩
    · have kept := postable other (List.mem_cons_of_mem _ mem)
      exact ⟨kept.account, kept.positive, kept.sale, kept.shop⟩
    · intro row mem same
      rcases List.mem_append.mp mem with old | last
      · exact Nat.lt_succ_of_lt (fresh row old same)
      · rw [List.mem_singleton.mp last]
        exact Nat.lt_succ_self _

/-- A balanced posting of entries the ledger takes is written, when its id is new. -/
theorem appendEntries_goes {posting : PostingInput} (balanced : residualMinor posting.entries = 0)
    (postable : ∀ entry ∈ posting.entries, Postable db entry)
    (fresh : ∀ row ∈ db.ledgerEntries, row.id.1 ≠ posting.postingId) :
    ∃ db', appendEntries db posting = .ok db' := by
  simp only [appendEntries, assertBalanced, bind_ok, demand_ok]
  obtain ⟨db', written⟩ := @appendFrom_goes db 0 posting posting.entries postable
    fun row mem same => absurd same (fresh row mem)
  exact ⟨db', (), balanced, written⟩

/-- A posting's first entry takes an id no entry had. -/
theorem appendEntries_fresh (h : appendEntries db posting = .ok db')
    (some : posting.entries ≠ []) :
    ¬ Present (·.id) (posting.postingId, 0) db.ledgerEntries := by
  simp only [appendEntries, bind_ok] at h
  obtain ⟨_, _, h⟩ := h
  cases entries : posting.entries with
  | nil => exact absurd entries some
  | cons entry rest =>
    rw [entries] at h
    simp only [appendFrom, appendEntry, bind_ok, demand_ok] at h
    obtain ⟨_, ⟨_, _, _, _, _, _, _, fresh, _⟩, _⟩ := h
    exact fresh

end Telga.Persistence
