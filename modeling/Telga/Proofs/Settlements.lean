import Telga.Proofs.Runs

namespace Telga.Proofs.Settlements
open Domain Persistence Application Library

/-- What a split of a commission is: the half-up rounding of each share of a whole, the second
share the remainder. -/
structure Exact (amount commissionBps shareBps : Int) (split : CommissionSplit) : Prop where
  sum : split.shopShareMinor + split.telgaShareMinor = split.providerCommissionMinor
  nonneg : 0 ≤ split.shopShareMinor
  within : split.shopShareMinor ≤ split.providerCommissionMinor
  covered : split.providerCommissionMinor ≤ amount
  commission : split.providerCommissionMinor =
    mathRound ((amount * commissionBps : ℚ) / 10000)
  share : split.shopShareMinor =
    mathRound ((split.providerCommissionMinor * shareBps : ℚ) / 10000)

/-- The split of a smaller amount gives neither side more. -/
def Monotone (amount commissionBps shareBps : Int) (split : CommissionSplit) : Prop :=
  ∀ smaller less, 0 < smaller → smaller ≤ amount →
    splitCommissionNumber smaller commissionBps shareBps = .ok less →
    less.providerCommissionMinor ≤ split.providerCommissionMinor ∧
      less.shopShareMinor ≤ split.shopShareMinor

theorem roundShare_exact (amount bps : Int) :
    roundShare amount bps = mathRound ((amount * bps : ℚ) / 10000) := by
  have cast : ((amount * bps : ℚ)) = ((amount * bps : Int) : ℚ) := by push_cast; rfl
  have low := Int.ediv_mul_le (2 * (amount * bps) + bpsPerWhole)
    (show 2 * bpsPerWhole ≠ 0 by decide)
  have high := Int.lt_ediv_add_one_mul_self (2 * (amount * bps) + bpsPerWhole)
    (show 0 < 2 * bpsPerWhole by decide)
  unfold roundShare mathRound
  rw [cast]
  generalize amount * bps = whole at *
  symm
  rw [Int.floor_eq_iff]
  simp only [bpsPerWhole] at low high ⊢
  generalize (2 * whole + 10000) / (2 * 10000) = k at *
  have low : (k : ℚ) * 20000 ≤ 2 * whole + 10000 := by exact_mod_cast low
  have high : (2 : ℚ) * whole + 10000 < (k + 1) * 20000 := by exact_mod_cast high
  constructor <;> linarith

theorem roundShare_le {less more bps : Int} (valid : ValidBps bps) (below : less ≤ more) :
    roundShare less bps ≤ roundShare more bps := by
  have product : less * bps ≤ more * bps := Int.mul_le_mul_of_nonneg_right below valid.1
  unfold roundShare bpsPerWhole
  omega

/-- A share is the whole of an amount only where what it leaves rounds to nothing. -/
theorem roundShare_whole {amount bps : Int} (valid : ValidBps bps) (nonneg : 0 ≤ amount) :
    roundShare amount bps = amount ↔ amount * (10000 - bps) ≤ 5000 := by
  have bound := (roundShare_bounds valid nonneg).2
  have expand : amount * (10000 - bps) = 10000 * amount - amount * bps := by ring
  rw [expand]
  unfold roundShare bpsPerWhole at *
  omega

/-- The shop is left less than the amount unless both what the provider and what Telga keep round
to nothing. -/
theorem share_less_iff {amount commissionBps shareBps : Int} (rate : ValidBps commissionBps)
    (share : ValidBps shareBps) (positive : 0 < amount) :
    roundShare (roundShare amount commissionBps) shareBps < amount ↔
      5000 < amount * (10000 - commissionBps) ∨ 5000 < amount * (10000 - shareBps) := by
  have outer := roundShare_bounds rate positive.le
  have inner := roundShare_bounds share outer.1
  by_cases whole : roundShare amount commissionBps = amount
  · have nothing := (roundShare_whole rate positive.le).mp whole
    rw [whole] at inner ⊢
    have all := roundShare_whole share positive.le
    constructor
    · intro less
      refine .inr ?_
      by_contra few
      exact less.ne (all.mpr (by omega))
    · intro some
      rcases some with large | large
      · omega
      · exact lt_of_le_of_ne inner.2 fun same => absurd (all.mp same) (by omega)
  · have some : 5000 < amount * (10000 - commissionBps) := by
      by_contra few
      exact whole ((roundShare_whole rate positive.le).mpr (by omega))
    exact iff_of_true (by omega) (.inl some)

/-- Products below 2^53 are what the runtime counts exactly. -/
def Countable (amount commissionBps shareBps : Int) : Prop :=
  amount * commissionBps < 2 ^ 53 ∧ roundShare amount commissionBps * shareBps < 2 ^ 53

instance (amount commissionBps shareBps : Int) :
    Decidable (Countable amount commissionBps shareBps) :=
  inferInstanceAs (Decidable (_ ∧ _))

/-- There the runtime's split is the split. -/
theorem splitCommissionNumber_eq {amount commissionBps shareBps : Int}
    (rate : ValidBps commissionBps) (share : ValidBps shareBps) (positive : 0 < amount)
    (countable : Countable amount commissionBps shareBps) :
    splitCommissionNumber amount commissionBps shareBps =
      splitCommission amount commissionBps shareBps := by
  have outer := roundShare_bounds rate positive.le
  have commission := roundShareNumber_eq (Int.mul_nonneg positive.le rate.1) countable.1
  have shop := roundShareNumber_eq (Int.mul_nonneg outer.1 share.1) countable.2
  have some : ¬ amount ≤ 0 := by omega
  simp only [splitCommissionNumber, splitCommission, if_neg some, commission, shop]

/-- What a split in bounds gives. -/
theorem splitCommission_goes {amount commissionBps shareBps : Int} (rate : ValidBps commissionBps)
    (share : ValidBps shareBps) (positive : 0 < amount) :
    splitCommission amount commissionBps shareBps =
      .ok { providerCommissionMinor := roundShare amount commissionBps
            shopShareMinor := roundShare (roundShare amount commissionBps) shareBps
            telgaShareMinor := roundShare amount commissionBps -
              roundShare (roundShare amount commissionBps) shareBps
            providerCommissionBps := commissionBps, shopShareBps := shareBps } := by
  have some : ¬ amount ≤ 0 := by omega
  simp only [splitCommission, assertBps, bind_ok, demand_ok, if_neg some, pure_ok]
  exact ⟨(), rate, (), share, trivial⟩

theorem Countable.smaller {smaller amount commissionBps shareBps : Int}
    (countable : Countable amount commissionBps shareBps) (rate : ValidBps commissionBps)
    (share : ValidBps shareBps) (below : smaller ≤ amount) :
    Countable smaller commissionBps shareBps := by
  have outer := Int.mul_le_mul_of_nonneg_right below rate.1
  have inner := Int.mul_le_mul_of_nonneg_right (roundShare_le rate below) share.1
  obtain ⟨first, second⟩ := countable
  exact ⟨by omega, by omega⟩

/-- The split is exact, and the split of less is less. -/
theorem split_exact {amount commissionBps shareBps : Int} {split : CommissionSplit}
    (rate : ValidBps commissionBps) (share : ValidBps shareBps) (positive : 0 < amount)
    (countable : Countable amount commissionBps shareBps)
    (done : splitCommissionNumber amount commissionBps shareBps = .ok split) :
    Exact amount commissionBps shareBps split ∧ Monotone amount commissionBps shareBps split := by
  have outer := roundShare_bounds rate positive.le
  have inner := roundShare_bounds share outer.1
  rw [splitCommissionNumber_eq rate share positive countable,
    splitCommission_goes rate share positive] at done
  cases done
  constructor
  · exact
      { sum := by simp
        nonneg := inner.1
        within := inner.2
        covered := outer.2
        commission := roundShare_exact amount commissionBps
        share := roundShare_exact (roundShare amount commissionBps) shareBps }
  · intro smaller less some below split
    rw [splitCommissionNumber_eq rate share some (countable.smaller rate share below),
      splitCommission_goes rate share some] at split
    cases split
    have commission := roundShare_le rate below
    exact ⟨commission, roundShare_le share commission⟩

/-- The unit of work that settles a confirmed sale, at given rates. -/
def settleAt (commissionBps shopShareBps : Int) (sale : CreateSale) (processing : Transaction)
    (submitted : Application.Submitted) (input : Input) (db : Db) : Except Fault (Db × SaleResult) := do
  let now := input.now 0
  let settled ← transitionTo processing .successful now submitted.providerReference
  let db ← persist db sale.toSaleCall settled
  let split ← splitCommission sale.request.amount.minor commissionBps shopShareBps
  let db ← finalizeSuccess db
    (sale.operation processing.id now (input.newId 0) (input.newId 1))
    split.shopShareMinor commissionBps
  let db ← recordCommission db
    { id := input.newId 2, transactionId := processing.id, merchantId := sale.request.merchantId,
      providerId := some sale.deps.providerId, productType := sale.request.productId,
      transactionAmount := sale.request.amount, split, now }
  let db ← auditSale db sale.toSaleCall settled .transactionTransitioned sale.correlationId
    (input.newId 3) (input.now 1)
  let db := recordIdempotencyResult db sale.request.merchantId sale.key .successful now
  return (db, sale.answer settled submitted.providerReference .none)

def CreateSale.rate (sale : CreateSale) (db : Db) : Int :=
  effectiveCommissionBps db (some sale.deps.providerId) sale.request.productId

theorem saveTransaction_fees (h : saveTransaction db input = .ok db') :
    db'.platformFeeSettings = db.platformFeeSettings ∧
    db'.providerCommissionRates = db.providerCommissionRates := by
  obtain ⟨_, ⟨_, rfl⟩ | ⟨_, _, _, _, rfl⟩⟩ := saveTransaction_ok h <;> exact ⟨rfl, rfl⟩

/-- A sale is settled at the rates in force. -/
theorem settleSale_at (sale : CreateSale) (processing : Transaction) (submitted : Application.Submitted)
    (input : Input) (db : Db) :
    settleSale sale processing submitted input db =
      settleAt (CreateSale.rate sale db) db.platformFeeSettings.shopShareBps.value sale processing
        submitted input db := by
  unfold settleSale settleAt
  refine bind_congr_ok fun settled _ => ?_
  refine bind_congr_ok fun next saved => ?_
  obtain ⟨fees, rates⟩ := saveTransaction_fees saved
  have same : effectiveCommissionBps next (some sale.deps.providerId) sale.request.productId =
      CreateSale.rate sale db := by
    simp only [CreateSale.rate, effectiveCommissionBps, fees, rates]
  simp only [same, fees]

/-- Telga's revenue account is there, and no merchant's. -/
def Opened (db : Db) : Prop :=
  ∃ account, db.ledgerAccounts.find? (fun account => account.id = .platform .telgaRevenue) =
    some account ∧ account.merchantId = none

instance (db : Db) : Decidable (Opened db) :=
  match found : db.ledgerAccounts.find? fun account => account.id = .platform .telgaRevenue with
  | none => isFalse fun ⟨_, there, _⟩ => by rw [found] at there; cases there
  | some account =>
    if unowned : account.merchantId = none then isTrue ⟨account, found, unowned⟩
    else isFalse fun ⟨_, there, free⟩ => by rw [found] at there; cases there; exact unowned free

theorem saveTransaction_accounts (h : saveTransaction db input = .ok db') :
    db'.ledgerAccounts = db.ledgerAccounts := by
  obtain ⟨_, ⟨_, rfl⟩ | ⟨_, _, _, _, rfl⟩⟩ := saveTransaction_ok h <;> rfl

/-- Other legs in place of those a move of value wrote: the ledger takes them just as well. -/
theorem moveValue_goes {db db' : Db} {entries others : List DraftEntry}
    (h : moveValue origin target entries action entityType db context = .ok db')
    (balanced : residualMinor others = 0) (postable : ∀ entry ∈ others, Postable db entry)
    (fresh : ∀ row ∈ db.ledgerEntries, row.id.1 ≠ context.postingId) :
    ∃ rows, moveValue origin target others action entityType db context =
      .ok { db' with ledgerEntries := rows } := by
  simp only [moveValue, bind_ok, expect_ok] at h ⊢
  obtain ⟨row, found, moved, transitioned, posted, written, audited⟩ := h
  have guarded := (guardedTransition_ok transitioned).2
  obtain ⟨next, appended⟩ : ∃ next, appendEntries moved (postingFor context others) = .ok next := by
    refine appendEntries_goes balanced ?_ ?_
    · intro entry mem
      have taken := postable entry mem
      rw [guarded]
      exact ⟨taken.account, taken.positive, taken.sale, taken.shop⟩
    · rw [guarded]
      exact fresh
  refine ⟨next.ledgerEntries, row, found, moved, transitioned, next, appended, ?_⟩
  obtain ⟨_, _, _, rfl⟩ := appendEntries_ok written
  obtain ⟨_, _, _, rfl⟩ := appendEntries_ok appended
  simp only [audit, saveAuditEvent, bind_ok, demand_ok, pure_ok] at audited ⊢
  obtain ⟨_, unused, rfl⟩ := audited
  exact ⟨(), unused, rfl⟩

/-- The legs a move of value wrote were ones the ledger takes. -/
theorem moveValue_postable {db db' : Db} {entries : List DraftEntry}
    (h : moveValue origin target entries action entityType db context = .ok db') :
    ∀ entry ∈ entries, Postable db entry := by
  simp only [moveValue, bind_ok, expect_ok] at h
  obtain ⟨_, _, moved, transitioned, _, written, _⟩ := h
  have guarded := (guardedTransition_ok transitioned).2
  intro entry mem
  have taken := appendEntries_postable written entry mem
  rw [guarded] at taken
  exact ⟨taken.account, taken.positive, taken.sale, taken.shop⟩

/-- A settlement with a share below the amount goes through where one without a share does. -/
theorem finalize_goes {db db' : Db} {profitMinor : Int} (profitBps : Int)
    (h : finalizeSuccess db context = .ok db') (revenue : Opened db)
    (fresh : ∀ row ∈ db.ledgerEntries, row.id.1 ≠ context.postingId)
    (nonneg : 0 ≤ profitMinor) (less : profitMinor < context.amount.minor) :
    ∃ rows, finalizeSuccess db context profitMinor profitBps =
      .ok { db' with ledgerEntries := rows } := by
  have taken := moveValue_postable h
  have clamped : (clampProfit context.amount profitMinor).minor = profitMinor := by
    simp only [clampProfit]
    omega
  have left : (providerShare context.amount profitMinor).minor =
      context.amount.minor - profitMinor := by
    simp only [providerShare, clamped]
  have reserved := taken (merchantLeg context.merchantId .merchantReserved
    (some context.transactionId) .debit context.amount .saleDebit) (by simp [settlementLegs])
  have provider := taken (platformLeg .providerSettlement (some context.transactionId) .credit
    (providerShare context.amount 0) .saleDebit) (by simp [settlementLegs])
  have shop : Present (·.id) context.merchantId db.merchants :=
    reserved.shop context.merchantId (by simp [owner, merchantLeg])
  apply moveValue_goes h
  · unfold settlementLegs
    split
    · simp [residualMinor, signedMinor, signed, merchantLeg, platformLeg, clamped, left]
    · rename_i some
      have all : (providerShare context.amount profitMinor).minor = context.amount.minor := by
        omega
      simp [residualMinor, signedMinor, signed, merchantLeg, platformLeg, all]
  · intro entry mem
    unfold settlementLegs at mem
    rcases List.mem_append.mp mem with mem | mem
    · simp only [List.mem_cons, List.not_mem_nil, or_false] at mem
      rcases mem with rfl | rfl
      · exact reserved
      · refine ⟨provider.account, ?_, provider.sale, provider.shop⟩
        change 0 < (providerShare context.amount profitMinor).minor
        omega
    · split at mem
      · rename_i some
        rw [List.mem_singleton.mp mem]
        obtain ⟨account, found, unowned⟩ := revenue
        refine ⟨⟨account, found, ?_⟩, some, reserved.sale, ?_⟩
        · simp [unowned]
        · simpa [owner] using shop
      · cases mem
  · exact fresh

/-- A settlement that went through left the provider something. -/
theorem finalize_less {db db' : Db}
    (h : finalizeSuccess db context profitMinor profitBps = .ok db') :
    profitMinor < context.amount.minor := by
  have listed : platformLeg .providerSettlement (some context.transactionId) .credit
      (providerShare context.amount profitMinor) .saleDebit ∈
      settlementLegs context profitMinor profitBps := by
    simp [settlementLegs]
  have positive : 0 < (providerShare context.amount profitMinor).minor :=
    (moveValue_postable h _ listed).positive
  simp only [providerShare, clampProfit] at positive
  omega

theorem recordCommission_goes {db db' : Db} {input : CommissionEntryInput}
    (h : recordCommission db input = .ok db') (split : CommissionSplit)
    (checks : CommissionChecks split)
    (rows : List LedgerEntryRow) :
    ∃ entries, recordCommission { db with ledgerEntries := rows } { input with split := split } =
      .ok { db' with ledgerEntries := rows, commissionEntries := entries } := by
  simp only [recordCommission, bind_ok, demand_ok, pure_ok] at h ⊢
  obtain ⟨_, positive, _, unused, _, first, _, sale, _, shop, rfl⟩ := h
  exact ⟨_, (), ⟨positive.1, checks⟩, (), unused, (), first, (), sale, (), shop, rfl⟩

theorem auditSale_goes {db db' : Db}
    (h : auditSale db call transaction action correlationId auditId now = .ok db')
    (rows : List LedgerEntryRow) (entries : List CommissionEntryRow) :
    ∃ next, auditSale { db with ledgerEntries := rows, commissionEntries := entries } call
      transaction action correlationId auditId now = .ok next := by
  simp only [auditSale, saveAudit, saveAuditEvent, bind_ok, demand_ok, pure_ok] at h ⊢
  obtain ⟨_, unused, _⟩ := h
  exact ⟨_, (), unused, rfl⟩

/-- The settlement goes through at every rate that leaves the shop less than the amount, where it
goes through at no rate. -/
theorem settleAt_goes {db db' : Db} {sale : CreateSale} (rate : ValidBps commissionBps)
    (share : ValidBps shareBps)
    (positive : 0 < sale.request.amount.minor) (revenue : Opened db)
    (fresh : ∀ row ∈ db.ledgerEntries, row.id.1 ≠ input.newId 0)
    (h : settleAt 0 0 sale processing submitted input db = .ok (db', answer))
    (less : roundShare (roundShare sale.request.amount.minor commissionBps) shareBps <
      sale.request.amount.minor) :
    ∃ next, settleAt commissionBps shareBps sale processing submitted input db =
      .ok (next, answer) := by
  have outer := roundShare_bounds rate positive.le
  have inner := roundShare_bounds share outer.1
  simp only [settleAt, bind_ok] at h ⊢
  obtain ⟨settled, moved, saved, persisted, none, unsplit, third, finalized, fourth, recorded,
    fifth, audited, result⟩ := h
  rw [splitCommission_goes ⟨le_refl _, by decide⟩ ⟨le_refl _, by decide⟩ positive] at unsplit
  cases unsplit
  have nothing : roundShare (roundShare sale.request.amount.minor 0) 0 = 0 := by
    simp [roundShare, bpsPerWhole]
  rw [nothing] at finalized
  have kept : saved.ledgerEntries = db.ledgerEntries := by
    obtain ⟨_, ⟨_, rfl⟩ | ⟨_, _, _, _, rfl⟩⟩ := saveTransaction_ok persisted <;> rfl
  have still : Opened saved := by
    unfold Opened at revenue ⊢
    rw [saveTransaction_accounts persisted]
    exact revenue
  obtain ⟨rows, settles⟩ := finalize_goes commissionBps finalized still
    (by rw [kept]; exact fresh) inner.1 less
  obtain ⟨entries, records⟩ := recordCommission_goes recorded
    { providerCommissionMinor := roundShare sale.request.amount.minor commissionBps
      shopShareMinor := roundShare (roundShare sale.request.amount.minor commissionBps) shareBps
      telgaShareMinor := roundShare sale.request.amount.minor commissionBps -
        roundShare (roundShare sale.request.amount.minor commissionBps) shareBps
      providerCommissionBps := commissionBps, shopShareBps := shareBps }
    ⟨rate, share, outer.1, inner.1, by simp only; omega, by simp⟩ rows
  obtain ⟨last, closes⟩ := auditSale_goes audited rows entries
  simp only [pure_ok, Prod.mk.injEq] at result ⊢
  exact ⟨_, settled, moved, saved, persisted, _, splitCommission_goes rate share positive, _,
    settles, _, records, last, closes, rfl, result.2⟩

theorem settleAt_less {db db' : Db} {sale : CreateSale} (rate : ValidBps commissionBps)
    (share : ValidBps shareBps) (positive : 0 < sale.request.amount.minor)
    (h : settleAt commissionBps shareBps sale processing submitted input db = .ok (db', answer)) :
    roundShare (roundShare sale.request.amount.minor commissionBps) shareBps <
      sale.request.amount.minor := by
  have outer := roundShare_bounds rate positive.le
  have inner := roundShare_bounds share outer.1
  simp only [settleAt, bind_ok] at h
  obtain ⟨_, _, saved, _, _, split, third, finalized, _⟩ := h
  rw [splitCommission_goes rate share positive] at split
  cases split
  exact finalize_less finalized

theorem commits_iff :
    Commits input work db ↔ input.busy = false ∧ ∃ next answer, work db = .ok (next, answer) := by
  unfold Commits
  rcases unit_cases input work db with ⟨next, answer, free, done, same⟩ | ⟨fault, same⟩
  · rw [same]
    exact iff_of_true ⟨next, answer, rfl⟩ ⟨free, next, answer, done⟩
  · rw [same]
    refine iff_of_false (by simp) fun ⟨free, next, answer, done⟩ => ?_
    have goes : unit input work db = (next, .ok answer) := by
      simp [unit, commit, free, done, demand, bind, Except.bind]
    rw [goes] at same
    cases same

/-- Two shops at given rates. -/
def ratedShops (commission share : Bps) : Db :=
  { twoShops with
    platformFeeSettings :=
      { twoShops.platformFeeSettings with
        defaultCommissionBps := commission, shopShareBps := share } }

/-- A sale of ten santim in training, run up to the provider's confirmation. -/
def confirmed (commission share : Bps) : World Db Process :=
  (played (World.next services)
    [.start (funds "shop"), .act 0 (drawing "a" .confirmedSuccess .stillPending 1),
     .start (airtime "request"), .act 1 (drawing "b" .confirmedSuccess .stillPending 1),
     .act 1 (drawing "c" .confirmedSuccess .stillPending 1),
     .act 1 (drawing "d" .confirmedSuccess .stillPending 1),
     .act 1 (drawing "e" .confirmedSuccess .stillPending 1),
     .act 1 (drawing "f" .confirmedSuccess .stillPending 1),
     .act 1 (drawing "g" .confirmedSuccess .stillPending 1),
     .act 1 (drawing "h" .confirmedSuccess .stillPending 1)] []
    ⟨ratedShops commission share, []⟩).2

/-- The sale as it stands there, and the transaction it has in memory. -/
def confirmedSale (w : World Db Process) : Option (CreateSale × Transaction × Application.Submitted) :=
  match w.proc 1 with
  | some (.createSale sale) =>
    match sale.point with
    | .applying processing submitted => some (sale, processing, submitted)
    | _ => none
  | _ => none

/-- The unit of work goes through. -/
def goesThrough (input : Input) (work : Db → Except Fault (Db × α)) (db : Db) : Bool :=
  (unit input work db).2.isOk

theorem goesThrough_iff : goesThrough input work db = true ↔ Commits input work db := by
  unfold goesThrough Commits
  cases unit input work db with
  | mk next result => cases result <;> simp [Except.isOk, Except.toBool]

/-- What a confirmed sale is to come to: an exact and monotone split, and a settlement that
goes through. -/
def SettlesExactly (input : Input) (sale : CreateSale) (processing : Transaction)
    (submitted : Application.Submitted) (db : Db) : Prop :=
  let amount := sale.request.amount.minor
  let commissionBps := CreateSale.rate sale db
  let shareBps := db.platformFeeSettings.shopShareBps.value
  ∃ split, splitCommission amount commissionBps shareBps = .ok split ∧
    splitCommissionNumber amount commissionBps shareBps = .ok split ∧
    Exact amount commissionBps shareBps split ∧ Monotone amount commissionBps shareBps split ∧
    Commits input (settleSale sale processing submitted input) db

/-- Where the settlement would go through with nothing to pay out, it goes through just when what
the provider leaves or what Telga keeps does not round to nothing. -/
theorem settles_iff {db : Db} {sale : CreateSale} (positive : 0 < sale.request.amount.minor)
    (countable : Countable sale.request.amount.minor (CreateSale.rate sale db)
      db.platformFeeSettings.shopShareBps.value)
    (revenue : Opened db) (fresh : ∀ row ∈ db.ledgerEntries, row.id.1 ≠ input.newId 0)
    (unpaid : Commits input (settleAt 0 0 sale processing submitted input) db) :
    SettlesExactly input sale processing submitted db ↔
      5000 < sale.request.amount.minor * (10000 - CreateSale.rate sale db) ∨
      5000 < sale.request.amount.minor *
        (10000 - db.platformFeeSettings.shopShareBps.value) := by
  have rate : ValidBps (CreateSale.rate sale db) := effectiveCommissionBps_valid ..
  have share := db.platformFeeSettings.shopShareBps.valid
  obtain ⟨free, last, answer, goes⟩ := commits_iff.mp unpaid
  unfold SettlesExactly
  simp only [commits_iff, settleSale_at]
  rw [← share_less_iff rate share positive]
  constructor
  · rintro ⟨_, _, _, _, _, _, next, told, settled⟩
    exact settleAt_less rate share positive settled
  · intro less
    have number := splitCommissionNumber_eq rate share positive countable
    have splits := splitCommission_goes rate share positive
    obtain ⟨exact, monotone⟩ := split_exact rate share positive countable (number.trans splits)
    obtain ⟨next, settled⟩ := settleAt_goes rate share positive revenue fresh goes less
    exact ⟨_, splits, number.trans splits, exact, monotone, free, next, answer, settled⟩

/-- What the last step of those sales is given. -/
def closing : Input :=
  drawing "i" .confirmedSuccess .stillPending 1

theorem settles_ordinary : ∃ sale processing submitted,
    confirmedSale (confirmed ⟨300, by decide⟩ ⟨7000, by decide⟩) =
      some (sale, processing, submitted) ∧
    SettlesExactly closing sale processing submitted
      (confirmed ⟨300, by decide⟩ ⟨7000, by decide⟩).store := by
  have facts : (confirmedSale (confirmed ⟨300, by decide⟩ ⟨7000, by decide⟩)).any
      (fun (sale, processing, submitted) =>
        let db := (confirmed ⟨300, by decide⟩ ⟨7000, by decide⟩).store
        let amount := sale.request.amount.minor
        let share := db.platformFeeSettings.shopShareBps.value
        goesThrough closing (settleAt 0 0 sale processing submitted closing) db &&
        decide (0 < amount ∧ Countable amount (CreateSale.rate sale db) share ∧ Opened db ∧
          (∀ row ∈ db.ledgerEntries, row.id.1 ≠ closing.newId 0) ∧
          5000 < amount * (10000 - CreateSale.rate sale db))) = true := by
    decide +kernel
  obtain ⟨⟨sale, processing, submitted⟩, found, facts⟩ := (Option.any_eq_true ..).mp facts
  simp only [Bool.and_eq_true, goesThrough_iff, decide_eq_true_eq] at facts
  obtain ⟨unpaid, positive, countable, revenue, fresh, some⟩ := facts
  exact ⟨sale, processing, submitted, found,
    (settles_iff positive countable revenue fresh unpaid).mpr (.inl some)⟩

/-- With the whole amount as commission and all of it the shop's, the provider's leg is nil, and a
sale the provider confirmed is not settled. -/
theorem whole_amount_unsettled : ∃ sale processing submitted,
    confirmedSale (confirmed ⟨10000, by decide⟩ ⟨10000, by decide⟩) =
      some (sale, processing, submitted) ∧
    submitted.state = .successful ∧
    ¬ Commits closing (settleSale sale processing submitted closing)
      (confirmed ⟨10000, by decide⟩ ⟨10000, by decide⟩).store := by
  have facts : (confirmedSale (confirmed ⟨10000, by decide⟩ ⟨10000, by decide⟩)).any
      (fun (sale, processing, submitted) =>
        decide (submitted.state = .successful) &&
        !goesThrough closing (settleSale sale processing submitted closing)
          (confirmed ⟨10000, by decide⟩ ⟨10000, by decide⟩).store) = true := by
    decide +kernel
  obtain ⟨⟨sale, processing, submitted⟩, found, facts⟩ := (Option.any_eq_true ..).mp facts
  simp only [Bool.and_eq_true, decide_eq_true_eq, Bool.not_eq_true'] at facts
  obtain ⟨successful, refused⟩ := facts
  refine ⟨sale, processing, submitted, found, successful, fun commits => ?_⟩
  rw [goesThrough_iff.mpr commits] at refused
  cases refused

end Telga.Proofs.Settlements
