import Telga.Persistence.Transactions
import Telga.Domain.Text

namespace Telga.Persistence
open Domain Library

/-- The rate that applies to one sale, most specific first: the provider's rate for the product,
its rate for all products, then the platform default. -/
def effectiveCommissionBps (db : Db) (providerId : Option ProviderId) (productType : ProductId) :
    Int :=
  let specific := providerId.bind fun provider =>
    db.providerCommissionRates.find? fun rate =>
      rate.providerId = provider ∧ rate.productType = some productType
  let fallback := providerId.bind fun provider =>
    db.providerCommissionRates.find? fun rate =>
      rate.providerId = provider ∧ rate.productType = none
  match specific <|> fallback with
  | some rate => rate.commissionBps.value
  | none => db.platformFeeSettings.defaultCommissionBps.value

/-- What an administrator may change about the fees; a field left out stays as it was. -/
structure FeeSettingsUpdate where
  defaultCommissionBps : Option Bps := none
  shopShareBps : Option Bps := none
  softwareFee : Option Money := none
  softwareFeeEnabled : Option Bool := none
  softwareFeeFirstPeriod : Option Period := none
  adminId : String
  now : Timestamp

def writePlatformFeeSettings (db : Db) (input : FeeSettingsUpdate) : Except Fault Db := do
  let current := db.platformFeeSettings
  let softwareFee := input.softwareFee.getD current.softwareFee
  demand (0 ≤ softwareFee.minor) .constraint
  return { db with
    platformFeeSettings :=
      { defaultCommissionBps := input.defaultCommissionBps.getD current.defaultCommissionBps
        shopShareBps := input.shopShareBps.getD current.shopShareBps
        softwareFee
        softwareFeeEnabled := input.softwareFeeEnabled.getD current.softwareFeeEnabled
        softwareFeeFirstPeriod :=
          input.softwareFeeFirstPeriod <|> current.softwareFeeFirstPeriod
        updatedByAdminId := some input.adminId
        updatedAt := input.now } }

structure ProviderRateInput where
  id : String
  providerId : ProviderId
  productType : Option ProductId
  commissionBps : Bps

/-- Record a provider's rate. A rate for one product replaces the one stored for it; a second
rate for all products is refused. -/
def saveProviderRate (db : Db) (input : ProviderRateInput) : Except Fault Db :=
  let sameScope := fun (rate : ProviderCommissionRate) =>
    decide (rate.providerId = input.providerId ∧ rate.productType = input.productType)
  if input.productType ≠ none ∧ db.providerCommissionRates.any sameScope then
    .ok { db with
      providerCommissionRates := update sameScope
        (fun rate => { rate with commissionBps := input.commissionBps })
        db.providerCommissionRates }
  else do
    demand (db.providerCommissionRates.any sameScope = false) .constraint
    demand (¬ Present (·.id) input.id db.providerCommissionRates) .constraint
    return { db with
      providerCommissionRates := db.providerCommissionRates ++
        [{ id := input.id, providerId := input.providerId, productType := input.productType,
           commissionBps := input.commissionBps }] }

structure CommissionEntryInput where
  id : String
  transactionId : TransactionId
  merchantId : MerchantId
  providerId : Option ProviderId
  productType : ProductId
  transactionAmount : Money
  split : CommissionSplit
  now : Timestamp

def commissionRow (input : CommissionEntryInput) : CommissionEntryRow :=
  { id := input.id, transactionId := input.transactionId, merchantId := input.merchantId,
    providerId := input.providerId, productType := input.productType,
    transactionAmount := input.transactionAmount, split := input.split,
    reversalStatus := .none, createdAt := input.now }

/-- The table's checks on the figures of one entry. -/
def CommissionChecks (split : CommissionSplit) : Prop :=
  ValidBps split.providerCommissionBps ∧ ValidBps split.shopShareBps ∧
  0 ≤ split.providerCommissionMinor ∧ 0 ≤ split.shopShareMinor ∧ 0 ≤ split.telgaShareMinor ∧
  split.shopShareMinor + split.telgaShareMinor = split.providerCommissionMinor

instance (split : CommissionSplit) : Decidable (CommissionChecks split) :=
  inferInstanceAs (Decidable (_ ∧ _))

/-- Append one commission entry, at most one a transaction. The figures arrive calculated. -/
def recordCommission (db : Db) (input : CommissionEntryInput) : Except Fault Db := do
  demand (0 < input.transactionAmount.minor ∧ CommissionChecks input.split) .constraint
  demand (¬ Present (·.id) input.id db.commissionEntries) .constraint
  demand (¬ Present (·.transactionId) input.transactionId db.commissionEntries) .constraint
  demand (Present (·.id) input.transactionId db.transactions) .constraint
  demand (Present (·.id) input.merchantId db.merchants) .constraint
  return { db with commissionEntries := db.commissionEntries ++ [commissionRow input] }

structure CommissionTotals where
  entries : Nat
  providerCommissionMinor : Int
  shopShareMinor : Int
  telgaShareMinor : Int
deriving DecidableEq, Repr

/-- What one shop earned, and what Telga kept from it. Reversed entries are excluded. -/
def commissionTotalsFor (db : Db) (merchantId : MerchantId) : CommissionTotals :=
  let rows := db.commissionEntries.filter fun row =>
    row.merchantId = merchantId ∧ row.reversalStatus = .none
  { entries := rows.length
    providerCommissionMinor := total (fun row => row.split.providerCommissionMinor) rows
    shopShareMinor := total (fun row => row.split.shopShareMinor) rows
    telgaShareMinor := total (fun row => row.split.telgaShareMinor) rows }

/-- Mark a commission reversed. -/
def reverseCommission (db : Db) (transactionId : TransactionId) : Db :=
  { db with
    commissionEntries :=
      update (fun row => row.transactionId = transactionId ∧ row.reversalStatus = .none)
        (fun row => { row with reversalStatus := .reversed }) db.commissionEntries }

structure ChargeInput where
  id : String
  merchantId : MerchantId
  period : Period
  amount : Money
  postingId : PostingId
  now : Timestamp

def findCharge (db : Db) (merchantId : MerchantId) (period : Period) : Option SoftwareFeeCharge :=
  db.softwareFeeCharges.find? fun row => row.merchantId = merchantId ∧ row.period = period

/-- Insert a charge, or on the month's own row do what the conflict clause says. -/
def insertCharge (db : Db) (charge : SoftwareFeeCharge)
    (conflict : List SoftwareFeeCharge → List SoftwareFeeCharge) : Except Fault Db := do
  demand (0 < charge.amount.minor) .constraint
  if findCharge db charge.merchantId charge.period ≠ none then
    return { db with softwareFeeCharges := conflict db.softwareFeeCharges }
  else
    demand (¬ Present (·.id) charge.id db.softwareFeeCharges) .constraint
    demand (Present (·.id) charge.merchantId db.merchants) .constraint
    return { db with softwareFeeCharges := db.softwareFeeCharges ++ [charge] }

/-- The row of a charge that was paid. -/
def paidRow (input : ChargeInput) : SoftwareFeeCharge :=
  { id := input.id, merchantId := input.merchantId, period := input.period,
    amount := input.amount, status := .paid, postingId := some input.postingId,
    chargedAt := some input.now, createdAt := input.now }

/-- The month's own row, while it is owed. -/
def owing (merchantId : MerchantId) (period : Period) (row : SoftwareFeeCharge) : Bool :=
  row.merchantId = merchantId ∧ row.period = period ∧ row.status = .arrears

/-- What paying does to the month's own row: only arrears become paid, at the amount on the row. -/
def payArrears (input : ChargeInput) : List SoftwareFeeCharge → List SoftwareFeeCharge :=
  update (owing input.merchantId input.period)
    fun row => { row with
      status := .paid, postingId := some input.postingId, chargedAt := some input.now }

/-- Record a charge that was paid; a month in arrears becomes paid. -/
def insertPaidCharge (db : Db) (input : ChargeInput) : Except Fault Db :=
  insertCharge db (paidRow input) (payArrears input)

/-- The row of a fee that was due and could not be taken. -/
def arrearsRow (input : ChargeInput) : SoftwareFeeCharge :=
  { id := input.id, merchantId := input.merchantId, period := input.period,
    amount := input.amount, status := .arrears, postingId := none, chargedAt := none,
    createdAt := input.now }

/-- Record that a fee was due and could not be taken. Moves no money. -/
def insertArrears (db : Db) (input : ChargeInput) : Except Fault Db :=
  insertCharge db (arrearsRow input) id

/-- Cancel an unpaid charge. A reason is required. -/
def waiveCharge (db : Db) (merchantId : MerchantId) (period : Period) (reason : String) :
    Db × Bool :=
  if trim reason = "" then (db, false)
  else
    ({ db with
        softwareFeeCharges := update (owing merchantId period)
          (fun row => { row with status := .waived }) db.softwareFeeCharges },
      decide (0 < changes (owing merchantId period) db.softwareFeeCharges))

/-- Every unpaid charge, oldest first: what Telga is owed. -/
def outstandingCharges (db : Db) : List SoftwareFeeCharge :=
  (db.softwareFeeCharges.filter fun row => row.status = .arrears).mergeSort fun a b =>
    decide (a.period.year < b.period.year) || (a.period.year == b.period.year &&
      (decide (a.period.month < b.period.month) || (a.period.month == b.period.month &&
        decide (a.merchantId ≤ b.merchantId))))

theorem writePlatformFeeSettings_ok (h : writePlatformFeeSettings db change = .ok db') :
    ∃ settings, db' = { db with platformFeeSettings := settings } := by
  simp only [writePlatformFeeSettings, bind_ok, demand_ok, pure_ok] at h
  obtain ⟨_, _, rfl⟩ := h
  exact ⟨_, rfl⟩

theorem saveProviderRate_ok (h : saveProviderRate db rate = .ok db') :
    ∃ rates, db' = { db with providerCommissionRates := rates } := by
  unfold saveProviderRate at h
  simp only at h
  split at h
  · cases h
    exact ⟨_, rfl⟩
  · simp only [bind_ok, demand_ok, pure_ok] at h
    obtain ⟨_, _, _, _, rfl⟩ := h
    exact ⟨_, rfl⟩

theorem recordCommission_ok (h : recordCommission db input = .ok db') :
    ¬ Present (·.transactionId) input.transactionId db.commissionEntries ∧
    db' = { db with commissionEntries := db.commissionEntries ++ [commissionRow input] } := by
  simp only [recordCommission, bind_ok, demand_ok, pure_ok] at h
  obtain ⟨_, _, _, _, _, apart, _, _, _, _, rfl⟩ := h
  exact ⟨apart, rfl⟩

theorem effectiveCommissionBps_valid (db : Db) (providerId : Option ProviderId)
    (productType : ProductId) : ValidBps (effectiveCommissionBps db providerId productType) := by
  unfold effectiveCommissionBps
  simp only
  split
  · exact Bps.valid _
  · exact Bps.valid _

end Telga.Persistence
