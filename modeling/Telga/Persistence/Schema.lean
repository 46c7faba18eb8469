import Telga.Domain.Audit
import Telga.Domain.CommissionSplit
import Telga.Domain.Recovery
import Telga.Domain.Reversal
import Telga.Domain.Transaction
import Telga.Domain.Transfer

namespace Telga.Persistence
open Domain

structure MerchantRow where
  id : MerchantId
  status : ShopStatus
deriving DecidableEq

inductive DeviceStatus
  | registered
  | active
  | stopped
  | lost
deriving DecidableEq, Repr

structure DeviceRow where
  id : DeviceId
  merchantId : MerchantId
  status : DeviceStatus
deriving DecidableEq

structure TransactionRow where
  id : TransactionId
  merchantId : MerchantId
  deviceId : DeviceId
  operatorId : MerchantUserId
  productType : ProductId
  providerId : Option ProviderId
  amount : Money
  recipientMasked : String
  state : TransactionState
  idempotencyKey : IdempotencyKey
  payloadFingerprint : String
  providerReference : Option String
  createdAt : Timestamp
  updatedAt : Timestamp
deriving DecidableEq

structure IdempotencyRow where
  key : IdempotencyKey
  merchantId : MerchantId
  requestIdentity : String
  payloadFingerprint : String
  transactionId : TransactionId
  resultState : Option TransactionState
  updatedAt : Timestamp
deriving DecidableEq

structure LedgerAccountRow where
  id : LedgerAccountId
  merchantId : Option MerchantId
  accountType : LedgerAccountKind
deriving DecidableEq

structure LedgerEntryRow where
  id : PostingId × Nat
  postingId : PostingId
  transactionId : Option TransactionId
  accountId : LedgerAccountId
  merchantId : Option MerchantId
  accountType : LedgerAccountKind
  direction : EntryDirection
  amount : Money
  entryType : EntryReason
  correlationId : CorrelationId
  ruleVersion : Option RuleVersion
  createdAt : Timestamp
deriving DecidableEq

structure ReservationRow where
  id : ReservationId
  merchantId : MerchantId
  transactionId : TransactionId
  amount : Money
  status : ReservationState
  correlationId : CorrelationId
  createdAt : Timestamp
  updatedAt : Timestamp
  releasedAt : Option Timestamp
deriving DecidableEq

structure AuditEventRow where
  event : AuditEvent
  entityType : String
  entityId : Option String
  correlationId : CorrelationId
deriving DecidableEq

inductive PendingStatus
  | awaiting
  | resolved
  | escalated
deriving DecidableEq, Repr

structure PendingResolutionRow where
  transactionId : TransactionId
  merchantId : MerchantId
  idempotencyKey : IdempotencyKey
  providerReference : Option String
  correlationId : CorrelationId
  attempts : Nat
  status : PendingStatus
  firstPendingAt : Timestamp
  lastAttemptAt : Option Timestamp
  deadlineAt : Timestamp
  nextCheckAt : Option Timestamp := none
  lastOutcomeCategory : Option ProviderLookupOutcome := none
  currentState : Option TransactionState := none
  manualReviewOpen : Bool := false
  updatedAt : Timestamp
deriving DecidableEq

inductive SupportReason
  | underReview
  | reversalRequired
  | merchantReported
deriving DecidableEq, Repr

structure SupportCaseRow where
  id : String
  merchantId : MerchantId
  transactionId : TransactionId
  reason : SupportReason
  reference : String
  correlationId : CorrelationId
  createdAt : Timestamp
  approvedBy : Option String := none
  approvedAt : Option Timestamp := none
deriving DecidableEq

structure RecoveryClaimRow where
  transactionId : TransactionId
  workerId : String
  scanId : String
  attemptNo : Nat
  claimedAt : Timestamp
  expiresAt : Timestamp
  releasedAt : Option Timestamp
  active : Bool
deriving DecidableEq

/-- The platform's fee configuration. One row, no merchant scope, every rate within bounds. -/
structure PlatformFeeSettings where
  defaultCommissionBps : Bps
  shopShareBps : Bps
  softwareFee : Money
  softwareFeeEnabled : Bool
  softwareFeeFirstPeriod : Option Period
  updatedByAdminId : Option String
  updatedAt : Timestamp
deriving DecidableEq

structure ProviderCommissionRate where
  id : String
  providerId : ProviderId
  productType : Option ProductId
  commissionBps : Bps
deriving DecidableEq

inductive CommissionReversal
  | none
  | reversed
deriving DecidableEq, Repr

structure CommissionEntryRow where
  id : String
  transactionId : TransactionId
  merchantId : MerchantId
  providerId : Option ProviderId
  productType : ProductId
  transactionAmount : Money
  split : CommissionSplit
  reversalStatus : CommissionReversal
  createdAt : Timestamp
deriving DecidableEq

inductive SoftwareFeeStatus
  | paid
  | arrears
  | waived
deriving DecidableEq, Repr

structure SoftwareFeeCharge where
  id : String
  merchantId : MerchantId
  period : Period
  amount : Money
  status : SoftwareFeeStatus
  postingId : Option PostingId
  chargedAt : Option Timestamp
  createdAt : Timestamp
deriving DecidableEq

inductive ReversalStatus
  | requested
  | needsApproval
  | approved
  | refused
  | settled
deriving DecidableEq, Repr

structure ReversalRequestRow where
  id : String
  transactionId : TransactionId
  merchantId : MerchantId
  requestedBy : MerchantUserId
  deviceId : DeviceId
  reason : String
  amount : Money
  redemption : TokenRedemption
  status : ReversalStatus
  decidedBy : Option String := none
  decidedAt : Option Timestamp := none
  decisionReason : Option String := none
  reversalEntryId : Option PostingId := none
  correlationId : CorrelationId
  createdAt : Timestamp
  updatedAt : Timestamp
deriving DecidableEq

inductive TransferStatus
  | needsApproval
  | settled
  | refused
deriving DecidableEq, Repr

structure ShopTransferRow where
  id : String
  senderMerchantId : MerchantId
  senderDeviceId : DeviceId
  senderOperatorId : MerchantUserId
  recipientDeviceId : DeviceId
  recipientMerchantId : MerchantId
  amountMinor : Int
  feeMinor : Int
  status : TransferStatus
  refusalReason : Option String := none
  approvedBy : Option String := none
  approvedAt : Option Timestamp := none
  postingId : Option PostingId := none
  correlationId : CorrelationId
  createdAt : Timestamp
  updatedAt : Timestamp
deriving DecidableEq

/-- The database, table by table, each in insertion order. -/
structure Db where
  merchants : List MerchantRow
  devices : List DeviceRow
  transactions : List TransactionRow
  idempotencyRecords : List IdempotencyRow
  ledgerAccounts : List LedgerAccountRow
  ledgerEntries : List LedgerEntryRow
  balanceReservations : List ReservationRow
  auditEvents : List AuditEventRow
  pendingResolutions : List PendingResolutionRow
  supportCases : List SupportCaseRow
  recoveryClaims : List RecoveryClaimRow
  platformFeeSettings : PlatformFeeSettings
  providerCommissionRates : List ProviderCommissionRate
  commissionEntries : List CommissionEntryRow
  softwareFeeCharges : List SoftwareFeeCharge
  reversalRequests : List ReversalRequestRow
  shopTransfers : List ShopTransferRow

/-- The database the migrations leave: no row but the fee settings they seed. -/
def migrated : Db where
  merchants := []
  devices := []
  transactions := []
  idempotencyRecords := []
  ledgerAccounts := []
  ledgerEntries := []
  balanceReservations := []
  auditEvents := []
  pendingResolutions := []
  supportCases := []
  recoveryClaims := []
  platformFeeSettings :=
    { defaultCommissionBps := ⟨300, by decide⟩, shopShareBps := ⟨7000, by decide⟩,
      softwareFee := ⟨125000, by decide⟩, softwareFeeEnabled := true,
      softwareFeeFirstPeriod := none, updatedByAdminId := none, updatedAt := 0 }
  providerCommissionRates := []
  commissionEntries := []
  softwareFeeCharges := []
  reversalRequests := []
  shopTransfers := []

/-- A foreign key into a table: the row it names is stored. -/
def Present (key : ρ → κ) (wanted : κ) (rows : List ρ) : Prop :=
  ∃ row ∈ rows, key row = wanted

instance [DecidableEq κ] (key : ρ → κ) (wanted : κ) (rows : List ρ) :
    Decidable (Present key wanted rows) :=
  inferInstanceAs (Decidable (∃ row ∈ rows, _))

/-- A row that is stored is found by its key. -/
theorem Present.find [DecidableEq κ] {key : ρ → κ} {wanted : κ} {rows : List ρ}
    (there : Present key wanted rows) :
    ∃ row, rows.find? (fun row => key row = wanted) = some row ∧ key row = wanted ∧ row ∈ rows := by
  obtain ⟨row, mem, same⟩ := there
  cases found : rows.find? fun row => key row = wanted with
  | none =>
    have missing := List.find?_eq_none.mp found row mem
    simp [same] at missing
  | some row =>
    exact ⟨row, rfl, by simpa using List.find?_some found, List.mem_of_find?_eq_some found⟩

end Telga.Persistence
