import Telga.Domain.Ids

namespace Telga.Domain

inductive ShopStatus
  | onboarding
  | active
  | suspended
  | closed
deriving DecidableEq, Repr

inductive TransferRefusal
  | recipientNotFound
  | recipientIsSender
  | senderNotActive
  | recipientNotActive
  | amountNotPositive
  | aboveTransferLimit
  | aboveDailyLimit
  | insufficientBalance
deriving DecidableEq, Repr

/-- The code a refusal is recorded under. -/
def TransferRefusal.code : TransferRefusal → String
  | .recipientNotFound => "RECIPIENT_NOT_FOUND"
  | .recipientIsSender => "RECIPIENT_IS_SENDER"
  | .senderNotActive => "SENDER_NOT_ACTIVE"
  | .recipientNotActive => "RECIPIENT_NOT_ACTIVE"
  | .amountNotPositive => "AMOUNT_NOT_POSITIVE"
  | .aboveTransferLimit => "ABOVE_TRANSFER_LIMIT"
  | .aboveDailyLimit => "ABOVE_DAILY_LIMIT"
  | .insufficientBalance => "INSUFFICIENT_BALANCE"

structure TransferPolicy where
  maxPerTransferMinor : Int
  maxPerDayMinor : Int
  approvalThresholdMinor : Int
  feeBasisPoints : Int
deriving DecidableEq

structure TransferRequest where
  senderMerchantId : MerchantId
  senderStatus : ShopStatus
  senderAvailableMinor : Int
  sentTodayMinor : Int
  recipient : Option (MerchantId × ShopStatus)
  amountMinor : Int

/-- What was decided, and what leaves the sender and reaches the recipient when accepted. -/
inductive TransferDecision
  | refused (refusal : TransferRefusal)
  | accepted (needsApproval : Bool) (feeMinor totalDebitMinor creditMinor : Int)
deriving DecidableEq, Repr

/-- Rounded up, so a fee is never silently absorbed by Telga. -/
def transferFeeFor (amountMinor basisPoints : Int) : Int :=
  if basisPoints ≤ 0 then 0 else -((-(amountMinor * basisPoints)) / 10000)

/-- May this transfer proceed? Identity, then status, then shape, then limits, then money. -/
def decideTransfer (request : TransferRequest) (policy : TransferPolicy) : TransferDecision :=
  match request.recipient with
  | none => .refused .recipientNotFound
  | some (recipient, status) =>
    if recipient = request.senderMerchantId then .refused .recipientIsSender
    else if request.senderStatus ≠ .active then .refused .senderNotActive
    else if status ≠ .active then .refused .recipientNotActive
    else if request.amountMinor ≤ 0 then .refused .amountNotPositive
    else if request.amountMinor > policy.maxPerTransferMinor then .refused .aboveTransferLimit
    else if request.sentTodayMinor + request.amountMinor > policy.maxPerDayMinor then
      .refused .aboveDailyLimit
    else
      let feeMinor := transferFeeFor request.amountMinor policy.feeBasisPoints
      let totalDebitMinor := request.amountMinor + feeMinor
      if totalDebitMinor > request.senderAvailableMinor then .refused .insufficientBalance
      else .accepted (decide (request.amountMinor > policy.approvalThresholdMinor)) feeMinor
        totalDebitMinor request.amountMinor

/-- The training policy. -/
def trainingTransferPolicy : TransferPolicy where
  maxPerTransferMinor := 1000000
  maxPerDayMinor := 5000000
  approvalThresholdMinor := 1000000
  feeBasisPoints := 0

theorem transferFeeFor_nonneg (h : 0 ≤ amount) : 0 ≤ transferFeeFor amount bps := by
  unfold transferFeeFor
  split
  · simp
  · have positive : 0 ≤ amount * bps := Int.mul_nonneg h (by omega)
    omega

/-- An accepted transfer names another shop, moves a positive amount with a fee that is not
negative, and was covered by the balance it was judged against. -/
theorem decideTransfer_accepted
    (h : decideTransfer request policy = .accepted needs fee debit credit) :
    (∃ recipient status, request.recipient = some (recipient, status) ∧
      recipient ≠ request.senderMerchantId) ∧
    credit = request.amountMinor ∧ 0 < credit ∧ 0 ≤ fee ∧ debit = credit + fee ∧
    debit ≤ request.senderAvailableMinor := by
  unfold decideTransfer at h
  split at h
  · cases h
  · rename_i recipient status found
    simp only at h
    repeat' split at h
    all_goals cases h
    rename_i other _ _ positive _ _ covered
    have fee := @transferFeeFor_nonneg request.amountMinor policy.feeBasisPoints (by omega)
    exact ⟨⟨recipient, status, found, other⟩, rfl, by omega, fee, rfl, by omega⟩

end Telga.Domain
