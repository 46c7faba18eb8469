import Telga.Domain.Ids
import Telga.Domain.Money
import Telga.Domain.Text

namespace Telga.Domain

inductive FundingStatus
  | submitted
  | awaitingVerification
  | matched
  | credited
  | rejected
  | duplicate
  | manualReview
deriving DecidableEq, Repr

/-- What the bank says happened. -/
structure BankRecord where
  bankReference : String
  amountMinor : Int
  creditedAccount : String
deriving DecidableEq, Repr

/-- What the shop asserts. -/
structure DepositClaim where
  depositReference : String
  bankReference : String
  claimedAmountMinor : Option Int
deriving DecidableEq, Repr

structure VerificationInput where
  claim : DepositClaim
  bankRecord : Option BankRecord
  merchantForReference : Option MerchantId
  alreadyCredited : Bool
  expectedAccount : String
  autoCreditCapMinor : Int

inductive FundingRejectReason
  | noBankRecord
  | wrongAccount
  | amountNotPositive
  | bankReferenceMismatch
deriving DecidableEq, Repr

def FundingRejectReason.code : FundingRejectReason → String
  | .noBankRecord => "NO_BANK_RECORD"
  | .wrongAccount => "WRONG_ACCOUNT"
  | .amountNotPositive => "AMOUNT_NOT_POSITIVE"
  | .bankReferenceMismatch => "BANK_REFERENCE_MISMATCH"

inductive FundingReviewReason
  | referenceUnreadable
  | referenceNotAssigned
  | bankReferenceMissing
deriving DecidableEq, Repr

def FundingReviewReason.code : FundingReviewReason → String
  | .referenceUnreadable => "REFERENCE_UNREADABLE"
  | .referenceNotAssigned => "REFERENCE_NOT_ASSIGNED"
  | .bankReferenceMissing => "BANK_REFERENCE_MISSING"

/-- The outcome. A credit carries the amount of the bank record, never the claim's. -/
inductive VerificationDecision
  | credit (merchantId : MerchantId) (amountMinor : Int) (bankReference : String)
      (claimedAmountDiffered : Bool)
  | needsApproval (merchantId : MerchantId) (amountMinor : Int) (bankReference : String)
  | duplicate (bankReference : String)
  | reject (reason : FundingRejectReason)
  | manualReview (reason : FundingReviewReason)
deriving DecidableEq, Repr

/-- Decide what happens to a claimed deposit: whose it is, whether it was paid already, whether
the bank received it, and how much. -/
def verifyDeposit (input : VerificationInput) : VerificationDecision :=
  match input.merchantForReference with
  | none =>
    if textLength (trim input.claim.depositReference) = 0 then .manualReview .referenceUnreadable
    else .manualReview .referenceNotAssigned
  | some merchantId =>
    if textLength (trim input.claim.bankReference) = 0 then .manualReview .bankReferenceMissing
    else if input.alreadyCredited then .duplicate input.claim.bankReference
    else
      match input.bankRecord with
      | none => .reject .noBankRecord
      | some record =>
        if record.bankReference ≠ input.claim.bankReference then .reject .bankReferenceMismatch
        else if record.creditedAccount ≠ input.expectedAccount then .reject .wrongAccount
        else if ¬ SafeInteger record.amountMinor ∨ record.amountMinor ≤ 0 then
          .reject .amountNotPositive
        else if input.autoCreditCapMinor < record.amountMinor then
          .needsApproval merchantId record.amountMinor record.bankReference
        else
          .credit merchantId record.amountMinor record.bankReference
            (input.claim.claimedAmountMinor.any fun claimed => claimed ≠ record.amountMinor)

/-- The status a decision produces. -/
def statusAfterVerification : VerificationDecision → FundingStatus
  | .credit _ _ _ _ => .credited
  | .needsApproval _ _ _ => .matched
  | .duplicate _ => .duplicate
  | .reject _ => .rejected
  | .manualReview _ => .manualReview

/-- The reason a decision is recorded with, if it has one. -/
def outcomeReason : VerificationDecision → Option String
  | .reject reason => some reason.code
  | .manualReview reason => some reason.code
  | .duplicate _ => some "BANK_REFERENCE_ALREADY_CREDITED"
  | .credit _ _ _ _ | .needsApproval _ _ _ => none

/-- The bank vouches for a deposit: it is some merchant's, was not credited before, and the bank
has a positive amount on record under the claimed reference in the expected account. -/
structure Banked (input : VerificationInput) (merchantId : MerchantId) (record : BankRecord) :
    Prop where
  merchant : input.merchantForReference = some merchantId
  uncredited : input.alreadyCredited = false
  recorded : input.bankRecord = some record
  reference : record.bankReference = input.claim.bankReference
  account : record.creditedAccount = input.expectedAccount
  safe : SafeInteger record.amountMinor
  positive : 0 < record.amountMinor

/-- Only a banked deposit credits or waits for a second person, with the bank's amount. -/
theorem verifyDeposit_banked (h : verifyDeposit input = decision) :
    (∀ merchantId amountMinor bankReference differed,
      decision = .credit merchantId amountMinor bankReference differed →
      ∃ record, Banked input merchantId record ∧ amountMinor = record.amountMinor ∧
        bankReference = input.claim.bankReference ∧ amountMinor ≤ input.autoCreditCapMinor) ∧
    (∀ merchantId amountMinor bankReference,
      decision = .needsApproval merchantId amountMinor bankReference →
      ∃ record, Banked input merchantId record ∧ amountMinor = record.amountMinor ∧
        bankReference = input.claim.bankReference ∧ input.autoCreditCapMinor < amountMinor) := by
  subst h
  unfold verifyDeposit
  cases found : input.merchantForReference with
  | none =>
    simp only
    split <;> simp
  | some merchantId =>
    simp only
    split
    · simp
    split
    · simp
    rename_i uncredited
    cases recorded : input.bankRecord with
    | none => simp
    | some record =>
      simp only
      split
      · simp
      rename_i reference
      split
      · simp
      rename_i account
      split
      · simp
      rename_i amount
      have same := Decidable.not_not.mp reference
      have banked : Banked input merchantId record :=
        { merchant := found, uncredited := by simpa using uncredited, recorded,
          reference := same, account := Decidable.not_not.mp account,
          safe := Decidable.not_not.mp fun unsafely => amount (.inl unsafely)
          positive := by omega }
      split
      · rename_i ended
        refine ⟨by simp, ?_⟩
        rintro _ _ _ ⟨⟩
        exact ⟨record, banked, rfl, same, ended⟩
      · rename_i within
        refine ⟨?_, by simp⟩
        rintro _ _ _ _ ⟨⟩
        exact ⟨record, banked, rfl, same, by omega⟩

end Telga.Domain
