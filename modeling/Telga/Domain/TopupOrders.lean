import Telga.Domain.Money
import Telga.Domain.Text
import Telga.Domain.Transfer

namespace Telga.Domain

/-- The form in which deposit references are stored and compared: without blanks and grouping
hyphens, in upper case. Upper casing is the runtime's own and reaches beyond the alphabet. -/
def normalizeDepositReference (toUpperCase : String → String) (input : String) : String :=
  toUpperCase (String.ofList (input.toList.filter fun c => ¬ (isWhitespace c ∨ c = '-')))

/-- Where an order stands. Only settlement sets `paid`. -/
inductive TopupOrderStatus
  | opened
  | paid
  | expired
  | cancelled
deriving DecidableEq, Repr

inductive DepositMethod
  | bankCounter
  | chapa
deriving DecidableEq, Repr

inductive TopupOrderRefusal
  | shopNotActive
  | amountInvalid
  | amountBelowMinimum
  | amountAboveMaximum
  | orderAlreadyOpen
  | depositsDisabled
deriving DecidableEq, Repr

structure TopupOrderPolicy where
  minimumMinor : Int
  maximumMinor : Int
  validForMs : Int

def trainingTopupPolicy : TopupOrderPolicy where
  minimumMinor := 5000
  maximumMinor := 5000000
  validForMs := 24 * 60 * 60 * 1000

/-- What an order is judged on. A shop that is not on record has no status. -/
structure TopupOrderRequest where
  shopStatus : Option ShopStatus
  amount : Money
  hasOpenOrder : Bool
  depositsEnabled : Bool

/-- Why an order may not be made, if it may not. -/
def decideTopupOrder (request : TopupOrderRequest) (policy : TopupOrderPolicy) :
    Option TopupOrderRefusal :=
  if request.depositsEnabled = false then some .depositsDisabled
  else if request.shopStatus ≠ some .active then some .shopNotActive
  else if request.hasOpenOrder then some .orderAlreadyOpen
  else if request.amount.minor ≤ 0 then some .amountInvalid
  else if request.amount.minor < policy.minimumMinor then some .amountBelowMinimum
  else if policy.maximumMinor < request.amount.minor then some .amountAboveMaximum
  else none

def topupOrderExpiry (now : Timestamp) (policy : TopupOrderPolicy) : Timestamp :=
  now + policy.validForMs

/-- The secret keys of the sandbox, by their prefix. -/
def isTestKey (secretKey : String) : Bool :=
  "CHASECK_TEST-".toList.isPrefixOf secretKey.toList

/-- What starting a payment at the gateway comes to. -/
inductive InitializeResult
  | started (checkoutUrl : String)
  | refused (message : String)
  | unreachable (detail : String)
deriving DecidableEq, Repr

/-- What the gateway says happened. Only success may credit. -/
inductive ChapaPaymentStatus
  | success
  | failed
  | pending
  | unknown
deriving DecidableEq, Repr

/-- The gateway's own record of a payment. -/
structure ChapaPayment where
  status : ChapaPaymentStatus
  amountMinor : Int
  currency : String
  txRef : String
  providerReference : String
deriving DecidableEq, Repr

inductive VerifyResult
  | answered (payment : ChapaPayment)
  | notFound
  | unreachable (detail : String)
deriving DecidableEq, Repr

inductive CreditRefusal
  | notSuccessful
  | wrongCurrency
  | referenceMismatch
  | underpaid
  | overpaid
  | alreadyCredited
  | orderNotOpen
deriving DecidableEq, Repr

structure TopupOrderFacts where
  reference : String
  amountMinor : Int
  status : TopupOrderStatus

inductive CreditDecision
  | credit (amountMinor : Int)
  | refuse (reason : CreditRefusal)
deriving DecidableEq, Repr

/-- May this payment credit a shop? Identity before amount, and the order's amount is the
authority, not the gateway's. -/
def decideChapaCredit (toUpperCase : String → String) (payment : ChapaPayment)
    (order : TopupOrderFacts) : CreditDecision :=
  if payment.status ≠ .success then .refuse .notSuccessful
  else if normalizeDepositReference toUpperCase payment.txRef ≠
      normalizeDepositReference toUpperCase order.reference then .refuse .referenceMismatch
  else if order.status = .paid then .refuse .alreadyCredited
  else if order.status ≠ .opened then .refuse .orderNotOpen
  else if payment.currency ≠ "ETB" then .refuse .wrongCurrency
  else if payment.amountMinor < order.amountMinor then .refuse .underpaid
  else if order.amountMinor < payment.amountMinor then .refuse .overpaid
  else .credit order.amountMinor

/-- The gateway vouches for a payment of an order: it succeeded, in birr, under the order's
reference and for its amount. -/
structure Vouched (toUpperCase : String → String) (payment : ChapaPayment) (reference : String)
    (amountMinor : Int) : Prop where
  success : payment.status = .success
  currency : payment.currency = "ETB"
  reference : normalizeDepositReference toUpperCase payment.txRef =
    normalizeDepositReference toUpperCase reference
  amount : payment.amountMinor = amountMinor

/-- A payment may credit exactly an open order it is vouched for, with the order's amount. -/
theorem decideChapaCredit_credit :
    decideChapaCredit toUpperCase payment order = .credit amountMinor ↔
      order.status = .opened ∧ amountMinor = order.amountMinor ∧
        Vouched toUpperCase payment order.reference order.amountMinor := by
  unfold decideChapaCredit
  constructor
  · intro h
    repeat' split at h
    all_goals cases h
    rename_i success reference _ opened currency notUnder notOver
    have amount : payment.amountMinor = order.amountMinor := by omega
    exact ⟨Decidable.not_not.mp opened, rfl, Decidable.not_not.mp success,
      Decidable.not_not.mp currency, Decidable.not_not.mp reference, amount⟩
  · rintro ⟨opened, rfl, success, currency, reference, amount⟩
    simp [success, currency, reference, opened, amount]

end Telga.Domain
