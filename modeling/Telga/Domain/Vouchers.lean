import Telga.Domain.Ids
import Telga.Domain.Money
import Telga.Domain.Text

namespace Telga.Domain

/-- What a voucher is: airtime handed over the counter, or value sent to a phone. -/
inductive ProductType
  | airtime
  | topup
  | data
deriving DecidableEq, Repr

def ProductType.code : ProductType → String
  | .airtime => "AIRTIME"
  | .topup => "TOPUP"
  | .data => "DATA"

/-- Bounds on an amount the operator types. -/
structure CustomAmountLimits where
  minMinor : Int
  maxMinor : Int
  incrementMinor : Int

def trainingCustomAmountLimits : CustomAmountLimits :=
  { minMinor := 500, maxMinor := 100000, incrementMinor := 100 }

inductive CustomAmountRejection
  | notANumber
  | belowMinimum
  | aboveMaximum
  | notAMultiple
deriving DecidableEq, Repr

/-- Why a typed amount is unacceptable, if it is. -/
def customAmountRejection (amountMinor : Int)
    (limits : CustomAmountLimits := trainingCustomAmountLimits) : Option CustomAmountRejection :=
  if ¬ SafeInteger amountMinor then some .notANumber
  else if amountMinor < limits.minMinor then some .belowMinimum
  else if limits.maxMinor < amountMinor then some .aboveMaximum
  else if amountMinor.tmod limits.incrementMinor ≠ 0 then some .notAMultiple
  else none

/-- A voucher catalog entry, as the order service sees it. -/
structure VoucherOrderProduct where
  productId : ProductId
  network : String
  productType : ProductType
  amountMinor : Int
  available : Bool
  isCustom : Bool
deriving DecidableEq

/-- What one voucher of a product may cost: its denomination, or an amount within the bounds
when the operator types it. -/
def VoucherOrderProduct.Priced (product : VoucherOrderProduct) (amountMinor : Int) : Prop :=
  if product.isCustom then customAmountRejection amountMinor = none
  else amountMinor = product.amountMinor

instance (product : VoucherOrderProduct) (amountMinor : Int) :
    Decidable (product.Priced amountMinor) :=
  inferInstanceAs (Decidable (if product.isCustom = true then customAmountRejection amountMinor = none
    else amountMinor = product.amountMinor))

/-- Bulk-printing bounds. -/
def quantityLimits : Int × Int :=
  (1, 20)

def quantityRejection (quantity : Int) : Option String :=
  if ¬ SafeInteger quantity then some "QUANTITY_INVALID"
  else if quantity < quantityLimits.1 ∨ quantityLimits.2 < quantity then some "QUANTITY_INVALID"
  else none

/-- The characters of a number that are left when spaces and hyphens are taken out. -/
def dialled (recipient : String) : List Char :=
  recipient.toList.filter fun c => ¬ (isWhitespace c || c == '-')

/-- Nine to fifteen digits. -/
def allDigits (text : List Char) : Bool :=
  text.all Char.isDigit && decide (9 ≤ text.length) && decide (text.length ≤ 15)

/-- Refuse a recipient that is obviously not a phone number: a plus sign or none, and nine to
fifteen digits. -/
def recipientRejection (recipient : String) : Option String :=
  let accepted := match dialled recipient with
    | '+' :: digits => allDigits digits
    | digits => allDigits digits
  if accepted then none else some "RECIPIENT_INVALID"

/-- The client request id of one voucher of an order, counted from nought. -/
def batchRequestId (clientRequestId : String) (index : Nat) : String :=
  if index = 0 then clientRequestId else clientRequestId ++ "#" ++ toString (index + 1)

end Telga.Domain
