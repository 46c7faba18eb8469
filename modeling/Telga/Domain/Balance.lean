import Telga.Domain.Ledger

namespace Telga.Domain

inductive ReservationState
  | held
  | underReview
  | released
  | settled
deriving DecidableEq, Repr

structure BalanceReservation where
  id : ReservationId
  merchantId : MerchantId
  transactionId : TransactionId
  amount : Money
  state : ReservationState
  createdAt : Timestamp
  updatedAt : Timestamp

/-- The four numbers a merchant sees. -/
@[ext] structure BalanceView where
  available : Money
  reserved : Money
  underReview : Money
  total : Money
deriving DecidableEq

def createReservation (id : ReservationId) (merchantId : MerchantId)
    (transactionId : TransactionId) (amount : Money) (now : Timestamp) :
    Except Fault BalanceReservation := do
  assertPositive amount
  return { id, merchantId, transactionId, amount, state := .held,
           createdAt := now, updatedAt := now }

/-- Every merchant-owned entry of one merchant, summed. -/
def settledBalance (merchant : MerchantId) (entries : List LedgerEntry) : Except Fault Money :=
  money ((entries.filter fun entry =>
    isMerchantAccountKind entry.accountKind ∧ entry.merchantId = some merchant).map
      fun entry => signedMinor entry.toDraftEntry).sum

/-- The sum of one merchant's reservations in one state. -/
def reservedIn (merchant : MerchantId) (state : ReservationState)
    (reservations : List BalanceReservation) : Int :=
  ((reservations.filter fun r => r.merchantId = merchant ∧ r.state = state).map
    fun r => r.amount.minor).sum

/-- Available is what is left of the total once everything held is taken out of it. -/
def computeBalance (merchant : MerchantId) (entries : List LedgerEntry)
    (reservations : List BalanceReservation) : Except Fault BalanceView := do
  let total ← settledBalance merchant entries
  let reserved ← money (reservedIn merchant .held reservations)
  let underReview ← money (reservedIn merchant .underReview reservations)
  let unreserved ← subtract total reserved
  let available ← subtract unreserved underReview
  return { available, reserved, underReview, total }

/-- Throw unless the merchant has enough available balance to reserve the amount. -/
def assertSufficientAvailable (view : BalanceView) (amount : Money) : Except Fault Unit :=
  if gte view.available amount then .ok () else .error .insufficientAvailableBalance

@[simp] theorem assertSufficientAvailable_ok {u : Unit} :
    assertSufficientAvailable view amount = .ok u ↔ amount.minor ≤ view.available.minor := by
  unfold assertSufficientAvailable gte
  split <;> simp_all

end Telga.Domain
