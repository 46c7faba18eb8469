import Telga.Domain.Errors

namespace Telga.Domain

def maxSafeInteger : Nat := 9007199254740991

/-- Whole santim the runtime counts exactly. -/
def SafeInteger (minor : Int) : Prop :=
  minor.natAbs ≤ maxSafeInteger

instance (minor : Int) : Decidable (SafeInteger minor) :=
  inferInstanceAs (Decidable (_ ≤ _))

/-- An amount in minor units, always a safe integer. May be negative for a signed sum. -/
@[ext] structure Money where
  minor : Int
  safe : SafeInteger minor
deriving DecidableEq

/-- Construct Money from whole minor units (santim). -/
def money (minor : Int) : Except Fault Money :=
  if safe : SafeInteger minor then .ok ⟨minor, safe⟩ else .error .invalidMoney

@[simp] theorem money_ok : money minor = .ok amount ↔ amount.minor = minor := by
  unfold money
  split
  · rename_i safe
    constructor
    · intro h
      cases h
      rfl
    · intro h
      exact congrArg _ (Money.ext h.symm)
  · rename_i ended
    constructor
    · intro h
      cases h
    · intro h
      exact absurd (h ▸ amount.safe) ended

theorem money_of_safe (safe : SafeInteger minor) : money minor = .ok ⟨minor, safe⟩ := by
  simp [money, safe]

theorem money_refused (ended : ¬ SafeInteger minor) : money minor = .error .invalidMoney := by
  simp [money, ended]

theorem safe_zero : SafeInteger 0 := by decide

theorem safe_ten : SafeInteger 10 := by decide

theorem safe_hundred : SafeInteger 100 := by decide

theorem safe_thousand : SafeInteger 1000 := by decide

theorem safe_tenThousand : SafeInteger 10000 := by decide

theorem safe_monthlyFee : SafeInteger 125000 := by decide

def subtract (a b : Money) : Except Fault Money :=
  money (a.minor - b.minor)

def isPositive (a : Money) : Bool :=
  decide (0 < a.minor)

def gte (a b : Money) : Bool :=
  decide (b.minor ≤ a.minor)

/-- Throw unless the amount is strictly positive. -/
def assertPositive (a : Money) : Except Fault Unit :=
  if isPositive a then .ok () else .error .negativeAmount

@[simp] theorem assertPositive_ok {u : Unit} : assertPositive a = .ok u ↔ 0 < a.minor := by
  unfold assertPositive isPositive
  split <;> simp_all

end Telga.Domain
