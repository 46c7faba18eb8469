import Telga.Domain.Errors
import Telga.Library.Attempt
import Telga.Library.Doubles

namespace Telga.Domain
open Library

/-- Basis points in one whole. -/
def bpsPerWhole : Int := 10000

structure CommissionSplit where
  providerCommissionMinor : Int
  shopShareMinor : Int
  telgaShareMinor : Int
  providerCommissionBps : Int
  shopShareBps : Int
deriving DecidableEq, Repr

def ValidBps (bps : Int) : Prop :=
  0 ≤ bps ∧ bps ≤ bpsPerWhole

instance (bps : Int) : Decidable (ValidBps bps) :=
  inferInstanceAs (Decidable (_ ∧ _))

/-- A rate within the policy's bounds. -/
structure Bps where
  value : Int
  valid : ValidBps value
deriving DecidableEq

def assertBps (bps : Int) : Except Fault Unit :=
  demand (ValidBps bps) .invalidProfitRate

/-- `Math.round` of a fraction of a whole: the nearest integer, a half going up. -/
def roundShare (amount bps : Int) : Int :=
  (2 * (amount * bps) + bpsPerWhole) / (2 * bpsPerWhole)

/-- The shop is rounded first and Telga takes the remainder. -/
def splitCommission (transactionAmountMinor providerCommissionBps shopShareBps : Int) :
    Except Fault CommissionSplit := do
  assertBps providerCommissionBps
  assertBps shopShareBps
  if transactionAmountMinor ≤ 0 then
    return { providerCommissionMinor := 0, shopShareMinor := 0, telgaShareMinor := 0,
             providerCommissionBps, shopShareBps }
  else
    let providerCommissionMinor := roundShare transactionAmountMinor providerCommissionBps
    let shopShareMinor := roundShare providerCommissionMinor shopShareBps
    return { providerCommissionMinor, shopShareMinor,
             telgaShareMinor := providerCommissionMinor - shopShareMinor,
             providerCommissionBps, shopShareBps }

/-- The same fraction of a whole as the runtime forms it, every operation on doubles. -/
def roundShareNumber (amount bps : Int) : Int :=
  mathRound (toDouble (toDouble ((amount * bps : Int) : ℚ) / (bpsPerWhole : ℚ)))

/-- The split as the runtime computes it. -/
def splitCommissionNumber (transactionAmountMinor providerCommissionBps shopShareBps : Int) :
    Except Fault CommissionSplit := do
  assertBps providerCommissionBps
  assertBps shopShareBps
  if transactionAmountMinor ≤ 0 then
    return { providerCommissionMinor := 0, shopShareMinor := 0, telgaShareMinor := 0,
             providerCommissionBps, shopShareBps }
  else
    let providerCommissionMinor := roundShareNumber transactionAmountMinor providerCommissionBps
    let shopShareMinor := roundShareNumber providerCommissionMinor shopShareBps
    return { providerCommissionMinor, shopShareMinor,
             telgaShareMinor := providerCommissionMinor - shopShareMinor,
             providerCommissionBps, shopShareBps }

/-- Products that a double holds exactly are rounded exactly. -/
theorem roundShareNumber_eq (nonneg : 0 ≤ amount * bps) (exact : amount * bps < 2 ^ 53) :
    roundShareNumber amount bps = roundShare amount bps := by
  have held : toDouble ((amount * bps : Int) : ℚ) = ((amount * bps : Int) : ℚ) :=
    toDouble_int nonneg exact
  have rounded := mathRound_quotient nonneg exact (show bpsPerWhole % 2 = 0 by decide) (by decide)
  unfold roundShareNumber roundShare
  rw [held]
  exact rounded

theorem roundShare_bounds (hb : ValidBps bps) (ha : 0 ≤ amount) :
    0 ≤ roundShare amount bps ∧ roundShare amount bps ≤ amount := by
  obtain ⟨low, high⟩ := hb
  simp only [bpsPerWhole] at high
  have lower : 0 ≤ amount * bps := Int.mul_nonneg ha low
  have upper : amount * bps ≤ amount * 10000 := Int.mul_le_mul_of_nonneg_left high ha
  unfold roundShare bpsPerWhole
  constructor <;> omega

/-- A split that was made is made at the given rates, its shares add up, and no share is
negative or larger than the amount. -/
theorem splitCommission_ok (h : splitCommission amount providerBps shopBps = .ok split) :
    split.providerCommissionBps = providerBps ∧ split.shopShareBps = shopBps ∧
    split.shopShareMinor + split.telgaShareMinor = split.providerCommissionMinor ∧
    0 ≤ split.shopShareMinor ∧ 0 ≤ split.telgaShareMinor ∧
    (0 ≤ amount → split.shopShareMinor ≤ amount) := by
  simp only [splitCommission, assertBps, bind_ok, demand_ok] at h
  obtain ⟨_, hp, _, hs, h⟩ := h
  split at h
  · simp only [pure_ok] at h
    subst h
    simp
  · simp only [pure_ok] at h
    subst h
    have outer := roundShare_bounds hp (show 0 ≤ amount by omega)
    have inner := roundShare_bounds hs outer.1
    refine ⟨rfl, rfl, ?_, inner.1, ?_, fun _ => ?_⟩ <;> simp only <;> omega

end Telga.Domain
