import Mathlib.Data.Int.Log
import Mathlib.Data.Rat.Floor
import Mathlib.Tactic.FieldSimp
import Mathlib.Tactic.Linarith
import Mathlib.Tactic.Positivity
import Mathlib.Tactic.Ring

namespace Telga.Library

/-- The integer nearest to a fraction, an even one when two are as near. -/
def nearestEven (q : ℚ) : ℤ :=
  if q - ⌊q⌋ < 1 / 2 then ⌊q⌋
  else if 1 / 2 < q - ⌊q⌋ then ⌊q⌋ + 1
  else if ⌊q⌋ % 2 = 0 then ⌊q⌋ else ⌊q⌋ + 1

/-- The distance between neighbouring doubles of the size of a number: 53 significant bits. -/
def ulp (q : ℚ) : ℚ :=
  2 ^ (Int.log 2 |q| - 52)

/-- A number rounded to double precision, its exponent unbounded. -/
def toDouble (q : ℚ) : ℚ :=
  if q = 0 then 0 else nearestEven (q / ulp q) * ulp q

/-- `Math.round`: the nearest integer, a half going up. -/
def mathRound (q : ℚ) : ℤ :=
  ⌊q + 1 / 2⌋

theorem nearestEven_near (q : ℚ) : |(nearestEven q : ℚ) - q| ≤ 1 / 2 := by
  have low := Int.floor_le q
  have high := Int.lt_floor_add_one q
  unfold nearestEven
  rw [abs_le]
  split
  · constructor <;> linarith
  · split
    · push_cast
      constructor <;> linarith
    · split <;> push_cast <;> constructor <;> linarith

@[simp] theorem nearestEven_int (n : ℤ) : nearestEven n = n := by
  simp [nearestEven]

theorem ulp_pos (q : ℚ) : 0 < ulp q := by
  exact zpow_pos (by norm_num) _

/-- A number has at least 52 units in its last place. -/
theorem ulp_le {q : ℚ} (nonzero : q ≠ 0) : ulp q ≤ |q| / 2 ^ 52 := by
  have size := Int.zpow_log_le_self (b := 2) (by decide) (abs_pos.mpr nonzero)
  unfold ulp
  rw [zpow_sub₀ (by norm_num), le_div_iff₀ (by positivity)]
  push_cast at size
  simpa using size

theorem toDouble_near (q : ℚ) : |toDouble q - q| ≤ ulp q / 2 := by
  unfold toDouble
  split
  · rename_i zero
    simpa [zero] using (half_pos (ulp_pos 0)).le
  · have unit := ulp_pos q
    have near := nearestEven_near (q / ulp q)
    calc |(nearestEven (q / ulp q) : ℚ) * ulp q - q|
        = |(nearestEven (q / ulp q) : ℚ) - q / ulp q| * ulp q := by
          rw [← abs_of_pos unit, ← abs_mul, abs_of_pos unit, sub_mul,
            div_mul_cancel₀ q unit.ne']
      _ ≤ 1 / 2 * ulp q := by gcongr
      _ = ulp q / 2 := by ring

/-- A whole number of units in the last place is a double. -/
theorem toDouble_units {q : ℚ} {n : ℤ} (units : q = n * ulp q) : toDouble q = q := by
  unfold toDouble
  split
  · rename_i zero
    exact zero.symm
  · have whole : q / ulp q = n := by
      rw [div_eq_iff (ulp_pos q).ne']
      exact units
    rw [whole, nearestEven_int]
    exact units.symm

/-- An integer of up to 53 bits is a double. -/
theorem toDouble_int {n : ℤ} (nonneg : 0 ≤ n) (exact : n < 2 ^ 53) : toDouble n = n := by
  rcases nonneg.eq_or_lt with rfl | some
  · simp [toDouble]
  · have more : (0 : ℚ) < n := by exact_mod_cast some
    have size := Int.zpow_log_le_self (b := 2) (R := ℚ) (by decide) more
    have fits : Int.log 2 |(n : ℚ)| ≤ 52 := by
      rw [abs_of_pos more]
      by_contra large
      have reached : (2 : ℚ) ^ (53 : ℤ) ≤ 2 ^ Int.log 2 (n : ℚ) :=
        zpow_le_zpow_right₀ (by norm_num) (by omega)
      push_cast at size
      have atLeast : ((2 ^ 53 : ℤ) : ℚ) ≤ n := by
        push_cast
        exact reached.trans size
      exact absurd exact (not_lt.mpr (by exact_mod_cast atLeast))
    obtain ⟨k, same⟩ := Int.eq_ofNat_of_zero_le (show 0 ≤ 52 - Int.log 2 |(n : ℚ)| by omega)
    refine toDouble_units (n := n * 2 ^ k) ?_
    have exponent : Int.log 2 |(n : ℚ)| - 52 = -(k : ℤ) := by omega
    rw [ulp, exponent, zpow_neg, zpow_natCast]
    push_cast
    field_simp

/-- Rounding to a double first leaves an integer's neighbourhood only from less than half a unit in
the last place off a half. -/
theorem mathRound_toDouble {q : ℚ}
    (far : ∀ m : ℤ, toDouble q = q ∨ ulp q / 2 < |q - (m + 1 / 2)|) :
    mathRound (toDouble q) = mathRound q := by
  unfold mathRound
  have low := Int.floor_le (q + 1 / 2)
  have high := Int.lt_floor_add_one (q + 1 / 2)
  have near := abs_le.mp (toDouble_near q)
  rw [Int.floor_eq_iff]
  generalize ⌊q + 1 / 2⌋ = m at low high
  constructor
  · rcases far (m - 1) with same | apart
    · rw [same]
      exact low
    · push_cast at apart
      rw [abs_of_nonneg (by linarith)] at apart
      linarith
  · rcases far m with same | apart
    · rw [same]
      exact high
    · rw [abs_of_neg (by linarith)] at apart
      linarith

/-- A power of two below another is at most half of it. -/
theorem half_units {q : ℚ} (small : ulp q < 1) : ∃ n : ℤ, (1 / 2 : ℚ) = n * ulp q := by
  have negative : Int.log 2 |q| - 52 ≤ -1 := by
    by_contra large
    have : (1 : ℚ) ≤ 2 ^ (Int.log 2 |q| - 52) := one_le_zpow₀ (by norm_num) (by omega)
    exact absurd small (not_lt.mpr this)
  obtain ⟨k, same⟩ := Int.eq_ofNat_of_zero_le (show 0 ≤ -1 - (Int.log 2 |q| - 52) by omega)
  refine ⟨2 ^ k, ?_⟩
  have exponent : Int.log 2 |q| - 52 = -1 - (k : ℤ) := by omega
  rw [ulp, exponent, zpow_sub₀ (by norm_num), zpow_natCast]
  push_cast
  field_simp

/-- What is a whole number of halves is a double when the units of its last place are less than
one. -/
theorem toDouble_halves {q : ℚ} {n : ℤ} (halves : q = n * (1 / 2)) (small : ulp q < 1) :
    toDouble q = q := by
  obtain ⟨k, half⟩ := half_units small
  refine toDouble_units (n := n * k) ?_
  push_cast
  rw [mul_assoc, ← half]
  exact halves

/-- A quotient that is formed in double precision rounds as the exact one does, when the dividend
is a double's significand and the divisor is even. -/
theorem mathRound_quotient {a d : ℤ} (nonneg : 0 ≤ a) (exact : a < 2 ^ 53) (even : d % 2 = 0)
    (positive : 2 ≤ d) :
    mathRound (toDouble (a / d)) = (2 * a + d) / (2 * d) := by
  have above : (0 : ℚ) < d := by exact_mod_cast (by omega : 0 < d)
  have rounds : mathRound (toDouble (a / d)) = mathRound (a / d) := by
    rcases nonneg.eq_or_lt with rfl | some
    · simp [toDouble]
    · have more : (0 : ℚ) < a := by exact_mod_cast some
      have fits : (a : ℚ) < 2 ^ 53 := by exact_mod_cast exact
      have fine : ulp (a / d) < 2 / d := by
        have steps := ulp_le (q := a / d) (div_pos more above).ne'
        rw [abs_of_pos (div_pos more above)] at steps
        refine steps.trans_lt ?_
        rw [div_div, div_lt_div_iff₀ (by positivity) above]
        nlinarith
      have small : ulp (a / d) < 1 := by
        refine fine.trans_le ?_
        rw [div_le_one above]
        exact_mod_cast positive
      refine mathRound_toDouble fun m => ?_
      obtain ⟨h, rfl⟩ : ∃ h, d = 2 * h := ⟨d / 2, by omega⟩
      push_cast at above fine small ⊢
      have nonzero : (h : ℚ) ≠ 0 := by
        rintro zero
        rw [zero, mul_zero] at above
        exact above.false
      by_cases halfway : a = 2 * h * m + h
      · refine .inl (toDouble_halves (n := 2 * m + 1) ?_ small)
        rw [halfway]
        push_cast
        field_simp
      · refine .inr ?_
        have off : (1 : ℚ) ≤ |(a : ℚ) - (2 * h * m + h)| := by
          exact_mod_cast Int.one_le_abs (sub_ne_zero.mpr halfway)
        have gap : (a : ℚ) / (2 * h) - (m + 1 / 2) = (a - (2 * h * m + h)) / (2 * h) := by
          field_simp
        rw [gap, abs_div, abs_of_pos above, lt_div_iff₀ above]
        rw [lt_div_iff₀ above] at fine
        linarith
  rw [rounds]
  unfold mathRound
  have low := Int.ediv_mul_le (2 * a + d) (show 2 * d ≠ 0 by omega)
  have high := Int.lt_ediv_add_one_mul_self (2 * a + d) (show 0 < 2 * d by omega)
  generalize (2 * a + d) / (2 * d) = k at low high
  have low : (k : ℚ) * (2 * d) ≤ 2 * a + d := by exact_mod_cast low
  have high : (2 : ℚ) * a + d < (k + 1) * (2 * d) := by exact_mod_cast high
  have sum : (a : ℚ) / d + 1 / 2 = (2 * a + d) / (2 * d) := by
    field_simp
  rw [Int.floor_eq_iff, sum]
  constructor
  · rw [le_div_iff₀ (by positivity)]
    exact low
  · rw [div_lt_iff₀ (by positivity)]
    exact high

end Telga.Library
