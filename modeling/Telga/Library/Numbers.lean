import Mathlib.Data.Rat.Floor
import Mathlib.Tactic.Linarith
import Mathlib.Tactic.Positivity

namespace Telga.Library

/-- A number of a language that computes with fractions, here exactly, with infinities, and with one
value that is no number. -/
inductive Number
  | nan
  | negInfinity
  | finite (value : ℚ)
  | infinity
deriving DecidableEq

namespace Number

@[simp] def less : Number → Number → Bool
  | .finite a, .finite b => a < b
  | .negInfinity, .finite _ | .negInfinity, .infinity | .finite _, .infinity => true
  | _, _ => false

@[simp] def atMost : Number → Number → Bool
  | .finite a, .finite b => a ≤ b
  | .negInfinity, .negInfinity | .infinity, .infinity => true
  | .negInfinity, .finite _ | .negInfinity, .infinity | .finite _, .infinity => true
  | _, _ => false

@[simp] def add : Number → Number → Number
  | .finite a, .finite b => .finite (a + b)
  | .finite _, .infinity | .infinity, .finite _ | .infinity, .infinity => .infinity
  | .finite _, .negInfinity | .negInfinity, .finite _ | .negInfinity, .negInfinity => .negInfinity
  | _, _ => .nan

/-- An infinity times a number of a sign; zero times an infinity is no number. -/
def signed (a : ℚ) (positive negative : Number) : Number :=
  if 0 < a then positive else if a < 0 then negative else .nan

@[simp] def mul : Number → Number → Number
  | .finite a, .finite b => .finite (a * b)
  | .finite a, .infinity | .infinity, .finite a => signed a .infinity .negInfinity
  | .finite a, .negInfinity | .negInfinity, .finite a => signed a .negInfinity .infinity
  | .infinity, .infinity | .negInfinity, .negInfinity => .infinity
  | .infinity, .negInfinity | .negInfinity, .infinity => .negInfinity
  | _, _ => .nan

/-- A power with a whole exponent; what is no number has the zeroth power 1 as well. -/
@[simp] def pow : Number → ℕ → Number
  | _, 0 => .finite 1
  | .nan, _ + 1 => .nan
  | .finite a, n + 1 => .finite (a ^ (n + 1))
  | .infinity, _ + 1 => .infinity
  | .negInfinity, n + 1 => if n % 2 = 0 then .negInfinity else .infinity

@[simp] def smaller : Number → Number → Number
  | .nan, _ | _, .nan => .nan
  | a, b => if less b a then b else a

@[simp] def larger : Number → Number → Number
  | .nan, _ | _, .nan => .nan
  | a, b => if less a b then b else a

def floor : Number → Number
  | .finite a => .finite ⌊a⌋
  | a => a

variable {a b c : Number} {n j : ℚ}

theorem atMost_trans (first : atMost a b = true) (second : atMost b c = true) :
    atMost a c = true := by
  cases a <;> cases b <;> cases c <;> simp_all [atMost]
  linarith

/-- Everything that is a number is comparable with itself. -/
theorem atMost_refl (number : a ≠ .nan) : atMost a a = true := by
  cases a <;> simp_all [atMost]

theorem atMost_of_not_less (number : a ≠ .nan) (number' : b ≠ .nan) (not : less b a = false) :
    atMost a b = true := by
  cases a <;> cases b <;> simp_all [atMost, less]

theorem atMost_add_right (below : atMost a b = true) (nonneg : 0 ≤ n) :
    atMost a (add b (.finite n)) = true := by
  cases a <;> cases b <;> simp_all [atMost, add]
  linarith

theorem add_atMost_add (below : atMost a b = true) (fewer : n ≤ j) :
    atMost (add a (.finite n)) (add b (.finite j)) = true := by
  cases a <;> cases b <;> simp_all [atMost, add]
  linarith

theorem number_of_atMost (below : atMost a b = true) : a ≠ .nan ∧ b ≠ .nan := by
  cases a <;> cases b <;> simp_all [atMost]

theorem smaller_cases (number : a ≠ .nan) (number' : b ≠ .nan) :
    smaller a b = a ∧ atMost a b = true ∨ smaller a b = b ∧ atMost b a = true := by
  cases a <;> cases b <;> simp_all [smaller, less, atMost]
  rename_i x y
  by_cases before : y < x
  · exact .inr ⟨fun not => absurd before (not_lt.mpr not), before.le⟩
  · exact .inl ⟨fun now => absurd now before, not_lt.mp before⟩

theorem smaller_of_not_less (number : a ≠ .nan) (number' : b ≠ .nan) (not : less b a = false) :
    smaller a b = a := by
  cases a <;> cases b <;> simp_all [smaller, less]

theorem smaller_atMost_right (number : a ≠ .nan) (number' : b ≠ .nan) :
    atMost (smaller a b) b = true := by
  rcases smaller_cases number number' with ⟨same, below⟩ | ⟨same, _⟩
  · rw [same]
    exact below
  · rw [same]
    exact atMost_refl number'

theorem smaller_atMost_left (number : a ≠ .nan) (number' : b ≠ .nan) :
    atMost (smaller a b) a = true := by
  rcases smaller_cases number number' with ⟨same, _⟩ | ⟨same, below⟩
  · rw [same]
    exact atMost_refl number
  · rw [same]
    exact below

theorem atMost_smaller (first : atMost c a = true) (second : atMost c b = true) :
    atMost c (smaller a b) = true := by
  rcases smaller_cases (number_of_atMost first).2 (number_of_atMost second).2 with
    ⟨same, _⟩ | ⟨same, _⟩
  · rw [same]
    exact first
  · rw [same]
    exact second

theorem atMost_larger (number : a ≠ .nan) (number' : b ≠ .nan) :
    atMost a (larger a b) = true ∧ atMost b (larger a b) = true := by
  cases a <;> cases b <;> simp_all [larger, less, atMost]
  rename_i x y
  by_cases before : x < y
  · rw [if_pos before]
    simp [before.le]
  · rw [if_neg before]
    simpa using before

/-- A positive number is a fraction or infinite. -/
theorem positive_cases (positive : less (.finite 0) a = true) :
    a = .infinity ∨ ∃ q, 0 < q ∧ a = .finite q := by
  cases a with
  | nan => cases positive
  | negInfinity => cases positive
  | infinity => exact .inl rfl
  | finite q => exact .inr ⟨q, of_decide_eq_true positive, rfl⟩

theorem mul_pow_zero (positive : less (.finite 0) a = true) : mul a (pow b 0) = a := by
  rcases positive_cases positive with rfl | ⟨q, _, rfl⟩
  · rfl
  · simp [mul, pow]

theorem add_zero : add a (.finite 0) = a := by
  cases a <;> simp [add]

theorem add_nan : add a .nan = .nan := by
  cases a <;> rfl

theorem less_add (b : ℚ) (positive : less (.finite 0) a = true) :
    less (.finite b) (add (.finite b) a) = true := by
  rcases positive_cases positive with rfl | ⟨q, above, rfl⟩
  · rfl
  · simpa [less, add] using above

/-- Growth by a factor of at least 1 never falls, and never below where it began. -/
theorem atMost_mul_pow (positive : less (.finite 0) a = true)
    (growing : b = .infinity ∨ ∃ q, 1 ≤ q ∧ b = .finite q) (k : ℕ) :
    atMost a (mul a (pow b k)) = true ∧
      atMost (mul a (pow b k)) (mul a (pow b (k + 1))) = true := by
  rcases positive_cases positive with rfl | ⟨q, above, rfl⟩
  · rcases growing with rfl | ⟨m, least, rfl⟩
    · cases k <;> simp [pow, mul, signed, atMost]
    · have sign : (0 : ℚ) < m := by linarith
      cases k with
      | zero => simp [pow, mul, signed, atMost, sign]
      | succ k => simp [pow, mul, signed, atMost, pow_pos sign]
  · rcases growing with rfl | ⟨m, least, rfl⟩
    · cases k <;> simp [pow, mul, signed, atMost, above]
    · have grown : (1 : ℚ) ≤ m ^ k := one_le_pow₀ least
      have more : m ^ k ≤ m ^ (k + 1) := pow_le_pow_right₀ least (Nat.le_succ k)
      have power : pow (.finite m) k = .finite (m ^ k) := by
        cases k <;> simp [pow]
      rw [power]
      simp only [pow, mul, atMost, decide_eq_true_eq]
      constructor
      · nlinarith
      · exact mul_le_mul_of_nonneg_left more above.le

end Number

end Telga.Library
