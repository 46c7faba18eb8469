import Mathlib.Data.Nat.Digits.Defs
import Mathlib.Data.Nat.Digits.Lemmas

namespace Telga.Library

/-- The number some digits stand for, the highest first. -/
def numeral (base : Nat) (digits : List Nat) : Nat :=
  Nat.ofDigits base digits.reverse

theorem numeral_snoc (base : Nat) (digits : List Nat) (digit : Nat) :
    numeral base (digits ++ [digit]) = numeral base digits * base + digit := by
  rw [numeral, List.reverse_append, List.reverse_singleton, List.singleton_append,
    Nat.ofDigits_cons, numeral, Nat.mul_comm, Nat.add_comm]

/-- As many digits that stand for the same number are the same. -/
theorem numeral_inj {base : Nat} {digits digits' : List Nat} (base_gt : 1 < base)
    (length : digits.length = digits'.length) (small : ∀ digit ∈ digits, digit < base)
    (small' : ∀ digit ∈ digits', digit < base)
    (same : numeral base digits = numeral base digits') : digits = digits' := by
  apply List.reverse_injective
  refine Nat.ofDigits_inj_of_len_eq base_gt ?_ ?_ ?_ same
  · rw [List.length_reverse, List.length_reverse, length]
  · intro digit mem
    exact small digit (List.mem_reverse.mp mem)
  · intro digit mem
    exact small' digit (List.mem_reverse.mp mem)

/-- What was read is what was written and, below it, the low bits of an accumulator. What the
accumulator holds above them does not matter. -/
def Carries (read written bits : Nat) (value : BitVec w) : Prop :=
  read = written * 2 ^ bits + value.toNat % 2 ^ bits

theorem carries_nothing (value : BitVec w) : Carries 0 0 0 value := by
  simp [Carries, Nat.mod_one]

/-- What shifting in a digit makes of the low bits, as long as they fit. -/
theorem low_pushed {value : BitVec w} {bits k digit : Nat} (small : digit < 2 ^ k)
    (fits : bits + k ≤ w) :
    (value <<< k ||| BitVec.ofNat w digit).toNat % 2 ^ (bits + k) =
      value.toNat % 2 ^ bits * 2 ^ k + digit := by
  have within : 2 ^ (bits + k) ∣ 2 ^ w := Nat.pow_dvd_pow 2 fits
  have digit_fits : digit < 2 ^ w :=
    Nat.lt_of_lt_of_le small (Nat.pow_le_pow_right (by omega) (by omega))
  have shifted : (value <<< k ||| BitVec.ofNat w digit).toNat =
      (value.toNat * 2 ^ k) % 2 ^ w ||| digit := by
    rw [BitVec.toNat_or, BitVec.toNat_shiftLeft, BitVec.toNat_ofNat, Nat.shiftLeft_eq,
      Nat.mod_eq_of_lt digit_fits]
  have low : digit % 2 ^ (bits + k) = digit :=
    Nat.mod_eq_of_lt (Nat.lt_of_lt_of_le small (Nat.pow_le_pow_right (by omega) (by omega)))
  rw [shifted, Nat.or_mod_two_pow, Nat.mod_mod_of_dvd _ within, low, Nat.pow_add,
    Nat.mul_mod_mul_right, Nat.mul_comm, Nat.two_pow_add_eq_or_of_lt small]

/-- Shifting in a digit reads it. -/
theorem Carries.push {value : BitVec w} {read written bits k digit : Nat}
    (carries : Carries read written bits value) (small : digit < 2 ^ k) (fits : bits + k ≤ w) :
    Carries (read * 2 ^ k + digit) written (bits + k)
      (value <<< k ||| BitVec.ofNat w digit) := by
  rw [Carries, low_pushed small fits, carries, Nat.pow_add, Nat.add_mul, Nat.mul_assoc,
    Nat.add_assoc]

/-- The digit that stands above the low bits. -/
def digitAbove (value : BitVec w) (bits k : Nat) : Nat :=
  (value >>> bits &&& BitVec.ofNat w (2 ^ k - 1)).toNat

theorem digitAbove_eq {value : BitVec w} {bits k : Nat} (fits : k ≤ w) :
    digitAbove value bits k = value.toNat % 2 ^ (bits + k) / 2 ^ bits := by
  have mask : (2 ^ k - 1) % 2 ^ w = 2 ^ k - 1 := by
    apply Nat.mod_eq_of_lt
    have := Nat.pow_le_pow_right (n := 2) (by omega) fits
    have := Nat.two_pow_pos k
    omega
  rw [digitAbove, BitVec.toNat_and, BitVec.toNat_ushiftRight, BitVec.toNat_ofNat, mask,
    Nat.and_two_pow_sub_one_eq_mod, Nat.shiftRight_eq_div_pow, Nat.pow_add,
    Nat.mod_mul_right_div_self]

theorem digitAbove_lt {value : BitVec w} {bits k : Nat} (fits : k ≤ w) :
    digitAbove value bits k < 2 ^ k := by
  rw [digitAbove_eq fits]
  apply Nat.div_lt_of_lt_mul
  rw [← Nat.pow_add]
  exact Nat.mod_lt _ (Nat.two_pow_pos _)

/-- Writing the digit above the low bits leaves those to be written. -/
theorem Carries.pop {value : BitVec w} {read written bits k : Nat}
    (carries : Carries read written (bits + k) value) (fits : k ≤ w) :
    Carries read (written * 2 ^ k + digitAbove value bits k) bits value := by
  have parts := Nat.div_add_mod (value.toNat % 2 ^ (bits + k)) (2 ^ bits)
  rw [Nat.mod_mod_of_dvd _ (Nat.pow_dvd_pow 2 (Nat.le_add_right bits k)),
    ← digitAbove_eq fits] at parts
  rw [Carries, carries, ← parts, Nat.pow_add, Nat.add_mul, Nat.mul_assoc,
    Nat.mul_comm (2 ^ k), Nat.mul_comm (digitAbove value bits k), Nat.add_assoc]

end Telga.Library
