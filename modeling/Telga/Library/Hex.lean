namespace Telga.Library

def hexDigit (digit : Char) : Nat :=
  if digit.isDigit then digit.toNat - 48 else digit.toNat - 87

/-- The number some hexadecimal digits stand for. -/
def hexValue (digits : List Char) : Nat :=
  digits.foldl (fun value digit => 16 * value + hexDigit digit) 0

theorem hexValue_snoc (digits : List Char) (digit : Char) :
    hexValue (digits ++ [digit]) = 16 * hexValue digits + hexDigit digit := by
  simp [hexValue, List.foldl_append]

theorem hexDigit_digitChar : ∀ d < 16, hexDigit (Nat.digitChar d) = d := by
  decide

/-- The digits of a number stand for it. -/
theorem hexValue_toDigits (n : Nat) : hexValue (Nat.toDigits 16 n) = n := by
  induction n using Nat.strongRecOn with
  | ind n ih =>
    rcases Nat.lt_or_ge n 16 with small | large
    · rw [Nat.toDigits_of_lt_base small]
      simp [hexValue, hexDigit_digitChar n small]
    · have digit : n % 16 < 16 := Nat.mod_lt n (by omega)
      rw [Nat.toDigits_of_base_le (by omega) large, hexValue_snoc, ih (n / 16) (by omega),
        hexDigit_digitChar _ digit]
      omega

/-- Zeros written before the digits do not matter. -/
theorem hexValue_padded (zeros n : Nat) :
    hexValue (List.replicate zeros '0' ++ Nat.toDigits 16 n) = n := by
  have zero : (List.replicate zeros '0').foldl (fun value digit => 16 * value + hexDigit digit) 0
      = 0 := by
    induction zeros with
    | zero => rfl
    | succ zeros ih =>
      rw [List.replicate_succ, List.foldl_cons]
      exact ih
  unfold hexValue
  rw [List.foldl_append, zero]
  exact hexValue_toDigits n

end Telga.Library
