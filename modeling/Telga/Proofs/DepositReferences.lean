import Mathlib.Data.List.Basic
import Telga.Domain.DepositReferences
import Telga.Library.CheckSums

namespace Telga.Proofs.DepositReferences
open Domain Library

/-- The place of a character in the alphabet, or one past its end. -/
def valueOf (c : Char) : Nat :=
  depositReferenceAlphabet.idxOf c

/-- What doubling a value folds it to. -/
def doubled (value : Nat) : Nat :=
  luhnAddend 2 value

/-- Every character is of the alphabet. -/
def Spelled (chars : List Char) : Prop :=
  ∀ c ∈ chars, c ∈ depositReferenceAlphabet

/-- The check of a reference's sum: there is one, and it is a multiple of the alphabet's size. -/
def Passes (code : List Char) : Prop :=
  ∃ sum, luhnSum (String.ofList code) 1 = some sum ∧ sum % alphabetSize = 0

theorem valueOf_lt (mem : c ∈ depositReferenceAlphabet) : valueOf c < alphabetSize :=
  List.idxOf_lt_length_of_mem mem

theorem valueOf_inj (mem : c ∈ depositReferenceAlphabet) (same : valueOf c = valueOf c') :
    c = c' :=
  (List.idxOf_inj mem).mp same

theorem luhnAddend_one (small : value < alphabetSize) : luhnAddend 1 value = value := by
  rw [luhnAddend, Nat.one_mul, Nat.div_eq_of_lt small, Nat.mod_eq_of_lt small, Nat.zero_add]

/-- The first half of the values is doubled to the even ones, the second to the odd ones. -/
theorem doubled_eq (small : value < alphabetSize) :
    doubled value = if value < 16 then 2 * value else 2 * value - 31 := by
  have size : alphabetSize = 32 := rfl
  simp only [doubled, luhnAddend, size] at small ⊢
  split <;> omega

/-- Doubling, folded back in, permutes the values. -/
theorem doubled_distinguishes : Distinguishes doubled alphabetSize := by
  intro a small b small' same
  have size : alphabetSize = 32 := rfl
  rw [doubled_eq small, doubled_eq small', size, Nat.ModEq] at same
  rw [size] at small small'
  split at same <;> split at same <;> omega

/-- Two values count alike in either order only if they are the same, or the first and the last. -/
theorem exchanged_values (small : a < alphabetSize) (small' : b < alphabetSize) :
    doubled a + b ≡ doubled b + a [MOD alphabetSize] ↔
      a = b ∨ a = 0 ∧ b = 31 ∨ a = 31 ∧ b = 0 := by
  have size : alphabetSize = 32 := rfl
  rw [doubled_eq small, doubled_eq small', size, Nat.ModEq]
  rw [size] at small small'
  split <;> split <;> omega

theorem looked_up (c : Char) : depositReferenceAlphabet.idxOf? c =
    if c ∈ depositReferenceAlphabet then some (valueOf c) else none := by
  split
  · rename_i mem
    apply List.idxOf?_eq_some_iff.mpr
    refine ⟨valueOf_lt mem, List.getElem_idxOf (valueOf_lt mem), ?_⟩
    intro j before
    simpa using List.not_of_lt_findIdx before
  · rename_i absent
    exact List.idxOf?_eq_none_iff.mpr absent

/-- The loop adds up the alternating weights, if every character is of the alphabet. -/
theorem luhnLoop_eq (folded : Bool) (sum : Nat) (chars : List Char) :
    luhnLoop (if folded then 2 else 1) sum chars =
      if chars.all (· ∈ depositReferenceAlphabet) then
        some (sum + alternating doubled folded (chars.map valueOf))
      else none := by
  induction chars generalizing folded sum with
  | nil => simp [luhnLoop, alternating]
  | cons c rest ih =>
    rw [luhnLoop, looked_up]
    by_cases mem : c ∈ depositReferenceAlphabet
    · have turned : (if (if folded then 2 else 1) = 2 then 1 else 2) =
          if !folded then 2 else 1 := by
        cases folded <;> rfl
      have addend : luhnAddend (if folded then 2 else 1) (valueOf c) =
          weight doubled folded (valueOf c) := by
        cases folded with
        | true => rfl
        | false => exact luhnAddend_one (valueOf_lt mem)
      simp only [if_pos mem, turned, addend]
      rw [ih]
      simp only [List.all_cons, mem, decide_true, Bool.true_and, List.map_cons, alternating,
        Nat.add_assoc]
    · simp [mem]

/-- A code passes when it is spelled in the alphabet and its weights, from its end, add up to a
multiple of the alphabet's size. -/
theorem passes_iff : Passes code ↔ Spelled code ∧
    alternating doubled false (code.reverse.map valueOf) ≡ 0 [MOD alphabetSize] := by
  have loop := luhnLoop_eq false 0 code.reverse
  simp only [Bool.false_eq_true, if_false, Nat.zero_add, List.all_reverse, List.all_eq_true,
    decide_eq_true_eq] at loop
  simp only [Passes, luhnSum, String.toList_ofList, loop]
  constructor
  · rintro ⟨sum, made, multiple⟩
    split at made
    · rename_i spelled
      cases made
      exact ⟨spelled, multiple⟩
    · cases made
  · rintro ⟨spelled, multiple⟩
    exact ⟨_, if_pos spelled, multiple⟩

/-- A reference is usable when, normalized, it has its length and passes the check. -/
theorem depositReferenceRejection_none :
    depositReferenceRejection toUpperCase input = none ↔
      textLength (normalizeDepositReference toUpperCase input) = depositReferenceLength ∧
        Passes (normalizeDepositReference toUpperCase input).toList := by
  unfold depositReferenceRejection Passes
  rw [String.ofList_toList]
  generalize normalizeDepositReference toUpperCase input = code
  have long : depositReferenceLength ≠ 0 := by decide
  simp only []
  constructor
  · intro usable
    split at usable
    · cases usable
    split at usable
    · cases usable
    · rename_i length
      cases made : luhnSum code 1 with
      | none => simp [made] at usable
      | some sum => exact ⟨not_not.mp length, sum, rfl, by simpa [made] using usable⟩
  · rintro ⟨length, sum, made, multiple⟩
    simp [length, long, made, multiple]

/-- The code made by appending the check character passes the check. -/
theorem appended_passes (spelled : Spelled data) :
    ∃ check, depositReferenceCheckCharacter (String.ofList data) = some check ∧
      Passes (data ++ [check]) := by
  have loop := luhnLoop_eq true 0 data.reverse
  simp only [if_true, Nat.zero_add, List.all_reverse, List.all_eq_true, decide_eq_true_eq] at loop
  rw [if_pos (show ∀ c ∈ data, c ∈ depositReferenceAlphabet from spelled)] at loop
  generalize counted : alternating doubled true (data.reverse.map valueOf) = sum at loop
  have within : (alphabetSize - sum % alphabetSize) % alphabetSize <
      depositReferenceAlphabet.length := Nat.mod_lt _ (by decide)
  refine ⟨depositReferenceAlphabet[(alphabetSize - sum % alphabetSize) % alphabetSize], ?_, ?_⟩
  · simp only [depositReferenceCheckCharacter, luhnSum, String.toList_ofList, loop]
    exact List.getElem?_eq_getElem within
  · have own : valueOf
        depositReferenceAlphabet[(alphabetSize - sum % alphabetSize) % alphabetSize] =
          (alphabetSize - sum % alphabetSize) % alphabetSize :=
      (by decide : depositReferenceAlphabet.Nodup).idxOf_getElem _ within
    refine passes_iff.mpr ⟨?_, ?_⟩
    · intro c mem
      rcases List.mem_append.mp mem with mem | mem
      · exact spelled c mem
      · rw [List.mem_singleton.mp mem]
        exact List.getElem_mem within
    · rw [List.reverse_append, List.reverse_singleton, List.singleton_append, List.map_cons, own,
        alternating, Bool.not_false, counted]
      have size : alphabetSize = 32 := rfl
      simp only [weight, Bool.false_eq_true, if_false, size, Nat.ModEq]
      omega

/-- Another character in one place of a code that passes makes it fail. -/
theorem replaced_fails (passes : Passes (front ++ c :: back)) (other : c' ≠ c) :
    ¬ Passes (front ++ c' :: back) := by
  intro passes'
  obtain ⟨spelled, sum⟩ := passes_iff.mp passes
  obtain ⟨spelled', sum'⟩ := passes_iff.mp passes'
  have mem : c ∈ depositReferenceAlphabet := spelled c (by simp)
  have mem' : c' ∈ depositReferenceAlphabet := spelled' c' (by simp)
  have same := sum'.trans sum.symm
  simp only [List.reverse_append, List.reverse_cons, List.append_assoc, List.map_append,
    List.singleton_append, List.map_cons] at same
  have values := alternating_replaced doubled_distinguishes (valueOf_lt mem') (valueOf_lt mem) same
  exact other (valueOf_inj mem' values)

/-- The two neighbours whose exchange goes unnoticed: the first and the last of the alphabet. -/
def Unnoticed (a b : Char) : Prop :=
  a = 'A' ∧ b = '9' ∨ a = '9' ∧ b = 'A'

theorem valueOf_eq (mem : c ∈ depositReferenceAlphabet) : valueOf c = valueOf c' ↔ c = c' :=
  ⟨valueOf_inj mem, congrArg valueOf⟩

/-- Two neighbours count alike in either order only if they are the same, or the first and the last
of the alphabet. -/
theorem exchanged_characters (mem : a ∈ depositReferenceAlphabet)
    (mem' : b ∈ depositReferenceAlphabet) :
    doubled (valueOf a) + valueOf b ≡ doubled (valueOf b) + valueOf a [MOD alphabetSize] ↔
      a = b ∨ Unnoticed a b := by
  have first : valueOf 'A' = 0 := by decide
  have last : valueOf '9' = 31 := by decide
  have ends := exchanged_values (valueOf_lt mem) (valueOf_lt mem')
  rw [← first, ← last, valueOf_eq mem, valueOf_eq mem, valueOf_eq mem', valueOf_eq mem,
    valueOf_eq mem'] at ends
  exact ends

/-- Two different neighbours of a code that passes, exchanged, make it fail, unless they are the
first and the last of the alphabet. -/
theorem exchanged_passes (passes : Passes (front ++ a :: b :: back)) (other : a ≠ b) :
    Passes (front ++ b :: a :: back) ↔ Unnoticed a b := by
  obtain ⟨spelled, sum⟩ := passes_iff.mp passes
  have memA : a ∈ depositReferenceAlphabet := spelled a (by simp)
  have memB : b ∈ depositReferenceAlphabet := spelled b (by simp)
  have spelled' : Spelled (front ++ b :: a :: back) := by
    intro c mem
    apply spelled c
    simp only [List.mem_append, List.mem_cons] at mem ⊢
    rcases mem with mem | mem | mem | mem
    · exact .inl mem
    · exact .inr (.inr (.inl mem))
    · exact .inr (.inl mem)
    · exact .inr (.inr (.inr mem))
  have turned : ∀ c d : Char, (front ++ c :: d :: back).reverse.map valueOf =
      back.reverse.map valueOf ++ valueOf d :: valueOf c :: front.reverse.map valueOf := by
    intro c d
    simp
  rw [turned] at sum
  rw [passes_iff, and_iff_right spelled', turned]
  have alike : alternating doubled false (back.reverse.map valueOf ++
        valueOf a :: valueOf b :: front.reverse.map valueOf) ≡
      alternating doubled false (back.reverse.map valueOf ++
        valueOf b :: valueOf a :: front.reverse.map valueOf) [MOD alphabetSize] ↔ Unnoticed a b := by
    rw [alternating_exchanged, exchanged_characters memA memB]
    exact or_iff_right other
  rw [← alike]
  exact ⟨fun sum' => sum'.trans sum.symm, fun same => same.trans sum⟩

/-- What is kept of a reference when it is normalized. -/
def kept (c : Char) : Bool :=
  ¬ (isWhitespace c ∨ c = '-')

/-- The hyphens between the groups are all that grouping adds. -/
theorem groupsOfThree_kept (chars : List Char) :
    (['-'].intercalate (groupsOfThree chars)).filter kept = chars.filter kept := by
  have hyphen : ∀ rest : List Char, ('-' :: rest).filter kept = rest.filter kept :=
    fun rest => List.filter_cons_of_neg (by decide)
  induction chars using groupsOfThree.induct with
  | case1 a b c d rest ih =>
    have more : ∃ group groups, groupsOfThree (d :: rest) = group :: groups := by
      match rest with
      | [] | [_] | [_, _] | _ :: _ :: _ :: _ => exact ⟨_, _, rfl⟩
    obtain ⟨group, groups, made⟩ := more
    rw [groupsOfThree, made, List.intercalate_cons_cons, ← made]
    simp only [List.append_assoc, List.filter_append, List.singleton_append, hyphen, ih]
    rw [← List.filter_append]
    rfl
  | case2 => rfl
  | case3 rest short nonempty =>
    rw [groupsOfThree]
    · simp
    · exact short
    · exact nonempty

/-- Normalizing undoes formatting on every normalized code. -/
theorem normalize_format (normalized : normalizeDepositReference toUpperCase code = code) :
    normalizeDepositReference toUpperCase (formatDepositReference toUpperCase code) = code := by
  have stripped : ∀ text, normalizeDepositReference toUpperCase text =
      toUpperCase (String.ofList (text.toList.filter kept)) := fun _ => rfl
  rw [formatDepositReference, normalized, stripped, String.toList_ofList, groupsOfThree_kept,
    ← stripped, normalized]

/-- What the check character of a reference and its formatting are for. -/
theorem depositReference_checked :
    (∀ data, Spelled data → ∃ check,
      depositReferenceCheckCharacter (String.ofList data) = some check ∧
        Passes (data ++ [check])) ∧
    (∀ front c back c', Passes (front ++ c :: back) → c' ≠ c → ¬ Passes (front ++ c' :: back)) ∧
    (∀ front a b back, Passes (front ++ a :: b :: back) → a ≠ b →
      (Passes (front ++ b :: a :: back) ↔ Unnoticed a b)) ∧
    ∀ toUpperCase code, normalizeDepositReference toUpperCase code = code →
      normalizeDepositReference toUpperCase (formatDepositReference toUpperCase code) = code :=
  ⟨fun _ => appended_passes, fun _ _ _ _ => replaced_fails, fun _ _ _ _ => exchanged_passes,
    fun _ _ => normalize_format⟩

/-- The alphabet's size divides the number of bytes, so that no byte is passed over. -/
theorem drawSymbols_eq (data : List Char) (draw : List UInt8)
    (room : data.length + draw.length ≤ depositReferenceDataLength) :
    drawSymbols data draw = data ++ draw.map symbolOf := by
  induction draw generalizing data with
  | nil => simp [drawSymbols]
  | cons byte rest ih =>
    have small := byte.toNat_lt
    have every : 256 - 256 % alphabetSize = 256 := rfl
    rw [List.length_cons] at room
    rw [drawSymbols, if_neg (by omega), if_neg (by omega), ih _ (by simp; omega)]
    simp

/-- One draw is enough. -/
theorem drawData_eq (full : draw.length = depositReferenceDataLength) :
    drawData [] (draw :: more) = some (draw.map symbolOf) := by
  have filled : ¬ (draw.map symbolOf).length < depositReferenceDataLength := by simp [full]
  rw [drawData, if_pos (by decide), drawSymbols_eq [] draw (by simp [full]), List.nil_append]
  cases more <;> exact if_neg filled

/-- What is spelled in the alphabet is in normal form, and as long as it has characters. -/
theorem spelled_normal (uppers : toUpperCase (String.ofList code) = String.ofList code)
    (spelled : Spelled code) :
    normalizeDepositReference toUpperCase (String.ofList code) = String.ofList code ∧
      textLength (String.ofList code) = code.length := by
  have plain : depositReferenceAlphabet.all fun c => kept c && (codeUnits c).length == 1 := by
    decide +kernel
  simp only [List.all_eq_true, Bool.and_eq_true, beq_iff_eq] at plain
  constructor
  · have same : code.filter kept = code :=
      List.filter_eq_self.mpr fun c mem => (plain c (spelled c mem)).1
    unfold kept at same
    rw [normalizeDepositReference, String.toList_ofList, same, uppers]
  · have ones : code.map (fun c => (codeUnits c).length) = code.map fun _ => 1 :=
      List.map_congr_left fun c mem => (plain c (spelled c mem)).2
    simp [textLength, utf16, List.length_flatMap, ones]

/-- A fresh reference takes one draw. Normalized, it is the symbols of the bytes drawn and a check
character, and it is one the check accepts. -/
theorem newDepositReference_accepted
    (uppers : ∀ code, Spelled code → toUpperCase (String.ofList code) = String.ofList code)
    (full : draw.length = depositReferenceDataLength) (more : List (List UInt8)) :
    ∃ reference, newDepositReference toUpperCase (draw :: more) = some reference ∧
      depositReferenceRejection toUpperCase reference = none ∧
      ∃ check, normalizeDepositReference toUpperCase reference =
        String.ofList (draw.map symbolOf ++ [check]) := by
  have symbols : Spelled (draw.map symbolOf) := by
    intro c mem
    obtain ⟨byte, _, rfl⟩ := List.mem_map.mp mem
    have within : byte.toNat % alphabetSize < depositReferenceAlphabet.length :=
      Nat.mod_lt _ (by decide)
    simp [symbolOf, within]
  obtain ⟨check, made, passes⟩ := appended_passes symbols
  have spelled := (passes_iff.mp passes).1
  have normal := spelled_normal (uppers _ spelled) spelled
  have undone := normalize_format normal.1
  refine ⟨_, by simp [newDepositReference, drawData_eq full, made], ?_, check, undone⟩
  rw [depositReferenceRejection_none, undone, normal.2, String.toList_ofList]
  exact ⟨by simp [full, depositReferenceLength], passes⟩

theorem eight_zeros_accepted :
    ∃ reference, newDepositReference id [List.replicate 8 0] = some reference ∧
      depositReferenceRejection id reference = none ∧
      ∃ check, normalizeDepositReference id reference =
        String.ofList ((List.replicate 8 0).map symbolOf ++ [check]) :=
  newDepositReference_accepted (fun _ _ => rfl) rfl []

end Telga.Proofs.DepositReferences
