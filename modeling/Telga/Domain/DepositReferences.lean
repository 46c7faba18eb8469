import Telga.Domain.TopupOrders

namespace Telga.Domain

/-- The symbols of a deposit reference, chosen for a human reading aloud. -/
def depositReferenceAlphabet : List Char :=
  "ABCDEFGHJKLMNPQRSTUVWXYZ23456789".toList

/-- Data characters, before the check character is appended. -/
def depositReferenceDataLength : Nat := 8

def depositReferenceLength : Nat := depositReferenceDataLength + 1

def alphabetSize : Nat := depositReferenceAlphabet.length

/-- What one character adds to the sum, its overflow folded back in. -/
def luhnAddend (factor value : Nat) : Nat :=
  factor * value / alphabetSize + factor * value % alphabetSize

/-- The loop of the generalised Luhn sum, over what is left of the input from its end. -/
def luhnLoop (factor sum : Nat) : List Char → Option Nat
  | [] => some sum
  | c :: rest =>
    match depositReferenceAlphabet.idxOf? c with
    | none => none
    | some value =>
      luhnLoop (if factor = 2 then 1 else 2) (sum + luhnAddend factor value) rest

/-- The generalised Luhn sum, if every character is of the alphabet. -/
def luhnSum (input : String) (startFactor : Nat) : Option Nat :=
  luhnLoop startFactor 0 input.toList.reverse

/-- The check character of some data. -/
def depositReferenceCheckCharacter (data : String) : Option Char := do
  let sum ← luhnSum data 2
  depositReferenceAlphabet[(alphabetSize - sum % alphabetSize) % alphabetSize]?

inductive DepositReferenceRejection
  | empty
  | wrongLength
  | badCharacter
  | checkFailed
deriving DecidableEq, Repr

/-- Why a reference is not usable, if it is not. -/
def depositReferenceRejection (toUpperCase : String → String) (input : String) :
    Option DepositReferenceRejection :=
  let normalized := normalizeDepositReference toUpperCase input
  if textLength normalized = 0 then some .empty
  else if textLength normalized ≠ depositReferenceLength then some .wrongLength
  else
    match luhnSum normalized 1 with
    | none => some .badCharacter
    | some sum => if sum % alphabetSize ≠ 0 then some .checkFailed else none

/-- Groups of three, the last one of what is left. -/
def groupsOfThree : List Char → List (List Char)
  | a :: b :: c :: d :: rest => [a, b, c] :: groupsOfThree (d :: rest)
  | [] => []
  | rest => [rest]

/-- A reference as it is shown, grouped in threes. -/
def formatDepositReference (toUpperCase : String → String) (reference : String) : String :=
  String.ofList (['-'].intercalate
    (groupsOfThree (normalizeDepositReference toUpperCase reference).toList))

/-- The symbol a random byte stands for. -/
def symbolOf (byte : UInt8) : Char :=
  depositReferenceAlphabet.getD (byte.toNat % alphabetSize) 'A'

/-- The data characters after a draw of random bytes. -/
def drawSymbols (data : List Char) : List UInt8 → List Char
  | [] => data
  | byte :: rest =>
    if data.length = depositReferenceDataLength then data
    -- rejection sampling: a byte past the last whole multiple of the alphabet is passed over
    else if 256 - 256 % alphabetSize ≤ byte.toNat then drawSymbols data rest
    else drawSymbols (data ++ [symbolOf byte]) rest

/-- The data characters of a fresh reference, if the draws fill them. -/
def drawData (data : List Char) : List (List UInt8) → Option (List Char)
  | [] => if data.length < depositReferenceDataLength then none else some data
  | draw :: more =>
    if data.length < depositReferenceDataLength then drawData (drawSymbols data draw) more
    else some data

/-- A fresh reference, formatted for display, from what `randomBytes` yields draw after draw. -/
def newDepositReference (toUpperCase : String → String) (draws : List (List UInt8)) :
    Option String := do
  let data ← drawData [] draws
  let check ← depositReferenceCheckCharacter (String.ofList data)
  return formatDepositReference toUpperCase (String.ofList (data ++ [check]))

end Telga.Domain
