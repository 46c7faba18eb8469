import Telga.Domain.Text

namespace Telga.Application
open Domain

/-- The base32 alphabet, which is what every authenticator app expects. -/
def base32 : List Char := "ABCDEFGHIJKLMNOPQRSTUVWXYZ234567".toList

/-- The inner loop of `toBase32`: write what there is of whole symbols. Neither loop masks its
accumulator, which is a word of 32 bits. -/
def writeSymbols (value : BitVec 32) : Nat → List Char → Nat × List Char
  | bits + 5, out =>
    writeSymbols value bits (out ++ [base32.getD (value >>> bits &&& 31).toNat 'A'])
  | bits, out => (bits, out)

/-- What the loops carry from one turn to the next. -/
structure Base32Writing where
  bits : Nat
  value : BitVec 32
  out : List Char

/-- One turn of the outer loop of `toBase32`. -/
def Base32Writing.turn (state : Base32Writing) (byte : UInt8) : Base32Writing :=
  let value := state.value <<< 8 ||| BitVec.ofNat 32 byte.toNat
  let (bits, out) := writeSymbols value (state.bits + 8) state.out
  { bits, value, out }

def toBase32 (bytes : List UInt8) : String :=
  let state := bytes.foldl Base32Writing.turn { bits := 0, value := 0, out := [] }
  String.ofList
    (if 0 < state.bits then
      state.out ++ [base32.getD (state.value <<< (5 - state.bits) &&& 31).toNat 'A']
    else state.out)

structure Base32Reading where
  bits : Nat
  value : BitVec 32
  out : List UInt8

/-- One turn of the loop of `fromBase32`. A character outside the alphabet means that the secret was
mistyped. -/
def Base32Reading.turn (state : Base32Reading) (char : Char) : Except String Base32Reading :=
  match base32.idxOf? char with
  | none => .error "Invalid base32 in TOTP secret"
  | some index =>
    let value := state.value <<< 5 ||| BitVec.ofNat 32 index
    let bits := state.bits + 5
    if 8 ≤ bits then
      .ok { bits := bits - 8, value
            out := state.out ++ [UInt8.ofNat (value >>> (bits - 8) &&& 255).toNat] }
    else .ok { state with bits, value }

/-- What may stand between the symbols of a secret. -/
def base32Filler (c : Char) : Bool :=
  isWhitespace c ∨ c = '=' ∨ c = '-'

/-- The bytes of a secret, if it is one. Upper casing is the runtime's own. -/
def fromBase32 (toUpperCase : String → String) (secret : String) : Except String (List UInt8) := do
  let clean := toUpperCase (String.ofList (secret.toList.filter fun c => ¬ base32Filler c))
  let state ← clean.toList.foldlM Base32Reading.turn { bits := 0, value := 0, out := [] }
  return state.out

end Telga.Application
