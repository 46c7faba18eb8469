import Mathlib.Data.List.Basic

namespace Telga.Library

/-- The bytes of a text. -/
def utf8Bytes (text : List Char) : List UInt8 :=
  text.flatMap String.utf8EncodeChar

/-- Whether a byte may come second in a character of three or four bytes. -/
def mayFollow (first second : UInt8) : Bool :=
  if first = 0xE0 then 0xA0 ≤ second ∧ second ≤ 0xBF
  else if first = 0xED then 0x80 ≤ second ∧ second ≤ 0x9F
  else if first = 0xF0 then 0x90 ≤ second ∧ second ≤ 0xBF
  else if first = 0xF4 then 0x80 ≤ second ∧ second ≤ 0x8F
  else 0x80 ≤ second ∧ second ≤ 0xBF

/-- How many bytes one replacement character stands for: the longest start of a character that is
there, or one byte. -/
def illFormed : List UInt8 → Nat
  | first :: second :: rest =>
    if 0xE0 ≤ first ∧ first ≤ 0xF4 ∧ mayFollow first second = true then
      match rest with
      | third :: _ => if 0xF0 ≤ first ∧ 0x80 ≤ third ∧ third ≤ 0xBF then 3 else 2
      | [] => 2
    else 1
  | _ => 1

/-- Decode so many characters at most; what is ill-formed is replaced. -/
def utf8Chars : Nat → List UInt8 → List Char
  | 0, _ => []
  | _ + 1, [] => []
  | limit + 1, bytes =>
    match bytes.toByteArray.utf8DecodeChar? 0 with
    | some char => char :: utf8Chars limit (bytes.drop char.utf8Size)
    | none => '\uFFFD' :: utf8Chars limit (bytes.drop (illFormed bytes))

/-- The text some bytes encode. -/
def utf8Text (bytes : List UInt8) : List Char :=
  utf8Chars bytes.length bytes

@[simp] theorem utf8Bytes_append (text more : List Char) :
    utf8Bytes (text ++ more) = utf8Bytes text ++ utf8Bytes more :=
  List.flatMap_append

theorem utf8Chars_bytes (text : List Char) {limit : Nat}
    (enough : (utf8Bytes text).length ≤ limit) : utf8Chars limit (utf8Bytes text) = text := by
  induction text generalizing limit with
  | nil => cases limit <;> rfl
  | cons char text ih =>
    have size := String.length_utf8EncodeChar char
    have first : utf8Bytes (char :: text) = String.utf8EncodeChar char ++ utf8Bytes text := rfl
    rw [first] at enough ⊢
    have positive := char.utf8Size_pos
    simp only [List.length_append, size] at enough
    obtain ⟨limit, rfl⟩ : ∃ fewer, limit = fewer + 1 := ⟨limit - 1, by omega⟩
    have decoded : (String.utf8EncodeChar char ++ utf8Bytes text).toByteArray.utf8DecodeChar? 0 =
        some char := by
      rw [List.toByteArray_append]
      exact ByteArray.utf8DecodeChar?_utf8EncodeChar_append
    have there : String.utf8EncodeChar char ++ utf8Bytes text ≠ [] := by
      intro empty
      have none := congrArg List.length empty
      simp only [List.length_append, size, List.length_nil] at none
      omega
    rw [utf8Chars]
    · rw [decoded]
      simp only
      rw [← size, List.drop_left, ih (by omega)]
    · exact there

/-- What a text is encoded to is decoded to it. -/
theorem utf8Text_bytes (text : List Char) : utf8Text (utf8Bytes text) = text :=
  utf8Chars_bytes text (Nat.le_refl _)

/-- A byte below 128 is a character of its own. -/
theorem mem_utf8Bytes {text : List Char} {byte : UInt8} (small : byte.toNat < 128)
    (mem : byte ∈ utf8Bytes text) : ∃ char ∈ text, char.toNat = byte.toNat := by
  obtain ⟨char, there, own⟩ := List.mem_flatMap.mp mem
  refine ⟨char, there, ?_⟩
  have large : ∀ low high : UInt8, 128 ≤ high.toNat → byte ≠ low ||| high := by
    intro low high big same
    have atLeast : high.toNat ≤ byte.toNat := by
      rw [same, UInt8.toNat_or]
      exact Nat.right_le_or
    omega
  rcases char.utf8Size_eq with one | two | three | four
  · have own : byte = char.val.toUInt8 := by
      rw [String.utf8EncodeChar_eq_singleton one] at own
      exact List.mem_singleton.mp own
    have few := UInt32.le_iff_toNat_le.mp (Char.utf8Size_eq_one_iff.mp one)
    have low : char.val.toNat ≤ 127 := few
    rw [own, UInt32.toNat_toUInt8, Char.toNat]
    omega
  · rw [String.utf8EncodeChar_eq_cons_cons two] at own
    simp only [List.mem_cons, List.not_mem_nil, or_false] at own
    rcases own with own | own
    all_goals exact absurd own (large _ _ (by decide))
  · rw [String.utf8EncodeChar_eq_cons_cons_cons three] at own
    simp only [List.mem_cons, List.not_mem_nil, or_false] at own
    rcases own with own | own | own
    all_goals exact absurd own (large _ _ (by decide))
  · rw [String.utf8EncodeChar_eq_cons_cons_cons_cons four] at own
    simp only [List.mem_cons, List.not_mem_nil, or_false] at own
    rcases own with own | own | own | own
    all_goals exact absurd own (large _ _ (by decide))

end Telga.Library
