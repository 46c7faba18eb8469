import Mathlib.Data.List.Basic
import Telga.Library.Hex
import Telga.Library.Search

namespace Telga.Library
namespace Ip

inductive Family
  | v4
  | v6
deriving DecidableEq

structure Address where
  bytes : List Nat
  family : Family
deriving DecidableEq

def decimalValue (digits : List Char) : Nat :=
  digits.foldl (fun value digit => 10 * value + (digit.toNat - 48)) 0

/-- A number of a dotted quad: one to three decimal digits, and 255 at most. -/
structure Octet (text : List Char) : Prop where
  some : text ≠ []
  short : text.length ≤ 3
  digits : text.all Char.isDigit = true
  byte : decimalValue text ≤ 255

/-- Four numbers with dots between them. -/
inductive Quad : List Char → List Nat → Prop
  | dotted {a b c d : List Char} (first : Octet a) (second : Octet b) (third : Octet c)
      (fourth : Octet d) :
      Quad (a ++ '.' :: (b ++ '.' :: (c ++ '.' :: d)))
        [decimalValue a, decimalValue b, decimalValue c, decimalValue d]

/-- A hexadecimal digit in small letters. -/
def hexLower (char : Char) : Bool :=
  char.isDigit || (decide ('a' ≤ char) && decide (char ≤ 'f'))

/-- One to four hexadecimal digits. -/
structure Group (text : List Char) : Prop where
  some : text ≠ []
  short : text.length ≤ 4
  digits : text.all hexLower = true

def groupBytes (text : List Char) : List Nat :=
  [hexValue text / 256, hexValue text % 256]

/-- Groups with colons between them. The last may be a dotted quad where `quad` allows it. -/
inductive Groups (quad : Bool) : List Char → List Nat → Prop
  | last {text : List Char} (group : Group text) : Groups quad text (groupBytes text)
  | embedded {text : List Char} {bytes : List Nat} (allowed : quad = true)
      (dotted : Quad text bytes) : Groups quad text bytes
  | more {text rest : List Char} {bytes : List Nat} (group : Group text)
      (groups : Groups quad rest bytes) :
      Groups quad (text ++ ':' :: rest) (groupBytes text ++ bytes)

/-- What stands on one side of a double colon: groups, or nothing. -/
def Side (quad : Bool) (text : List Char) (bytes : List Nat) : Prop :=
  text = [] ∧ bytes = [] ∨ Groups quad text bytes

/-- The text of an address of sixteen bytes: all groups, or a double colon for at least one of
them. Under `early`, a dotted quad may stand in front of the double colon as well. -/
inductive V6 (early : Bool) : List Char → List Nat → Prop
  | full {text : List Char} {bytes : List Nat} (groups : Groups true text bytes)
      (whole : bytes.length = 16) : V6 early text bytes
  | compressed {head tail : List Char} {front back : List Nat} (before : Side early head front)
      (behind : Side true tail back) (elided : front.length + back.length + 2 ≤ 16) :
      V6 early (head ++ ':' :: ':' :: tail)
        (front ++ List.replicate (16 - front.length - back.length) 0 ++ back)

/-- The first twelve bytes of an address that stands for one of four. -/
def mappedPrefix : List Nat :=
  [0, 0, 0, 0, 0, 0, 0, 0, 0, 0, 0xff, 0xff]

/-- The text of an address may have a zone behind it. -/
def Zoned (text body : List Char) : Prop :=
  text = body ∨ ∃ zone, zone ≠ [] ∧ text = body ++ '%' :: zone

/-- A dotted quad that stands for an address of four bytes, however its other bytes are
written. -/
def Mapped (text : List Char) (bytes : List Nat) : Prop :=
  '.' ∈ text ∧ bytes.take 12 = mappedPrefix

/-- Which address a text in small letters is. -/
inductive Reads : List Char → Address → Prop
  | quad {text : List Char} {bytes : List Nat} (dotted : Quad text bytes) : Reads text ⟨bytes, .v4⟩
  | mapped {text body : List Char} {bytes : List Nat} (address : V6 false body bytes)
      (zoned : Zoned text body) (mapped : Mapped body bytes) : Reads text ⟨bytes.drop 12, .v4⟩
  | groups {text body : List Char} {bytes : List Nat} (address : V6 false body bytes)
      (zoned : Zoned text body) (other : ¬ Mapped body bytes) : Reads text ⟨bytes, .v6⟩

section Characters

variable {quad early : Bool} {text : List Char} {bytes : List Nat} {char : Char}

/-- The characters of addresses. -/
def Written (char : Char) : Prop :=
  hexLower char = true ∨ char = '.' ∨ char = ':'

theorem hexLower_digit (digit : char.isDigit = true) : hexLower char = true := by
  rw [hexLower, digit, Bool.true_or]

theorem Octet.hex (octet : Octet text) (listed : char ∈ text) : hexLower char = true :=
  hexLower_digit (List.all_eq_true.mp octet.digits char listed)

theorem Group.hex (group : Group text) (listed : char ∈ text) : hexLower char = true :=
  List.all_eq_true.mp group.digits char listed

theorem Octet.undotted (octet : Octet text) : '.' ∉ text := by
  intro listed
  exact absurd (octet.hex listed) (by decide)

theorem Group.undotted (group : Group text) : '.' ∉ text := by
  intro listed
  exact absurd (group.hex listed) (by decide)

theorem Group.single (group : Group text) : ':' ∉ text := by
  intro listed
  exact absurd (group.hex listed) (by decide)

theorem Quad.chars (dotted : Quad text bytes) (listed : char ∈ text) :
    hexLower char = true ∨ char = '.' := by
  cases dotted with
  | dotted first second third fourth =>
    simp only [List.mem_append, List.mem_cons] at listed
    rcases listed with listed | rfl | listed | rfl | listed | rfl | listed
    · exact .inl (first.hex listed)
    · exact .inr rfl
    · exact .inl (second.hex listed)
    · exact .inr rfl
    · exact .inl (third.hex listed)
    · exact .inr rfl
    · exact .inl (fourth.hex listed)

theorem Quad.single (dotted : Quad text bytes) : ':' ∉ text := by
  intro listed
  exact absurd (dotted.chars listed) (by decide)

theorem Quad.dot (dotted : Quad text bytes) : '.' ∈ text := by
  cases dotted
  simp

theorem Quad.length (dotted : Quad text bytes) : bytes.length = 4 := by
  cases dotted
  rfl

theorem Groups.chars (groups : Groups quad text bytes) (listed : char ∈ text) : Written char := by
  induction groups with
  | last group => exact .inl (group.hex listed)
  | embedded _ dotted => exact (dotted.chars listed).imp id .inl
  | more group _ ih =>
    rcases List.mem_append.mp listed with listed | listed
    · exact .inl (group.hex listed)
    · rcases List.mem_cons.mp listed with rfl | listed
      · exact .inr (.inr rfl)
      · exact ih listed

/-- Groups begin with no colon. -/
theorem Groups.begins (groups : Groups quad text bytes) :
    ∃ first rest, text = first :: rest ∧ first ≠ ':' := by
  have visible : ∀ front back : List Char, front ≠ [] → ':' ∉ front →
      ∃ first rest, front ++ back = first :: rest ∧ first ≠ ':' := by
    intro front back some single
    obtain ⟨first, rest, rfl⟩ := List.exists_cons_of_ne_nil some
    exact ⟨first, rest ++ back, rfl, fun same => single (same ▸ List.mem_cons_self)⟩
  cases groups with
  | last group => simpa using visible text [] group.some group.single
  | embedded _ dotted =>
    simpa using visible text [] (List.ne_nil_of_mem dotted.dot) dotted.single
  | more group _ => exact visible _ _ group.some group.single

theorem Side.chars (side : Side quad text bytes) (listed : char ∈ text) : Written char := by
  rcases side with ⟨rfl, -⟩ | groups
  · cases listed
  · exact groups.chars listed

theorem V6.chars (address : V6 early text bytes) (listed : char ∈ text) : Written char := by
  cases address with
  | full groups _ => exact groups.chars listed
  | compressed before behind _ =>
    simp only [List.mem_append, List.mem_cons] at listed
    rcases listed with listed | rfl | rfl | listed
    · exact before.chars listed
    · exact .inr (.inr rfl)
    · exact .inr (.inr rfl)
    · exact behind.chars listed

theorem V6.unzoned (address : V6 early text bytes) : '%' ∉ text := by
  intro listed
  exact absurd (address.chars listed) (by unfold Written; decide)

theorem Quad.unzoned (dotted : Quad text bytes) : '%' ∉ text := by
  intro listed
  exact absurd (dotted.chars listed) (by decide)

/-- A text of sixteen bytes has a colon. -/
theorem V6.colon (address : V6 early text bytes) : ':' ∈ text := by
  cases address with
  | full groups whole =>
    cases groups with
    | last _ => cases whole
    | embedded _ dotted =>
      rw [dotted.length] at whole
      cases whole
    | more _ _ => simp
  | compressed _ _ _ => simp

end Characters

section Pairs

variable {quad : Bool} {text head tail rest : List Char} {bytes front back : List Nat}

/-- Groups have no double colon, and begin none with what follows them. -/
theorem Groups.pairs (groups : Groups quad text bytes) (rest : List Char) :
    splitAtPairs ':' (text ++ rest) = glue text (splitAtPairs ':' rest) := by
  induction groups with
  | last group => exact splitAtPairs_skip group.single
  | embedded _ dotted => exact splitAtPairs_skip dotted.single
  | @more text tail bytes group groups ih =>
    obtain ⟨first, others, rfl, differs⟩ := groups.begins
    rw [List.append_assoc, splitAtPairs_skip group.single, List.cons_append, splitAtPairs_step,
      ih, glue_glue, glue_glue]
    · simp
    · rintro ⟨-, colon⟩
      exact differs (Option.some.inj colon)

theorem Groups.whole (groups : Groups quad text bytes) : splitAtPairs ':' text = [text] := by
  have pairs := groups.pairs []
  rw [List.append_nil] at pairs
  rw [pairs]
  simp [splitAtPairs, glue]

/-- What stands before a double colon is the first piece. -/
theorem Side.pairs (side : Side quad head front) (rest : List Char) :
    splitAtPairs ':' (head ++ ':' :: ':' :: rest) = head :: splitAtPairs ':' rest := by
  rcases side with ⟨rfl, -⟩ | groups
  · exact splitAtPairs_pair
  · rw [groups.pairs, splitAtPairs_pair, glue, List.append_nil]

theorem Side.whole (side : Side quad tail back) : splitAtPairs ':' tail = [tail] := by
  rcases side with ⟨rfl, -⟩ | groups
  · rfl
  · exact groups.whole

/-- A group has two bytes, and a dotted quad four. -/
theorem Groups.even (groups : Groups quad text bytes) : bytes.length % 2 = 0 := by
  induction groups with
  | last _ => simp [groupBytes]
  | embedded _ dotted => rw [dotted.length]
  | more _ _ ih =>
    rw [List.length_append, groupBytes]
    simp only [List.length_cons, List.length_nil]
    omega

theorem Side.even (side : Side quad text bytes) : bytes.length % 2 = 0 := by
  rcases side with ⟨-, rfl⟩ | groups
  · rfl
  · exact groups.even

end Pairs

section Dots

variable {quad early : Bool} {text rest : List Char} {bytes : List Nat}

theorem Groups.widen (groups : Groups quad text bytes) : Groups true text bytes := by
  induction groups with
  | last group => exact .last group
  | embedded _ dotted => exact .embedded rfl dotted
  | more group _ ih => exact .more group ih

theorem V6.widen (address : V6 early text bytes) : V6 true text bytes := by
  cases address with
  | full groups whole => exact .full groups whole
  | compressed before behind elided =>
    refine .compressed ?_ behind elided
    exact before.imp id Groups.widen

theorem Groups.undotted (groups : Groups false text bytes) : '.' ∉ text := by
  induction groups with
  | last group => exact group.undotted
  | embedded allowed _ => cases allowed
  | more group _ ih =>
    intro listed
    rcases List.mem_append.mp listed with listed | listed
    · exact group.undotted listed
    · rcases List.mem_cons.mp listed with no | listed
      · cases no
      · exact ih listed

/-- Groups without a dot have no dotted quad. -/
theorem Groups.plain (groups : Groups true text bytes) (plain : '.' ∉ text) :
    Groups false text bytes := by
  induction groups with
  | last group => exact .last group
  | embedded _ dotted => exact absurd dotted.dot plain
  | more group _ ih =>
    apply Groups.more group
    apply ih
    intro listed
    exact plain (List.mem_append_right _ (List.mem_cons_of_mem _ listed))

/-- A dotted quad before the double colon is all that `early` allows. -/
theorem V6.late (address : V6 true text bytes) :
    V6 false text bytes ∨
      ∃ head tail front, text = head ++ ':' :: ':' :: tail ∧ '.' ∈ head ∧
        Side true head front := by
  cases address with
  | full groups whole => exact .inl (.full groups whole)
  | @compressed head tail front back before behind elided =>
    by_cases dot : '.' ∈ head
    · exact .inr ⟨head, tail, front, rfl, dot, before⟩
    · refine .inl (.compressed ?_ behind elided)
      exact before.imp id fun groups => groups.plain dot

/-- An address proper has none there. -/
theorem V6.no_dot (address : V6 false text bytes) {head tail : List Char} {front : List Nat}
    (before : Side quad head front) (same : text = head ++ ':' :: ':' :: tail) : '.' ∉ head := by
  have pieces : splitAtPairs ':' text = head :: splitAtPairs ':' tail := by
    rw [same]
    exact before.pairs tail
  cases address with
  | full groups _ =>
    rw [groups.whole] at pieces
    obtain ⟨_, _, some⟩ := splitAtPairs_some ':' tail
    rw [some] at pieces
    cases pieces
  | compressed before' _ _ =>
    rw [before'.pairs] at pieces
    rw [← (List.cons.inj pieces).1]
    rcases before' with ⟨rfl, -⟩ | groups
    · exact List.not_mem_nil
    · exact groups.undotted

/-- What stands behind the first colon of groups is groups. -/
theorem Groups.behind {front : List Char} (groups : Groups quad (front ++ ':' :: rest) bytes)
    (single : ':' ∉ front) :
    ∃ bytes', Groups quad rest bytes' ∧ bytes.length = bytes'.length + 2 := by
  generalize same : front ++ ':' :: rest = text at groups
  cases groups with
  | last group => exact absurd (same ▸ by simp) group.single
  | embedded _ dotted => exact absurd (same ▸ by simp) dotted.single
  | @more text' rest' bytes' group groups =>
    have pieces : splitAtEach ':' (text' ++ ':' :: rest') = text' :: splitAtEach ':' rest' :=
      splitAtEach_cons group.single
    rw [← same, splitAtEach_cons single] at pieces
    have first : front = text' := (List.cons.inj pieces).1
    rw [first] at same
    have others := List.append_cancel_left same
    cases others
    refine ⟨bytes', groups, ?_⟩
    simp only [groupBytes, List.length_append, List.length_cons, List.length_nil]
    omega

end Dots

section Zones

variable {early : Bool} {text body body' : List Char} {bytes : List Nat}

/-- What stands before the first `%`. -/
def beforeZone (text : List Char) : List Char :=
  text.takeWhile (· ≠ '%')

theorem beforeZone_append (plain : '%' ∉ body) (zone : List Char) :
    beforeZone (body ++ '%' :: zone) = body := by
  rw [beforeZone, List.takeWhile_append_of_pos]
  · simp
  · intro char listed
    exact decide_eq_true fun same => plain (same ▸ listed)

theorem beforeZone_self (plain : '%' ∉ body) : beforeZone body = body := by
  have all : (body ++ []).takeWhile (· ≠ '%') = body ++ [].takeWhile (· ≠ '%') := by
    apply List.takeWhile_append_of_pos
    intro char listed
    exact decide_eq_true fun same => plain (same ▸ listed)
  simpa [beforeZone] using all

/-- A text is what stands before its zone, or that and more. -/
theorem beforeZone_cases (text : List Char) :
    text = beforeZone text ∨ ∃ zone, text = beforeZone text ++ '%' :: zone := by
  have whole : beforeZone text ++ text.dropWhile (· ≠ '%') = text :=
    List.takeWhile_append_dropWhile
  cases rest : text.dropWhile (· ≠ '%') with
  | nil =>
    rw [rest, List.append_nil] at whole
    exact .inl whole.symm
  | cons char zone =>
    have stops : char = '%' := by
      have first := List.head?_dropWhile_not (· ≠ '%') text
      simp only [rest, List.head?_cons] at first
      simpa using first
    rw [rest, stops] at whole
    exact .inr ⟨zone, whole.symm⟩

theorem Zoned.before (zoned : Zoned text body) (plain : '%' ∉ body) : beforeZone text = body := by
  rcases zoned with rfl | ⟨zone, -, rfl⟩
  · exact beforeZone_self plain
  · exact beforeZone_append plain zone

end Zones

section Bits

/-- The bits of a byte, the highest first. -/
def byteBits (byte : Nat) : List Bool :=
  (List.range 8).map fun i => byte.testBit (7 - i)

/-- The bits of an address. -/
def bits (bytes : List Nat) : List Bool :=
  bytes.flatMap byteBits

/-- Which bits of a byte are its first. -/
theorem testBit_mask (k j : Nat) :
    ((0xff <<< (8 - k)) &&& 0xff : Nat).testBit j = decide (8 - k ≤ j ∧ j < 8) := by
  have ones : ∀ i, (0xff : Nat).testBit i = decide (i < 8) := fun i =>
    Nat.testBit_two_pow_sub_one 8 i
  rw [Nat.testBit_and, Nat.testBit_shiftLeft, ones, ones]
  by_cases low : 8 - k ≤ j
  · by_cases high : j < 8
    · have inside : j - (8 - k) < 8 := by omega
      simp [low, high, inside]
    · simp [high]
  · simp [low]

/-- Bytes agree under the mask of so many bits exactly when their first bits do. -/
theorem masked_iff {k x y : Nat} (fits : k ≤ 8) :
    x &&& ((0xff <<< (8 - k)) &&& 0xff) = y &&& ((0xff <<< (8 - k)) &&& 0xff) ↔
      (byteBits x).take k = (byteBits y).take k := by
  have firsts : ∀ byte, (byteBits byte).take k = (List.range k).map fun i => byte.testBit (7 - i) := by
    intro byte
    rw [byteBits, ← List.map_take, List.take_range, Nat.min_eq_left fits]
  rw [firsts, firsts, List.map_inj_left]
  constructor
  · intro masked i listed
    have small := List.mem_range.mp listed
    have there : 8 - k ≤ 7 - i ∧ 7 - i < 8 := by omega
    have bit := congrArg (Nat.testBit · (7 - i)) masked
    simp only [Nat.testBit_and x, Nat.testBit_and y, testBit_mask, decide_eq_true there,
      Bool.and_true] at bit
    exact bit
  · intro same
    apply Nat.eq_of_testBit_eq
    intro j
    rw [Nat.testBit_and x _ j, Nat.testBit_and y _ j, testBit_mask]
    by_cases there : 8 - k ≤ j ∧ j < 8
    · have bit := same (7 - j) (List.mem_range.mpr (by omega))
      have index : 7 - (7 - j) = j := by omega
      rw [index] at bit
      rw [bit]
    · rw [decide_eq_false there, Bool.and_false, Bool.and_false]

theorem byteBits_length (byte : Nat) : (byteBits byte).length = 8 := by
  simp [byteBits]

end Bits

section Lengths

variable {early : Bool} {text : List Char} {bytes : List Nat} {address : Address}

/-- How many bytes an address has. -/
def Family.size : Family → Nat
  | v4 => 4
  | v6 => 16

theorem V6.length (address : V6 early text bytes) : bytes.length = 16 := by
  cases address with
  | full _ whole => exact whole
  | compressed _ _ elided =>
    simp only [List.length_append, List.length_replicate]
    omega

theorem Reads.size (reads : Reads text address) : address.bytes.length = address.family.size := by
  cases reads with
  | quad dotted => exact dotted.length
  | mapped address _ _ =>
    simp only [List.length_drop, address.length]
    rfl
  | groups address _ _ => exact address.length

end Lengths

end Ip
end Telga.Library
