import Mathlib.Data.List.Basic

namespace Telga.Library

/-- An authenticated cipher under one key: it seals a plaintext under a nonce, together with data
that is not part of it, and opens what it sealed. -/
structure Aead (β : Type u) where
  encrypt : List β → List β → List β → List β × List β
  decrypt : List β → List β → List β → List β → Option (List β)

/-- What is sealed at one time. -/
structure Box (β : Type u) where
  nonce : List β
  data : List β
  plain : List β

namespace Aead

variable {β : Type u} {cipher : Aead β} {nonceSize tagSize : Nat} {boxes : List (Box β)}
  {box : Box β} {raw data plain : List β}

/-- What the cipher is documented to do: it opens what it sealed, the ciphertext is as long as the
plaintext, and the tag has one size. -/
structure Lawful (cipher : Aead β) (nonceSize tagSize : Nat) : Prop where
  opens : ∀ nonce data plain, nonce.length = nonceSize →
    cipher.decrypt nonce data (cipher.encrypt nonce data plain).1 (cipher.encrypt nonce data plain).2 =
      some plain
  sized : ∀ nonce data plain, (cipher.encrypt nonce data plain).1.length = plain.length
  tagged : ∀ nonce data plain, (cipher.encrypt nonce data plain).2.length = tagSize

/-- A box in one piece: its nonce, its tag and its ciphertext. -/
def packed (cipher : Aead β) (box : Box β) : List β :=
  box.nonce ++ (cipher.encrypt box.nonce box.data box.plain).2 ++
    (cipher.encrypt box.nonce box.data box.plain).1

/-- Take a piece apart and open it. A piece that is too short has a short tag, or none. -/
def unpack (cipher : Aead β) (nonceSize tagSize : Nat) (raw data : List β) : Option (List β) :=
  cipher.decrypt (raw.take nonceSize) data (raw.drop (nonceSize + tagSize))
    ((raw.drop nonceSize).take tagSize)

/-- Ideally nothing opens but what was sealed: a piece opens under some data only as a box of that
data, of the same nonce and ciphertext, and under the start of its tag at least. -/
def Authentic (cipher : Aead β) (nonceSize tagSize : Nat) (boxes : List (Box β)) (raw : List β) :
    Prop :=
  ∀ data plain, cipher.unpack nonceSize tagSize raw data = some plain →
    ∃ box ∈ boxes, box.data = data ∧ box.nonce = raw.take nonceSize ∧
      (cipher.encrypt box.nonce box.data box.plain).1 = raw.drop (nonceSize + tagSize) ∧
      (raw.drop nonceSize).take tagSize <+: (cipher.encrypt box.nonce box.data box.plain).2

theorem packed_take (sized : box.nonce.length = nonceSize) :
    (cipher.packed box).take nonceSize = box.nonce := by
  unfold packed
  rw [List.append_assoc, ← sized, List.take_left]

theorem packed_drop (sized : box.nonce.length = nonceSize) :
    (cipher.packed box).drop nonceSize =
      (cipher.encrypt box.nonce box.data box.plain).2 ++
        (cipher.encrypt box.nonce box.data box.plain).1 := by
  unfold packed
  rw [List.append_assoc, ← sized, List.drop_left]

/-- A box in one piece opens as it was sealed. -/
theorem Lawful.unpack_packed (lawful : cipher.Lawful nonceSize tagSize)
    (sized : box.nonce.length = nonceSize) :
    cipher.unpack nonceSize tagSize (cipher.packed box) box.data = some box.plain := by
  have tag := lawful.tagged box.nonce box.data box.plain
  unfold unpack
  rw [packed_take sized, ← List.drop_drop, packed_drop sized, ← tag, List.take_left, List.drop_left]
  exact lawful.opens _ _ _ sized

/-- What opens of an authentic piece is a whole box, which nobody changed, unless an empty text was
sealed. -/
theorem Authentic.packed (lawful : cipher.Lawful nonceSize tagSize)
    (sized : ∀ box ∈ boxes, box.nonce.length = nonceSize)
    (full : ∀ box ∈ boxes, box.plain ≠ [])
    (authentic : cipher.Authentic nonceSize tagSize boxes raw)
    (unpacked : cipher.unpack nonceSize tagSize raw data = some plain) :
    ∃ box ∈ boxes, raw = cipher.packed box ∧ box.data = data ∧ box.plain = plain := by
  obtain ⟨box, mem, rfl, nonce, ciphertext, tag⟩ := authentic data plain unpacked
  have rest : 0 < (raw.drop (nonceSize + tagSize)).length := by
    rw [← ciphertext, lawful.sized]
    exact List.length_pos_of_ne_nil (full box mem)
  -- The ciphertext has a byte, so the piece is long enough for a whole tag.
  have whole : ((raw.drop nonceSize).take tagSize).length =
      (cipher.encrypt box.nonce box.data box.plain).2.length := by
    rw [lawful.tagged]
    simp only [List.length_drop, List.length_take] at rest ⊢
    omega
  have same : raw = cipher.packed box := by
    unfold Aead.packed
    rw [ciphertext, ← tag.eq_of_length whole, nonce, ← List.drop_drop, List.append_assoc,
      List.take_append_drop, List.take_append_drop]
  refine ⟨box, mem, same, rfl, ?_⟩
  rw [same, lawful.unpack_packed (sized box mem)] at unpacked
  exact Option.some.inj unpacked

end Aead

end Telga.Library
