import Mathlib.Data.Nat.ModEq

namespace Telga.Library

/-- What a value counts in a sum of alternating weights: itself, or what it is folded to. -/
def weight (fold : Nat → Nat) (folded : Bool) (value : Nat) : Nat :=
  if folded then fold value else value

/-- A sum of alternating weights. -/
def alternating (fold : Nat → Nat) : Bool → List Nat → Nat
  | _, [] => 0
  | folded, value :: rest => weight fold folded value + alternating fold (!folded) rest

/-- Whether a value is folded that comes a number of places later. -/
def foldedAfter (folded : Bool) : Nat → Bool
  | 0 => folded
  | places + 1 => foldedAfter (!folded) places

variable {fold : Nat → Nat} {folded : Bool} {base : Nat}

theorem alternating_append (front back : List Nat) :
    alternating fold folded (front ++ back) =
      alternating fold folded front +
        alternating fold (foldedAfter folded front.length) back := by
  induction front generalizing folded with
  | nil => simp [alternating, foldedAfter]
  | cons value front ih =>
    rw [List.cons_append, alternating, ih, alternating, List.length_cons, foldedAfter,
      Nat.add_assoc]

/-- Values that count alike in every place are alike. -/
def Distinguishes (fold : Nat → Nat) (base : Nat) : Prop :=
  ∀ a < base, ∀ b < base, fold a ≡ fold b [MOD base] → a = b

theorem weight_inj (distinguishes : Distinguishes fold base) {a b : Nat} (small : a < base)
    (small' : b < base) (same : weight fold folded a ≡ weight fold folded b [MOD base]) :
    a = b := by
  cases folded with
  | true => exact distinguishes a small b small' same
  | false => exact Nat.ModEq.eq_of_lt_of_lt same small small'

/-- Another value in one place makes another sum. -/
theorem alternating_replaced (distinguishes : Distinguishes fold base) {front back : List Nat}
    {a b : Nat} (small : a < base) (small' : b < base)
    (same : alternating fold folded (front ++ a :: back) ≡
      alternating fold folded (front ++ b :: back) [MOD base]) : a = b := by
  rw [alternating_append, alternating_append] at same
  have later := Nat.ModEq.add_left_cancel' _ same
  rw [alternating, alternating] at later
  exact weight_inj distinguishes small small' (Nat.ModEq.add_right_cancel' _ later)

/-- Two neighbours exchanged make the same sum exactly when they do so on their own. -/
theorem alternating_exchanged {front back : List Nat} {a b : Nat} :
    alternating fold folded (front ++ a :: b :: back) ≡
        alternating fold folded (front ++ b :: a :: back) [MOD base] ↔
      fold a + b ≡ fold b + a [MOD base] := by
  rw [alternating_append, alternating_append]
  generalize foldedAfter folded front.length = place
  have apart : ∀ c d : Nat, alternating fold place (c :: d :: back) =
      weight fold place c + weight fold (!place) d + alternating fold place back := by
    intro c d
    rw [alternating, alternating, Bool.not_not, Nat.add_assoc]
  rw [apart, apart]
  constructor
  · intro same
    have own := Nat.ModEq.add_right_cancel' _ (Nat.ModEq.add_left_cancel' _ same)
    cases place with
    | true => exact own
    | false =>
      have turned : a + fold b ≡ b + fold a [MOD base] := own
      rw [Nat.add_comm a, Nat.add_comm b] at turned
      exact turned.symm
  · intro own
    apply Nat.ModEq.add_left
    apply Nat.ModEq.add_right
    cases place with
    | true => exact own
    | false =>
      have turned := own.symm
      rw [Nat.add_comm, Nat.add_comm (fold a)] at turned
      exact turned

end Telga.Library
