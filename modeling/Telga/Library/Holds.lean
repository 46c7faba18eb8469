import Mathlib.Order.Basic
import Mathlib.Tactic.Common

namespace Telga.Library

/-- No hold stands at a time. -/
def Free (held : Option Int) (now : Int) : Prop :=
  ∀ ends ∈ held, ends ≤ now

instance (held : Option Int) (now : Int) : Decidable (Free held now) :=
  match held with
  | none => isTrue fun _ mem => by cases mem
  | some ends => decidable_of_iff (ends ≤ now) (by simp [Free])

/-- The hold that failures have earned, the latest first: each may start one of its own, by how many
there were before it, and leaves the one that stands otherwise. -/
def earnedHold (tier : Nat → Option Int) : List Int → Option Int
  | [] => none
  | time :: earlier => ((tier (earlier.length + 1)).map (time + ·)).or (earnedHold tier earlier)

/-- Each failure was made while no hold stood. -/
def Patient (tier : Nat → Option Int) : List Int → Prop
  | [] => True
  | time :: earlier => Free (earnedHold tier earlier) time ∧ Patient tier earlier

variable {tier : Nat → Option Int} {newer older failures : List Int} {first now length : Int}

/-- A failure made while no hold stands never shortens the one there was. -/
theorem earnedHold_grows (long : ∀ n, ∀ d ∈ tier n, 0 ≤ d)
    (free : Free (earnedHold tier failures) now) :
    ∀ ends ∈ earnedHold tier failures, ∃ later ∈ earnedHold tier (now :: failures),
      ends ≤ later := by
  intro ends held
  unfold earnedHold
  cases next : tier (failures.length + 1) with
  | none => exact ⟨ends, held, Int.le_refl _⟩
  | some d =>
    have ended := free ends held
    have forward := long _ d next
    exact ⟨now + d, rfl, by omega⟩

/-- The hold a failure earned still counts for those who kept to it. -/
theorem earnedHold_outlasts (long : ∀ n, ∀ d ∈ tier n, 0 ≤ d)
    (patient : Patient tier (newer ++ first :: older))
    (earned : tier (older.length + 1) = some length) :
    ∃ ends ∈ earnedHold tier (newer ++ first :: older), first + length ≤ ends := by
  induction newer with
  | nil =>
    refine ⟨first + length, ?_, Int.le_refl _⟩
    rw [List.nil_append, earnedHold, earned]
    rfl
  | cons last rest ih =>
    obtain ⟨ends, held, reaches⟩ := ih patient.2
    obtain ⟨later, grown, after⟩ := earnedHold_grows long patient.1 ends held
    exact ⟨later, grown, Int.le_trans reaches after⟩

/-- Nobody is let through before the hold that a failure earned is over. -/
theorem Free.waited (long : ∀ n, ∀ d ∈ tier n, 0 ≤ d)
    (patient : Patient tier (newer ++ first :: older))
    (earned : tier (older.length + 1) = some length)
    (free : Free (earnedHold tier (newer ++ first :: older)) now) : first + length ≤ now := by
  obtain ⟨ends, held, reaches⟩ := earnedHold_outlasts long patient earned
  exact Int.le_trans reaches (free ends held)

end Telga.Library
