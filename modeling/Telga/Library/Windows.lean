import Mathlib.Data.List.Basic
import Mathlib.Tactic.Common

namespace Telga.Library

/-- Each time, the latest first, found fewer than a limit of the earlier ones within a span before
it. -/
def Spaced (span : Int) (limit : Nat) : List Int → Prop
  | [] => True
  | time :: earlier =>
    (earlier.countP fun other => time - span < other) < limit ∧ Spaced span limit earlier

/-- How many times fall into the window of a span that ends at a time. -/
def within (span : Int) (last : Int) (times : List Int) : Nat :=
  times.countP fun time => last - span < time ∧ time ≤ last

variable {span last : Int} {limit : Nat} {times : List Int}

/-- No window holds more than the limit, whatever order the times came in. -/
theorem Spaced.within_le (spaced : Spaced span limit times) : within span last times ≤ limit := by
  induction times with
  | nil => exact Nat.zero_le _
  | cons time earlier ih =>
    obtain ⟨few, spaced⟩ := spaced
    unfold within
    rw [List.countP_cons]
    split
    · rename_i inside
      obtain ⟨_, reached⟩ := of_decide_eq_true inside
      have fewer : within span last earlier ≤
          earlier.countP fun other => time - span < other := by
        refine List.countP_mono_left fun other _ held => ?_
        obtain ⟨after, _⟩ := of_decide_eq_true held
        exact decide_eq_true (by omega)
      unfold within at fewer
      omega
    · exact ih spaced

end Telga.Library
