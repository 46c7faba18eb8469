import Telga.Library.Table

namespace Telga.Library

variable {δ : Type u}

/-- Debts paid in order out of a balance, each that what is left still covers. -/
def settled (price : δ → Int) : Int → List δ → List δ
  | _, [] => []
  | balance, debt :: rest =>
    if price debt ≤ balance then debt :: settled price (balance - price debt) rest
    else settled price balance rest

variable {price : δ → Int}

theorem settled_subset {debts : List δ} : ∀ {balance}, settled price balance debts ⊆ debts := by
  induction debts with
  | nil =>
    intro balance other mem
    cases mem
  | cons debt rest ih =>
    intro balance other mem
    unfold settled at mem
    split at mem
    · rcases List.mem_cons.mp mem with rfl | mem
      · exact List.mem_cons_self ..
      · exact List.mem_cons_of_mem _ (ih mem)
    · exact List.mem_cons_of_mem _ (ih mem)

/-- Nothing is paid exactly when the balance covers none of the debts. -/
theorem settled_nil_iff {balance : Int} {debts : List δ} :
    settled price balance debts = [] ↔ ∀ debt ∈ debts, balance < price debt := by
  induction debts with
  | nil => simp [settled]
  | cons debt rest ih =>
    unfold settled
    split
    · rename_i covered
      refine iff_of_false (List.cons_ne_nil _ _) fun short => ?_
      have short := short debt (List.mem_cons_self ..)
      omega
    · rename_i short
      rw [ih, List.forall_mem_cons]
      exact ⟨fun rest => ⟨by omega, rest⟩, And.right⟩

/-- A balance that covers the first debts together pays them first. -/
theorem settled_append {balance : Int} {older : List δ} (newer : List δ)
    (priced : ∀ debt ∈ older, 0 < price debt)
    (covered : older ≠ [] → total price older ≤ balance) :
    settled price balance (older ++ newer) =
      older ++ settled price (balance - total price older) newer := by
  induction older generalizing balance with
  | nil => simp
  | cons debt rest ih =>
    have covered := covered (List.cons_ne_nil _ _)
    obtain ⟨positive, priced⟩ := List.forall_mem_cons.mp priced
    have others : 0 ≤ total price rest := total_nonneg fun debt mem => Int.le_of_lt (priced debt mem)
    rw [total_cons] at covered ⊢
    have first : price debt ≤ balance := by omega
    have next : rest ≠ [] → total price rest ≤ balance - price debt := fun _ => by omega
    rw [List.cons_append, settled, if_pos first, ih priced next, List.cons_append,
      show balance - price debt - total price rest = balance - (price debt + total price rest) by
        omega]

/-- All of them are paid exactly when the balance covers them together. -/
theorem settled_all_iff (balance : Int) {debts : List δ} (unique : debts.Nodup)
    (priced : ∀ debt ∈ debts, 0 < price debt) :
    (∀ debt ∈ debts, debt ∈ settled price balance debts) ↔
      (debts ≠ [] → total price debts ≤ balance) := by
  constructor
  · intro all some
    clear priced
    induction debts generalizing balance with
    | nil => exact absurd rfl some
    | cons debt rest ih =>
      obtain ⟨absent, unique⟩ := List.nodup_cons.mp unique
      have first := all debt (List.mem_cons_self ..)
      unfold settled at all first
      split at first
      · rename_i covered
        rw [if_pos covered] at all
        have others : ∀ other ∈ rest, other ∈ settled price (balance - price debt) rest := by
          intro other mem
          rcases List.mem_cons.mp (all other (List.mem_cons_of_mem _ mem)) with rfl | paid
          · exact absurd mem absent
          · exact paid
        rw [total_cons]
        by_cases last : rest = []
        · subst last
          simpa using covered
        · have more := ih _ unique others last
          omega
      · exact absurd (settled_subset first) absent
  · intro covered debt mem
    have same := settled_append [] priced covered
    rw [List.append_nil] at same
    rw [same]
    exact List.mem_append_left _ mem

/-- No debt is paid while an older one is skipped exactly when the balance covers the debts up to
some point and none after it. -/
theorem settled_in_order_iff {balance : Int} {debts : List δ} (unique : debts.Nodup)
    (priced : ∀ debt ∈ debts, 0 < price debt) :
    debts.Pairwise (fun older newer =>
      newer ∈ settled price balance debts → older ∈ settled price balance debts) ↔
    ∃ older newer, debts = older ++ newer ∧ (older ≠ [] → total price older ≤ balance) ∧
      ∀ debt ∈ newer, balance - total price older < price debt := by
  constructor
  · intro ordered
    clear priced
    induction debts generalizing balance with
    | nil => exact ⟨[], [], rfl, fun some => absurd rfl some, by simp⟩
    | cons debt rest ih =>
      obtain ⟨absent, unique⟩ := List.nodup_cons.mp unique
      obtain ⟨first, later⟩ := List.pairwise_cons.mp ordered
      unfold settled at first later
      by_cases covered : price debt ≤ balance
      · rw [if_pos covered] at later
        have others : rest.Pairwise fun older newer =>
            newer ∈ settled price (balance - price debt) rest →
              older ∈ settled price (balance - price debt) rest := by
          refine later.imp_of_mem fun {older newer} memOlder memNewer keeps paid => ?_
          rcases List.mem_cons.mp (keeps (List.mem_cons_of_mem _ paid)) with rfl | paid
          · exact absurd memOlder absent
          · exact paid
        obtain ⟨older, newer, rfl, covers, short⟩ := ih unique others
        refine ⟨debt :: older, newer, rfl, fun _ => ?_, fun other mem => ?_⟩
        · rw [total_cons]
          by_cases last : older = []
          · subst last
            simpa using covered
          · have more := covers last
            omega
        · rw [total_cons]
          have less := short other mem
          omega
      · rw [if_neg covered] at first
        have nothing : settled price balance rest = [] := by
          refine List.eq_nil_iff_forall_not_mem.mpr fun other paid => ?_
          exact absent (settled_subset (first other (settled_subset paid) paid))
        refine ⟨[], debt :: rest, rfl, fun some => absurd rfl some, ?_⟩
        simp only [total_nil, Int.sub_zero]
        exact List.forall_mem_cons.mpr ⟨by omega, settled_nil_iff.mp nothing⟩
  · rintro ⟨older, newer, rfl, covered, short⟩
    obtain ⟨pricedOlder, _⟩ := List.forall_mem_append.mp priced
    have paid : settled price balance (older ++ newer) = older := by
      rw [settled_append _ pricedOlder covered, settled_nil_iff.mpr short, List.append_nil]
    rw [paid]
    obtain ⟨_, _, apart⟩ := List.nodup_append.mp unique
    refine List.pairwise_append.mpr ⟨?_, ?_, ?_⟩
    · exact List.pairwise_of_forall_mem_list fun a memA b _ _ => memA
    · refine List.pairwise_of_forall_mem_list fun a _ b memB there => ?_
      exact absurd rfl (apart b there b memB)
    · exact fun a memA b _ _ => memA

end Telga.Library
