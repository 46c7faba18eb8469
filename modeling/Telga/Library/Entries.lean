import Mathlib.Data.List.Basic
import Mathlib.Data.List.Nodup

namespace Telga.Library

/-- The entries of a record or a map, in the order their keys were first set in. -/
abbrev Entries (κ β : Type) := List (κ × β)

namespace Entries

variable {κ β : Type} [DecidableEq κ]

/-- Set a key, which keeps its place when it is there. -/
def put (entries : Entries κ β) (key : κ) (value : β) : Entries κ β :=
  if entries.any (·.1 = key) then
    entries.map fun entry => if entry.1 = key then (key, value) else entry
  else entries ++ [(key, value)]

def delete (entries : Entries κ β) (key : κ) : Entries κ β :=
  entries.filter (·.1 ≠ key)

variable {entries : Entries κ β} {key other : κ} {value : β}

theorem lookup_put : (entries.put key value).lookup key = some value := by
  unfold put
  split
  · rename_i there
    induction entries with
    | nil => simp at there
    | cons entry entries ih =>
      rw [List.map_cons]
      by_cases same : entry.1 = key
      · rw [if_pos same, List.lookup_cons_self]
      · have later : entries.any (·.1 = key) = true := by
          simpa [same] using there
        have differs : (key == entry.1) = false := by
          simpa using fun equal => same equal.symm
        rw [if_neg same, List.lookup_cons, differs]
        exact ih later
  · rename_i missing
    induction entries with
    | nil => simp
    | cons entry entries ih =>
      obtain ⟨differs, later⟩ : ¬ entry.1 = key ∧ ¬ entries.any (·.1 = key) = true := by
        simpa using missing
      have differs' : (key == entry.1) = false := by
        simpa using fun equal => differs equal.symm
      rw [List.cons_append, List.lookup_cons, differs']
      exact ih later

theorem lookup_put_other (differs : other ≠ key) :
    (entries.put key value).lookup other = entries.lookup other := by
  have apart : (other == key) = false := by simpa using differs
  unfold put
  split
  · induction entries with
    | nil => rfl
    | cons entry entries ih =>
      rename_i there
      rw [List.map_cons, List.lookup_cons, List.lookup_cons]
      have rest : (entries.map fun entry => if entry.1 = key then (key, value) else entry).lookup
          other = entries.lookup other := by
        clear there
        clear ih
        induction entries with
        | nil => rfl
        | cons entry entries ih =>
          rw [List.map_cons, List.lookup_cons, List.lookup_cons, ih]
          by_cases same : entry.1 = key
          · rw [if_pos same, same, apart]
          · rw [if_neg same]
      rw [rest]
      by_cases same : entry.1 = key
      · rw [if_pos same, same, apart]
      · rw [if_neg same]
  · induction entries with
    | nil => simp [List.lookup_cons, apart]
    | cons entry entries ih =>
      rename_i missing
      have later : ¬ entries.any (·.1 = key) = true := by
        intro there
        exact missing (by simp [there])
      rw [List.cons_append, List.lookup_cons, List.lookup_cons, ih later]

theorem lookup_delete_other (differs : other ≠ key) :
    (entries.delete key).lookup other = entries.lookup other := by
  induction entries with
  | nil => rfl
  | cons entry entries ih =>
    unfold delete at ih ⊢
    by_cases same : entry.1 = key
    · have apart : (other == entry.1) = false := by simpa [same] using differs
      rw [List.filter_cons_of_neg (by simpa using same), ih, List.lookup_cons, apart]
    · rw [List.filter_cons_of_pos (by simpa using same), List.lookup_cons, List.lookup_cons, ih]

theorem lookup_delete : (entries.delete key).lookup key = none := by
  apply List.lookup_eq_none_iff.mpr
  intro entry listed
  have differs := (List.mem_filter.mp listed).2
  simpa using fun equal => of_decide_eq_true differs equal.symm

/-- No key is there twice. -/
def Single (entries : Entries κ β) : Prop :=
  (entries.map Prod.fst).Nodup

theorem Single.put (single : Single entries) : Single (entries.put key value) := by
  unfold Single Entries.put
  split
  · rw [List.map_map]
    have keys : (Prod.fst ∘ fun entry : κ × β => if entry.1 = key then (key, value) else entry) =
        Prod.fst := by
      funext entry
      by_cases same : entry.1 = key
      · simp [same]
      · simp [same]
    rw [keys]
    exact single
  · rename_i missing
    rw [List.map_append, List.map_singleton, List.nodup_append]
    refine ⟨single, List.nodup_singleton key, ?_⟩
    intro other listed last same
    obtain ⟨entry, there, rfl⟩ := List.mem_map.mp listed
    rw [List.mem_singleton.mp same]
    intro equal
    exact missing (List.any_eq_true.mpr ⟨entry, there, decide_eq_true equal⟩)

omit [DecidableEq κ] in
theorem Single.filter (single : Single entries) (keep : κ × β → Bool) :
    Single (entries.filter keep) :=
  single.sublist (List.filter_sublist.map Prod.fst)

/-- A key that is kept is looked up as before, and one that is dropped is missing. -/
theorem Single.lookup_filter (single : Single entries) (keep : κ × β → Bool) (key : κ) :
    (entries.filter keep).lookup key =
      (entries.lookup key).filter fun value => keep (key, value) := by
  induction entries with
  | nil => rfl
  | cons entry entries ih =>
    obtain ⟨name, value⟩ := entry
    obtain ⟨absent, single⟩ := List.nodup_cons.mp single
    by_cases same : key = name
    · subst same
      rw [List.lookup_cons_self]
      by_cases kept : keep (key, value) = true
      · rw [List.filter_cons_of_pos kept, List.lookup_cons_self]
        simp [Option.filter, kept]
      · have missing : (entries.filter keep).lookup key = none := by
          apply List.lookup_eq_none_iff.mpr
          intro entry listed
          have there : entry.1 ∈ entries.map Prod.fst :=
            List.mem_map_of_mem (List.mem_of_mem_filter listed)
          have differs : key ≠ entry.1 := by
            intro equal
            rw [← equal] at there
            exact absent there
          simpa using differs
        rw [List.filter_cons_of_neg kept, missing]
        simp [Option.filter, kept]
    · have apart : (key == name) = false := by simpa using same
      rw [List.lookup_cons, apart]
      by_cases kept : keep (name, value) = true
      · rw [List.filter_cons_of_pos kept, List.lookup_cons, apart]
        exact ih single
      · rw [List.filter_cons_of_neg kept]
        exact ih single

end Entries

end Telga.Library
