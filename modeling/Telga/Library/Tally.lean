import Mathlib.Data.List.Induction
import Mathlib.Data.List.Forall2
import Telga.Library.Attempt
import Telga.Library.Entries
import Telga.Library.Table

namespace Telga.Library

variable {ρ α κ : Type} [DecidableEq κ]

/-- Rows counted up under their keys, one entry a key. -/
def tally (key : ρ → κ) (add : α → ρ → α) (zero : α) (rows : List ρ) : Entries κ α :=
  rows.foldl (fun entries row =>
    entries.put (key row) (add ((entries.lookup (key row)).getD zero) row)) []

/-- Entries with more keys, those that were not there with nothing counted. -/
def including (zero : α) (keys : List κ) (entries : Entries κ α) : Entries κ α :=
  keys.foldl (fun entries key =>
    if (entries.lookup key).isSome then entries else entries.put key zero) entries

section Lookup

variable {key : ρ → κ} {add : α → ρ → α} {zero value : α} {rows : List ρ} {wanted : κ}
  {entries : Entries κ α} {keys : List κ}

theorem tally_snoc (row : ρ) : tally key add zero (rows ++ [row]) =
    (tally key add zero rows).put (key row)
      (add (((tally key add zero rows).lookup (key row)).getD zero) row) := by
  unfold tally
  rw [List.foldl_append]
  rfl

/-- What is counted under a key is counted over the rows of that key. -/
theorem lookup_tally : (tally key add zero rows).lookup wanted =
    if ∃ row ∈ rows, key row = wanted then
      some ((rows.filter fun row => key row = wanted).foldl add zero)
    else none := by
  induction rows using List.reverseRecOn with
  | nil => simp [tally]
  | append_singleton rows row ih =>
    rw [tally_snoc]
    by_cases same : key row = wanted
    · rw [same, Entries.lookup_put, if_pos ⟨row, by simp, same⟩, List.filter_append,
        List.foldl_append, ih]
      have last : [row].filter (fun row => key row = wanted) = [row] := by simp [same]
      rw [last]
      split
      · rfl
      · rename_i missing
        have none : rows.filter (fun row => key row = wanted) = [] := by
          apply List.filter_eq_nil_iff.mpr
          intro other mem hit
          exact missing ⟨other, mem, of_decide_eq_true hit⟩
        rw [none]
        rfl
    · have others : (rows ++ [row]).filter (fun row => key row = wanted) =
          rows.filter fun row => key row = wanted := by
        simp [same]
      rw [Entries.lookup_put_other (fun equal => same equal.symm), ih, others]
      simp [same]

theorem single_tally : (tally key add zero rows).Single := by
  induction rows using List.reverseRecOn with
  | nil => exact List.nodup_nil
  | append_singleton rows row ih =>
    rw [tally_snoc]
    exact ih.put

/-- A key is among the entries when it can be looked up. -/
theorem Entries.mem_keys : wanted ∈ entries.map Prod.fst ↔ (entries.lookup wanted).isSome = true := by
  induction entries with
  | nil => simp
  | cons entry entries ih =>
    rw [List.map_cons, List.mem_cons, List.lookup_cons, ih]
    by_cases same : wanted = entry.1
    · simp [same]
    · have apart : (wanted == entry.1) = false := by simpa using same
      simp [same, apart]

/-- Where no key is there twice, each entry is the one that its key finds. -/
theorem Entries.Single.lookup (single : entries.Single) (mem : (wanted, value) ∈ entries) :
    entries.lookup wanted = some value := by
  induction entries with
  | nil => cases mem
  | cons entry entries ih =>
    obtain ⟨absent, single⟩ := List.nodup_cons.mp single
    rcases List.mem_cons.mp mem with rfl | mem
    · exact List.lookup_cons_self
    · have apart : (wanted == entry.1) = false := by
        rw [beq_eq_false_iff_ne]
        intro same
        have there := List.mem_map_of_mem (f := Prod.fst) mem
        exact absent (same ▸ there)
      rw [List.lookup_cons, apart]
      exact ih single mem

theorem lookup_including : (including zero keys entries).lookup wanted =
    (entries.lookup wanted).or (if wanted ∈ keys then some zero else none) := by
  induction keys generalizing entries with
  | nil => simp [including]
  | cons key keys ih =>
    have step : including zero (key :: keys) entries = including zero keys
      (if (entries.lookup key).isSome then entries else entries.put key zero) := rfl
    rw [step, ih]
    by_cases same : wanted = key
    · subst same
      cases there : entries.lookup wanted with
      | some found => simp [there]
      | none => simp [Entries.lookup_put]
    · have others : (if (entries.lookup key).isSome = true then entries
          else entries.put key zero).lookup wanted = entries.lookup wanted := by
        split
        · rfl
        · exact Entries.lookup_put_other same
      rw [others]
      simp [same]

theorem single_including (single : entries.Single) : (including zero keys entries).Single := by
  induction keys generalizing entries with
  | nil => exact single
  | cons key keys ih =>
    have next : Entries.Single
        (if (entries.lookup key).isSome then entries else entries.put key zero) := by
      split
      · exact single
      · exact single.put
    exact ih next

end Lookup

/-- What is summed up key by key is summed up over the rows of those keys. -/
theorem total_groups {key : ρ → κ} {weight : ρ → Int} {rows : List ρ} {keys : List κ}
    (distinct : keys.Nodup) :
    total (fun wanted => total weight (rows.filter fun row => key row = wanted)) keys =
      total weight (rows.filter fun row => key row ∈ keys) := by
  induction keys with
  | nil => simp
  | cons first keys ih =>
    obtain ⟨absent, distinct⟩ := List.nodup_cons.mp distinct
    rw [total_cons, ih distinct, total_filter, total_filter, total_filter]
    clear ih
    induction rows with
    | nil => rfl
    | cons row rows each =>
      rw [total_cons, total_cons, total_cons]
      have here : (if decide (key row = first) then weight row else 0) +
          (if decide (key row ∈ keys) then weight row else 0) =
          if decide (key row ∈ first :: keys) then weight row else 0 := by
        by_cases same : key row = first
        · simp [same, absent]
        · simp [same]
      omega

/-- What is summed up over things that each stand for one key's rows is summed up over all rows of
their keys. -/
theorem total_by_key {τ : Type} {name : τ → κ} {measure : τ → Int} {key : ρ → κ}
    {weight : ρ → Int} {rows : List ρ} {things : List τ} (distinct : (things.map name).Nodup)
    (each : ∀ thing ∈ things,
      measure thing = total weight (rows.filter fun row => key row = name thing)) :
    total measure things = total weight (rows.filter fun row => key row ∈ things.map name) := by
  rw [← total_groups distinct]
  unfold total
  rw [List.map_map]
  exact congrArg List.sum (List.map_congr_left each)

/-- Of a list in an order, the first so many are those that few others stand before. -/
theorem mem_take_iff {before : ρ → ρ → Bool} {rows : List ρ} {row : ρ} {n : Nat}
    (sorted : rows.Pairwise fun a b => before a b = true)
    (asymm : ∀ a b, before a b = true → before b a = false) :
    row ∈ rows.take n ↔ row ∈ rows ∧ (rows.filter (before · row)).length < n := by
  have irrefl : ∀ a, before a a = false := by
    intro a
    cases own : before a a with
    | false => rfl
    | true => exact (asymm a a own).symm.trans own |>.symm
  induction rows generalizing n with
  | nil => simp
  | cons first rows ih =>
    obtain ⟨least, sorted⟩ := List.pairwise_cons.mp sorted
    cases n with
    | zero => simp
    | succ n =>
      have rest : row ∈ rows.take n ↔ _ := ih sorted
      rw [List.take_succ_cons, List.mem_cons, List.mem_cons, rest]
      by_cases same : row = first
      · have none : (first :: rows).filter (before · row) = [] := by
          apply List.filter_eq_nil_iff.mpr
          intro other mem
          rw [same]
          rcases List.mem_cons.mp mem with rfl | later
          · simp [irrefl other]
          · simp [asymm first other (least other later)]
        refine ⟨fun _ => ⟨.inl same, ?_⟩, fun _ => .inl same⟩
        rw [none]
        exact Nat.succ_pos n
      · have more : row ∈ rows → ((first :: rows).filter (before · row)).length =
            (rows.filter (before · row)).length + 1 := by
          intro mem
          have earlier := least row mem
          simp [earlier]
        constructor
        · intro listed
          rcases listed with own | ⟨mem, few⟩
          · exact absurd own same
          · rw [more mem]
            exact ⟨.inr mem, Nat.succ_lt_succ few⟩
        · intro ⟨listed, few⟩
          rcases listed with own | mem
          · exact absurd own same
          · rw [more mem] at few
            exact .inr ⟨mem, Nat.lt_of_succ_lt_succ few⟩

/-- What is wanted of the first so many is all that is wanted, when nothing wanted comes later. -/
theorem filter_take {rows : List ρ} {wanted : ρ → Bool} {n : Nat} (distinct : rows.Nodup)
    (early : ∀ row ∈ rows, wanted row = true → row ∈ rows.take n) :
    (rows.take n).filter wanted = rows.filter wanted := by
  have later : (rows.drop n).filter wanted = [] := by
    apply List.filter_eq_nil_iff.mpr
    intro row mem hit
    have first := early row (List.mem_of_mem_drop mem) hit
    rw [← List.take_append_drop n rows, List.nodup_append] at distinct
    exact distinct.2.2 row first row mem rfl
  have whole : rows.filter wanted = (rows.take n ++ rows.drop n).filter wanted := by
    rw [List.take_append_drop]
  rw [whole, List.filter_append, later, List.append_nil]

/-- An attempt along a list yields one value for each of the list. -/
theorem forall₂_of_mapM_ok {f : α → Except ε ρ} {xs : List α} {ys : List ρ}
    (done : xs.mapM f = .ok ys) : List.Forall₂ (fun x y => f x = .ok y) xs ys := by
  induction xs generalizing ys with
  | nil =>
    cases done
    exact .nil
  | cons x xs ih =>
    rw [List.mapM_cons] at done
    obtain ⟨first, here, rest⟩ := bind_ok.mp done
    obtain ⟨others, there, same⟩ := bind_ok.mp rest
    cases same
    exact .cons here (ih there)

theorem mapM_ok_of_each {f : α → Except ε ρ} {xs : List α} (each : ∀ x ∈ xs, ∃ y, f x = .ok y) :
    ∃ ys, xs.mapM f = .ok ys := by
  induction xs with
  | nil => exact ⟨[], rfl⟩
  | cons x xs ih =>
    obtain ⟨y, here⟩ := each x List.mem_cons_self
    obtain ⟨ys, there⟩ := ih fun x' mem => each x' (List.mem_cons_of_mem x mem)
    refine ⟨y :: ys, ?_⟩
    rw [List.mapM_cons]
    exact bind_ok.mpr ⟨y, here, bind_ok.mpr ⟨ys, there, rfl⟩⟩

end Telga.Library
