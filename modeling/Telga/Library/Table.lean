import Mathlib.Data.List.Nodup
import Mathlib.Algebra.BigOperators.Group.List.Basic
import Mathlib.Algebra.Ring.Int.Defs

namespace Telga.Library

variable {ρ : Type u} {κ : Type v}

/-- Rewrite every row that is hit, in place. -/
def update (hit : ρ → Bool) (change : ρ → ρ) (rows : List ρ) : List ρ :=
  rows.map fun row => if hit row then change row else row

/-- How many rows an update touches. -/
def changes (hit : ρ → Bool) (rows : List ρ) : Nat :=
  (rows.filter hit).length

/-- The sum of a column. -/
def total (weight : ρ → Int) (rows : List ρ) : Int :=
  (rows.map weight).sum

/-- No two rows share a key. -/
def Unique (key : ρ → κ) (rows : List ρ) : Prop :=
  (rows.map key).Nodup

theorem mem_update {hit : ρ → Bool} {change : ρ → ρ} {rows : List ρ} {row : ρ} :
    row ∈ update hit change rows ↔
      ∃ old ∈ rows, (if hit old then change old else old) = row :=
  List.mem_map

theorem update_mem (hit : ρ → Bool) (change : ρ → ρ) {rows : List ρ} {row : ρ}
    (mem : row ∈ rows) : (if hit row then change row else row) ∈ update hit change rows :=
  mem_update.mpr ⟨row, mem, rfl⟩

theorem find?_update {hit wanted : ρ → Bool} {change : ρ → ρ} {rows : List ρ}
    (keeps : ∀ row, wanted (change row) = wanted row) :
    (update hit change rows).find? wanted =
      (rows.find? wanted).map fun row => if hit row then change row else row := by
  unfold update
  rw [List.find?_map]
  have same : (wanted ∘ fun row => if hit row then change row else row) = wanted := by
    funext row
    simp only [Function.comp]
    split
    · exact keeps row
    · rfl
  rw [same]

/-- A row that no rewrite strikes is found as it was. -/
theorem find?_update_other {hit wanted : ρ → Bool} {change : ρ → ρ} (rows : List ρ)
    (keeps : ∀ row, wanted (change row) = wanted row)
    (misses : ∀ row, wanted row = true → hit row = false) :
    (update hit change rows).find? wanted = rows.find? wanted := by
  rw [find?_update keeps]
  refine (Option.map_congr fun row found => ?_).trans Option.map_id'
  rw [misses row (List.find?_some found)]
  rfl

/-- What a rewrite leaves alone of a row is found as it was. -/
theorem map_find?_update {hit wanted : ρ → Bool} {change : ρ → ρ} (rows : List ρ) (view : ρ → κ)
    (keeps : ∀ row, wanted (change row) = wanted row)
    (same : ∀ row, view (change row) = view row) :
    ((update hit change rows).find? wanted).map view = (rows.find? wanted).map view := by
  rw [find?_update keeps, Option.map_map]
  refine Option.map_congr fun row _ => ?_
  simp only [Function.comp]
  split
  · exact same row
  · rfl

theorem map_update {hit : ρ → Bool} {change : ρ → ρ} {key : ρ → κ} {rows : List ρ}
    (keeps : ∀ row, key (change row) = key row) :
    (update hit change rows).map key = rows.map key := by
  unfold update
  rw [List.map_map]
  refine List.map_congr_left fun row _ => ?_
  simp only [Function.comp]
  split
  · exact keeps row
  · rfl

theorem update_of_no_hit {hit : ρ → Bool} {change : ρ → ρ} {rows : List ρ}
    (none : ∀ row ∈ rows, hit row = false) : update hit change rows = rows := by
  unfold update
  conv => rhs; rw [← List.map_id rows]
  refine List.map_congr_left fun row mem => ?_
  simp [none row mem]

/-- Rows that are rewritten keep what a relation between the old and the new row says. -/
theorem update_related {hit : ρ → Bool} {change : ρ → ρ} (rows : List ρ) {R : ρ → ρ → Prop}
    (refl : ∀ row, R row row) (changes : ∀ row, hit row = true → R row (change row)) :
    (∀ old ∈ rows, ∃ row ∈ update hit change rows, R old row) ∧
    ∀ row ∈ update hit change rows, ∃ old ∈ rows, R old row := by
  have same : ∀ old : ρ, R old (if hit old then change old else old) := by
    intro old
    split
    · rename_i struck
      exact changes old struck
    · exact refl old
  refine ⟨fun old mem => ⟨_, update_mem hit change mem, same old⟩, fun row mem => ?_⟩
  obtain ⟨old, there, rfl⟩ := mem_update.mp mem
  exact ⟨old, there, same old⟩

theorem changes_of_no_hit {hit : ρ → Bool} {rows : List ρ}
    (none : ∀ row ∈ rows, hit row = false) : changes hit rows = 0 := by
  have missed : rows.filter hit = [] :=
    List.filter_eq_nil_iff.mpr fun row mem => by rw [none row mem]; exact Bool.false_ne_true
  rw [changes, missed]
  rfl

/-- Where no two rows yield one value, a value tells which row yielded it. -/
theorem filterMap_inj {read : ρ → Option κ} {rows : List ρ} {one two : ρ} {value : κ}
    (once : (rows.filterMap read).Nodup) (first : one ∈ rows) (second : two ∈ rows)
    (reads : read one = some value) (reads' : read two = some value) : one = two := by
  by_contra apart
  obtain ⟨front, back, rfl⟩ := List.mem_iff_append.mp first
  rw [List.filterMap_append, List.filterMap_cons_some reads] at once
  have unshared := (List.nodup_middle.mp once).notMem
  rcases List.mem_append.mp second with mem | mem
  · exact unshared (List.mem_append_left _ (List.mem_filterMap.mpr ⟨two, mem, reads'⟩))
  · rcases List.mem_cons.mp mem with rfl | mem
    · exact apart rfl
    · exact unshared (List.mem_append_right _ (List.mem_filterMap.mpr ⟨two, mem, reads'⟩))

/-- Two updates of the same rows are one. -/
theorem update_update {hit : ρ → Bool} {first second : ρ → ρ} {rows : List ρ}
    (keeps : ∀ row, hit (first row) = hit row) :
    update hit second (update hit first rows) = update hit (second ∘ first) rows := by
  unfold update
  rw [List.map_map]
  refine List.map_congr_left fun row _ => ?_
  by_cases struck : hit row
  · simp [struck, keeps]
  · simp [struck]

/-- When only the row added last is hit, only it changes. -/
theorem update_last (hit : ρ → Bool) (change : ρ → ρ) (rows : List ρ) (row : ρ)
    (others : ∀ old ∈ rows, hit old = false) (last : hit row = true) :
    update hit change (rows ++ [row]) = rows ++ [change row] := by
  have same : update hit change rows = rows := update_of_no_hit others
  unfold update at same ⊢
  rw [List.map_append, same]
  simp [last]

theorem Unique.update {hit : ρ → Bool} {change : ρ → ρ} {key : ρ → κ} {rows : List ρ}
    (unique : Unique key rows) (keeps : ∀ row, key (change row) = key row) :
    Unique key (update hit change rows) := by
  unfold Unique
  rw [map_update keeps]
  exact unique

theorem Unique.append {key : ρ → κ} {rows : List ρ} {row : ρ} (unique : Unique key rows)
    (absent : ∀ old ∈ rows, key old ≠ key row) : Unique key (rows ++ [row]) := by
  unfold Unique at *
  rw [List.map_append]
  refine List.Nodup.append unique (List.nodup_singleton _) ?_
  intro k hk hl
  obtain ⟨old, mem, rfl⟩ := List.mem_map.mp hk
  exact absent old mem (by simpa using hl)

/-- The row added last has a key of its own. -/
theorem Unique.apart {key : ρ → κ} {rows : List ρ} {row : ρ} (unique : Unique key (rows ++ [row])) :
    ∀ old ∈ rows, key old ≠ key row := by
  unfold Unique at unique
  rw [List.map_append] at unique
  intro old mem same
  have disjoint := (List.nodup_append.mp unique).2.2
  exact disjoint _ (List.mem_map_of_mem mem) _ (List.mem_singleton_self _) same

theorem Unique.eq {key : ρ → κ} {rows : List ρ} (unique : Unique key rows) {a b : ρ}
    (ha : a ∈ rows) (hb : b ∈ rows) (same : key a = key b) : a = b :=
  List.inj_on_of_nodup_map unique ha hb same

/-- Looking a row up by its key finds it. -/
theorem Unique.find? [DecidableEq κ] {key : ρ → κ} {rows : List ρ} (unique : Unique key rows)
    {row : ρ} (mem : row ∈ rows) : rows.find? (fun r => key r = key row) = some row := by
  cases found : rows.find? (fun r => key r = key row) with
  | none =>
    have missed := List.find?_eq_none.mp found row mem
    simp at missed
  | some other =>
    have same := List.find?_some found
    simp only [decide_eq_true_eq] at same
    rw [unique.eq (List.mem_of_find?_eq_some found) mem same]

/-- Looking up in a table that a row with a new key was added to. -/
theorem find?_added [DecidableEq κ] (key : ρ → κ) {rows : List ρ} {row : ρ}
    (absent : ∀ old ∈ rows, key old ≠ key row) (wanted : κ) :
    (rows ++ [row]).find? (fun r => key r = wanted) =
      if wanted = key row then some row else rows.find? (fun r => key r = wanted) := by
  rw [List.find?_append]
  by_cases same : wanted = key row
  · have missed : rows.find? (fun r => key r = wanted) = none := by
      refine List.find?_eq_none.mpr fun old mem hit => ?_
      rw [same] at hit
      exact absent old mem (by simpa using hit)
    rw [missed]
    simp [same]
  · have apart : key row ≠ wanted := fun hit => same hit.symm
    simp [apart, same]

/-- Only one row has a given key. -/
theorem Unique.filter [DecidableEq κ] {key : ρ → κ} {rows : List ρ} (unique : Unique key rows)
    {row : ρ} (mem : row ∈ rows) : rows.filter (fun r => key r = key row) = [row] := by
  induction rows with
  | nil => cases mem
  | cons head rest ih =>
    unfold Unique at unique
    rw [List.map_cons, List.nodup_cons] at unique
    obtain ⟨fresh, unique⟩ := unique
    rcases List.mem_cons.mp mem with rfl | mem
    · have rest_none : rest.filter (fun r => key r = key row) = [] := by
        refine List.filter_eq_nil_iff.mpr fun r hr => ?_
        intro same
        exact fresh (List.mem_map.mpr ⟨r, hr, by simpa using same⟩)
      simp [rest_none]
    · have apart : key head ≠ key row := by
        intro same
        exact fresh (same ▸ List.mem_map_of_mem mem)
      simp [apart, ih unique mem]

@[simp] theorem total_append {weight : ρ → Int} {rows more : List ρ} :
    total weight (rows ++ more) = total weight rows + total weight more := by
  simp [total]

@[simp] theorem total_nil {weight : ρ → Int} : total weight [] = 0 := rfl

@[simp] theorem total_cons {weight : ρ → Int} {row : ρ} {rows : List ρ} :
    total weight (row :: rows) = weight row + total weight rows := by
  simp [total]

/-- Updating a single row moves the sum by what the change did to that row. -/
theorem total_update {hit : ρ → Bool} {change : ρ → ρ} {weight : ρ → Int} {rows : List ρ}
    {row : ρ} (one : rows.filter hit = [row]) :
    total weight (update hit change rows) =
      total weight rows + (weight (change row) - weight row) := by
  have spread : ∀ rows : List ρ, total weight (update hit change rows) =
      total weight rows + total (fun r => weight (change r) - weight r) (rows.filter hit) := by
    intro rows
    induction rows with
    | nil => simp [update]
    | cons head rest ih =>
      simp only [update, List.map_cons, total_cons] at ih ⊢
      rw [ih]
      by_cases struck : hit head
      · simp only [struck, if_true, List.filter_cons_of_pos, total_cons]
        omega
      · simp only [struck, Bool.false_eq_true, if_false, not_false_eq_true,
          List.filter_cons_of_neg]
        omega
  rw [spread, one]
  simp

/-- Rows that all weigh alike weigh as much as they are many. -/
theorem total_const {rows : List ρ} {weight : ρ → Int} (alike : ∀ row ∈ rows, weight row = k) :
    total weight rows = k * rows.length := by
  induction rows with
  | nil => simp
  | cons row rest ih =>
    rw [total_cons, ih fun other mem => alike other (List.mem_cons_of_mem _ mem),
      alike row (List.mem_cons_self ..), List.length_cons]
    push_cast
    rw [Int.mul_add, Int.mul_one, Int.add_comm]

theorem total_filter {weight : ρ → Int} {wanted : ρ → Bool} {rows : List ρ} :
    total weight (rows.filter wanted) =
      total (fun row => if wanted row then weight row else 0) rows := by
  induction rows with
  | nil => rfl
  | cons head rest ih =>
    by_cases h : wanted head <;> simp [h, ih]

theorem total_nonneg {weight : ρ → Int} {rows : List ρ} (all : ∀ row ∈ rows, 0 ≤ weight row) :
    0 ≤ total weight rows := by
  induction rows with
  | nil => simp
  | cons head rest ih =>
    have first := all head (List.mem_cons_self ..)
    have others := ih fun row mem => all row (List.mem_cons_of_mem _ mem)
    rw [total_cons]
    omega

/-- Rows that a rewrite makes no heavier weigh together no more than before. -/
theorem total_update_le {hit : ρ → Bool} {change : ρ → ρ} {weight : ρ → Int} {rows : List ρ}
    (lighter : ∀ row ∈ rows, hit row = true → weight (change row) ≤ weight row) :
    total weight (update hit change rows) ≤ total weight rows := by
  induction rows with
  | nil => exact Int.le_refl _
  | cons head rest ih =>
    have first := lighter head (List.mem_cons_self ..)
    have others := ih fun row mem => lighter row (List.mem_cons_of_mem _ mem)
    simp only [update, List.map_cons, total_cons] at others ⊢
    by_cases struck : hit head
    · simp only [struck, if_true]
      have less := first struck
      omega
    · simp only [struck, Bool.false_eq_true, if_false]
      omega

end Telga.Library
