namespace Telga.Library

/-- Go on only when the condition holds. -/
def demand (condition : Prop) [Decidable condition] (fault : ε) : Except ε Unit :=
  if condition then .ok () else .error fault

/-- Go on with the value, or throw when there is none. -/
def expect (value : Option α) (fault : ε) : Except ε α :=
  match value with
  | some a => .ok a
  | none => .error fault

/-- One unit of work: its writes stand when it answers and are undone when it throws. -/
def commit (unit : σ → Except ε (σ × α)) (store : σ) : σ × Except ε α :=
  match unit store with
  | .ok (next, answer) => (next, .ok answer)
  | .error fault => (store, .error fault)

@[simp] theorem bind_ok {x : Except ε α} {f : α → Except ε β} {b : β} :
    (x >>= f) = .ok b ↔ ∃ a, x = .ok a ∧ f a = .ok b := by
  cases x with
  | error fault => simp [bind, Except.bind]
  | ok a => simp [bind, Except.bind]

/-- Two attempts that go on alike from whatever the first part yields are one. -/
theorem bind_congr_ok {x : Except ε α} {f g : α → Except ε β}
    (same : ∀ a, x = .ok a → f a = g a) : (x >>= f) = (x >>= g) := by
  cases x with
  | error fault => rfl
  | ok a => exact same a rfl

@[simp] theorem pure_ok {a b : α} : (pure a : Except ε α) = .ok b ↔ a = b := by
  simp [pure, Except.pure]

@[simp] theorem map_ok {x : Except ε α} {f : α → β} {b : β} :
    f <$> x = .ok b ↔ ∃ a, x = .ok a ∧ f a = b := by
  cases x with
  | error fault => simp [Functor.map, Except.map]
  | ok a => simp [Functor.map, Except.map]

@[simp] theorem demand_ok {condition : Prop} [Decidable condition] {fault : ε} {u : Unit} :
    demand condition fault = .ok u ↔ condition := by
  unfold demand
  split <;> simp_all

@[simp] theorem expect_ok {value : Option α} {fault : ε} {a : α} :
    expect value fault = .ok a ↔ value = some a := by
  cases value <;> simp [expect]

/-- Each value an attempt along a list yields is yielded by one of the list. -/
theorem mem_of_mapM_ok {f : α → Except ε β} {xs : List α} {ys : List β}
    (done : xs.mapM f = .ok ys) : ∀ y ∈ ys, ∃ x ∈ xs, f x = .ok y := by
  induction xs generalizing ys with
  | nil =>
    cases done
    rintro _ ⟨⟩
  | cons x xs ih =>
    rw [List.mapM_cons] at done
    obtain ⟨first, here, rest⟩ := bind_ok.mp done
    obtain ⟨others, there, same⟩ := bind_ok.mp rest
    cases same
    intro y mem
    rcases List.mem_cons.mp mem with rfl | mem
    · exact ⟨x, List.mem_cons_self, here⟩
    · obtain ⟨x', listed, own⟩ := ih there y mem
      exact ⟨x', List.mem_cons_of_mem x listed, own⟩

/-- What a unit of work leaves behind is either what it wrote or what it found. -/
theorem commit_cases (unit : σ → Except ε (σ × α)) (store : σ) :
    (∃ next answer, unit store = .ok (next, answer) ∧
      commit unit store = (next, .ok answer)) ∨
    (∃ fault, unit store = .error fault ∧ commit unit store = (store, .error fault)) := by
  unfold commit
  cases h : unit store with
  | error fault => exact .inr ⟨fault, rfl, rfl⟩
  | ok result => exact .inl ⟨result.1, result.2, rfl, rfl⟩

end Telga.Library
