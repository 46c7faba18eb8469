import Telga.Library.Run

namespace Telga.Library

/-- How one process of a kind works: what a single atomic step of it does to the shared store
and to the process, and when it has nothing left to do. -/
structure Machine (σ : Type u) (ι : Type v) (π : Type w) where
  advance : ι → σ → π → σ × π
  finished : π → Prop

/-- What can happen next: a process starts, one takes an atomic step, or one dies. -/
inductive Event (ι : Type v) (π : Type w)
  | start (process : π)
  | act (slot : Nat) (input : ι)
  | crash (slot : Nat)

/-- A shared store and the processes started on it, a dead one keeping its slot. -/
structure World (σ : Type u) (π : Type w) where
  store : σ
  procs : List (Option π)

variable {σ : Type u} {ι : Type v} {π : Type w} {κ : Type x}

/-- The process in a slot, if one was started there and still lives. -/
def World.proc (w : World σ π) (slot : Nat) : Option π :=
  (w.procs[slot]?).join

/-- Any number of processes interleaved: whichever comes next takes one atomic step. -/
inductive Pool (machine : Machine σ ι π) (admits : σ → π → Prop) (permits : ι → σ → π → Prop) :
    World σ π → Event ι π → World σ π → Prop
  | start : admits w.store p →
      Pool machine admits permits w (.start p) { w with procs := w.procs ++ [some p] }
  | act : w.proc slot = some p → permits input w.store p →
      machine.advance input w.store p = (store', p') →
      Pool machine admits permits w (.act slot input) ⟨store', w.procs.set slot (some p')⟩
  | crash : Pool machine admits permits w (.crash slot) { w with procs := w.procs.set slot none }

/-- Whether an event may happen in a pool. -/
def World.May (admits : σ → π → Prop) (permits : ι → σ → π → Prop) (w : World σ π) :
    Event ι π → Prop
  | .start p => admits w.store p
  | .act slot input =>
    match w.proc slot with
    | some p => permits input w.store p
    | none => False
  | .crash _ => True

/-- What an event makes of a pool. -/
def World.next (machine : Machine σ ι π) (w : World σ π) : Event ι π → World σ π
  | .start p => { w with procs := w.procs ++ [some p] }
  | .act slot input =>
    match w.proc slot with
    | some p =>
      let (store, p) := machine.advance input w.store p
      ⟨store, w.procs.set slot (some p)⟩
    | none => w
  | .crash slot => { w with procs := w.procs.set slot none }

instance (admits : σ → π → Prop) (permits : ι → σ → π → Prop) [∀ s p, Decidable (admits s p)]
    [∀ input s p, Decidable (permits input s p)] (w : World σ π) (event : Event ι π) :
    Decidable (w.May admits permits event) :=
  match event with
  | .start p => inferInstanceAs (Decidable (admits w.store p))
  | .act slot input =>
    match found : w.proc slot with
    | some p => decidable_of_iff (permits input w.store p) (by simp [World.May, found])
    | none => isFalse (by simp [World.May, found])
  | .crash _ => isTrue trivial

/-- Playing an event is a step of the pool. -/
theorem Pool.next {machine : Machine σ ι π} {admits : σ → π → Prop} {permits : ι → σ → π → Prop}
    (w : World σ π) (event : Event ι π) (may : w.May admits permits event) :
    Pool machine admits permits w event (w.next machine event) := by
  cases event with
  | start p => exact .start may
  | act slot input =>
    cases found : w.proc slot with
    | some p =>
      simp only [World.May, found] at may
      simp only [World.next, found]
      exact .act found may rfl
    | none =>
      simp only [World.May, found] at may
  | crash slot => exact .crash

/-- Events that may be played whichever processes may start are played where those they start
may. -/
theorem playable_admits {machine : Machine σ ι π} {admits : σ → π → Prop}
    {permits : ι → σ → π → Prop} {events : List (Event ι π)} {w : World σ π}
    (each : ∀ p, .start p ∈ events → ∀ s, admits s p)
    (playable : Playable (World.May (fun _ _ => True) permits) (World.next machine) events w) :
    Playable (World.May admits permits) (World.next machine) events w := by
  induction events generalizing w with
  | nil => trivial
  | cons event events ih =>
    obtain ⟨now, later⟩ := playable
    refine ⟨?_, ih (fun p mem => each p (List.mem_cons_of_mem _ mem)) later⟩
    cases event with
    | start p => exact each p (List.mem_cons_self ..) _
    | act slot input => exact now
    | crash slot => trivial

theorem World.proc_mem {w : World σ π} (h : w.proc slot = some p) : some p ∈ w.procs := by
  unfold World.proc at h
  cases found : w.procs[slot]? with
  | none => simp [found] at h
  | some held =>
    simp only [found, Option.join_some] at h
    subst h
    exact List.mem_of_getElem? found

/-- A step of a pool leaves the store alone or is an atomic step of one process. -/
theorem Pool.acted {machine : Machine σ ι π} {admits : σ → π → Prop} {permits : ι → σ → π → Prop}
    {w w' : World σ π} {event : Event ι π} (step : Pool machine admits permits w event w') :
    (w'.store = w.store ∧ ∀ slot input, event ≠ .act slot input) ∨
    ∃ slot input p, event = .act slot input ∧ w.proc slot = some p ∧ permits input w.store p ∧
      w' = ⟨(machine.advance input w.store p).1,
        w.procs.set slot (some (machine.advance input w.store p).2)⟩ := by
  cases step with
  | start _ => exact .inl ⟨rfl, by rintro _ _ ⟨⟩⟩
  | crash => exact .inl ⟨rfl, by rintro _ _ ⟨⟩⟩
  | act here permitted moved => exact .inr ⟨_, _, _, rfl, here, permitted, by rw [moved]⟩

/-- The process started last has the slot after all the others. -/
theorem World.proc_start (w : World σ π) (p : π) (slot : Nat) :
    World.proc { w with procs := w.procs ++ [some p] } slot =
      if slot = w.procs.length then some p else w.proc slot := by
  unfold World.proc
  rcases Nat.lt_trichotomy slot w.procs.length with before | rfl | after
  · rw [List.getElem?_append_left before, if_neg (Nat.ne_of_lt before)]
  · simp
  · rw [if_neg (Nat.ne_of_gt after), List.getElem?_eq_none (by simp; omega),
      List.getElem?_eq_none (Nat.le_of_lt after)]

theorem World.proc_crash (w : World σ π) (slot other : Nat) :
    World.proc { w with procs := w.procs.set slot none } other =
      if other = slot then none else w.proc other := by
  unfold World.proc
  rw [List.getElem?_set]
  split
  · rename_i same
    subst same
    split <;> simp
  · rename_i apart
    rw [if_neg fun same => apart same.symm]

theorem World.proc_act {w : World σ π} {p p' : π} (here : w.proc slot = some p) (store : σ)
    (other : Nat) :
    World.proc ⟨store, w.procs.set slot (some p')⟩ other =
      if other = slot then some p' else w.proc other := by
  unfold World.proc at here ⊢
  rw [List.getElem?_set]
  split
  · rename_i same
    subst same
    split
    · simp
    · rename_i outside
      rw [List.getElem?_eq_none (Nat.le_of_not_lt outside)] at here
      cases here
  · rename_i apart
    rw [if_neg fun same => apart same.symm]

/-- A slot with a process in it has been handed out. -/
theorem World.proc_lt {w : World σ π} {p : π} (here : w.proc slot = some p) :
    slot < w.procs.length := by
  unfold World.proc at here
  by_cases within : slot < w.procs.length
  · exact within
  · rw [List.getElem?_eq_none (Nat.le_of_not_lt within)] at here
    cases here

/-- A pool that admits fewer processes takes no other steps. -/
theorem Pool.widen {machine : Machine σ ι π} {admits admits' : σ → π → Prop}
    {permits : ι → σ → π → Prop} (wider : ∀ s p, admits s p → admits' s p)
    {w w' : World σ π} {event : Event ι π} (step : Pool machine admits permits w event w') :
    Pool machine admits' permits w event w' := by
  cases step with
  | start admitted => exact .start (wider _ _ admitted)
  | act here permitted moved => exact .act here permitted moved
  | crash => exact .crash

/-- The process that took a step is among the processes after it. -/
theorem World.mem_set {w : World σ π} {p p' : π} (here : w.proc slot = some p) :
    some p' ∈ w.procs.set slot (some p') :=
  List.mem_set (World.proc_lt here) _

/-- What the living processes show of themselves, where they show something. -/
def World.shown (view : π → Option κ) (w : World σ π) : List κ :=
  w.procs.filterMap fun held => held.bind view

theorem World.shown_start (view : π → Option κ) (w : World σ π) (p : π) :
    World.shown view { w with procs := w.procs ++ [some p] } = w.shown view ++ (view p).toList := by
  unfold World.shown
  rw [List.filterMap_append]
  cases shows : view p <;> simp [shows]

/-- A slot changes what is shown only by what its own process shows. -/
theorem World.shown_set (view : π → Option κ) (wanted : κ → Bool) (w : World σ π) (store : σ)
    (held : Option π) (inside : slot < w.procs.length) :
    (World.shown view ⟨store, w.procs.set slot held⟩).countP wanted +
        ((w.proc slot).bind view).toList.countP wanted =
      (w.shown view).countP wanted + (held.bind view).toList.countP wanted := by
  have here : w.proc slot = w.procs[slot] := by
    unfold World.proc
    rw [List.getElem?_eq_getElem inside, Option.join_some]
  have parts : w.procs = w.procs.take slot ++ w.proc slot :: w.procs.drop (slot + 1) := by
    rw [here, List.getElem_cons_drop, List.take_append_drop]
  have one : ∀ held : Option π, ∀ rest : List (Option π),
      ((held :: rest).filterMap fun held => held.bind view) =
        (held.bind view).toList ++ rest.filterMap fun held => held.bind view := by
    intro held rest
    cases shows : held.bind view <;> simp [shows]
  have before := congrArg
    (fun procs => (procs.filterMap fun held => held.bind view).countP wanted) parts
  unfold World.shown
  rw [List.set_eq_take_append_cons_drop, if_pos inside]
  simp only [List.filterMap_append, one, List.countP_append] at before ⊢
  omega

/-- The process that dies takes with it what it shows. -/
theorem World.shown_crash (view : π → Option κ) (wanted : κ → Bool) (w : World σ π) (slot : Nat) :
    (World.shown view { w with procs := w.procs.set slot none }).countP wanted +
        ((w.proc slot).bind view).toList.countP wanted = (w.shown view).countP wanted := by
  by_cases inside : slot < w.procs.length
  · exact w.shown_set view wanted w.store none inside
  · have outside := Nat.le_of_not_lt inside
    have nobody : w.proc slot = none := by
      unfold World.proc
      rw [List.getElem?_eq_none outside, Option.join_none]
    rw [nobody, List.set_eq_of_length_le outside]
    rfl

/-- What the process that took a step says of the step, if a living one took it. -/
def ofActor (read : ι → π → Option κ) (taken : Taken (World σ π) (Event ι π)) : Option κ :=
  match taken.event with
  | .act slot input => (taken.before.proc slot).bind (read input)
  | _ => none

theorem ofActor_act {read : ι → π → Option κ} {w w' : World σ π} {p : π} {input : ι}
    (here : w.proc slot = some p) : ofActor read ⟨w, .act slot input, w'⟩ = read input p := by
  simp only [ofActor, here, Option.bind_some]

/-- Nothing is said of a step that no process takes. -/
theorem ofActor_idle {read : ι → π → Option κ} {w w' : World σ π} {event : Event ι π}
    (idle : ∀ slot input, event ≠ .act slot input) : ofActor read ⟨w, event, w'⟩ = none := by
  cases event with
  | act slot input => exact absurd rfl (idle slot input)
  | start _ => rfl
  | crash _ => rfl

theorem ofActor_mono {read read' : ι → π → Option κ} {taken : Taken (World σ π) (Event ι π)}
    {value : κ} (implies : ∀ input p, read input p = some value → read' input p = some value)
    (holds : ofActor read taken = some value) : ofActor read' taken = some value := by
  unfold ofActor at holds ⊢
  split at holds
  · rename_i event
    cases here : taken.before.proc _ with
    | none =>
      rw [here] at holds
      cases holds
    | some p =>
      rw [here] at holds
      exact implies _ p holds
  · cases holds

/-- The store's invariant together with what every living process knows about the store. -/
def Secure (G : σ → Prop) (L : σ → π → Prop) (w : World σ π) : Prop :=
  G w.store ∧ ∀ p, some p ∈ w.procs → L w.store p

/-- Interference freedom: when each atomic step keeps the store's invariant and its own
process's knowledge, and what it does to the store leaves every other process's knowledge true,
every step of the pool keeps both. -/
theorem Secure.step {machine : Machine σ ι π} {admits : σ → π → Prop}
    {permits : ι → σ → π → Prop} {G : σ → Prop} {L : σ → π → Prop} {R : σ → σ → Prop}
    (enter : ∀ s p, G s → admits s p → L s p)
    (act : ∀ input s p, G s → L s p → permits input s p →
      G (machine.advance input s p).1 ∧
      L (machine.advance input s p).1 (machine.advance input s p).2 ∧
      R s (machine.advance input s p).1)
    (others : ∀ s s' p, G s → L s p → R s s' → L s' p)
    (w : World σ π) (event : Event ι π) (w' : World σ π) (secure : Secure G L w)
    (step : Pool machine admits permits w event w') : Secure G L w' := by
  obtain ⟨hG, hL⟩ := secure
  cases step with
  | start admitted =>
    refine ⟨hG, fun q hq => ?_⟩
    rcases List.mem_append.mp hq with hq | hq
    · exact hL q hq
    · simp only [List.mem_singleton, Option.some.injEq] at hq
      subst hq
      exact enter _ _ hG admitted
  | act here permitted moved =>
    obtain ⟨kept, known, relied⟩ := act _ _ _ hG (hL _ (World.proc_mem here)) permitted
    rw [moved] at kept known relied
    refine ⟨kept, fun q hq => ?_⟩
    rcases List.mem_or_eq_of_mem_set hq with hq | hq
    · exact others _ _ _ hG (hL q hq) relied
    · cases hq
      exact known
  | crash =>
    refine ⟨hG, fun q hq => ?_⟩
    rcases List.mem_or_eq_of_mem_set hq with hq | hq
    · exact hL q hq
    · cases hq

/-- A shared store and the one process that is running, if any. -/
structure Desk (σ : Type u) (π : Type w) where
  store : σ
  current : Option π

/-- Processes one after another: the next starts only when the last has finished or died. -/
inductive Solo (machine : Machine σ ι π) (admits : σ → π → Prop) (permits : ι → σ → π → Prop) :
    Desk σ π → Event ι π → Desk σ π → Prop
  | start : (∀ q, d.current = some q → machine.finished q) → admits d.store p →
      Solo machine admits permits d (.start p) ⟨d.store, some p⟩
  | act : d.current = some p → permits input d.store p →
      machine.advance input d.store p = (store', p') →
      Solo machine admits permits d (.act slot input) ⟨store', some p'⟩
  | crash : Solo machine admits permits d (.crash slot) ⟨d.store, none⟩

/-- Whether an event may happen when processes run one after another. -/
def Desk.May (machine : Machine σ ι π) (admits : σ → π → Prop) (permits : ι → σ → π → Prop)
    (d : Desk σ π) : Event ι π → Prop
  | .start p => (∀ q ∈ d.current, machine.finished q) ∧ admits d.store p
  | .act _ input =>
    match d.current with
    | some p => permits input d.store p
    | none => False
  | .crash _ => True

/-- What an event makes of the one process running. -/
def Desk.next (machine : Machine σ ι π) (d : Desk σ π) : Event ι π → Desk σ π
  | .start p => ⟨d.store, some p⟩
  | .act _ input =>
    match d.current with
    | some p =>
      let (store, p) := machine.advance input d.store p
      ⟨store, some p⟩
    | none => d
  | .crash _ => ⟨d.store, none⟩

instance (machine : Machine σ ι π) (admits : σ → π → Prop) (permits : ι → σ → π → Prop)
    [∀ q, Decidable (machine.finished q)] [∀ s p, Decidable (admits s p)]
    [∀ input s p, Decidable (permits input s p)] (d : Desk σ π) (event : Event ι π) :
    Decidable (d.May machine admits permits event) :=
  match event with
  | .start p =>
    inferInstanceAs (Decidable ((∀ q ∈ d.current, machine.finished q) ∧ admits d.store p))
  | .act _ input =>
    match found : d.current with
    | some p => decidable_of_iff (permits input d.store p) (by simp [Desk.May, found])
    | none => isFalse (by simp [Desk.May, found])
  | .crash _ => isTrue trivial

/-- Playing an event is a step of the one process running. -/
theorem Solo.next {machine : Machine σ ι π} {admits : σ → π → Prop} {permits : ι → σ → π → Prop}
    (d : Desk σ π) (event : Event ι π) (may : d.May machine admits permits event) :
    Solo machine admits permits d event (d.next machine event) := by
  cases event with
  | start p => exact .start (fun q running => may.1 q running) may.2
  | act slot input =>
    cases found : d.current with
    | some p =>
      simp only [Desk.May, found] at may
      simp only [Desk.next, found]
      exact .act found may rfl
    | none =>
      simp only [Desk.May, found] at may
  | crash slot => exact .crash

/-- The store's invariant together with what the running process knows about the store. -/
def Settled (G : σ → Prop) (L : σ → π → Prop) (d : Desk σ π) : Prop :=
  G d.store ∧ ∀ p, d.current = some p → L d.store p

/-- With one process at a time each step has only its own knowledge to keep. -/
theorem Settled.step {machine : Machine σ ι π} {admits : σ → π → Prop}
    {permits : ι → σ → π → Prop} {G : σ → Prop} {L : σ → π → Prop}
    (enter : ∀ s p, G s → admits s p → L s p)
    (act : ∀ input s p, G s → L s p → permits input s p →
      G (machine.advance input s p).1 ∧
      L (machine.advance input s p).1 (machine.advance input s p).2)
    (d : Desk σ π) (event : Event ι π) (d' : Desk σ π) (settled : Settled G L d)
    (step : Solo machine admits permits d event d') : Settled G L d' := by
  obtain ⟨hG, hL⟩ := settled
  cases step with
  | start _ admitted =>
    refine ⟨hG, fun q hq => ?_⟩
    cases hq
    exact enter _ _ hG admitted
  | act here permitted moved =>
    have kept := act _ _ _ hG (hL _ here) permitted
    rw [moved] at kept
    refine ⟨kept.1, fun q hq => ?_⟩
    cases hq
    exact kept.2
  | crash => exact ⟨hG, fun q hq => by cases hq⟩

end Telga.Library
