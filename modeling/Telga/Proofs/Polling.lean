import Telga.Application.Polling

namespace Telga.Proofs.Polling
open Application.Polling Library

variable {maxPolls id : Nat} {c : PollController} {past : List (Taken PollController PollEvent)}

/-- What is promised of a controller: at most one callback is scheduled and at most one fetch in
flight, `fetchOnce` is called no more often than the cap says, and once polling has stopped no
fetch begins until it is started again. -/
structure Polls (maxPolls : Nat) (past : List (Taken PollController PollEvent)) : Prop where
  one : ∀ t ∈ past, t.after.pending.length ≤ 1 ∧ t.after.fetching ≤ 1
  capped : past.countP (fun t => Begins t) ≤ maxPolls
  quiet : ∀ newer t older, past = newer ++ t :: older → t.after.running = false →
    (∀ u ∈ newer, u.event ≠ .start) → ∀ u ∈ newer, ¬ Begins u

/-- An attempt goes on with a callback of its own: it was not the last, and polling still runs. -/
def GoesOn (maxPolls : Nat) (t : Taken PollController PollEvent) : Prop :=
  (t.event = .decides true ∨ t.event = .retries) ∧ t.before.running = true ∧
    t.before.attempts < maxPolls

/-- A callback fires while no fetch is in flight, and an attempt that goes on finds no callback
scheduled. -/
structure Alone (maxPolls : Nat) (t : Taken PollController PollEvent) : Prop where
  fires : Begins t → t.before.fetching = 0
  goesOn : GoesOn maxPolls t → t.before.pending = []

/-- There is one chain of attempts: the scheduler holds the callback whose handle is kept, and it
fires within the cap. -/
structure Chain (maxPolls : Nat) (c : PollController) : Prop where
  held : c.pending = c.handle.toList
  open' : c.pending ≠ [] → c.running = true ∧ c.attempts < maxPolls
  fetching : c.fetching ≤ 1
  capped : c.attempts ≤ maxPolls

theorem Chain.one (chain : Chain maxPolls c) : c.pending.length ≤ 1 ∧ c.fetching ≤ 1 := by
  refine ⟨?_, chain.fetching⟩
  rw [chain.held]
  cases c.handle with
  | none => exact Nat.zero_le 1
  | some _ => exact Nat.le_refl 1

theorem Chain.stopped (chain : Chain maxPolls c) (stopped : c.running = false) :
    c.pending = [] := by
  by_cases idle : c.pending = []
  · exact idle
  · have running := (chain.open' idle).1
    rw [stopped] at running
    cases running

theorem Chain.stop (chain : Chain maxPolls c) (reason : PollStopReason) :
    Chain maxPolls (c.stop reason) := by
  unfold PollController.stop
  by_cases running : c.running = true
  · rw [if_pos running]
    have held := chain.held
    cases kept : c.handle with
    | none =>
      rw [kept] at held
      exact ⟨held, fun some => absurd held some, chain.fetching, chain.capped⟩
    | some handle =>
      rw [kept] at held
      have none : c.pending.erase handle = [] := by
        rw [held]
        exact List.erase_cons_head ..
      exact ⟨none, fun some => absurd none some, chain.fetching, chain.capped⟩
  · rw [if_neg running]
    exact chain

/-- With no callback scheduled, the next one is the only one. -/
theorem Chain.queue (chain : Chain maxPolls c) (idle : c.pending = []) :
    Chain maxPolls (c.queue maxPolls) := by
  unfold PollController.queue
  by_cases running : c.running = true
  · rw [if_pos running]
    by_cases capped : maxPolls ≤ c.attempts
    · rw [if_pos capped]
      exact chain.stop _
    · rw [if_neg capped]
      refine ⟨?_, fun _ => ⟨running, Nat.lt_of_not_le capped⟩, chain.fetching, chain.capped⟩
      change c.pending ++ [c.nextId] = [c.nextId]
      rw [idle]
      rfl
  · rw [if_neg running]
    exact chain

theorem Chain.start (chain : Chain maxPolls c) : Chain maxPolls (c.start maxPolls) := by
  unfold PollController.start
  by_cases running : c.running = true
  · rw [if_pos running]
    exact chain
  · rw [if_neg running]
    have idle := chain.stopped (Bool.eq_false_iff.mpr running)
    have started : Chain maxPolls { c with running := true } :=
      ⟨chain.held, fun some => absurd idle some, chain.fetching, chain.capped⟩
    exact started.queue idle

/-- The callback that fires is the only one, and its attempt is within the cap. -/
theorem Chain.fire (chain : Chain maxPolls c) (held : id ∈ c.pending) (alone : c.fetching = 0) :
    Chain maxPolls (c.fire id) := by
  obtain ⟨running, below⟩ := chain.open' (List.ne_nil_of_mem held)
  have cleared : c.pending.erase id = [] := by
    have kept := chain.held
    cases handle : c.handle with
    | none =>
      rw [handle] at kept
      rw [kept] at held
      cases held
    | some handle' =>
      rw [handle] at kept
      rw [kept] at held ⊢
      rw [List.mem_singleton.mp held]
      exact List.erase_cons_head ..
  have fired : c.fire id = { c with
      handle := none
      pending := c.pending.erase id
      attempts := c.attempts + 1
      fetching := c.fetching + 1 } := by
    simp only [PollController.fire, running, if_true]
  rw [fired]
  refine ⟨cleared, fun some => absurd cleared some, ?_, below⟩
  change c.fetching + 1 ≤ 1
  omega

/-- An attempt that has come to its end leaves the chain as it was, and goes on with it. -/
theorem Chain.goOn (chain : Chain maxPolls c)
    (alone : c.running = true → c.attempts < maxPolls → c.pending = []) :
    Chain maxPolls (c.queue maxPolls) := by
  by_cases running : c.running = true
  · by_cases below : c.attempts < maxPolls
    · exact chain.queue (alone running below)
    · unfold PollController.queue
      rw [if_pos running, if_pos (by omega)]
      exact chain.stop _
  · exact chain.queue (chain.stopped (Bool.eq_false_iff.mpr running))

/-- With a callback scheduled already, an attempt that goes on schedules a second. -/
theorem queue_second (running : c.running = true) (below : c.attempts < maxPolls) :
    (c.queue maxPolls).pending.length = c.pending.length + 1 := by
  have queued : c.queue maxPolls = { c with
      handle := some c.nextId
      pending := c.pending ++ [c.nextId]
      nextId := c.nextId + 1 } := by
    simp only [PollController.queue, running, if_true]
    rw [if_neg (by omega)]
  rw [queued]
  exact List.length_append

theorem alone_other {event : PollEvent} {c' : PollController}
    (waits : ∀ id, event ≠ .fire id)
    (ends : event ≠ .decides true ∧ event ≠ .retries) : Alone maxPolls ⟨c, event, c'⟩ where
  fires begins := by
    obtain ⟨_, id, fired⟩ := begins
    exact absurd fired (waits id)
  goesOn goes := by
    rcases goes.1 with decided | retried
    · exact absurd decided ends.1
    · exact absurd retried ends.2

/-- An attempt that comes to its end keeps the one chain exactly if no callback is scheduled. -/
theorem turn_goesOn {event : PollEvent} {ended : PollController} (chain : Chain maxPolls c)
    (goes : event = .decides true ∨ event = .retries)
    (same : ended.handle = c.handle ∧ ended.attempts = c.attempts ∧ ended.running = c.running ∧
      ended.pending = c.pending ∧ ended.fetching = c.fetching) :
    (Alone maxPolls ⟨c, event, ended.queue maxPolls⟩ → Chain maxPolls (ended.queue maxPolls)) ∧
      ((ended.queue maxPolls).pending.length ≤ 1 →
        Alone maxPolls ⟨c, event, ended.queue maxPolls⟩) := by
  obtain ⟨handle, attempts, running, pending, fetching⟩ := same
  have chained : Chain maxPolls ended := by
    refine ⟨?_, ?_, ?_, ?_⟩
    · rw [pending, handle]
      exact chain.held
    · rw [pending, running, attempts]
      exact chain.open'
    · rw [fetching]
      exact chain.fetching
    · rw [attempts]
      exact chain.capped
  constructor
  · intro alone
    apply chained.goOn
    intro runs below
    rw [pending]
    exact alone.goesOn ⟨goes, running ▸ runs, attempts ▸ below⟩
  · intro few
    refine ⟨?_, ?_⟩
    · intro ⟨_, id, fired⟩
      change event = .fire id at fired
      rcases goes with decided | retried
      · rw [decided] at fired
        cases fired
      · rw [retried] at fired
        cases fired
    · intro ⟨_, runs, below⟩
      change c.running = true at runs
      change c.attempts < maxPolls at below
      rw [queue_second (running ▸ runs) (attempts ▸ below), pending] at few
      exact List.eq_nil_of_length_eq_zero (Nat.le_zero.mp (Nat.le_of_succ_le_succ few))

/-- A step keeps the one chain if it is alone, and a second callback or fetch comes of any other. -/
theorem turn (event : PollEvent) (chain : Chain maxPolls c) (happens : Happens c event) :
    (Alone maxPolls ⟨c, event, event.run maxPolls c⟩ → Chain maxPolls (event.run maxPolls c)) ∧
      ((event.run maxPolls c).pending.length ≤ 1 ∧ (event.run maxPolls c).fetching ≤ 1 →
        Alone maxPolls ⟨c, event, event.run maxPolls c⟩) := by
  cases event with
  | start => exact ⟨fun _ => chain.start, fun _ => alone_other (by simp) (by simp)⟩
  | stop reason => exact ⟨fun _ => chain.stop reason, fun _ => alone_other (by simp) (by simp)⟩
  | fire id =>
    obtain ⟨running, _⟩ := chain.open' (List.ne_nil_of_mem happens)
    refine ⟨fun alone => chain.fire happens (alone.fires ⟨running, id, rfl⟩), fun one => ?_⟩
    have second := one.2
    simp only [PollEvent.run, PollController.fire, running, if_true] at second
    refine ⟨fun _ => ?_, fun goes => ?_⟩
    · change c.fetching = 0
      omega
    · rcases goes.1 with decided | retried
      · cases decided
      · cases retried
  | answers | rejects =>
    refine ⟨fun _ => ?_, fun _ => alone_other (by simp) (by simp)⟩
    exact ⟨chain.held, chain.open', Nat.le_trans (Nat.sub_le ..) chain.fetching, chain.capped⟩
  | decides carryOn =>
    have chained : Chain maxPolls { c with answered := c.answered - 1 } :=
      ⟨chain.held, chain.open', chain.fetching, chain.capped⟩
    cases carryOn with
    | false => exact ⟨fun _ => chained.stop _, fun _ => alone_other (by simp) (by simp)⟩
    | true =>
      have goes := @turn_goesOn maxPolls c (.decides true) { c with answered := c.answered - 1 }
        chain (.inl rfl) ⟨rfl, rfl, rfl, rfl, rfl⟩
      exact ⟨goes.1, fun one => goes.2 one.1⟩
  | throws =>
    refine ⟨fun _ => ?_, fun _ => alone_other (by simp) (by simp)⟩
    exact ⟨chain.held, chain.open', chain.fetching, chain.capped⟩
  | retries =>
    have goes := @turn_goesOn maxPolls c .retries { c with failed := c.failed - 1 }
      chain (.inr rfl) ⟨rfl, rfl, rfl, rfl, rfl⟩
    exact ⟨goes.1, fun one => goes.2 one.1⟩

theorem fresh_chain : Chain maxPolls {} :=
  ⟨rfl, fun some => absurd rfl some, Nat.zero_le 1, Nat.zero_le maxPolls⟩

/-- Two callbacks or two fetches come of a step that was not alone, and of no other. -/
theorem one_iff (run : PollRun maxPolls past c) :
    (∀ t ∈ past, t.after.pending.length ≤ 1 ∧ t.after.fetching ≤ 1) ↔
      ∀ t ∈ past, Alone maxPolls t := by
  refine run.within_iff (J := Chain maxPolls)
    (I := fun c => c.pending.length ≤ 1 ∧ c.fetching ≤ 1) ?_ ?_ ?_
  · intro c first
    rw [first]
    exact fresh_chain
  · intro c chain
    exact chain.one
  · intro c event c' chain step
    obtain ⟨happens, rfl⟩ := step
    exact turn event chain happens

theorem chain_of_alone (run : PollRun maxPolls past c) (alone : ∀ t ∈ past, Alone maxPolls t) :
    Chain maxPolls c := by
  induction run with
  | start first =>
    rw [first]
    exact fresh_chain
  | step _ step ih =>
    obtain ⟨now, earlier⟩ := List.forall_mem_cons.mp alone
    obtain ⟨happens, rfl⟩ := step
    exact (turn _ (ih earlier) happens).1 now

section Always

theorem stop_attempts (reason : PollStopReason) : (c.stop reason).attempts = c.attempts := by
  unfold PollController.stop
  split <;> rfl

theorem queue_attempts : (c.queue maxPolls).attempts = c.attempts := by
  unfold PollController.queue
  split
  · split
    · exact stop_attempts _
    · rfl
  · rfl

theorem start_attempts : (c.start maxPolls).attempts = c.attempts := by
  unfold PollController.start
  split
  · rfl
  · exact queue_attempts

/-- `fetchOnce` is called once for each attempt that is counted. -/
theorem run_attempts (event : PollEvent) :
    (event.run maxPolls c).attempts =
      c.attempts + if Begins ⟨c, event, event.run maxPolls c⟩ then 1 else 0 := by
  have none : ∀ event' c', (∀ id, event' ≠ .fire id) →
      ¬ Begins ⟨c, event', c'⟩ := fun _ _ waits ⟨_, id, fired⟩ => waits id fired
  cases event with
  | fire id =>
    by_cases running : c.running = true
    · rw [if_pos ⟨running, id, rfl⟩]
      simp only [PollEvent.run, PollController.fire, running, if_true]
    · rw [if_neg fun begins => running begins.1]
      simp only [PollEvent.run, PollController.fire, running, Bool.false_eq_true, if_false]
      rfl
  | start =>
    rw [if_neg (none _ _ (by simp))]
    exact start_attempts
  | stop reason =>
    rw [if_neg (none _ _ (by simp))]
    exact stop_attempts reason
  | decides carryOn =>
    rw [if_neg (none _ _ (by simp))]
    cases carryOn with
    | false => exact stop_attempts _
    | true => exact queue_attempts
  | retries =>
    rw [if_neg (none _ _ (by simp))]
    exact queue_attempts
  | answers | rejects | throws =>
    rw [if_neg (none _ _ (by simp))]
    rfl

theorem attempts_begun (run : PollRun maxPolls past c) :
    past.countP (fun t => Begins t) = c.attempts := by
  induction run with
  | start first =>
    rw [first]
    rfl
  | @step past c event c' _ step ih =>
    obtain ⟨_, rfl⟩ := step
    rw [run_attempts event, List.countP_cons, ih]
    simp only [decide_eq_true_eq]

theorem stop_still (reason : PollStopReason) (still : c.running = false) :
    (c.stop reason).running = false := by
  simp [PollController.stop, still]

theorem queue_still (still : c.running = false) : (c.queue maxPolls).running = false := by
  simp [PollController.queue, still]

/-- Nothing but `start` makes a controller run that has stopped. -/
theorem run_still (event : PollEvent) (other : event ≠ .start) (still : c.running = false) :
    (event.run maxPolls c).running = false := by
  cases event with
  | start => exact absurd rfl other
  | stop reason => exact stop_still reason still
  | fire id => simp [PollEvent.run, PollController.fire, still]
  | decides carryOn =>
    cases carryOn with
    | false => exact stop_still .resolved still
    | true => exact queue_still still
  | retries => exact queue_still still
  | answers | rejects | throws => exact still

/-- Once polling has stopped, it stays so until it is started again, and no fetch begins. -/
theorem quiet_since (run : PollRun maxPolls past c) :
    ∀ newer t older, past = newer ++ t :: older → t.after.running = false →
      (∀ u ∈ newer, u.event ≠ .start) → c.running = false ∧ ∀ u ∈ newer, ¬ Begins u := by
  induction run with
  | start _ =>
    intro newer t older split
    cases newer <;> cases split
  | @step past c event c' _ step ih =>
    obtain ⟨_, rfl⟩ := step
    intro newer t older split still none
    cases newer with
    | nil =>
      cases split
      exact ⟨still, by simp⟩
    | cons first rest =>
      obtain ⟨rfl, rfl⟩ : ⟨c, event, event.run maxPolls c⟩ = first ∧ past = rest ++ t :: older :=
        List.cons.inj split
      obtain ⟨other, earlier⟩ := List.forall_mem_cons.mp none
      obtain ⟨stopped, quiet⟩ := ih rest t older rfl still earlier
      refine ⟨run_still event other stopped, List.forall_mem_cons.mpr ⟨fun begins => ?_, quiet⟩⟩
      have running := begins.1
      change c.running = true at running
      rw [stopped] at running
      cases running

end Always

/-- A controller polls as promised exactly if no callback fires while a fetch is in flight, and no
attempt goes on while a callback is scheduled. -/
theorem polls_iff (run : PollRun maxPolls past c) :
    Polls maxPolls past ↔ ∀ t ∈ past, Alone maxPolls t := by
  constructor
  · intro polls
    exact (one_iff run).mp polls.one
  · intro alone
    refine ⟨(one_iff run).mpr alone, ?_, ?_⟩
    · rw [attempts_begun run]
      exact (chain_of_alone run alone).capped
    · intro newer t older split still none
      exact (quiet_since run newer t older split still none).2

/-- How many attempts have begun and not come to their end. -/
def unfinished (c : PollController) : Nat :=
  c.fetching + c.answered + c.failed

/-- Polling is started again only after every attempt has come to its end. -/
def Settles (t : Taken PollController PollEvent) : Prop :=
  t.event = .start → t.before.running = false → unfinished t.before = 0

theorem stop_unfinished (reason : PollStopReason) : unfinished (c.stop reason) = unfinished c := by
  unfold PollController.stop
  split <;> rfl

theorem queue_unfinished : unfinished (c.queue maxPolls) = unfinished c := by
  unfold PollController.queue
  split
  · split
    · exact stop_unfinished _
    · rfl
  · rfl

theorem stop_pending (reason : PollStopReason) (idle : c.pending = []) :
    (c.stop reason).pending = [] := by
  unfold PollController.stop
  split
  · cases c.handle with
    | none => exact idle
    | some handle =>
      change c.pending.erase handle = []
      rw [idle]
      rfl
  · exact idle

/-- One attempt after another: none is unfinished while a callback is scheduled. -/
structure InTurn (c : PollController) : Prop where
  one : unfinished c ≤ 1
  scheduled : c.pending ≠ [] → unfinished c = 0

theorem InTurn.alone (turns : InTurn c) {event : PollEvent} {c' : PollController}
    (happens : Happens c event) : Alone maxPolls ⟨c, event, c'⟩ where
  fires begins := by
    obtain ⟨_, id, fired⟩ := begins
    change event = .fire id at fired
    subst fired
    have none := turns.scheduled (List.ne_nil_of_mem happens)
    unfold unfinished at none
    change c.fetching = 0
    omega
  goesOn goes := by
    change c.pending = []
    by_cases idle : c.pending = []
    · exact idle
    · have none := turns.scheduled idle
      unfold unfinished at none
      rcases goes.1 with decided | retried
      · change event = .decides true at decided
        subst decided
        change 0 < c.answered at happens
        omega
      · change event = .retries at retried
        subst retried
        change 0 < c.failed at happens
        omega

/-- An attempt that has come to its end leaves none. -/
theorem InTurn.ended {ended : PollController} (turns : InTurn c)
    (fewer : unfinished ended + 1 = unfinished c) : InTurn (ended.queue maxPolls) := by
  have one := turns.one
  have none : unfinished (ended.queue maxPolls) = 0 := by
    rw [queue_unfinished]
    omega
  exact ⟨by omega, fun _ => none⟩

theorem InTurn.stop (turns : InTurn c) (reason : PollStopReason) : InTurn (c.stop reason) := by
  refine ⟨?_, fun some => ?_⟩
  · rw [stop_unfinished]
    exact turns.one
  · rw [stop_unfinished]
    exact turns.scheduled fun idle => some (stop_pending reason idle)

theorem InTurn.step (turns : InTurn c) (chain : Chain maxPolls c) {event : PollEvent}
    (happens : Happens c event) (settles : Settles ⟨c, event, event.run maxPolls c⟩) :
    InTurn (event.run maxPolls c) := by
  have alone : Alone maxPolls ⟨c, event, event.run maxPolls c⟩ := turns.alone happens
  have chain' := (turn event chain happens).1 alone
  have one := turns.one
  cases event with
  | start =>
    by_cases running : c.running = true
    · simp only [PollEvent.run, PollController.start, running, if_true]
      exact turns
    · have none := settles rfl (Bool.eq_false_iff.mpr running)
      have started : unfinished (c.start maxPolls) = 0 := by
        unfold PollController.start
        rw [if_neg running, queue_unfinished]
        exact none
      exact ⟨Nat.le_trans (Nat.le_of_eq started) (Nat.zero_le 1), fun _ => started⟩
  | stop reason => exact turns.stop reason
  | fire id =>
    obtain ⟨running, _⟩ := chain.open' (List.ne_nil_of_mem happens)
    have none := turns.scheduled (List.ne_nil_of_mem happens)
    have cleared : (c.fire id).pending = [] := by
      have held := chain'.held
      simp only [PollEvent.run, PollController.fire, running, if_true] at held ⊢
      exact held
    refine ⟨?_, fun some => absurd cleared some⟩
    simp only [PollEvent.run, PollController.fire, running, if_true, unfinished] at none ⊢
    omega
  | answers =>
    change 0 < c.fetching at happens
    have same : unfinished (PollEvent.answers.run maxPolls c) = unfinished c := by
      simp only [PollEvent.run, PollController.tell, unfinished]
      omega
    refine ⟨Nat.le_trans (Nat.le_of_eq same) one, fun some => same.trans (turns.scheduled some)⟩
  | rejects =>
    change 0 < c.fetching at happens
    have same : unfinished (PollEvent.rejects.run maxPolls c) = unfinished c := by
      simp only [PollEvent.run, PollController.tell, unfinished]
      omega
    refine ⟨Nat.le_trans (Nat.le_of_eq same) one, fun some => same.trans (turns.scheduled some)⟩
  | throws =>
    change 0 < c.answered at happens
    have same : unfinished (PollEvent.throws.run maxPolls c) = unfinished c := by
      simp only [PollEvent.run, PollController.tell, unfinished]
      omega
    refine ⟨Nat.le_trans (Nat.le_of_eq same) one, fun some => same.trans (turns.scheduled some)⟩
  | decides carryOn =>
    change 0 < c.answered at happens
    have fewer : unfinished { c with answered := c.answered - 1 } + 1 = unfinished c := by
      simp only [unfinished]
      omega
    cases carryOn with
    | true => exact turns.ended fewer
    | false =>
      have left : InTurn { c with answered := c.answered - 1 } :=
        ⟨by omega, fun _ => by omega⟩
      exact left.stop .resolved
  | retries =>
    change 0 < c.failed at happens
    have fewer : unfinished { c with failed := c.failed - 1 } + 1 = unfinished c := by
      simp only [unfinished]
      omega
    exact turns.ended fewer

/-- Where polling is only started again after every attempt has come to its end, every step is
alone. -/
theorem alone_of_settles (run : PollRun maxPolls past c) (settles : ∀ t ∈ past, Settles t) :
    ∀ t ∈ past, Alone maxPolls t := by
  have turns : InTurn c ∧ Chain maxPolls c ∧ ∀ t ∈ past, Alone maxPolls t := by
    induction run with
    | start first =>
      rw [first]
      exact ⟨⟨Nat.zero_le 1, fun _ => rfl⟩, fresh_chain, by simp⟩
    | @step past c event c' _ step ih =>
      obtain ⟨happens, rfl⟩ := step
      obtain ⟨now, earlier⟩ := List.forall_mem_cons.mp settles
      obtain ⟨turns, chain, before⟩ := ih earlier
      have alone : Alone maxPolls ⟨c, event, event.run maxPolls c⟩ := turns.alone happens
      have chain' := (turn event chain happens).1 alone
      refine ⟨?_, chain', List.forall_mem_cons.mpr ⟨alone, before⟩⟩
      exact turns.step chain happens now
  exact turns.2.2

/-- Events of one controller, one after another. -/
theorem played_run (events : List PollEvent)
    (playable : Playable Happens (fun c event => event.run maxPolls c) events {}) :
    PollRun maxPolls (played (fun c event => event.run maxPolls c) events [] {}).1
      (played (fun c event => event.run maxPolls c) events [] {}).2 := by
  have began : PollRun maxPolls [] {} := .start rfl
  exact began.play (fun _ _ happens => ⟨happens, rfl⟩) playable

/-- Polling is stopped and started again while a fetch is in flight, and the next callback begins a
second fetch beside it. -/
def restarted : List PollEvent :=
  [.start, .fire 1, .stop .stoppedByCaller, .start, .fire 2]

theorem restart_fetches_twice : ¬ ∀ maxPolls past c, PollRun maxPolls past c →
    Polls maxPolls past := by
  intro always
  have run := @played_run 5 restarted (by decide)
  have one := (always 5 _ _ run).one
  revert one
  decide

/-- A first value is not settled, the second is, and polling ends with two fetches of three. -/
theorem polls_resolved : Polls 3 (played (fun c event => event.run 3 c)
    [.start, .fire 1, .answers, .decides true, .fire 2, .answers, .decides false] [] {}).1 := by
  refine (polls_iff (played_run _ (by decide))).mpr ?_
  refine alone_of_settles (played_run _ (by decide)) ?_
  unfold Settles
  decide

end Telga.Proofs.Polling
