import Telga.Application.Worker

namespace Telga.Proofs.WorkerLoops
open Library Application.Worker

variable {policy : RecoveryWorkerPolicy} {w w' : RecoveryWorkerLoop}
  {past : List (Taken RecoveryWorkerLoop WorkerEvent)}

/-- A step that begins a sweep. -/
def Begins (t : Taken RecoveryWorkerLoop WorkerEvent) : Prop :=
  t.before.sweepsStarted < t.after.sweepsStarted

/-- A stop request, or a fatal failure. -/
def Stops : WorkerEvent → Prop
  | .requestStop _ => True
  | .fails _ category _ => category.isFatal = true
  | _ => False

/-- A failure that the worker backs off from. -/
def BacksOff : WorkerEvent → Bool
  | .fails _ category _ => !category.isFatal
  | _ => false

def Completes : WorkerEvent → Bool
  | .completes _ => true
  | _ => false

/-- The consecutive failures since the last sweep that completed, the latest step first. -/
def consecutiveFailures (past : List (Taken RecoveryWorkerLoop WorkerEvent)) : Nat :=
  (past.takeWhile fun t => !Completes t.event).countP fun t => BacksOff t.event

/-- A step with which the loop goes to sleep. -/
def Sleeps (t : Taken RecoveryWorkerLoop WorkerEvent) (delay : Number) : Prop :=
  t.after.point = .sleeping delay ∧ t.before.point ≠ .sleeping delay

instance (t : Taken RecoveryWorkerLoop WorkerEvent) (delay : Number) : Decidable (Sleeps t delay) :=
  inferInstanceAs (Decidable (_ ∧ _))

/-- A step that releases the worker's claims. -/
def Releases (t : Taken RecoveryWorkerLoop WorkerEvent) : Prop :=
  t.after.point = .released ∧ t.before.point ≠ .released

/-- What is promised of a worker: one sweep at a time, none after a stop, every sweep counted, the
claims kept until the timeout while a sweep is in flight, and delays between the interval and the
cap that do not fall as failures follow one another. -/
structure Supervised (policy : RecoveryWorkerPolicy)
    (past : List (Taken RecoveryWorkerLoop WorkerEvent)) : Prop where
  one : ∀ t ∈ past, t.after.inFlight.length ≤ 1
  counted : ∀ t ∈ past, t.after.sweepsStarted =
    t.after.sweepsCompleted + t.after.sweepsFailed + t.after.inFlight.length
  stopped : ∀ newer t older, past = newer ++ t :: older → Stops t.event →
    ∀ u ∈ newer, ¬ Begins u
  released : ∀ newer t older, past = newer ++ t :: older → Releases t → t.after.inFlight ≠ [] →
    ∃ u ∈ older, u.after.point = .draining u.after.monotonicMs ∧
      u.after.stopReason.isSome = true ∧ Number.less (.finite t.after.monotonicMs)
        (Number.add (.finite u.after.monotonicMs) policy.gracefulShutdownTimeoutMs) = false
  paced : ∀ newer t older, past = newer ++ t :: older → ∀ delay, Sleeps t delay →
    Number.atMost policy.recoveryIntervalMs delay = true ∧
      Number.atMost delay ((policy.failureBackoffMaximumMs.larger policy.recoveryIntervalMs).add
        policy.recoveryJitterMs) = true
  rising : ∀ newer t older newer' t' older', past = newer ++ t :: older →
    past = newer' ++ t' :: older' → ∀ delay delay', Sleeps t delay → Sleeps t' delay' →
      consecutiveFailures older ≤ consecutiveFailures older' →
        Number.atMost delay (delay'.add policy.recoveryJitterMs) = true

/-- A policy under which failures make the worker slower: its first backoff is at least the
interval, its multiplier is a number and its jitter a finite one; or the worker is disabled. -/
def Steady (policy : RecoveryWorkerPolicy) : Prop :=
  policy.recoveryWorkerEnabled = true →
    Number.atMost policy.recoveryIntervalMs policy.failureBackoffInitialMs = true ∧
      policy.failureBackoffMultiplier ≠ .nan ∧ ∃ jitter, policy.recoveryJitterMs = .finite jitter

section Accepted

/-- What a policy that is accepted allows: its settings are positive, and the maximum is no less than
the initial backoff. -/
structure Accepted (policy : RecoveryWorkerPolicy) : Prop where
  interval : Number.less (.finite 0) policy.recoveryIntervalMs = true
  initial : Number.less (.finite 0) policy.failureBackoffInitialMs = true
  maximum : Number.less (.finite 0) policy.failureBackoffMaximumMs = true
  timeout : Number.less (.finite 0) policy.gracefulShutdownTimeoutMs = true
  jitter : Number.less policy.recoveryJitterMs (.finite 0) = false
  cap : Number.less policy.failureBackoffMaximumMs policy.failureBackoffInitialMs = false
  multiplier : Number.less policy.failureBackoffMultiplier (.finite 1) = false

theorem accepted_of_ok (valid : validateWorkerPolicy policy = .ok policy) : Accepted policy := by
  unfold validateWorkerPolicy at valid
  cases found : (positiveSettings policy).find? fun setting =>
      !Number.less (.finite 0) setting.2 with
  | some setting =>
    rw [found] at valid
    cases valid
  | none =>
    rw [found] at valid
    have all := List.find?_eq_none.mp found
    have positive : ∀ setting ∈ positiveSettings policy,
        Number.less (.finite 0) setting.2 = true := by
      intro setting mem
      simpa using all setting mem
    simp only [positiveSettings, List.forall_mem_cons] at positive
    obtain ⟨interval, _, _, _, _, _, initial, maximum, timeout, _⟩ := positive
    dsimp only at valid
    by_cases jitter : Number.less policy.recoveryJitterMs (.finite 0) = true
    · rw [if_pos jitter] at valid
      cases valid
    by_cases limit : Number.less policy.recoveryBatchLimit (.finite 1) = true
    · rw [if_neg jitter, if_pos limit] at valid
      cases valid
    by_cases cap : Number.less policy.failureBackoffMaximumMs policy.failureBackoffInitialMs = true
    · rw [if_neg jitter, if_neg limit, if_pos cap] at valid
      cases valid
    by_cases multiplier : Number.less policy.failureBackoffMultiplier (.finite 1) = true
    · rw [if_neg jitter, if_neg limit, if_neg cap, if_pos multiplier] at valid
      cases valid
    exact ⟨interval, initial, maximum, timeout, Bool.eq_false_iff.mpr jitter,
      Bool.eq_false_iff.mpr cap, Bool.eq_false_iff.mpr multiplier⟩

theorem number_of_positive {a : Number} (positive : Number.less (.finite 0) a = true) :
    a ≠ .nan := by
  rintro rfl
  cases positive

end Accepted

section Delays

/-- The delay before jitter for some consecutive failures, none included. -/
def unjittered (policy : RecoveryWorkerPolicy) : Nat → Number
  | 0 => policy.recoveryIntervalMs
  | failures + 1 => baseBackoffMs policy (failures + 1)

/-- What the delays of a policy rest on. -/
structure Paces (policy : RecoveryWorkerPolicy) (jitter : ℚ) : Prop where
  accepted : Accepted policy
  initial : Number.atMost policy.recoveryIntervalMs policy.failureBackoffInitialMs = true
  multiplier : policy.failureBackoffMultiplier ≠ .nan
  bound : policy.recoveryJitterMs = .finite jitter
  nonneg : 0 ≤ jitter

theorem Paces.growing {jitter : ℚ} (paces : Paces policy jitter) :
    policy.failureBackoffMultiplier = .infinity ∨
      ∃ q, 1 ≤ q ∧ policy.failureBackoffMultiplier = .finite q := by
  have least := paces.accepted.multiplier
  have number := paces.multiplier
  cases multiplier : policy.failureBackoffMultiplier with
  | nan => exact absurd multiplier number
  | negInfinity =>
    rw [multiplier] at least
    cases least
  | infinity => exact .inl rfl
  | finite q =>
    rw [multiplier] at least
    exact .inr ⟨q, not_lt.mp (of_decide_eq_false least), rfl⟩

/-- Each delay before jitter is at least the one before it, and within the cap. -/
theorem Paces.step {jitter : ℚ} (paces : Paces policy jitter) (failures : Nat) :
    Number.atMost (unjittered policy failures) (unjittered policy (failures + 1)) = true := by
  have accepted := paces.accepted
  have maximum := number_of_positive accepted.maximum
  have cap := Number.atMost_of_not_less (number_of_positive accepted.initial) maximum accepted.cap
  have grows := Number.atMost_mul_pow accepted.initial paces.growing
  cases failures with
  | zero =>
    have first := (grows 0).1
    exact Number.atMost_smaller (Number.atMost_trans paces.initial first)
      (Number.atMost_trans paces.initial cap)
  | succ failures =>
    obtain ⟨above, more⟩ := grows failures
    have number := (Number.number_of_atMost above).2
    exact Number.atMost_smaller (Number.atMost_trans (Number.smaller_atMost_left number maximum) more)
      (Number.smaller_atMost_right number maximum)

theorem Paces.rising {jitter : ℚ} (paces : Paces policy jitter) {few many : Nat}
    (fewer : few ≤ many) :
    Number.atMost (unjittered policy few) (unjittered policy many) = true := by
  induction fewer with
  | refl =>
    have step := paces.step few
    exact Number.atMost_refl (Number.number_of_atMost step).1
  | step _ ih => exact Number.atMost_trans ih (paces.step _)

theorem Paces.capped {jitter : ℚ} (paces : Paces policy jitter) (failures : Nat) :
    Number.atMost (unjittered policy failures)
      (policy.failureBackoffMaximumMs.larger policy.recoveryIntervalMs) = true := by
  have accepted := paces.accepted
  have maximum := number_of_positive accepted.maximum
  have larger := Number.atMost_larger maximum (number_of_positive accepted.interval)
  cases failures with
  | zero => exact larger.2
  | succ failures =>
    have grows := (Number.atMost_mul_pow accepted.initial paces.growing failures).1
    exact Number.atMost_trans
      (Number.smaller_atMost_right (Number.number_of_atMost grows).2 maximum) larger.1

/-- A delay is the one before jitter and a jitter within its bound. -/
def Jittered (policy : RecoveryWorkerPolicy) (jitter : ℚ) (failures : Nat) (delay : Number) :
    Prop :=
  ∃ n : ℚ, 0 ≤ n ∧ n ≤ jitter ∧ delay = (unjittered policy failures).add (.finite n)

theorem jitterMs_within {jitter random : ℚ} (bound : policy.recoveryJitterMs = .finite jitter)
    (nonneg : 0 ≤ jitter) (draw : Draw random) :
    ∃ n : ℚ, 0 ≤ n ∧ n ≤ jitter ∧ jitterMs policy random = .finite n := by
  obtain ⟨low, high⟩ := draw
  refine ⟨(⌊random * jitter⌋ : ℤ), ?_, ?_, ?_⟩
  · exact_mod_cast Int.floor_nonneg.mpr (mul_nonneg low nonneg)
  · have below := Int.floor_le (random * jitter)
    nlinarith
  · simp only [jitterMs, bound, Number.mul, Number.floor]

theorem Jittered.paced {jitter : ℚ} (paces : Paces policy jitter) {failures : Nat} {delay : Number}
    (jittered : Jittered policy jitter failures delay) :
    Number.atMost policy.recoveryIntervalMs delay = true ∧
      Number.atMost delay ((policy.failureBackoffMaximumMs.larger policy.recoveryIntervalMs).add
        policy.recoveryJitterMs) = true := by
  obtain ⟨n, nonneg, few, rfl⟩ := jittered
  refine ⟨Number.atMost_add_right (paces.rising (Nat.zero_le failures)) nonneg, ?_⟩
  rw [paces.bound]
  exact Number.add_atMost_add (paces.capped failures) few

theorem Jittered.rising {jitter : ℚ} (paces : Paces policy jitter) {few many : Nat}
    {delay delay' : Number} (jittered : Jittered policy jitter few delay)
    (jittered' : Jittered policy jitter many delay') (fewer : few ≤ many) :
    Number.atMost delay (delay'.add policy.recoveryJitterMs) = true := by
  obtain ⟨n, _, within, rfl⟩ := jittered
  obtain ⟨n', nonneg', _, rfl⟩ := jittered'
  rw [paces.bound]
  exact Number.add_atMost_add (Number.atMost_add_right (paces.rising fewer) nonneg') within

end Delays

section Steps

variable {event : WorkerEvent} {startedMono : ℚ}

theorem drain_cases (policy : RecoveryWorkerPolicy) (startedMono : ℚ) (w : RecoveryWorkerLoop) :
    w.drain policy startedMono = { w with point := .draining startedMono } ∨
      w.drain policy startedMono = { w with point := .released } ∧
        (w.sweepInFlight = true → Number.less (.finite w.monotonicMs)
          (Number.add (.finite startedMono) policy.gracefulShutdownTimeoutMs) = false) := by
  unfold RecoveryWorkerLoop.drain
  by_cases waits : (w.sweepInFlight && Number.less (.finite w.monotonicMs)
      (Number.add (.finite startedMono) policy.gracefulShutdownTimeoutMs)) = true
  · exact .inl (if_pos waits)
  · refine .inr ⟨if_neg waits, fun flying => ?_⟩
    rw [flying, Bool.true_and] at waits
    exact Bool.eq_false_iff.mpr waits

/-- The timeout is positive: a shutdown that begins with a sweep in flight waits for it. -/
theorem shutdown_cases (accepted : Accepted policy) (w : RecoveryWorkerLoop) :
    ∃ status, w.shutdownGracefully policy =
        { w with status := status, point := .draining w.monotonicMs } ∨
      w.shutdownGracefully policy = { w with status := status, point := .released } ∧
        w.sweepInFlight = false := by
  refine ⟨if w.status = .failed then .failed else .stopping, ?_⟩
  unfold RecoveryWorkerLoop.shutdownGracefully
  rcases drain_cases policy w.monotonicMs
    { w with status := if w.status = .failed then .failed else .stopping } with waits | released
  · exact .inl waits
  · refine .inr ⟨released.1, ?_⟩
    cases flying : w.sweepInFlight with
    | false => rfl
    | true =>
      have late := released.2 flying
      have early := Number.less_add w.monotonicMs accepted.timeout
      rw [early] at late
      cases late

/-- What a step does to the sweeps: nothing, one that begins, or one that ends. -/
inductive Sweeps (w w' : RecoveryWorkerLoop) : Prop
  | same (inFlight : w'.inFlight = w.inFlight) (flag : w'.sweepInFlight = w.sweepInFlight)
      (started : w'.sweepsStarted = w.sweepsStarted)
      (ended : w'.sweepsCompleted + w'.sweepsFailed = w.sweepsCompleted + w.sweepsFailed)
  | begins (caller : Caller) (idle : w.sweepInFlight = false) (goes : w.stopReason = none)
      (inFlight : w'.inFlight = caller :: w.inFlight) (flag : w'.sweepInFlight = true)
      (started : w'.sweepsStarted = w.sweepsStarted + 1)
      (ended : w'.sweepsCompleted + w'.sweepsFailed = w.sweepsCompleted + w.sweepsFailed)
  | ends (caller : Caller) (mem : caller ∈ w.inFlight)
      (inFlight : w'.inFlight = w.inFlight.erase caller) (flag : w'.sweepInFlight = false)
      (started : w'.sweepsStarted = w.sweepsStarted)
      (ended : w'.sweepsCompleted + w'.sweepsFailed = w.sweepsCompleted + w.sweepsFailed + 1)

theorem requestStop_kept (reason : ShutdownReason) (w : RecoveryWorkerLoop) :
    ∃ kept, w.requestStop reason = { w with stopReason := some kept } := by
  unfold RecoveryWorkerLoop.requestStop
  cases stop : w.stopReason with
  | none => exact ⟨reason, rfl⟩
  | some kept =>
    refine ⟨kept, ?_⟩
    simp only []
    rw [← stop]

theorem drain_turns (startedMono : ℚ) (w : RecoveryWorkerLoop) :
    ∃ point, w.drain policy startedMono = { w with point := point } := by
  rcases drain_cases policy startedMono w with waits | ⟨released, _⟩
  · exact ⟨_, waits⟩
  · exact ⟨_, released⟩

theorem shutdown_turns (w : RecoveryWorkerLoop) :
    ∃ status point, w.shutdownGracefully policy = { w with status := status, point := point } := by
  obtain ⟨point, turned⟩ := @drain_turns policy w.monotonicMs
    { w with status := if w.status = .failed then .failed else .stopping }
  exact ⟨_, point, turned⟩

theorem runOnce_cases (caller : Caller) (w : RecoveryWorkerLoop) :
    (∃ skipped, w.runOnce caller = { w with sweepsSkipped := skipped }) ∨
      w.sweepInFlight = false ∧ w.stopReason = none ∧
        w.runOnce caller =
          { w with
            sweepInFlight := true
            sweepsStarted := w.sweepsStarted + 1
            inFlight := caller :: w.inFlight } := by
  unfold RecoveryWorkerLoop.runOnce
  by_cases flying : w.sweepInFlight = true
  · exact .inl ⟨_, if_pos flying⟩
  · rw [if_neg flying]
    by_cases stop : w.stopReason.isSome = true
    · exact .inl ⟨w.sweepsSkipped, if_pos stop⟩
    · exact .inr ⟨Bool.eq_false_iff.mpr flying, by simpa using stop, if_neg stop⟩

/-- An event that ends no sweep, and stops nothing. -/
structure Ordinary (event : WorkerEvent) : Prop where
  completes : Completes event = false
  backsOff : BacksOff event = false
  stops : ¬ Stops event

/-- What a step does: a turn of the loop or of the clock, the start of a sweep, one of the ends that
it can have, or a stop request. -/
inductive Does (policy : RecoveryWorkerPolicy) (w : RecoveryWorkerLoop) (event : WorkerEvent) :
    RecoveryWorkerLoop → Prop
  | turns (status : WorkerStatus) (scheduled skipped : Nat) (time : ℚ) (point : LoopPoint)
      (ordinary : Ordinary event) : Does policy w event
        { w with
          status := status, sweepsScheduled := scheduled, sweepsSkipped := skipped
          monotonicMs := time, point := point }
  | begins (caller : Caller) (status : WorkerStatus) (point : LoopPoint)
      (idle : w.sweepInFlight = false) (goes : w.stopReason = none) (ordinary : Ordinary event) :
      Does policy w event
        { w with
          status := status, point := point, sweepInFlight := true
          sweepsStarted := w.sweepsStarted + 1, inFlight := caller :: w.inFlight }
  | completes (caller : Caller) (mem : caller ∈ w.inFlight) (completed : event = .completes caller) :
      Does policy w event (w.recordCompleted.sweepEnds caller)
  | fails (caller : Caller) (category : FailureCategory) (random : ℚ) (mem : caller ∈ w.inFlight)
      (draw : Draw random) (mild : category.isFatal = false)
      (failed : event = .fails caller category random) : Does policy w event
        ({ w with
          sweepsFailed := w.sweepsFailed + 1, status := .backingOff
          backoff := advanceBackoff policy w.backoff random }.sweepEnds caller)
  | dies (caller : Caller) (category : FailureCategory) (random : ℚ) (kept : ShutdownReason)
      (mem : caller ∈ w.inFlight) (fatal : category.isFatal = true)
      (failed : event = .fails caller category random) : Does policy w event
        ({ w with
          sweepsFailed := w.sweepsFailed + 1, status := .failed
          stopReason := some kept }.sweepEnds caller)
  | stops (reason kept : ShutdownReason) (requested : event = .requestStop reason) :
      Does policy w event { w with stopReason := some kept }

theorem shutdown_does (ordinary : Ordinary event) (w : RecoveryWorkerLoop) :
    Does policy w event (w.shutdownGracefully policy) := by
  obtain ⟨status, point, turned⟩ := @shutdown_turns policy w
  rw [turned]
  exact .turns status w.sweepsScheduled w.sweepsSkipped w.monotonicMs point ordinary

theorem iterate_does (ordinary : Ordinary event) (status : WorkerStatus) :
    Does policy w event (RecoveryWorkerLoop.iterate policy { w with status := status }) := by
  unfold RecoveryWorkerLoop.iterate
  by_cases stop : w.stopReason.isSome = true
  · rw [if_pos stop]
    obtain ⟨status', point, turned⟩ := @shutdown_turns policy { w with status := status }
    rw [turned]
    exact .turns status' w.sweepsScheduled w.sweepsSkipped w.monotonicMs point ordinary
  · rw [if_neg stop]
    rcases runOnce_cases .loop { w with status := status } with ⟨skipped, same⟩ | ⟨idle, goes, begun⟩
    · rw [same]
      exact .turns status w.sweepsScheduled skipped w.monotonicMs _ ordinary
    · rw [begun]
      exact .begins .loop status _ idle goes ordinary

theorem does (happens : Happens w event) : Does policy w event (event.run policy w) := by
  cases event with
  | start random =>
    have ordinary : Ordinary (.start random) := ⟨rfl, rfl, id⟩
    change Does policy w _ (w.start policy random)
    unfold RecoveryWorkerLoop.start
    by_cases enabled : policy.recoveryWorkerEnabled = true
    · rw [if_pos enabled]
      by_cases initial : policy.runInitialSweepOnStart = true
      · rw [if_pos initial]
        exact iterate_does ordinary .running
      · rw [if_neg initial]
        exact .turns .running w.sweepsScheduled w.sweepsSkipped w.monotonicMs _ ordinary
    · rw [if_neg enabled]
      exact .turns .stopped w.sweepsScheduled w.sweepsSkipped w.monotonicMs _ ordinary
  | wakes => exact iterate_does ⟨rfl, rfl, id⟩ w.status
  | runOnce =>
    have ordinary : Ordinary .runOnce := ⟨rfl, rfl, id⟩
    change Does policy w _ (w.runOnce .other)
    rcases runOnce_cases .other w with ⟨skipped, same⟩ | ⟨idle, goes, begun⟩
    · rw [same]
      exact .turns w.status w.sweepsScheduled skipped w.monotonicMs w.point ordinary
    · rw [begun]
      exact .begins .other w.status w.point idle goes ordinary
  | completes caller => exact .completes caller happens rfl
  | fails caller category random =>
    change Does policy w _ ((w.recordFailure policy category random).sweepEnds caller)
    unfold RecoveryWorkerLoop.recordFailure
    by_cases fatal : category.isFatal = true
    · rw [if_pos fatal]
      obtain ⟨kept, stopped⟩ := requestStop_kept .fatalFailure
        { w with sweepsFailed := w.sweepsFailed + 1, status := .failed }
      rw [stopped]
      exact .dies caller category random kept happens.1 fatal rfl
    · rw [if_neg fatal]
      exact .fails caller category random happens.1 happens.2 (Bool.eq_false_iff.mpr fatal) rfl
  | goesOn random =>
    have ordinary : Ordinary (.goesOn random) := ⟨rfl, rfl, id⟩
    change Does policy w _ (w.goOn policy random)
    unfold RecoveryWorkerLoop.goOn
    by_cases stop : w.stopReason.isSome = true
    · rw [if_pos stop]
      exact shutdown_does ordinary w
    · rw [if_neg stop]
      exact .turns w.status _ w.sweepsSkipped w.monotonicMs _ ordinary
  | requestStop reason =>
    obtain ⟨kept, stopped⟩ := requestStop_kept reason w
    change Does policy w _ (w.requestStop reason)
    rw [stopped]
    exact .stops reason kept rfl
  | checks =>
    have ordinary : Ordinary .checks := ⟨rfl, rfl, id⟩
    obtain ⟨startedMono, draining⟩ := happens
    obtain ⟨point, turned⟩ := @drain_turns policy startedMono w
    simp only [WorkerEvent.run, draining]
    rw [turned]
    exact .turns w.status w.sweepsScheduled w.sweepsSkipped w.monotonicMs point ordinary
  | settles =>
    exact .turns _ w.sweepsScheduled w.sweepsSkipped w.monotonicMs .ended ⟨rfl, rfl, id⟩
  | passes ms =>
    exact .turns w.status w.sweepsScheduled w.sweepsSkipped _ w.point ⟨rfl, rfl, id⟩

theorem Does.sweeps (does : Does policy w event w') : Sweeps w w' := by
  cases does with
  | turns => exact .same rfl rfl rfl rfl
  | begins caller _ _ idle goes => exact .begins caller idle goes rfl rfl rfl rfl
  | completes caller mem => exact .ends caller mem rfl rfl rfl (Nat.add_right_comm ..)
  | fails caller _ _ mem | dies caller _ _ _ mem => exact .ends caller mem rfl rfl rfl rfl
  | stops => exact .same rfl rfl rfl rfl

end Steps

/-- At most one sweep is in flight, the flag says whether, and every sweep is counted. -/
structure Sound (w : RecoveryWorkerLoop) : Prop where
  flagged : w.inFlight.length = if w.sweepInFlight then 1 else 0
  counted : w.sweepsStarted = w.sweepsCompleted + w.sweepsFailed + w.inFlight.length

theorem Sound.one (sound : Sound w) : w.inFlight.length ≤ 1 := by
  rw [sound.flagged]
  split <;> omega

theorem Sound.flying (sound : Sound w) (some : w.inFlight ≠ []) : w.sweepInFlight = true := by
  have flagged := sound.flagged
  cases flag : w.sweepInFlight with
  | true => rfl
  | false =>
    rw [flag] at flagged
    exact absurd (List.length_eq_zero_iff.mp flagged) some

theorem Sweeps.sound (sweeps : Sweeps w w') (sound : Sound w) : Sound w' := by
  have flagged := sound.flagged
  have counted := sound.counted
  cases sweeps with
  | same inFlight flag started ended =>
    refine ⟨?_, ?_⟩
    · rw [inFlight, flag]
      exact flagged
    · rw [inFlight, started, ended]
      exact counted
  | begins caller idle goes inFlight flag started ended =>
    rw [idle] at flagged
    refine ⟨?_, ?_⟩
    · rw [inFlight, flag, List.length_cons, flagged]
      rfl
    · rw [inFlight, started, ended, counted, List.length_cons]
      omega
  | ends caller mem inFlight flag started ended =>
    have one := sound.one
    have some := List.length_pos_of_mem mem
    have none : w'.inFlight.length = 0 := by
      rw [inFlight, List.length_erase_of_mem mem]
      omega
    refine ⟨?_, ?_⟩
    · rw [none, flag]
      rfl
    · rw [none, started, ended, counted]
      omega

theorem sound_of_run (run : WorkerRun policy past w) : Sound w := by
  apply run.invariant
  · rintro _ rfl
    exact ⟨rfl, rfl⟩
  · intro w event w' sound taken
    obtain ⟨happens, rfl⟩ := taken
    exact (does happens).sweeps.sound sound

section Stopping

variable {event : WorkerEvent}

/-- A stop request or a fatal failure stops the worker; nothing else touches its stop reason. -/
theorem Does.stopReason (does : Does policy w event w') :
    ¬ Stops event ∧ w'.stopReason = w.stopReason ∨ w'.stopReason.isSome = true := by
  cases does with
  | turns _ _ _ _ _ ordinary | begins _ _ _ _ _ ordinary => exact .inl ⟨ordinary.stops, rfl⟩
  | completes caller _ completed =>
    rw [completed]
    exact .inl ⟨id, rfl⟩
  | fails caller category random _ _ mild failed =>
    rw [failed]
    exact .inl ⟨Bool.eq_false_iff.mp mild, rfl⟩
  | dies | stops => exact .inr rfl

theorem Does.stopped (does : Does policy w event w') (stops : Stops event) :
    w'.stopReason.isSome = true := by
  rcases does.stopReason with ⟨goesOn, _⟩ | stopped
  · exact absurd stops goesOn
  · exact stopped

/-- A worker that has stopped stays so. -/
theorem stopped_since (run : WorkerRun policy past w) {t : Taken RecoveryWorkerLoop WorkerEvent}
    (mem : t ∈ past) (stopped : t.after.stopReason.isSome = true) :
    w.stopReason.isSome = true := by
  have since := run.since (J := fun _ => True)
    (R := fun w w' => w.stopReason.isSome = true → w'.stopReason.isSome = true)
    (fun _ => id)
    (by
      intro a b c first second stopped
      exact second (first stopped))
    (fun _ _ => trivial) (fun _ _ _ _ _ => trivial)
    (by
      intro w event w' _ taken stopped
      obtain ⟨happens, rfl⟩ := taken
      rcases (does happens).stopReason with ⟨_, same⟩ | stopped'
      · rw [same]
        exact stopped
      · exact stopped')
  exact (since t mem).2 stopped

theorem begins_goes {t : Taken RecoveryWorkerLoop WorkerEvent} (sweeps : Sweeps t.before t.after)
    (begins : Begins t) : t.before.stopReason = none := by
  change t.before.sweepsStarted < t.after.sweepsStarted at begins
  cases sweeps with
  | same inFlight flag started ended => omega
  | begins caller idle goes inFlight flag started ended => exact goes
  | ends caller mem inFlight flag started ended => omega

theorem none_begins (run : WorkerRun policy past w) {t u : Taken RecoveryWorkerLoop WorkerEvent}
    {newer older : List (Taken RecoveryWorkerLoop WorkerEvent)}
    (split : past = newer ++ t :: older) (stops : Stops t.event) (mem : u ∈ newer) :
    ¬ Begins u := by
  intro begins
  obtain ⟨later, earlier, rfl⟩ := List.append_of_mem mem
  rw [split, List.append_assoc, List.cons_append] at run
  obtain ⟨before, happens, after⟩ := run.earlier
  have sweeps : Sweeps u.before u.after := by
    rw [after]
    exact (does happens).sweeps
  have goes := begins_goes sweeps begins
  have stopped : t.after.stopReason.isSome = true := by
    obtain ⟨_, happens, left⟩ := before.earlier
    rw [left]
    exact (does happens).stopped stops
  have still := stopped_since before (List.mem_append_right _ (List.mem_cons_self ..)) stopped
  rw [goes] at still
  cases still

end Stopping

section Waiting

variable {event : WorkerEvent} {startedMono : ℚ}

/-- What a step does to the loop's place: it stays, it begins to wait for a sweep, it releases the
claims, it sleeps for the next delay, or it is somewhere else. -/
inductive Moves (policy : RecoveryWorkerPolicy) (w w' : RecoveryWorkerLoop) : Prop
  | stays (point : w'.point = w.point)
  | drains (point : w'.point = .draining w.monotonicMs) (stopped : w.stopReason.isSome = true)
      (same : w' = { w with status := w'.status, point := w'.point })
  | releases (point : w'.point = .released)
      (same : w' = { w with status := w'.status, point := w'.point })
      (free : w.sweepInFlight = false ∨ ∃ startedMono, w.point = .draining startedMono ∧
        Number.less (.finite w.monotonicMs)
          (Number.add (.finite startedMono) policy.gracefulShutdownTimeoutMs) = false)
  | sleeps (random : ℚ) (draw : Draw random)
      (point : w'.point = .sleeping (nextDelayMs policy w.backoff random))
  | elsewhere (point : w'.point = .sweeping ∨ w'.point = .swept ∨ w'.point = .ended)

theorem shutdown_moves (accepted : Accepted policy) (stopped : w.stopReason.isSome = true) :
    Moves policy w (w.shutdownGracefully policy) := by
  obtain ⟨status, waits | ⟨released, free⟩⟩ := shutdown_cases accepted w
  · rw [waits]
    exact .drains rfl stopped rfl
  · rw [released]
    exact .releases rfl rfl (.inl free)

theorem iterate_moves (accepted : Accepted policy) :
    Moves policy w (w.iterate policy) := by
  unfold RecoveryWorkerLoop.iterate
  by_cases stop : w.stopReason.isSome = true
  · rw [if_pos stop]
    exact shutdown_moves accepted stop
  · rw [if_neg stop]
    cases w.sweepInFlight with
    | false => exact .elsewhere (.inl rfl)
    | true => exact .elsewhere (.inr (.inl rfl))

theorem drain_moves (draining : w.point = .draining startedMono) :
    Moves policy w (w.drain policy startedMono) := by
  rcases drain_cases policy startedMono w with waits | ⟨released, late⟩
  · rw [waits]
    exact .stays draining.symm
  · rw [released]
    refine .releases rfl rfl ?_
    cases flying : w.sweepInFlight with
    | false => exact .inl rfl
    | true => exact .inr ⟨startedMono, draining, late flying⟩

theorem runOnce_point (caller : Caller) (w : RecoveryWorkerLoop) :
    (w.runOnce caller).point = w.point := by
  rcases runOnce_cases caller w with ⟨_, same⟩ | ⟨_, _, begun⟩
  · rw [same]
  · rw [begun]

theorem requestStop_point (reason : ShutdownReason) (w : RecoveryWorkerLoop) :
    (w.requestStop reason).point = w.point := by
  obtain ⟨_, stopped⟩ := requestStop_kept reason w
  rw [stopped]

theorem recordFailure_point (category : FailureCategory) (random : ℚ) (w : RecoveryWorkerLoop) :
    (w.recordFailure policy category random).point = w.point := by
  unfold RecoveryWorkerLoop.recordFailure
  by_cases fatal : category.isFatal = true
  · rw [if_pos fatal]
    exact requestStop_point ..
  · rw [if_neg fatal]

theorem sweepEnds_moves (caller : Caller) {ended : RecoveryWorkerLoop}
    (same : ended.point = w.point) : Moves policy w (ended.sweepEnds caller) := by
  cases caller with
  | loop => exact .elsewhere (.inr (.inl rfl))
  | other => exact .stays same

theorem moves_run (accepted : Accepted policy) (happens : Happens w event) :
    Moves policy w (event.run policy w) := by
  cases event with
  | start random =>
    obtain ⟨_, draw⟩ := happens
    change Moves policy w (w.start policy random)
    unfold RecoveryWorkerLoop.start
    by_cases enabled : policy.recoveryWorkerEnabled = true
    · rw [if_pos enabled]
      by_cases initial : policy.runInitialSweepOnStart = true
      · rw [if_pos initial]
        cases iterate_moves (w := { w with status := .running }) accepted with
        | stays point => exact .stays point
        | drains point stopped same => exact .drains point stopped same
        | releases point same free => exact .releases point same free
        | sleeps random draw point => exact .sleeps random draw point
        | elsewhere point => exact .elsewhere point
      · rw [if_neg initial]
        exact .sleeps random draw rfl
    · rw [if_neg enabled]
      exact .elsewhere (.inr (.inr rfl))
  | wakes => exact iterate_moves accepted
  | runOnce => exact .stays (runOnce_point .other w)
  | completes caller => exact sweepEnds_moves caller rfl
  | fails caller category random =>
    exact sweepEnds_moves caller (recordFailure_point category random w)
  | goesOn random =>
    change Moves policy w (w.goOn policy random)
    unfold RecoveryWorkerLoop.goOn
    by_cases stop : w.stopReason.isSome = true
    · rw [if_pos stop]
      exact shutdown_moves accepted stop
    · rw [if_neg stop]
      exact .sleeps random happens.2 rfl
  | requestStop reason => exact .stays (requestStop_point reason w)
  | checks =>
    obtain ⟨startedMono, draining⟩ := happens
    simp only [WorkerEvent.run, draining]
    exact drain_moves draining
  | settles => exact .elsewhere (.inr (.inr rfl))
  | passes ms => exact .stays rfl

/-- A worker waits in a shutdown since the step that began it. -/
theorem draining_since (accepted : Accepted policy) (run : WorkerRun policy past w)
    (draining : w.point = .draining startedMono) :
    ∃ u ∈ past, u.after.point = .draining u.after.monotonicMs ∧
      u.after.stopReason.isSome = true ∧ u.after.monotonicMs = startedMono := by
  induction run with
  | start first =>
    rw [first] at draining
    cases draining
  | @step past w event w' run taken ih =>
    obtain ⟨happens, left⟩ := taken
    have moves := moves_run accepted happens
    rw [← left] at moves
    cases moves with
    | stays point =>
      rw [point] at draining
      obtain ⟨u, mem, began⟩ := ih draining
      exact ⟨u, List.mem_cons_of_mem _ mem, began⟩
    | drains point stopped same =>
      have time : w'.monotonicMs = w.monotonicMs := by rw [same]
      have reason : w'.stopReason = w.stopReason := by rw [same]
      have began : w.monotonicMs = startedMono := by
        rw [point] at draining
        cases draining
        rfl
      refine ⟨_, List.mem_cons_self .., ?_, ?_, ?_⟩
      · change w'.point = .draining w'.monotonicMs
        rw [time]
        exact point
      · change w'.stopReason.isSome = true
        rw [reason]
        exact stopped
      · exact time.trans began
    | releases point same free =>
      rw [point] at draining
      cases draining
    | sleeps random draw point =>
      rw [point] at draining
      cases draining
    | elsewhere point =>
      rw [draining] at point
      rcases point with now | now | now <;> cases now

/-- Claims that are released while a sweep is in flight are so after the timeout. -/
theorem released_late (accepted : Accepted policy) (run : WorkerRun policy past w)
    {t : Taken RecoveryWorkerLoop WorkerEvent}
    {newer older : List (Taken RecoveryWorkerLoop WorkerEvent)}
    (split : past = newer ++ t :: older) (releases : Releases t) (flying : t.after.inFlight ≠ []) :
    ∃ u ∈ older, u.after.point = .draining u.after.monotonicMs ∧
      u.after.stopReason.isSome = true ∧ Number.less (.finite t.after.monotonicMs)
        (Number.add (.finite u.after.monotonicMs) policy.gracefulShutdownTimeoutMs) = false := by
  subst split
  obtain ⟨before, happens, left⟩ := run.earlier
  obtain ⟨released, fresh⟩ := releases
  have moves := moves_run accepted happens
  rw [← left] at moves
  cases moves with
  | stays point =>
    rw [released] at point
    exact absurd point.symm fresh
  | drains point stopped same =>
    rw [released] at point
    cases point
  | releases point same free =>
    have inFlight : t.after.inFlight = t.before.inFlight := by rw [same]
    have time : t.after.monotonicMs = t.before.monotonicMs := by rw [same]
    rw [inFlight] at flying
    rcases free with idle | ⟨startedMono, draining, late⟩
    · rw [(sound_of_run before).flying flying] at idle
      cases idle
    · obtain ⟨u, mem, began, stopped, since⟩ := draining_since accepted before draining
      refine ⟨u, mem, began, stopped, ?_⟩
      rw [time, since]
      exact late
  | sleeps random draw point =>
    rw [released] at point
    cases point
  | elsewhere point =>
    rw [released] at point
    rcases point with now | now | now <;> cases now

end Waiting

section Pacing

variable {event : WorkerEvent} {delay : Number} {jitter : ℚ}

/-- Only the end of a sweep touches the backoff. -/
theorem Does.backoff (does : Does policy w event w') :
    (Completes event = true ∧ w'.backoff = {}) ∨
      (Completes event = false ∧ BacksOff event = true ∧ ∃ random, Draw random ∧
        w'.backoff = advanceBackoff policy w.backoff random) ∨
      (Completes event = false ∧ BacksOff event = false ∧ w'.backoff = w.backoff) := by
  cases does with
  | turns _ _ _ _ _ ordinary | begins _ _ _ _ _ ordinary =>
    exact .inr (.inr ⟨ordinary.completes, ordinary.backsOff, rfl⟩)
  | completes caller _ completed =>
    rw [completed]
    exact .inl ⟨rfl, rfl⟩
  | fails caller category random _ draw mild failed =>
    rw [failed]
    exact .inr (.inl ⟨rfl, by rw [BacksOff, mild]; rfl, random, draw, rfl⟩)
  | dies caller category random _ _ fatal failed =>
    rw [failed]
    exact .inr (.inr ⟨rfl, by rw [BacksOff, fatal]; rfl, rfl⟩)
  | stops reason _ requested =>
    rw [requested]
    exact .inr (.inr ⟨rfl, rfl, rfl⟩)

theorem consecutiveFailures_cons (t : Taken RecoveryWorkerLoop WorkerEvent)
    (past : List (Taken RecoveryWorkerLoop WorkerEvent)) :
    consecutiveFailures (t :: past) =
      if Completes t.event then 0
      else consecutiveFailures past + if BacksOff t.event then 1 else 0 := by
  unfold consecutiveFailures
  cases completes : Completes t.event with
  | true => simp [completes]
  | false => simp [completes, List.countP_cons]

/-- The backoff counts the failures since the last sweep that completed. -/
theorem counts_failures (run : WorkerRun policy past w) :
    w.backoff.consecutiveFailures = consecutiveFailures past := by
  induction run with
  | start first =>
    rw [first]
    rfl
  | @step past w event w' run taken ih =>
    obtain ⟨happens, left⟩ := taken
    subst left
    rw [consecutiveFailures_cons]
    rcases (@does policy _ _ happens).backoff with
      ⟨completes, cleared⟩ | ⟨completes, fails, random, _, advanced⟩ | ⟨completes, fails, same⟩
    · rw [cleared, if_pos completes]
    · rw [advanced, if_neg (by simp [completes]), if_pos fails, ← ih]
      rfl
    · rw [same, if_neg (by simp [completes]), if_neg (by simp [fails]), ← ih]
      rfl

/-- The delay kept after failures is the one for their number. -/
theorem keeps_jittered (paces : Paces policy jitter) (run : WorkerRun policy past w)
    (failing : 0 < w.backoff.consecutiveFailures) :
    Jittered policy jitter w.backoff.consecutiveFailures w.backoff.currentDelayMs := by
  induction run with
  | start first =>
    rw [first] at failing
    cases failing
  | @step past w event w' run taken ih =>
    obtain ⟨happens, left⟩ := taken
    subst left
    rcases (@does policy _ _ happens).backoff with
      ⟨_, cleared⟩ | ⟨_, _, random, draw, advanced⟩ | ⟨_, _, same⟩
    · rw [cleared] at failing
      cases failing
    · rw [advanced]
      obtain ⟨n, nonneg, few, drawn⟩ := jitterMs_within paces.bound paces.nonneg draw
      refine ⟨n, nonneg, few, ?_⟩
      rw [← drawn]
      rfl
    · rw [same] at failing ⊢
      exact ih failing

theorem sleeps_jittered (paces : Paces policy jitter) (run : WorkerRun policy past w)
    {t : Taken RecoveryWorkerLoop WorkerEvent}
    {newer older : List (Taken RecoveryWorkerLoop WorkerEvent)}
    (split : past = newer ++ t :: older) (sleeps : Sleeps t delay) :
    Jittered policy jitter (consecutiveFailures older) delay := by
  subst split
  obtain ⟨before, happens, left⟩ := run.earlier
  obtain ⟨sleeping, fresh⟩ := sleeps
  have moves := moves_run paces.accepted happens
  rw [← left] at moves
  cases moves with
  | stays point =>
    rw [sleeping] at point
    exact absurd point.symm fresh
  | drains point stopped same | releases point same free =>
    rw [sleeping] at point
    cases point
  | sleeps random draw point =>
    have next : delay = nextDelayMs policy t.before.backoff random := by
      rw [sleeping] at point
      cases point
      rfl
    rw [next, ← counts_failures before]
    unfold nextDelayMs
    by_cases failing : 0 < t.before.backoff.consecutiveFailures
    · rw [if_pos failing]
      exact keeps_jittered paces before failing
    · rw [if_neg failing]
      have none : t.before.backoff.consecutiveFailures = 0 := by omega
      obtain ⟨n, nonneg, few, drawn⟩ := jitterMs_within paces.bound paces.nonneg draw
      refine ⟨n, nonneg, few, ?_⟩
      rw [none, drawn]
      rfl
  | elsewhere point =>
    rw [sleeping] at point
    rcases point with now | now | now <;> cases now

end Pacing

section Policies

variable {event : WorkerEvent}

/-- A worker whose loop is not to run: it has not been started or is at its end, and no sweep in
flight is the loop's. -/
def Disabled (w : RecoveryWorkerLoop) : Prop :=
  (w.point = .unstarted ∨ w.point = .ended) ∧ .loop ∉ w.inFlight

theorem Disabled.sweepEnds {ended : RecoveryWorkerLoop} {caller : Caller} (disabled : Disabled w)
    (mem : caller ∈ w.inFlight) (point : ended.point = w.point)
    (inFlight : ended.inFlight = w.inFlight) : Disabled (ended.sweepEnds caller) := by
  obtain ⟨place, others⟩ := disabled
  cases caller with
  | loop => exact absurd mem others
  | other =>
    refine ⟨?_, ?_⟩
    · change ended.point = .unstarted ∨ ended.point = .ended
      rw [point]
      exact place
    · change .loop ∉ ended.inFlight.erase .other
      rw [inFlight]
      intro loop
      exact others (List.mem_of_mem_erase loop)

theorem Disabled.step (off : policy.recoveryWorkerEnabled = false) (disabled : Disabled w)
    (happens : Happens w event) : Disabled (event.run policy w) := by
  obtain ⟨place, others⟩ := disabled
  cases event with
  | start random =>
    change Disabled (w.start policy random)
    unfold RecoveryWorkerLoop.start
    rw [if_neg (by rw [off]; exact Bool.false_ne_true)]
    exact ⟨.inr rfl, others⟩
  | wakes =>
    obtain ⟨delay, sleeping⟩ := happens
    rw [sleeping] at place
    rcases place with now | now <;> cases now
  | runOnce =>
    refine ⟨?_, ?_⟩
    · change (w.runOnce .other).point = .unstarted ∨ (w.runOnce .other).point = .ended
      rw [runOnce_point]
      exact place
    · change .loop ∉ (w.runOnce .other).inFlight
      unfold RecoveryWorkerLoop.runOnce
      by_cases flying : w.sweepInFlight = true
      · rw [if_pos flying]
        exact others
      · rw [if_neg flying]
        by_cases stop : w.stopReason.isSome = true
        · rw [if_pos stop]
          exact others
        · rw [if_neg stop]
          intro loop
          rcases List.mem_cons.mp loop with now | before
          · cases now
          · exact others before
  | completes caller => exact Disabled.sweepEnds ⟨place, others⟩ happens rfl rfl
  | fails caller category random =>
    refine Disabled.sweepEnds ⟨place, others⟩ happens.1 (recordFailure_point ..) ?_
    unfold RecoveryWorkerLoop.recordFailure
    by_cases fatal : category.isFatal = true
    · rw [if_pos fatal]
      unfold RecoveryWorkerLoop.requestStop
      cases w.stopReason with
      | none => rfl
      | some _ => rfl
    · rw [if_neg fatal]
  | goesOn random =>
    rw [happens.1] at place
    rcases place with now | now <;> cases now
  | requestStop reason =>
    refine ⟨?_, ?_⟩
    · change (w.requestStop reason).point = .unstarted ∨ (w.requestStop reason).point = .ended
      rw [requestStop_point]
      exact place
    · change .loop ∉ (w.requestStop reason).inFlight
      unfold RecoveryWorkerLoop.requestStop
      cases w.stopReason with
      | none => exact others
      | some _ => exact others
  | checks =>
    obtain ⟨startedMono, draining⟩ := happens
    rw [draining] at place
    rcases place with now | now <;> cases now
  | settles => exact ⟨.inr rfl, others⟩
  | passes ms => exact ⟨place, others⟩

theorem none_sleeps (off : policy.recoveryWorkerEnabled = false) (run : WorkerRun policy past w)
    {t : Taken RecoveryWorkerLoop WorkerEvent} (mem : t ∈ past) {delay : Number} :
    ¬ Sleeps t delay := by
  intro ⟨sleeping, _⟩
  have taken := run.taken (I := Disabled)
    (by
      rintro _ rfl
      exact ⟨.inl rfl, List.not_mem_nil⟩)
    (by
      intro w event w' disabled taken
      obtain ⟨happens, rfl⟩ := taken
      exact disabled.step off happens)
  obtain ⟨place, _⟩ := (taken t mem).2.2
  rw [sleeping] at place
  rcases place with now | now <;> cases now

/-- The pace of a policy that is enabled and steady. -/
theorem Steady.paces (steady : Steady policy) (accepted : Accepted policy)
    (enabled : policy.recoveryWorkerEnabled = true) : ∃ jitter, Paces policy jitter := by
  obtain ⟨initial, multiplier, jitter, bound⟩ := steady enabled
  have least := accepted.jitter
  rw [bound] at least
  exact ⟨jitter, accepted, initial, multiplier, bound, not_lt.mp (of_decide_eq_false least)⟩

theorem supervised_of_steady (accepted : Accepted policy) (steady : Steady policy)
    (run : WorkerRun policy past w) : Supervised policy past := by
  have sound : ∀ t ∈ past, Sound t.after := by
    intro t mem
    obtain ⟨newer, older, rfl⟩ := List.append_of_mem mem
    obtain ⟨before, taken⟩ := run.earlier
    exact sound_of_run (.step before taken)
  refine ⟨fun t mem => (sound t mem).one, fun t mem => (sound t mem).counted, ?_, ?_, ?_, ?_⟩
  · intro newer t older split stops u mem
    exact none_begins run split stops mem
  · intro newer t older split releases flying
    exact released_late accepted run split releases flying
  · intro newer t older split delay sleeps
    cases enabled : policy.recoveryWorkerEnabled with
    | false =>
      have mem : t ∈ past := by
        rw [split]
        exact List.mem_append_right _ (List.mem_cons_self ..)
      exact absurd sleeps (none_sleeps enabled run mem)
    | true =>
      obtain ⟨jitter, paces⟩ := steady.paces accepted enabled
      exact (sleeps_jittered paces run split sleeps).paced paces
  · intro newer t older newer' t' older' split split' delay delay' sleeps sleeps' fewer
    cases enabled : policy.recoveryWorkerEnabled with
    | false =>
      have mem : t ∈ past := by
        rw [split]
        exact List.mem_append_right _ (List.mem_cons_self ..)
      exact absurd sleeps (none_sleeps enabled run mem)
    | true =>
      obtain ⟨jitter, paces⟩ := steady.paces accepted enabled
      exact (sleeps_jittered paces run split sleeps).rising paces
        (sleeps_jittered paces run split' sleeps') fewer

theorem runs_on (run : WorkerRun policy past w) (event : WorkerEvent) (happens : Happens w event) :
    WorkerRun policy (⟨w, event, event.run policy w⟩ :: past) (event.run policy w) :=
  .step run ⟨happens, rfl⟩

/-- The loop awaits the sweep it began. -/
structure Sweeping (w : RecoveryWorkerLoop) : Prop where
  point : w.point = .sweeping
  inFlight : w.inFlight = [.loop]
  goes : w.stopReason = none

theorem iterate_sweeping (goes : w.stopReason = none) (idle : w.sweepInFlight = false)
    (none : w.inFlight = []) :
    Sweeping (w.iterate policy) ∧ (w.iterate policy).backoff = w.backoff := by
  have begun : w.iterate policy = { w with
      sweepInFlight := true
      sweepsStarted := w.sweepsStarted + 1
      inFlight := .loop :: w.inFlight
      point := .sweeping } := by
    simp [RecoveryWorkerLoop.iterate, RecoveryWorkerLoop.runOnce, goes, idle]
  rw [begun, none]
  exact ⟨⟨rfl, rfl, goes⟩, rfl⟩

/-- A worker that is enabled gets to its first sweep. -/
theorem gets_sweeping (enabled : policy.recoveryWorkerEnabled = true) :
    ∃ past w, WorkerRun policy past w ∧ Sweeping w ∧ w.backoff = {} := by
  have draw : Draw 0 := by decide
  have started := @runs_on policy _ _ (.start rfl) (.start 0) ⟨rfl, draw⟩
  cases initial : policy.runInitialSweepOnStart with
  | true =>
    refine ⟨_, _, started, ?_⟩
    have run : WorkerEvent.run policy {} (.start 0) =
        RecoveryWorkerLoop.iterate policy { ({} : RecoveryWorkerLoop) with status := .running } := by
      change RecoveryWorkerLoop.start policy 0 {} = _
      unfold RecoveryWorkerLoop.start
      rw [if_pos enabled, if_pos initial]
    rw [run]
    exact iterate_sweeping rfl rfl rfl
  | false =>
    have run : WorkerEvent.run policy {} (.start 0) = { ({} : RecoveryWorkerLoop) with
        status := .running
        point := .sleeping (nextDelayMs policy {} 0) } := by
      change RecoveryWorkerLoop.start policy 0 {} = _
      unfold RecoveryWorkerLoop.start
      rw [if_pos enabled, if_neg (by rw [initial]; exact Bool.false_ne_true)]
    rw [run] at started
    exact ⟨_, _, runs_on started .wakes ⟨_, rfl⟩, iterate_sweeping rfl rfl rfl⟩

/-- A sweep that fails puts the loop to sleep for its backoff, and then it sweeps again. -/
theorem fails_and_sleeps (run : WorkerRun policy past w) (sweeping : Sweeping w) :
    ∃ t past' w', WorkerRun policy (t :: past') t.after ∧
      Sleeps t (advanceBackoff policy w.backoff 0).currentDelayMs ∧
      (∃ last, WorkerRun policy (last :: t :: past') w') ∧ Sweeping w' ∧
      w'.backoff = advanceBackoff policy w.backoff 0 := by
  obtain ⟨point, inFlight, goes⟩ := sweeping
  have draw : Draw 0 := by decide
  have mem : Caller.loop ∈ w.inFlight := by
    rw [inFlight]
    exact List.mem_singleton_self _
  have failed := runs_on run (.fails .loop .unexpected 0) ⟨mem, draw⟩
  have left : WorkerEvent.run policy w (.fails .loop .unexpected 0) = { w with
      sweepsFailed := w.sweepsFailed + 1
      backoff := advanceBackoff policy w.backoff 0
      status := .backingOff
      sweepInFlight := false
      inFlight := []
      point := .swept } := by
    change (w.recordFailure policy .unexpected 0).sweepEnds .loop = _
    simp [RecoveryWorkerLoop.recordFailure, RecoveryWorkerLoop.sweepEnds, FailureCategory.isFatal,
      inFlight]
  rw [left] at failed
  have slept := runs_on failed (.goesOn 0) ⟨rfl, draw⟩
  have asleep : WorkerEvent.run policy { w with
      sweepsFailed := w.sweepsFailed + 1
      backoff := advanceBackoff policy w.backoff 0
      status := .backingOff
      sweepInFlight := false
      inFlight := []
      point := .swept } (.goesOn 0) = { w with
      sweepsFailed := w.sweepsFailed + 1
      backoff := advanceBackoff policy w.backoff 0
      status := .backingOff
      sweepInFlight := false
      inFlight := []
      sweepsScheduled := w.sweepsScheduled + 1
      point := .sleeping (advanceBackoff policy w.backoff 0).currentDelayMs } := by
    change RecoveryWorkerLoop.goOn policy 0 _ = _
    simp [RecoveryWorkerLoop.goOn, nextDelayMs, advanceBackoff, goes]
  rw [asleep] at slept
  refine ⟨_, _, _, slept, ⟨rfl, ?_⟩, ⟨_, runs_on slept .wakes ⟨_, rfl⟩⟩, ?_⟩
  · intro awake
    cases awake
  · exact iterate_sweeping goes rfl rfl

/-- The first backoff is the initial one with its jitter. -/
theorem first_backoff (accepted : Accepted policy) :
    (advanceBackoff policy {} 0).currentDelayMs =
      policy.failureBackoffInitialMs.add (jitterMs policy 0) := by
  have once : policy.failureBackoffInitialMs.mul (policy.failureBackoffMultiplier.pow 0) =
      policy.failureBackoffInitialMs := Number.mul_pow_zero accepted.initial
  have kept : policy.failureBackoffInitialMs.smaller policy.failureBackoffMaximumMs =
      policy.failureBackoffInitialMs :=
    Number.smaller_of_not_less (number_of_positive accepted.initial)
      (number_of_positive accepted.maximum) accepted.cap
  change ((policy.failureBackoffInitialMs.mul (policy.failureBackoffMultiplier.pow 0)).smaller
    policy.failureBackoffMaximumMs).add (jitterMs policy 0) = _
  rw [once, kept]

/-- The second backoff under a multiplier that is no number is none either. -/
theorem second_backoff_nan (nan : policy.failureBackoffMultiplier = .nan) {state : BackoffState}
    (once : state.consecutiveFailures = 1) :
    (advanceBackoff policy state 0).currentDelayMs = .nan := by
  change (baseBackoffMs policy (state.consecutiveFailures + 1)).add _ = _
  rw [once]
  change ((policy.failureBackoffInitialMs.mul (policy.failureBackoffMultiplier.pow 1)).smaller
    policy.failureBackoffMaximumMs).add (jitterMs policy 0) = _
  rw [nan]
  have product : policy.failureBackoffInitialMs.mul (Number.nan.pow 1) = .nan := by
    cases policy.failureBackoffInitialMs <;> rfl
  rw [product]
  rfl

theorem steady_of_supervised (accepted : Accepted policy)
    (supervised : ∀ past w, WorkerRun policy past w → Supervised policy past) : Steady policy := by
  intro enabled
  obtain ⟨_, w, run, sweeping, fresh⟩ := gets_sweeping enabled
  obtain ⟨t, past, w', run', sleeps, ⟨last, again⟩, sweeping', advanced⟩ :=
    fails_and_sleeps run sweeping
  rw [fresh] at sleeps advanced
  have paced := ((supervised _ _ run').paced [] t past rfl _ sleeps).1
  rw [first_backoff accepted] at paced
  obtain ⟨jitter, bound⟩ : ∃ jitter, policy.recoveryJitterMs = .finite jitter := by
    have least := accepted.jitter
    cases bound : policy.recoveryJitterMs with
    | finite jitter => exact ⟨jitter, rfl⟩
    | nan | infinity =>
      have none : jitterMs policy 0 = .nan := by rw [jitterMs, bound]; rfl
      rw [none, Number.add_nan] at paced
      exact absurd rfl (Number.number_of_atMost paced).2
    | negInfinity =>
      rw [bound] at least
      cases least
  refine ⟨?_, ?_, jitter, bound⟩
  · have none : jitterMs policy 0 = .finite 0 := by
      simp [jitterMs, bound, Number.mul, Number.floor]
    rw [none, Number.add_zero] at paced
    exact paced
  · intro nan
    obtain ⟨t', past', _, run'', sleeps', _⟩ := fails_and_sleeps again sweeping'
    rw [advanced, second_backoff_nan nan rfl] at sleeps'
    have paced' := ((supervised _ _ run'').paced [] t' past' rfl _ sleeps').1
    exact (Number.number_of_atMost paced').2 rfl

end Policies

end Telga.Proofs.WorkerLoops
