import Telga.Library.Numbers
import Telga.Library.Run

namespace Telga.Application.Worker
open Library

structure RecoveryWorkerPolicy where
  recoveryWorkerEnabled : Bool
  recoveryIntervalMs : Number
  recoveryJitterMs : Number
  recoveryBatchLimit : Number
  recoveryAgeMs : Number
  pendingMaximumMs : Number
  maxStatusAttempts : Number
  claimLeaseMs : Number
  statusCheckIntervalMs : Number
  failureBackoffInitialMs : Number
  failureBackoffMaximumMs : Number
  failureBackoffMultiplier : Number
  gracefulShutdownTimeoutMs : Number
  runInitialSweepOnStart : Bool
  allowPendingMaximumBelowRecoveryAge : Bool
deriving DecidableEq

/-- Fast intervals so a developer sees the loop work. -/
def developmentRecoveryWorkerPolicy : RecoveryWorkerPolicy where
  recoveryWorkerEnabled := true
  recoveryIntervalMs := .finite 30000
  recoveryJitterMs := .finite 5000
  recoveryBatchLimit := .finite 50
  recoveryAgeMs := .finite 60000
  pendingMaximumMs := .finite 300000
  maxStatusAttempts := .finite 5
  claimLeaseMs := .finite 30000
  statusCheckIntervalMs := .finite 30000
  failureBackoffInitialMs := .finite 1000
  failureBackoffMaximumMs := .finite 60000
  failureBackoffMultiplier := .finite 2
  gracefulShutdownTimeoutMs := .finite 10000
  runInitialSweepOnStart := true
  allowPendingMaximumBelowRecoveryAge := false

/-- Everything short and deterministic. -/
def testRecoveryWorkerPolicy : RecoveryWorkerPolicy where
  recoveryWorkerEnabled := true
  recoveryIntervalMs := .finite 1000
  recoveryJitterMs := .finite 0
  recoveryBatchLimit := .finite 10
  recoveryAgeMs := .finite 60000
  pendingMaximumMs := .finite 300000
  maxStatusAttempts := .finite 3
  claimLeaseMs := .finite 30000
  statusCheckIntervalMs := .finite 30000
  failureBackoffInitialMs := .finite 1000
  failureBackoffMaximumMs := .finite 8000
  failureBackoffMultiplier := .finite 2
  gracefulShutdownTimeoutMs := .finite 5000
  runInitialSweepOnStart := true
  allowPendingMaximumBelowRecoveryAge := false

/-- A sweep that takes longer than its own lease would let a second worker in. -/
def minimumClaimLeaseMs : Number := .finite 1000

def minimumRecoveryIntervalMs : Number := .finite 1000

inductive WorkerConfigErrorCode
  | notPositive
  | negative
  | batchLimitTooSmall
  | backoffMaximumBelowInitial
  | backoffMultiplierTooSmall
  | claimLeaseTooShort
  | intervalTooShort
  | pendingMaximumBelowRecoveryAge
deriving DecidableEq, Repr

structure WorkerConfigurationError where
  code : WorkerConfigErrorCode
  setting : String
deriving DecidableEq, Repr

/-- The settings that are to be greater than zero, in the order they are looked at. -/
def positiveSettings (policy : RecoveryWorkerPolicy) : List (String × Number) :=
  [("recoveryIntervalMs", policy.recoveryIntervalMs),
   ("recoveryAgeMs", policy.recoveryAgeMs),
   ("pendingMaximumMs", policy.pendingMaximumMs),
   ("maxStatusAttempts", policy.maxStatusAttempts),
   ("claimLeaseMs", policy.claimLeaseMs),
   ("statusCheckIntervalMs", policy.statusCheckIntervalMs),
   ("failureBackoffInitialMs", policy.failureBackoffInitialMs),
   ("failureBackoffMaximumMs", policy.failureBackoffMaximumMs),
   ("gracefulShutdownTimeoutMs", policy.gracefulShutdownTimeoutMs)]

/-- Validate a policy, with a typed error for the first problem found. -/
def validateWorkerPolicy (policy : RecoveryWorkerPolicy) :
    Except WorkerConfigurationError RecoveryWorkerPolicy :=
  match (positiveSettings policy).find? fun setting => !Number.less (.finite 0) setting.2 with
  | some setting => .error ⟨.notPositive, setting.1⟩
  | none =>
    if Number.less policy.recoveryJitterMs (.finite 0) then
      .error ⟨.negative, "recoveryJitterMs"⟩
    else if Number.less policy.recoveryBatchLimit (.finite 1) then
      .error ⟨.batchLimitTooSmall, "recoveryBatchLimit"⟩
    else if Number.less policy.failureBackoffMaximumMs policy.failureBackoffInitialMs then
      .error ⟨.backoffMaximumBelowInitial, "failureBackoffMaximumMs"⟩
    else if Number.less policy.failureBackoffMultiplier (.finite 1) then
      .error ⟨.backoffMultiplierTooSmall, "failureBackoffMultiplier"⟩
    else if Number.less policy.recoveryIntervalMs minimumRecoveryIntervalMs then
      .error ⟨.intervalTooShort, "recoveryIntervalMs"⟩
    else if Number.less policy.claimLeaseMs minimumClaimLeaseMs ||
        Number.atMost policy.claimLeaseMs (policy.statusCheckIntervalMs.mul (.finite (1 / 2))) then
      .error ⟨.claimLeaseTooShort, "claimLeaseMs"⟩
    else if Number.less policy.pendingMaximumMs policy.recoveryAgeMs &&
        !policy.allowPendingMaximumBelowRecoveryAge then
      .error ⟨.pendingMaximumBelowRecoveryAge, "pendingMaximumMs"⟩
    else .ok policy

section Backoff

structure BackoffState where
  consecutiveFailures : Nat := 0
  /-- The delay applied after the most recent failure, jitter included. -/
  currentDelayMs : Number := .finite 0
deriving DecidableEq

/-- The delay before jitter, for some consecutive failures. Capped. -/
def baseBackoffMs (policy : RecoveryWorkerPolicy) : Nat → Number
  | 0 => .finite 0
  | failures + 1 =>
    (policy.failureBackoffInitialMs.mul (policy.failureBackoffMultiplier.pow failures)).smaller
      policy.failureBackoffMaximumMs

def jitterMs (policy : RecoveryWorkerPolicy) (random : ℚ) : Number :=
  (Number.mul (.finite random) policy.recoveryJitterMs).floor

/-- Advance the backoff after a failure. -/
def advanceBackoff (policy : RecoveryWorkerPolicy) (state : BackoffState) (random : ℚ) :
    BackoffState where
  consecutiveFailures := state.consecutiveFailures + 1
  currentDelayMs :=
    (baseBackoffMs policy (state.consecutiveFailures + 1)).add (jitterMs policy random)

/-- The delay before the next sweep. Under failure the backoff replaces the interval. -/
def nextDelayMs (policy : RecoveryWorkerPolicy) (state : BackoffState) (random : ℚ) : Number :=
  if 0 < state.consecutiveFailures then state.currentDelayMs
  else policy.recoveryIntervalMs.add (jitterMs policy random)

end Backoff

inductive FailureCategory
  | configuration
  | databaseConnection
  | migrationSchema
  | providerAdapter
  | shutdownCancelled
  | partialBatch
  | unexpected
deriving DecidableEq, Repr

/-- Categories that must stop the worker rather than back it off. -/
def FailureCategory.isFatal : FailureCategory → Bool
  | .configuration | .databaseConnection | .migrationSchema => true
  | .providerAdapter | .shutdownCancelled | .partialBatch | .unexpected => false

inductive ShutdownReason
  | sigterm
  | sigint
  | requested
  | fatalFailure
deriving DecidableEq, Repr

inductive WorkerStatus
  | starting
  | running
  | backingOff
  | failed
  | stopping
  | stopped
deriving DecidableEq, Repr

/-- Who called `runOnce` for a sweep: the loop, or somebody else. -/
inductive Caller
  | loop
  | other
deriving DecidableEq, Repr

/-- Where the loop is: asleep with a delay, awaiting the sweep it began, past its call of `runOnce`,
waiting in the shutdown that began at a time, past the release of the claims, or at its end. -/
inductive LoopPoint
  | unstarted
  | sleeping (delay : Number)
  | sweeping
  | swept
  | draining (startedMono : ℚ)
  | released
  | ended
deriving DecidableEq

/-- The worker's loop with its shutdown controller, its clock and the sweeps that are in flight. -/
structure RecoveryWorkerLoop where
  status : WorkerStatus := .starting
  backoff : BackoffState := {}
  sweepInFlight : Bool := false
  sweepsScheduled : Nat := 0
  sweepsStarted : Nat := 0
  sweepsCompleted : Nat := 0
  sweepsFailed : Nat := 0
  sweepsSkipped : Nat := 0
  stopReason : Option ShutdownReason := none
  monotonicMs : ℚ := 0
  point : LoopPoint := .unstarted
  inFlight : List Caller := []
deriving DecidableEq

namespace RecoveryWorkerLoop

/-- A second request keeps the first reason. -/
def requestStop (reason : ShutdownReason) (w : RecoveryWorkerLoop) : RecoveryWorkerLoop :=
  match w.stopReason with
  | some _ => w
  | none => { w with stopReason := some reason }

/-- Run one sweep, unless one is in flight or the worker is to stop. -/
def runOnce (caller : Caller) (w : RecoveryWorkerLoop) : RecoveryWorkerLoop :=
  if w.sweepInFlight then { w with sweepsSkipped := w.sweepsSkipped + 1 }
  else if w.stopReason.isSome then w
  else { w with
    sweepInFlight := true
    sweepsStarted := w.sweepsStarted + 1
    inFlight := caller :: w.inFlight }

/-- The end of a sweep: the flag is taken back, and the loop goes on if it was the loop's. -/
def sweepEnds (caller : Caller) (w : RecoveryWorkerLoop) : RecoveryWorkerLoop :=
  { w with
    sweepInFlight := false
    inFlight := w.inFlight.erase caller
    point := if caller = .loop then .swept else w.point }

def recordCompleted (w : RecoveryWorkerLoop) : RecoveryWorkerLoop :=
  { w with sweepsCompleted := w.sweepsCompleted + 1, backoff := {}, status := .running }

def recordFailure (policy : RecoveryWorkerPolicy) (category : FailureCategory) (random : ℚ)
    (w : RecoveryWorkerLoop) : RecoveryWorkerLoop :=
  let w := { w with sweepsFailed := w.sweepsFailed + 1 }
  if category.isFatal then { w with status := .failed }.requestStop .fatalFailure
  else { w with backoff := advanceBackoff policy w.backoff random, status := .backingOff }

/-- Wait for a sweep in flight up to the deadline, and release the claims behind that. -/
def drain (policy : RecoveryWorkerPolicy) (startedMono : ℚ) (w : RecoveryWorkerLoop) :
    RecoveryWorkerLoop :=
  let deadline := Number.add (.finite startedMono) policy.gracefulShutdownTimeoutMs
  if w.sweepInFlight && Number.less (.finite w.monotonicMs) deadline then
    { w with point := .draining startedMono }
  else { w with point := .released }

def shutdownGracefully (policy : RecoveryWorkerPolicy) (w : RecoveryWorkerLoop) :
    RecoveryWorkerLoop :=
  drain policy w.monotonicMs
    { w with status := if w.status = .failed then .failed else .stopping }

/-- The loop's condition, and the sweep it begins. -/
def iterate (policy : RecoveryWorkerPolicy) (w : RecoveryWorkerLoop) : RecoveryWorkerLoop :=
  if w.stopReason.isSome then w.shutdownGracefully policy
  else { w.runOnce .loop with point := if w.sweepInFlight then .swept else .sweeping }

/-- The loop behind its call of `runOnce`: it stops, or sleeps for the next delay. -/
def goOn (policy : RecoveryWorkerPolicy) (random : ℚ) (w : RecoveryWorkerLoop) :
    RecoveryWorkerLoop :=
  if w.stopReason.isSome then w.shutdownGracefully policy
  else { w with
    sweepsScheduled := w.sweepsScheduled + 1
    point := .sleeping (nextDelayMs policy w.backoff random) }

def start (policy : RecoveryWorkerPolicy) (random : ℚ) (w : RecoveryWorkerLoop) :
    RecoveryWorkerLoop :=
  if policy.recoveryWorkerEnabled then
    let w := { w with status := .running }
    if policy.runInitialSweepOnStart then w.iterate policy
    else { w with point := .sleeping (nextDelayMs policy w.backoff random) }
  else { w with status := .stopped, point := .ended }

/-- `onStopped` has run. -/
def settle (w : RecoveryWorkerLoop) : RecoveryWorkerLoop :=
  { w with status := if w.status = .failed then .failed else .stopped, point := .ended }

end RecoveryWorkerLoop

/-- What happens to a worker, in any order: the loop's own turns, each where it awaits something,
sweeps that complete or fail, calls of `runOnce`, stop requests, and time that passes. -/
inductive WorkerEvent
  | start (random : ℚ)
  | wakes
  | runOnce
  | completes (caller : Caller)
  | fails (caller : Caller) (category : FailureCategory) (random : ℚ)
  | goesOn (random : ℚ)
  | requestStop (reason : ShutdownReason)
  | checks
  | settles
  | passes (ms : ℚ)
deriving DecidableEq

/-- A random draw is at least 0 and below 1. -/
def Draw (random : ℚ) : Prop :=
  0 ≤ random ∧ random < 1

instance (random : ℚ) : Decidable (Draw random) :=
  inferInstanceAs (Decidable (_ ∧ _))

def Happens (w : RecoveryWorkerLoop) : WorkerEvent → Prop
  | .start random => w.point = .unstarted ∧ Draw random
  | .wakes => ∃ delay, w.point = .sleeping delay
  | .runOnce | .requestStop _ => True
  | .completes caller => caller ∈ w.inFlight
  | .fails caller _ random => caller ∈ w.inFlight ∧ Draw random
  | .goesOn random => w.point = .swept ∧ Draw random
  | .checks => ∃ startedMono, w.point = .draining startedMono
  | .settles => w.point = .released
  | .passes ms => 0 ≤ ms

def WorkerEvent.run (policy : RecoveryWorkerPolicy) (w : RecoveryWorkerLoop) :
    WorkerEvent → RecoveryWorkerLoop
  | .start random => w.start policy random
  | .wakes => w.iterate policy
  | .runOnce => w.runOnce .other
  | .completes caller => w.recordCompleted.sweepEnds caller
  | .fails caller category random => (w.recordFailure policy category random).sweepEnds caller
  | .goesOn random => w.goOn policy random
  | .requestStop reason => w.requestStop reason
  | .checks =>
    match w.point with
    | .draining startedMono => w.drain policy startedMono
    | _ => w
  | .settles => w.settle
  | .passes ms => { w with monotonicMs := w.monotonicMs + ms }

/-- A worker's life under a policy. -/
abbrev WorkerRun (policy : RecoveryWorkerPolicy) :=
  Run (· = ({} : RecoveryWorkerLoop)) fun w (event : WorkerEvent) w' =>
    Happens w event ∧ w' = event.run policy w

end Telga.Application.Worker
