import Telga.Library.Run

namespace Telga.Application.Polling
open Library

/-- Why polling stopped. -/
inductive PollStopReason
  | resolved
  | maxPollsReached
  | stoppedByCaller
  | notStarted
deriving DecidableEq, Repr

/-- What `onResult` is told of an attempt. -/
structure PollAttempt where
  attempt : Nat
  ok : Bool
deriving DecidableEq, Repr

/-- The controller, with the callbacks its scheduler holds and how far each attempt is that has
begun: its fetch is in flight, its value goes to `shouldContinue`, or its error has been told. -/
structure PollController where
  handle : Option Nat := none
  attempts : Nat := 0
  running : Bool := false
  stopped : PollStopReason := .notStarted
  pending : List Nat := []
  nextId : Nat := 1
  fetching : Nat := 0
  answered : Nat := 0
  failed : Nat := 0
  told : List PollAttempt := []
deriving DecidableEq, Repr

namespace PollController

/-- Stop, and cancel the callback whose handle is kept. -/
def stop (reason : PollStopReason) (c : PollController) : PollController :=
  if c.running then
    { c with
      running := false
      stopped := reason
      handle := none
      pending := match c.handle with
        | some handle => c.pending.erase handle
        | none => c.pending }
  else c

/-- Schedule the next attempt, unless the cap is reached. -/
def queue (maxPolls : Nat) (c : PollController) : PollController :=
  if c.running then
    if maxPolls ≤ c.attempts then c.stop .maxPollsReached
    else { c with
      handle := some c.nextId
      pending := c.pending ++ [c.nextId]
      nextId := c.nextId + 1 }
  else c

def start (maxPolls : Nat) (c : PollController) : PollController :=
  if c.running then c else queue maxPolls { c with running := true }

/-- The callback: the handle is forgotten, and the attempt begins with its fetch. -/
def fire (id : Nat) (c : PollController) : PollController :=
  let c := { c with handle := none, pending := c.pending.erase id }
  if c.running then { c with attempts := c.attempts + 1, fetching := c.fetching + 1 } else c

def tell (ok : Bool) (c : PollController) : PollController :=
  { c with told := ⟨c.attempts, ok⟩ :: c.told }

end PollController

/-- What happens to a controller. An attempt's fetch answers or rejects, and `onResult` is told; of
a value `shouldContinue` then decides, or throws, which is told as a rejection; and after a
rejection the attempt goes on. `start` and `stop` may be called between any two of these, and so
from `fetchOnce`, `onResult` and `shouldContinue`. -/
inductive PollEvent
  | start
  | stop (reason : PollStopReason)
  | fire (id : Nat)
  | answers
  | rejects
  | decides (carryOn : Bool)
  | throws
  | retries
deriving DecidableEq, Repr

/-- When an event can happen: a callback that is scheduled fires, an attempt that has come so far
moves on. -/
def Happens (c : PollController) : PollEvent → Prop
  | .start | .stop _ => True
  | .fire id => id ∈ c.pending
  | .answers | .rejects => 0 < c.fetching
  | .decides _ | .throws => 0 < c.answered
  | .retries => 0 < c.failed

instance (c : PollController) (event : PollEvent) : Decidable (Happens c event) := by
  cases event <;> unfold Happens <;> infer_instance

def PollEvent.run (maxPolls : Nat) (c : PollController) : PollEvent → PollController
  | .start => c.start maxPolls
  | .stop reason => c.stop reason
  | .fire id => c.fire id
  | .answers =>
    { c with fetching := c.fetching - 1, answered := c.answered + 1 }.tell true
  | .rejects => { c with fetching := c.fetching - 1, failed := c.failed + 1 }.tell false
  | .decides carryOn =>
    let c := { c with answered := c.answered - 1 }
    if carryOn then c.queue maxPolls else c.stop .resolved
  | .throws => { c with answered := c.answered - 1, failed := c.failed + 1 }.tell false
  | .retries => { c with failed := c.failed - 1 }.queue maxPolls

/-- What happens to one controller from its construction on. -/
abbrev PollRun (maxPolls : Nat) :=
  Run (· = ({} : PollController)) fun c (event : PollEvent) c' =>
    Happens c event ∧ c' = event.run maxPolls c

/-- A step that calls `fetchOnce`. -/
def Begins (taken : Taken PollController PollEvent) : Prop :=
  taken.before.running = true ∧ ∃ id, taken.event = .fire id

instance (taken : Taken PollController PollEvent) : Decidable (Begins taken) :=
  match event : taken.event with
  | .fire id => if running : taken.before.running = true then isTrue ⟨running, id, event⟩
      else isFalse fun begins => running begins.1
  | .start | .stop _ | .answers | .rejects | .decides _ | .throws | .retries =>
    isFalse fun ⟨_, _, fired⟩ => by rw [event] at fired; cases fired

end Telga.Application.Polling
