import Telga.Application.ConsoleRates
import Telga.Library.FixedWindows
import Telga.Proofs.ConsoleTurns

namespace Telga.Proofs.ConsoleRates
open Domain Persistence Application Library

/-- A request as the limiter sees it. -/
structure Asked where
  scope : ConsoleRateScope
  address : String
  time : Int

/-- When one address asked in one scope, the latest first. -/
def times (log : List Asked) (scope : ConsoleRateScope) (address : String) : List Int :=
  (log.filter fun asked => asked.scope = scope ∧ asked.address = address).map Asked.time

variable {policy : ConsoleRatePolicy} {log : List Asked} {clock : List Int}
  {counters : RateCounters} {scope other : ConsoleRateScope} {address other' : String}
  {now opening : Int} {tidy : RateCounters → RateCounters}

theorem times_same : times (⟨scope, address, now⟩ :: log) scope address =
    now :: times log scope address := by
  simp [times]

theorem times_other (differs : ¬ (scope = other ∧ address = other')) :
    times (⟨scope, address, now⟩ :: log) other other' = times log other other' := by
  simp [times, differs]

theorem times_sublist : (times log scope address).Sublist (log.map Asked.time) :=
  List.filter_sublist.map Asked.time

theorem counterKey_inj (same : counterKey scope address = counterKey other other') :
    scope = other ∧ address = other' := by
  have chars := congrArg String.toList same
  cases scope <;> cases other <;>
    simp [counterKey, ConsoleRateScope.word] at chars
  · exact ⟨rfl, String.toList_inj.mp chars⟩
  · exact ⟨rfl, String.toList_inj.mp chars⟩

/-- A counter tells of the window that is open after some times. -/
def Tells (policy : ConsoleRatePolicy) (scope : ConsoleRateScope) (times : List Int)
    (counter : RateCounter) : Prop :=
  FixedWindow.opened policy.windowMs times = some counter.windowStart ∧
    (0 < policy.windowMs → counter.count =
      (FixedWindow.through policy.windowMs (policy.limit scope) times).countP
        (counter.windowStart ≤ ·))

/-- What the counters tell of the requests so far. A counter that is missing belongs to a window
that was over at some time on the clock. -/
structure Knows (policy : ConsoleRatePolicy) (log : List Asked) (clock : List Int)
    (counters : RateCounters) : Prop where
  single : Entries.Single counters
  told : ∀ asked ∈ log, asked.time ∈ clock
  found : ∀ {scope address counter}, counters.lookup (counterKey scope address) = some counter →
    Tells policy scope (times log scope address) counter
  lost : ∀ {scope address start}, counters.lookup (counterKey scope address) = none →
    FixedWindow.opened policy.windowMs (times log scope address) = some start →
      ∃ last ∈ clock, policy.windowMs ≤ last - start

theorem knows_nothing : Knows policy [] [] [] where
  single := List.nodup_nil
  told := by simp
  found := by simp
  lost := by simp [times, FixedWindow.opened]

theorem Knows.later (knows : Knows policy log clock counters) :
    Knows policy log (now :: clock) counters where
  single := knows.single
  told asked listed := List.mem_cons_of_mem _ (knows.told asked listed)
  found := knows.found
  lost missing open' := by
    obtain ⟨last, listed, closed⟩ := knows.lost missing open'
    exact ⟨last, List.mem_cons_of_mem _ listed, closed⟩

/-- Dropping counters whose windows are over loses nothing else. -/
theorem Knows.prune (knows : Knows policy log clock counters) :
    Knows policy log (now :: clock) (pruneCounters policy counters now) where
  single := knows.single.filter _
  told asked listed := List.mem_cons_of_mem _ (knows.told asked listed)
  found held := by
    unfold pruneCounters at held
    rw [knows.single.lookup_filter] at held
    obtain ⟨kept, _⟩ := Option.filter_eq_some_iff.mp held
    exact knows.found kept
  lost {scope address start} missing open' := by
    unfold pruneCounters at missing
    rw [knows.single.lookup_filter] at missing
    cases before : counters.lookup (counterKey scope address) with
    | none =>
      obtain ⟨last, listed, closed⟩ := knows.lost before open'
      exact ⟨last, List.mem_cons_of_mem _ listed, closed⟩
    | some counter =>
      rw [before] at missing
      have dropped := Option.filter_eq_none_iff.mp missing counter rfl
      obtain ⟨opened, _⟩ := knows.found before
      rw [open'] at opened
      cases opened
      refine ⟨now, List.mem_cons_self, ?_⟩
      simpa using dropped

/-- What a limiter that forgets nothing answers. -/
def verdictOf (policy : ConsoleRatePolicy) (scope : ConsoleRateScope) (now : Int)
    (times : List Int) : ConsoleRateVerdict :=
  if FixedWindow.passes policy.windowMs (policy.limit scope) now
      (FixedWindow.opened policy.windowMs times)
      (FixedWindow.through policy.windowMs (policy.limit scope) times) then .ok
  else
    match FixedWindow.opened policy.windowMs times with
    | none => .ok
    | some start => .refused (retryAfter policy (now - start))

/-- The window a missing counter belonged to is over. -/
theorem Knows.over (knows : Knows policy log clock counters)
    (ordered : ∀ last ∈ clock, last ≤ now)
    (missing : counters.lookup (counterKey scope address) = none)
    (open' : FixedWindow.opened policy.windowMs (times log scope address) = some opening) :
    policy.windowMs ≤ now - opening := by
  obtain ⟨last, listed, closed⟩ := knows.lost missing open'
  have reached := ordered last listed
  omega

/-- The window that is open has started by now. -/
theorem Knows.started (knows : Knows policy log clock counters)
    (ordered : ∀ last ∈ clock, last ≤ now)
    (open' : FixedWindow.opened policy.windowMs (times log scope address) = some opening) :
    opening ≤ now := by
  obtain ⟨asked, listed, same⟩ :=
    List.mem_map.mp (times_sublist.subset (FixedWindow.opened_mem open'))
  rw [← same]
  exact ordered _ (knows.told asked listed)

/-- While its window is open, the counter has counted what it let through. -/
theorem Knows.counts (knows : Knows policy log clock counters)
    (ordered : ∀ last ∈ clock, last ≤ now) {counter : RateCounter}
    (held : counters.lookup (counterKey scope address) = some counter)
    (live : ¬ policy.windowMs ≤ now - counter.windowStart) :
    counter.count = (FixedWindow.through policy.windowMs (policy.limit scope)
      (times log scope address)).countP (counter.windowStart ≤ ·) := by
  obtain ⟨open', counted⟩ := knows.found held
  have started := knows.started ordered open'
  exact counted (by omega)

/-- The counters give the answer of a limiter that forgets nothing. -/
theorem check_verdict (knows : Knows policy log clock counters)
    (ordered : ∀ last ∈ clock, last ≤ now) :
    (checkTidied tidy policy counters address scope now).2 =
      verdictOf policy scope now (times log scope address) := by
  unfold verdictOf
  cases held : counters.lookup (counterKey scope address) with
  | none =>
    cases open' : FixedWindow.opened policy.windowMs (times log scope address) with
    | none => simp [checkTidied, held, FixedWindow.passes]
    | some opening =>
      have closed := knows.over ordered held open'
      simp [checkTidied, held, FixedWindow.passes, closed]
  | some counter =>
    rw [(knows.found held).1]
    by_cases closed : policy.windowMs ≤ now - counter.windowStart
    · simp [checkTidied, held, FixedWindow.passes, closed]
    · have counted := knows.counts ordered held closed
      simp only [checkTidied, held, FixedWindow.passes, closed, if_false, decide_false,
        Bool.false_or, ← counted]
      by_cases full : policy.limit scope ≤ counter.count
      · simp [full]
      · simp [full, Nat.not_le.mp full]

/-- Writing down a request in its own counter keeps the others true. -/
theorem Knows.put (knows : Knows policy log clock counters) (listed : now ∈ clock)
    {counter : RateCounter} (told : Tells policy scope (now :: times log scope address) counter) :
    Knows policy (⟨scope, address, now⟩ :: log) clock
      (counters.put (counterKey scope address) counter) where
  single := knows.single.put
  told := List.forall_mem_cons.mpr ⟨listed, knows.told⟩
  found {other other' held} found := by
    by_cases same : scope = other ∧ address = other'
    · obtain ⟨rfl, rfl⟩ := same
      rw [Entries.lookup_put] at found
      cases found
      rw [times_same]
      exact told
    · have apart : counterKey other other' ≠ counterKey scope address := by
        intro equal
        obtain ⟨scopes, addresses⟩ := counterKey_inj equal
        exact same ⟨scopes.symm, addresses.symm⟩
      rw [Entries.lookup_put_other apart] at found
      rw [times_other same]
      exact knows.found found
  lost {other other' start} missing open' := by
    by_cases same : scope = other ∧ address = other'
    · obtain ⟨rfl, rfl⟩ := same
      rw [Entries.lookup_put] at missing
      cases missing
    · have apart : counterKey other other' ≠ counterKey scope address := by
        intro equal
        obtain ⟨scopes, addresses⟩ := counterKey_inj equal
        exact same ⟨scopes.symm, addresses.symm⟩
      rw [Entries.lookup_put_other apart] at missing
      rw [times_other same] at open'
      exact knows.lost missing open'

/-- A request that changes no counter leaves them true when its own still is. -/
theorem Knows.same (knows : Knows policy log clock counters) (listed : now ∈ clock)
    {counter : RateCounter} (held : counters.lookup (counterKey scope address) = some counter)
    (told : Tells policy scope (now :: times log scope address) counter) :
    Knows policy (⟨scope, address, now⟩ :: log) clock counters where
  single := knows.single
  told := List.forall_mem_cons.mpr ⟨listed, knows.told⟩
  found {other other' counter'} found := by
    by_cases same : scope = other ∧ address = other'
    · obtain ⟨rfl, rfl⟩ := same
      rw [held] at found
      cases found
      rw [times_same]
      exact told
    · rw [times_other same]
      exact knows.found found
  lost {other other' start} missing open' := by
    by_cases same : scope = other ∧ address = other'
    · obtain ⟨rfl, rfl⟩ := same
      rw [held] at missing
      cases missing
    · rw [times_other same] at open'
      exact knows.lost missing open'

/-- The counter of a window that opens now. -/
theorem tells_opened (closed : ∀ opening,
      FixedWindow.opened policy.windowMs (times log scope address) = some opening →
        policy.windowMs ≤ now - opening) :
    Tells policy scope (now :: times log scope address) ⟨1, now⟩ := by
  unfold Tells FixedWindow.through
  cases open' : FixedWindow.opened policy.windowMs (times log scope address) with
  | none =>
    refine ⟨FixedWindow.opened_cons_none open', fun _ => ?_⟩
    rw [FixedWindow.opened_eq_none.mp open']
    simp [FixedWindow.passes, FixedWindow.through]
  | some opening =>
    have gone := closed opening open'
    refine ⟨FixedWindow.opened_cons_over open' gone, fun wide => ?_⟩
    have before : (FixedWindow.through policy.windowMs (policy.limit scope)
        (times log scope address)).countP (now ≤ ·) = 0 := by
      apply List.countP_eq_zero.mpr
      intro time listed late
      have early := FixedWindow.before_close wide open' time
        (FixedWindow.through_sublist.subset listed)
      have late := of_decide_eq_true late
      omega
    rw [if_pos (by simp [FixedWindow.passes, gone]), List.countP_cons, before]
    simp

/-- A check writes down the request it answers. -/
theorem Knows.check (knows : Knows policy log clock counters)
    (ordered : ∀ last ∈ clock, last ≤ now)
    (tidied : Knows policy log (now :: clock) (tidy counters)) :
    Knows policy (⟨scope, address, now⟩ :: log) (now :: clock)
      (checkTidied tidy policy counters address scope now).1 := by
  have listed : now ∈ now :: clock := List.mem_cons_self
  cases held : counters.lookup (counterKey scope address) with
  | none =>
    simp only [checkTidied, held]
    refine tidied.put listed (tells_opened fun opening open' => ?_)
    exact knows.over ordered held open'
  | some counter =>
    obtain ⟨open', _⟩ := knows.found held
    simp only [checkTidied, held]
    by_cases closed : policy.windowMs ≤ now - counter.windowStart
    · rw [if_pos closed]
      refine tidied.put listed (tells_opened fun opening same => ?_)
      rw [open'] at same
      cases same
      exact closed
    · have counted := knows.counts ordered held closed
      have started := knows.started ordered open'
      rw [if_neg closed]
      by_cases full : policy.limit scope ≤ counter.count
      · rw [if_pos full]
        refine knows.later.same listed held ⟨FixedWindow.opened_cons_live open' closed, ?_⟩
        intro _
        unfold FixedWindow.through
        rw [if_neg (by simp [FixedWindow.passes, open', closed, ← counted, full])]
        exact counted
      · rw [if_neg full]
        refine knows.later.put listed ⟨FixedWindow.opened_cons_live open' closed, ?_⟩
        intro _
        unfold FixedWindow.through
        rw [if_pos (by simp [FixedWindow.passes, open', ← counted, Nat.not_le.mp full]),
          List.countP_cons, ← counted]
        simp [started]

abbrev RatedStep := Taken RatedConsole ConsoleEvent

/-- What a console does at an event. -/
def Steps (deps : ConsoleDeps) (screens : ConsoleScreens) (policy : ConsoleRatePolicy)
    (console : RatedConsole) (event : ConsoleEvent) (console' : RatedConsole) : Prop :=
  console' = console.next deps screens policy event

/-- What the limiter is asked at a step, if anything. -/
def askedAt (taken : RatedStep) : Option Asked :=
  match taken.event with
  | .visited visit now => some ⟨scopeForPath visit.path, visit.address, now⟩
  | .advanced .. => none

def logOf (past : List RatedStep) : List Asked :=
  past.filterMap askedAt

/-- No request comes before an earlier one. -/
def Ordered (past : List RatedStep) : Prop :=
  (logOf past).Pairwise fun later earlier => earlier.time ≤ later.time

/-- When a request of an address in a scope is let through at a step. -/
def admittedAt (policy : ConsoleRatePolicy) (scope : ConsoleRateScope) (address : String)
    (taken : RatedStep) : Option Int :=
  match taken.event with
  | .visited visit now =>
    if scopeForPath visit.path = scope ∧ visit.address = address ∧
        (taken.before.answer policy visit now).2 = .ok then some now
    else none
  | .advanced .. => none

def letThrough (policy : ConsoleRatePolicy) (scope : ConsoleRateScope) (address : String)
    (past : List RatedStep) : List Int :=
  past.filterMap (admittedAt policy scope address)

/-- The counters of a limiter that drops nothing and is asked the same. -/
def keeping (policy : ConsoleRatePolicy) : List RatedStep → RateCounters
  | [] => []
  | taken :: past =>
    match taken.event with
    | .visited visit now =>
      (checkKeeping policy (keeping policy past) visit.address (scopeForPath visit.path) now).1
    | .advanced .. => keeping policy past

variable {deps : ConsoleDeps} {screens : ConsoleScreens} {console : RatedConsole}
  {past older newer : List RatedStep} {taken : RatedStep}

/-- What both limiters and the record of what was let through tell of a run. -/
structure Remembers (policy : ConsoleRatePolicy) (past : List RatedStep)
    (console : RatedConsole) : Prop where
  pruning : Knows policy (logOf past) ((logOf past).map Asked.time) console.counters
  keeping : Knows policy (logOf past) ((logOf past).map Asked.time) (keeping policy past)
  through : ∀ scope address, letThrough policy scope address past =
    FixedWindow.through policy.windowMs (policy.limit scope) (times (logOf past) scope address)

/-- What a request is answered follows from the requests before it. -/
theorem Remembers.answer (remembers : Remembers policy past console) {visit : ConsoleVisit}
    (ordered : ∀ last ∈ (logOf past).map Asked.time, last ≤ now) :
    (console.answer policy visit now).2 = verdictOf policy (scopeForPath visit.path) now
      (times (logOf past) (scopeForPath visit.path) visit.address) :=
  check_verdict remembers.pruning ordered

theorem next_counters {visit : ConsoleVisit} :
    (console.next deps screens policy (.visited visit now)).counters =
      (console.answer policy visit now).1 := by
  simp only [RatedConsole.next]
  split
  · rename_i answered
    rw [answered]
  · rename_i answered
    rw [answered]

theorem advanced_counters {place : Nat} {input : ConsoleInput} :
    (console.next deps screens policy (.advanced place input)).counters = console.counters := by
  simp only [RatedConsole.next]
  split
  · rfl
  · rfl

theorem ordered_latest (ordered : Ordered (taken :: past)) {asked : Asked}
    (found : askedAt taken = some asked) :
    Ordered past ∧ ∀ last ∈ (logOf past).map Asked.time, last ≤ asked.time := by
  unfold Ordered logOf at ordered
  rw [List.filterMap_cons_some found] at ordered
  obtain ⟨latest, ordered⟩ := List.pairwise_cons.mp ordered
  refine ⟨ordered, fun last listed => ?_⟩
  obtain ⟨earlier, before, rfl⟩ := List.mem_map.mp listed
  exact latest earlier before

/-- What is let through is what a limiter that forgets nothing lets through. -/
theorem through_verdict :
    (verdictOf policy scope now (times log scope address) = .ok) ↔
      FixedWindow.passes policy.windowMs (policy.limit scope) now
        (FixedWindow.opened policy.windowMs (times log scope address))
        (FixedWindow.through policy.windowMs (policy.limit scope) (times log scope address)) =
          true := by
  unfold verdictOf
  constructor
  · intro passed
    by_contra refused
    rw [if_neg refused] at passed
    cases open' : FixedWindow.opened policy.windowMs (times log scope address) with
    | none => simp [open', FixedWindow.passes] at refused
    | some opening => simp [open'] at passed
  · intro passes
    rw [if_pos passes]

theorem Remembers.visited (remembers : Remembers policy past console) {visit : ConsoleVisit}
    (ordered : ∀ last ∈ (logOf past).map Asked.time, last ≤ now) :
    Remembers policy (⟨console, .visited visit now,
        console.next deps screens policy (.visited visit now)⟩ :: past)
      (console.next deps screens policy (.visited visit now)) where
  pruning := by
    rw [next_counters]
    refine remembers.pruning.check ordered ?_
    split
    · exact remembers.pruning.prune
    · exact remembers.pruning.later
  keeping := remembers.keeping.check ordered remembers.keeping.later
  through scope address := by
    have answered := @Remembers.answer _ _ _ _ remembers visit ordered
    have before := remembers.through scope address
    unfold letThrough at before ⊢
    rw [List.filterMap_cons, before]
    by_cases same : scopeForPath visit.path = scope ∧ visit.address = address
    · obtain ⟨rfl, rfl⟩ := same
      have asked : times (logOf (⟨console, .visited visit now,
          console.next deps screens policy (.visited visit now)⟩ :: past))
            (scopeForPath visit.path) visit.address =
          now :: times (logOf past) (scopeForPath visit.path) visit.address := times_same
      rw [asked, FixedWindow.through]
      by_cases passed : (console.answer policy visit now).2 = .ok
      · rw [if_pos (through_verdict.mp (answered ▸ passed))]
        simp [admittedAt, passed]
      · rw [if_neg fun passes => passed (answered.trans (through_verdict.mpr passes))]
        simp [admittedAt, passed]
    · have asked : times (logOf (⟨console, .visited visit now,
          console.next deps screens policy (.visited visit now)⟩ :: past)) scope address =
          times (logOf past) scope address := times_other same
      rw [asked]
      have elsewhere : admittedAt policy scope address ⟨console, .visited visit now,
          console.next deps screens policy (.visited visit now)⟩ = none := by
        apply if_neg
        intro here
        exact same ⟨here.1, here.2.1⟩
      rw [elsewhere]

theorem Remembers.advanced (remembers : Remembers policy past console) {place : Nat}
    {input : ConsoleInput} :
    Remembers policy (⟨console, .advanced place input,
        console.next deps screens policy (.advanced place input)⟩ :: past)
      (console.next deps screens policy (.advanced place input)) where
  pruning := by
    rw [advanced_counters]
    exact remembers.pruning
  keeping := remembers.keeping
  through := remembers.through

/-- A run of the console since it started. -/
abbrev RatedRun (deps : ConsoleDeps) (screens : ConsoleScreens) (policy : ConsoleRatePolicy) :
    List RatedStep → RatedConsole → Prop :=
  Run RatedConsole.Fresh (Steps deps screens policy)

theorem remembers (run : RatedRun deps screens policy past console) (ordered : Ordered past) :
    Remembers policy past console := by
  induction run with
  | start fresh =>
    rename_i console
    have none : console.counters = [] := fresh.1
    refine ⟨?_, knows_nothing, fun _ _ => rfl⟩
    rw [none]
    exact knows_nothing
  | step run steps ih =>
    rename_i event _
    cases steps
    cases event with
    | visited visit now =>
      obtain ⟨ordered, latest⟩ := ordered_latest ordered rfl
      exact (ih ordered).visited latest
    | advanced place input => exact (ih ordered).advanced

/-- A request stands where its route can bring it: only a code's route verifies one, and only the
step-up has a password proved. -/
def Placed (call : ConsoleRequest) : Prop :=
  match call.point with
  | .verifying .. => ∃ candidate, call.route = .otp candidate
  | .proving .. => ∃ password, call.route = .stepUp password
  | _ => True

variable {db : ConsoleDb} {call : ConsoleRequest} {input : ConsoleInput} {visit : ConsoleVisit}
  {served : Served} {secret : ConsoleSecret}

theorem admit_placed {session : AdminSessionId} {context : AdminAuthContext} :
    ( call.admit deps input db session context).2.route = call.route ∧
      Placed ( call.admit deps input db session context).2 := by
  have admitted : Placed (call.at (.admitted session context (input.now 1))) := trivial
  cases route : call.route with
  | enrolMfa =>
    simp only [ ConsoleRequest.admit, route]
    split
    · exact ⟨route, trivial⟩
    · exact ⟨route, trivial⟩
  | stepUp password =>
    simp only [ ConsoleRequest.admit, route]
    split
    · exact ⟨route, trivial⟩
    · exact ⟨route, admitted⟩
  | createAdmin form =>
    simp only [ ConsoleRequest.admit, route]
    cases refusedPermission deps context .manageAdmins (input.now 1) with
    | some refusal => exact ⟨route, trivial⟩
    | none => exact ⟨route, admitted⟩
  | resetMfa target =>
    simp only [ ConsoleRequest.admit, route]
    cases refusedPermission deps context .manageAdmins (input.now 1) with
    | some refusal => exact ⟨route, trivial⟩
    | none =>
      cases findAdminUser db target with
      | none => exact ⟨route, trivial⟩
      | some row => exact ⟨route, trivial⟩
  | screen permission =>
    simp only [ ConsoleRequest.admit, route]
    cases refusedPermission deps context permission (input.now 1) with
    | some refusal => exact ⟨route, trivial⟩
    | none => exact ⟨route, trivial⟩
  | _ =>
    simp only [ ConsoleRequest.admit, route]
    exact ⟨route, trivial⟩

theorem read_placed (placed : Placed call) {session : AdminSessionId}
    {context : AdminAuthContext} :
    (call.read deps input db session context now).2.route = call.route ∧
      Placed (call.read deps input db session context now).2 := by
  cases route : call.route with
  | resendOtp =>
    simp only [ConsoleRequest.read, route]
    split
    · exact ⟨route, trivial⟩
    · split
      · exact ⟨route, trivial⟩
      · exact ⟨route, trivial⟩
  | otp candidate =>
    simp only [ConsoleRequest.read, route]
    cases findAdminOtp db context.user.id with
    | none => exact ⟨route, trivial⟩
    | some found => exact ⟨route, candidate, route⟩
  | mfa supplied =>
    simp only [ConsoleRequest.read, route]
    cases (findAdminUser db context.user.id).bind (·.mfaSecret) with
    | none => exact ⟨route, trivial⟩
    | some secret =>
      simp only []
      split
      · exact ⟨route, trivial⟩
      · exact ⟨route, trivial⟩
  | stepUp password =>
    simp only [ConsoleRequest.read, route]
    cases findAdminUser db context.user.id with
    | none => exact ⟨route, trivial⟩
    | some row => exact ⟨route, password, route⟩
  | createAdmin form =>
    simp only [ConsoleRequest.read, route]
    exact ⟨route, trivial⟩
  | _ =>
    simp only [ConsoleRequest.read, route]
    exact ⟨trivial, placed⟩

/-- A step keeps a request to its route. -/
theorem step_placed (placed : Placed call) :
    (call.step deps input db).2.route = call.route ∧ Placed (call.step deps input db).2 := by
  cases point : call.point with
  | begin =>
    simp only [ConsoleRequest.step, point]
    split
    · exact ⟨rfl, trivial⟩
    · exact admit_placed
  | admitted session context now =>
    simp only [ConsoleRequest.step, point]
    exact read_placed placed
  | answered answer =>
    simp only [ConsoleRequest.step, point]
    exact ⟨trivial, placed⟩
  | _ =>
    simp only [ConsoleRequest.step, point]
    repeat' split
    all_goals exact ⟨rfl, trivial⟩

/-- The secret that a step compares, and the request it is compared for. -/
def comparedAt (taken : RatedStep) : Option (ConsoleVisit × ConsoleSecret) :=
  match taken.event with
  | .visited .. => none
  | .advanced place _ =>
    taken.before.served[place]?.bind fun served =>
      (served.process.compares taken.before.db).map fun secret => (served.visit, secret)

/-- A process serves its request where the console's routes send it. -/
def Dispatched (screens : ConsoleScreens) (served : Served) : Prop :=
  match served.process with
  | .signIn _ => served.visit.path = "/login"
  | .request call => call.route = served.visit.route screens ∧ Placed call

theorem process_dispatched {process : ConsoleProcess}
    (found : visit.process screens = some process) : Dispatched screens ⟨visit, process⟩ := by
  unfold ConsoleVisit.process at found
  split at found
  · cases found
  split at found
  · cases found
  split at found
  · cases found
  split at found
  · rename_i login
    cases found
    exact login.1
  · cases found
    exact ⟨rfl, trivial⟩

theorem step_dispatched (dispatched : Dispatched screens served) :
    Dispatched screens { served with process := (served.process.step deps input db).2 } := by
  obtain ⟨visit, process⟩ := served
  cases process with
  | signIn call => exact dispatched
  | request call =>
    obtain ⟨route, placed⟩ := dispatched
    obtain ⟨kept, placed⟩ : (call.step deps input db).2.route = call.route ∧
        Placed (call.step deps input db).2 := step_placed placed
    exact ⟨kept.trans route, placed⟩

/-- Whatever is served keeps to the routes of the request it came from. -/
theorem run_dispatched (run : RatedRun deps screens policy past console) :
    ∀ served ∈ console.served, Dispatched screens served := by
  refine run.invariant (I := fun console => ∀ served ∈ console.served, Dispatched screens served)
    ?_ ?_
  · intro console fresh served listed
    rw [fresh.2] at listed
    cases listed
  · intro console event console' kept steps served listed
    cases steps
    cases event with
    | visited visit now =>
      simp only [RatedConsole.next] at listed
      split at listed
      · exact kept served listed
      · rcases List.mem_append.mp listed with before | added
        · exact kept served before
        · obtain ⟨process, found, rfl⟩ := Option.map_eq_some_iff.mp (Option.mem_toList.mp added)
          exact process_dispatched found
    | advanced place input =>
      simp only [RatedConsole.next] at listed
      split at listed
      · exact kept served listed
      · rename_i advancing found
        rcases List.mem_or_eq_of_mem_set listed with before | rfl
        · exact kept served before
        · exact step_dispatched (kept advancing (List.mem_of_getElem? found))

/-- The routes that ask for a secret, and the paths they are under. -/
theorem route_proves {route : ConsoleRoute} (routed : visit.route screens = route) :
    (∀ candidate, route = .otp candidate → visit.path = "/otp") ∧
    (∀ supplied, route = .mfa supplied → visit.path = "/mfa") ∧
    (∀ password, route = .stepUp password → visit.path = "/step-up") := by
  have asks := screens.asks_nothing visit
  unfold ConsoleVisit.route at routed
  split at routed
  · simp [← routed]
  split at routed
  · simp [← routed]
  split at routed
  · simp [← routed]
  split at routed
  · simp [← routed]
  split at routed
  · rename_i otp
    simp [← routed, otp]
  split at routed
  · rename_i mfa
    split at routed <;> simp [← routed, mfa]
  split at routed
  · rename_i stepUp
    simp [← routed, stepUp]
  · rw [routed] at asks
    refine ⟨?_, ?_, ?_⟩
    all_goals
      intro typed same
      rw [same] at asks
      cases asks

/-- Every secret but the emailed code is asked for under a path of the tight limit, and that one
never is. -/
theorem compared_scope (dispatched : Dispatched screens served)
    (compared : served.process.compares db = some secret) :
    scopeForPath served.visit.path = .auth ↔ secret ≠ .emailedCode := by
  obtain ⟨visit, process⟩ := served
  cases process with
  | signIn call =>
    have path : visit.path = "/login" := dispatched
    have password : secret = .password := by
      simp only [ConsoleProcess.compares] at compared
      split at compared
      · cases compared
        rfl
      · cases compared
        rfl
      · cases compared
    rw [password]
    change scopeForPath visit.path = .auth ↔ _
    rw [path]
    decide
  | request call =>
    obtain ⟨routed, placed⟩ := dispatched
    obtain ⟨otp, mfa, stepUp⟩ := route_proves routed.symm
    change scopeForPath visit.path = .auth ↔ _
    cases point : call.point with
    | admitted session context now =>
      simp only [ConsoleProcess.compares, point] at compared
      split at compared
      · rename_i supplied _ route _
        split at compared
        · cases compared
          rw [mfa _ route]
          decide
        · cases compared
      · cases compared
    | verifying session admin candidate code attempts now =>
      simp only [ConsoleProcess.compares, point] at compared
      simp only [Placed, point] at placed
      obtain ⟨typed, route⟩ := placed
      split at compared
      · cases compared
        rw [otp _ route]
        decide
      · cases compared
    | proving session password row =>
      simp only [ConsoleProcess.compares, point] at compared
      simp only [Placed, point] at placed
      obtain ⟨typed, route⟩ := placed
      cases compared
      rw [stepUp _ route]
      decide
    | _ =>
      simp only [ConsoleProcess.compares, point] at compared
      cases compared

/-- What the limiter is there for. -/
structure Throttled (policy : ConsoleRatePolicy) (past : List RatedStep) : Prop where
  few : ∀ scope address start,
    FixedWindow.Opens policy.windowMs (times (logOf past) scope address) start →
      FixedWindow.inside policy.windowMs start (letThrough policy scope address past) ≤
        policy.limit scope
  unpruned : ∀ newer taken older visit now, past = newer ++ taken :: older →
    taken.event = .visited visit now →
      (taken.before.answer policy visit now).2 =
        (checkKeeping policy (keeping policy older) visit.address (scopeForPath visit.path) now).2
  patient : ∀ newer taken older visit now seconds, past = newer ++ taken :: older →
    taken.event = .visited visit now →
      (taken.before.answer policy visit now).2 = .refused seconds →
        ∃ start, FixedWindow.opened policy.windowMs
          (times (logOf older) (scopeForPath visit.path) visit.address) = some start ∧
            start + policy.windowMs ≤ now + 1000 * seconds
  counted : ∀ taken ∈ past, ∀ visit secret, comparedAt taken = some (visit, secret) →
    scopeForPath visit.path = .auth

theorem letThrough_le (run : RatedRun deps screens policy past console) (ordered : Ordered past)
    (room : ∀ asked ∈ logOf past, 0 < policy.windowMs → 1 ≤ policy.limit asked.scope)
    (opens : FixedWindow.Opens policy.windowMs (times (logOf past) scope address) opening) :
    FixedWindow.inside policy.windowMs opening (letThrough policy scope address past) ≤
      policy.limit scope := by
  rw [(remembers run ordered).through]
  by_cases wide : 0 < policy.windowMs
  · have passed : opening ∈ FixedWindow.through policy.windowMs (policy.limit scope)
        (times (logOf past) scope address) := opens.passed
    have listed := FixedWindow.through_sublist.subset passed
    obtain ⟨asked, there, _⟩ := List.mem_map.mp listed
    obtain ⟨there, same⟩ := List.mem_filter.mp there
    have some' := room asked there wide
    rw [(of_decide_eq_true same).1] at some'
    have sorted : ((logOf past).map Asked.time).Pairwise (· ≥ ·) := List.pairwise_map.mpr ordered
    exact FixedWindow.inside_le wide some' (sorted.sublist times_sublist) opens
  · have none : FixedWindow.inside policy.windowMs opening (FixedWindow.through policy.windowMs
        (policy.limit scope) (times (logOf past) scope address)) = 0 := by
      apply List.countP_eq_zero.mpr
      intro time _ held
      have within := of_decide_eq_true held
      omega
    rw [none]
    exact Nat.zero_le _

/-- A step of a run, with what both limiters knew before it. -/
theorem remembers_before (run : RatedRun deps screens policy (newer ++ taken :: older) console)
    (ordered : Ordered (newer ++ taken :: older)) (came : taken.event = .visited visit now) :
    Remembers policy older taken.before ∧
      ∀ last ∈ (logOf older).map Asked.time, last ≤ now := by
  obtain ⟨before, _⟩ := run.earlier
  have tail : Ordered (taken :: older) := by
    unfold Ordered logOf at ordered ⊢
    rw [List.filterMap_append] at ordered
    exact (List.pairwise_append.mp ordered).2.1
  have asked : askedAt taken = some ⟨scopeForPath visit.path, visit.address, now⟩ := by
    simp only [askedAt, came]
  obtain ⟨ordered, latest⟩ := ordered_latest tail asked
  exact ⟨remembers before ordered, latest⟩

theorem retryAfter_long {elapsed : Int} :
    policy.windowMs - elapsed ≤ 1000 * retryAfter policy elapsed := by
  unfold retryAfter
  omega

theorem verdict_refused {times : List Int} {seconds : Int}
    (refused : verdictOf policy scope now times = .refused seconds) :
    ∃ start, FixedWindow.opened policy.windowMs times = some start ∧
      start + policy.windowMs ≤ now + 1000 * seconds := by
  unfold verdictOf at refused
  split at refused
  · cases refused
  · cases open' : FixedWindow.opened policy.windowMs times with
    | none =>
      rw [open'] at refused
      cases refused
    | some start =>
      rw [open'] at refused
      cases refused
      have := @retryAfter_long policy (now - start)
      exact ⟨start, rfl, by omega⟩

theorem compared_dispatched (run : RatedRun deps screens policy past console)
    (listed : taken ∈ past) (compared : comparedAt taken = some (visit, secret)) :
    scopeForPath visit.path = .auth ↔ secret ≠ .emailedCode := by
  obtain ⟨newer, older, rfl⟩ := List.append_of_mem listed
  obtain ⟨before, _⟩ := run.earlier
  unfold comparedAt at compared
  split at compared
  · cases compared
  · obtain ⟨served, there, compared⟩ := Option.bind_eq_some_iff.mp compared
    obtain ⟨found, compares, same⟩ := Option.map_eq_some_iff.mp compared
    cases same
    exact compared_scope (run_dispatched before served (List.mem_of_getElem? there)) compares

/-- A request opens a window, or finds one that is open. -/
theorem asked_opens {asked : Asked} (listed : asked ∈ logOf past) :
    ∃ start, FixedWindow.Opens policy.windowMs (times (logOf past) asked.scope asked.address)
      start := by
  cases open' : FixedWindow.opened policy.windowMs
      (times (logOf past) asked.scope asked.address) with
  | some start => exact ⟨start, FixedWindow.opens_now open'⟩
  | none =>
    have there : asked.time ∈ times (logOf past) asked.scope asked.address :=
      List.mem_map_of_mem (List.mem_filter.mpr ⟨listed, by simp⟩)
    rw [FixedWindow.opened_eq_none.mp open'] at there
    cases there

/-- The limiter does all of it exactly when its limits leave room for a request and no emailed code
is compared. -/
theorem console_throttled (run : RatedRun deps screens policy past console)
    (ordered : Ordered past) :
    Throttled policy past ↔
      (∀ asked ∈ logOf past, 0 < policy.windowMs → 1 ≤ policy.limit asked.scope) ∧
      ∀ taken ∈ past, ∀ visit, comparedAt taken ≠ some (visit, .emailedCode) := by
  constructor
  · intro throttled
    constructor
    · intro asked listed wide
      obtain ⟨start, opens⟩ := asked_opens listed
      have few := throttled.few _ _ _ opens
      rw [(remembers run ordered).through] at few
      have passed : start ∈ FixedWindow.through policy.windowMs (policy.limit asked.scope)
          (times (logOf past) asked.scope asked.address) := opens.passed
      have counted : 0 < FixedWindow.inside policy.windowMs start (FixedWindow.through
          policy.windowMs (policy.limit asked.scope)
            (times (logOf past) asked.scope asked.address)) := by
        apply List.countP_pos_iff.mpr
        exact ⟨start, passed, decide_eq_true (by omega)⟩
      omega
    · intro taken listed visit compared
      have auth := throttled.counted taken listed visit .emailedCode compared
      exact (compared_dispatched run listed compared).mp auth rfl
  · intro ⟨room, noCode⟩
    refine ⟨fun scope address start => letThrough_le run ordered room, ?_, ?_, ?_⟩
    · rintro newer taken older visit now rfl came
      obtain ⟨known, latest⟩ := remembers_before run ordered came
      rw [known.answer latest]
      exact (check_verdict known.keeping latest).symm
    · rintro newer taken older visit now seconds rfl came refused
      obtain ⟨known, latest⟩ := remembers_before run ordered came
      rw [known.answer latest] at refused
      exact verdict_refused refused
    · intro taken listed visit secret compared
      apply (compared_dispatched run listed compared).mpr
      intro same
      rw [same] at compared
      exact noCode taken listed visit compared

/-- The owner has signed in and a code was mailed. -/
def codeAwaited : ConsoleDb where
  adminUsers := [{ Console.newOwner with otp := some ⟨"000000", "salt", 60000, 0⟩ }]
  adminPermissions := []
  adminSessions := [{ id := "token", adminUserId := "owner", createdAt := 0, lastSeenAt := 0,
                      idleExpiresAt := 900000, absoluteExpiresAt := 28800000 }]

def pagesOnly : ConsoleScreens where
  route _ := .page
  asks_nothing _ := rfl

/-- A form posted with the owner's session. -/
def posted (path field typed : String) : ConsoleVisit where
  address := "198.51.100.7"
  method := "POST"
  path := path
  originAllowed := true
  sessionToken := "token"
  form name := if name = field then some typed else none

/-- What the console makes of some events, once a code was mailed. -/
def ratedPlayed (events : List ConsoleEvent) : List RatedStep × RatedConsole :=
  played (RatedConsole.next Console.plainConsole pagesOnly consoleRatePolicy) events []
    ⟨[], codeAwaited, []⟩

theorem codeAwaited_fresh : RatedConsole.Fresh ⟨[], codeAwaited, []⟩ :=
  ⟨rfl, rfl⟩

theorem ratedPlayed_run (events : List ConsoleEvent) :
    RatedRun Console.plainConsole pagesOnly consoleRatePolicy (ratedPlayed events).1
      (ratedPlayed events).2 := by
  have steps : ∀ console event, True → Steps Console.plainConsole pagesOnly consoleRatePolicy console
      event (console.next Console.plainConsole pagesOnly consoleRatePolicy event) :=
    fun _ _ _ => rfl
  refine Run.play steps (.start codeAwaited_fresh) ?_
  generalize (⟨[], codeAwaited, []⟩ : RatedConsole) = console
  induction events generalizing console with
  | nil => trivial
  | cons event events ih => exact ⟨trivial, ih _⟩

/-- A code is typed in, and compared. -/
def codeTyped : List ConsoleEvent :=
  .visited (posted "/otp" "code" "999999") 1 ::
    List.replicate 3 (.advanced 0 (Console.stillAt 1 "unused"))

/-- A password is typed in for an address nobody has, and compared with the decoy. -/
def passwordTyped : List ConsoleEvent :=
  .visited (posted "/login" "password" "a guess") 1 ::
    List.replicate 2 (.advanced 0 (Console.stillAt 1 "unused"))

/-- An emailed code is compared for a request that the loose limit counted. -/
theorem codes_counted_loosely : ¬ ∀ deps screens past console,
    RatedRun deps screens consoleRatePolicy past console → Ordered past →
      Throttled consoleRatePolicy past := by
  intro always
  have throttled := always _ _ _ _ (ratedPlayed_run codeTyped) (by unfold Ordered; decide)
  have auth := throttled.counted _ (List.mem_cons_self ..) (posted "/otp" "code" "999999")
    .emailedCode rfl
  exact absurd auth (by decide)

/-- A sign-in is counted tightly. -/
theorem password_throttled : Throttled consoleRatePolicy (ratedPlayed passwordTyped).1 := by
  refine (console_throttled (ratedPlayed_run passwordTyped) (by unfold Ordered; decide)).mpr
    ⟨?_, ?_⟩
  · decide
  · have none : ∀ taken ∈ (ratedPlayed passwordTyped).1,
        (comparedAt taken).map Prod.snd ≠ some .emailedCode := by
      decide
    intro taken listed visit compared
    apply none taken listed
    rw [compared]
    rfl

end Telga.Proofs.ConsoleRates
