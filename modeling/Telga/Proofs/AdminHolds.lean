import Telga.Library.Holds
import Telga.Proofs.ConsoleTurns

namespace Telga.Proofs.Console
open Domain Persistence Application Library

/-- A password that is compared with the one of the account it was sent for. -/
structure Comparison where
  call : SignIn
  row : AdminUserRow
  now : Timestamp
deriving DecidableEq

def comparisonOf (process : ConsoleProcess) : Option Comparison :=
  match process with
  | .signIn call =>
    match call.point with
    | .comparing row now => some ⟨call, row, now⟩
    | _ => none
  | .request _ => none

/-- The comparison a step makes, if it makes one. -/
def compared (taken : ConsoleHappened) : Option Comparison :=
  actedOn (fun _ => comparisonOf) taken

/-- How long the failures so far hold an account, each from the time of its request on. -/
def holdAfter (failures : Nat) : Option Int :=
  lockUntilAfterFailure failures 0

/-- The failed comparisons of an account since its last successful sign-in, the latest first. -/
def failuresSince (deps : ConsoleDeps) (admin : AdminId) : List ConsoleHappened → List Timestamp
  | [] => []
  | taken :: past =>
    match compared taken with
    | none => failuresSince deps admin past
    | some comparison =>
      if comparison.row.id ≠ admin then failuresSince deps admin past
      else if Mistaken deps comparison.call comparison.row then
        comparison.now :: failuresSince deps admin past
      else []

open AdminAuthPolicy in
/-- A comparison waits for the hold that the fourth failure started, and for that of the sixth and
every later one; and where it fails, no hold that stood becomes shorter. -/
structure WaitsFor (deps : ConsoleDeps) (taken : ConsoleHappened) (comparison : Comparison)
    (failures : List Timestamp) : Prop where
  short : ∀ newer time older, failures = newer ++ time :: older →
    older.length + 1 = lockAfterAttempts → time + lockForMs ≤ comparison.now
  long : ∀ newer time older, failures = newer ++ time :: older →
    lockAfterAttempts + graceAttempts ≤ older.length + 1 → time + longLockForMs ≤ comparison.now
  kept : Mistaken deps comparison.call comparison.row →
    ∀ ends ∈ holdOf taken.before.store comparison.row.id,
      ∃ later ∈ holdOf taken.after.store comparison.row.id, ends ≤ later

/-- Every comparison on record waits for the failures before it. -/
def HoldsKept (deps : ConsoleDeps) (past : List ConsoleHappened) : Prop :=
  ∀ later taken earlier, past = later ++ taken :: earlier → ∀ comparison ∈ compared taken,
    WaitsFor deps taken comparison (failuresSince deps comparison.row.id earlier)

open AdminAuthPolicy in
/-- One more failure after either count comes to the fourth, or to the sixth and beyond, alike. -/
def SameTier (read stored : Nat) : Prop :=
  (read + 1 = lockAfterAttempts ↔ stored + 1 = lockAfterAttempts) ∧
  (lockAfterAttempts + graceAttempts ≤ read + 1 ↔ lockAfterAttempts + graceAttempts ≤ stored + 1)

/-- A comparison finds the account as its request read it: still not held at the request's time, and
where the password is refused, with failures that have not moved on to another tier. -/
def Undisturbed (deps : ConsoleDeps) (taken : ConsoleHappened) : Prop :=
  ∀ comparison ∈ compared taken,
    Free (holdOf taken.before.store comparison.row.id) comparison.now ∧
    (Mistaken deps comparison.call comparison.row →
      SameTier comparison.row.failedAttempts (failuresOf taken.before.store comparison.row.id))

instance (read stored : Nat) : Decidable (SameTier read stored) :=
  inferInstanceAs (Decidable ((_ ↔ _) ∧ (_ ↔ _)))

instance (deps : ConsoleDeps) (taken : ConsoleHappened) : Decidable (Undisturbed deps taken) :=
  inferInstanceAs (Decidable (∀ comparison ∈ compared taken, _ ∧ (_ → _)))

/-- The account a sign-in has read is still there. -/
def StillThere (db : ConsoleDb) (process : ConsoleProcess) : Prop :=
  ∀ comparison ∈ comparisonOf process, (findAdminUser db comparison.row.id).isSome = true

/-- What is stored of an account's failures and its hold is what its failures have earned. -/
structure Counted (deps : ConsoleDeps) (past : List ConsoleHappened)
    (w : World ConsoleDb ConsoleProcess) (admin : AdminId) : Prop where
  failures : failuresOf w.store admin = (failuresSince deps admin past).length
  hold : holdOf w.store admin = earnedHold holdAfter (failuresSince deps admin past)
  patient : Patient holdAfter (failuresSince deps admin past)

theorem lockUntil_eq (failures : Nat) (now : Timestamp) :
    lockUntilAfterFailure failures now = (holdAfter failures).map (now + ·) := by
  unfold holdAfter lockUntilAfterFailure
  split
  · simp
  · split
    · simp
    · rfl

theorem holdAfter_long : ∀ n, ∀ d ∈ holdAfter n, 0 ≤ d := by
  intro n d earned
  unfold holdAfter lockUntilAfterFailure at earned
  split at earned
  · cases earned
    decide
  · split at earned
    · cases earned
      decide
    · cases earned

/-- Counts of one tier earn one hold. -/
theorem SameTier.hold {read stored : Nat} (same : SameTier read stored) :
    holdAfter (read + 1) = holdAfter (stored + 1) := by
  obtain ⟨fourth, sixth⟩ := same
  unfold holdAfter lockUntilAfterFailure
  simp only [fourth, sixth]

theorem holdAfter_fourth : holdAfter AdminAuthPolicy.lockAfterAttempts =
    some AdminAuthPolicy.lockForMs := by
  decide

open AdminAuthPolicy in
theorem holdAfter_sixth (many : lockAfterAttempts + graceAttempts ≤ n) :
    holdAfter n = some longLockForMs := by
  unfold holdAfter lockUntilAfterFailure
  rw [if_pos many, Int.zero_add]

theorem comparisonOf_some {process : ConsoleProcess} {comparison : Comparison}
    (comparing : comparisonOf process = some comparison) :
    process = .signIn comparison.call ∧
      comparison.call.point = .comparing comparison.row comparison.now := by
  unfold comparisonOf at comparing
  split at comparing
  · split at comparing
    · rename_i point
      cases comparing
      exact ⟨rfl, point⟩
    · cases comparing
  · cases comparing

theorem failuresSince_none (deps : ConsoleDeps) (admin : AdminId) (past : List ConsoleHappened)
    {taken : ConsoleHappened} (none : compared taken = none) :
    failuresSince deps admin (taken :: past) = failuresSince deps admin past := by
  rw [failuresSince, none]

theorem failuresSince_some (deps : ConsoleDeps) (admin : AdminId) (past : List ConsoleHappened)
    {taken : ConsoleHappened} {comparison : Comparison}
    (some : compared taken = some comparison) :
    failuresSince deps admin (taken :: past) =
      if comparison.row.id ≠ admin then failuresSince deps admin past
      else if Mistaken deps comparison.call comparison.row then
        comparison.now :: failuresSince deps admin past
      else [] := by
  rw [failuresSince, some]

/-- What a comparison makes of the database. -/
theorem compare_step {call : SignIn} {row : AdminUserRow} {now : Timestamp}
    (point : call.point = .comparing row now) :
    (call.step deps input db).1 =
      if Mistaken deps call row then
        applied [.account row.id (.failed (lockUntilAfterFailure (row.failedAttempts + 1) now))] db
      else
        applied [.account row.id (.signedIn now), .opened (sessionOf deps row now input.token)]
          db := by
  unfold SignIn.step
  rw [point]
  by_cases wrong : Mistaken deps call row
  · rw [if_pos wrong]
    unfold Mistaken at wrong
    simp only [wrong, if_true]
    rfl
  · rw [if_neg wrong]
    unfold Mistaken at wrong
    simp only [wrong, if_false]
    split
    · rfl
    · rfl

/-- Only a comparison touches an account's failures and its hold. -/
theorem Does.keeps_sign_in (does : Does deps input db process done)
    (other : comparisonOf process = none) :
    ∀ change ∈ done, change.Keeps (fun row => (row.failedAttempts, row.lockedUntil)) (0, none) := by
  intro change mem
  cases does with
  | aside each =>
    have aside := each change mem
    cases change with
    | account id change =>
      cases change with
      | unenrolled => exact fun _ => rfl
      | _ => cases aside
    | added row =>
      have blank : Blank row := aside
      exact Prod.ext blank.failures blank.held
    | sessions hit change => trivial
    | opened session => cases aside
  | failed point wrong | signedIn point right => simp [comparisonOf, point] at other
  | sent sending | guessed point wrong | uncoded point refused other =>
    cases List.mem_singleton.mp mem
    exact fun _ => rfl
  | accepted point right =>
    rcases List.mem_cons.mp mem with rfl | mem
    · exact fun _ => rfl
    · cases List.mem_singleton.mp mem
      trivial
  | confirmed point route enrolled present right =>
    cases List.mem_singleton.mp mem
    trivial
  | enrolled point route admitted free =>
    rcases List.mem_cons.mp mem with rfl | mem
    · trivial
    · cases List.mem_singleton.mp mem
      exact fun _ => rfl

theorem found_there (found : findAdminUserByEmail toLowerCase db email = some row) :
    (findAdminUser db row.id).isSome = true := by
  unfold findAdminUser
  rw [List.find?_isSome]
  exact ⟨row, List.mem_of_find?_eq_some found, by simp⟩

/-- A sign-in reads an account that is there. -/
theorem step_stillThere (still : StillThere db process) :
    StillThere (process.step deps input db).1 (process.step deps input db).2 := by
  obtain ⟨done, _, same⟩ := process_does deps input db process
  intro comparison comparing
  rw [same]
  obtain ⟨next, point⟩ := comparisonOf_some comparing
  refine applied_there ?_
  cases process with
  | request call => cases next
  | signIn call =>
    simp only [ConsoleProcess.step, Prod.map, ConsoleProcess.signIn.injEq] at next
    rw [← next] at point
    unfold SignIn.step at point
    cases here : call.point with
    | begin =>
      simp only [here] at point
      split at point
      · cases point
      · rename_i row found
        split at point
        · cases point
        · simp only [SignIn.at, SignInPoint.comparing.injEq] at point
          obtain ⟨rfl, _⟩ := point
          exact found_there found
    | comparing row now =>
      simp only [here] at point
      split at point
      · cases point
      · split at point
        · cases point
        · cases point
    | sending admin issued =>
      simp only [here] at point
      split at point
      · cases point
      · cases point
    | decoy =>
      simp only [here] at point
      cases point
    | issuing admin =>
      simp only [here] at point
      cases point
    | refused reason =>
      simp only [here] at point
      cases point
    | notSent =>
      simp only [here] at point
      cases point
    | signedIn =>
      simp only [here] at point
      cases point

theorem run_stillThere (run : ConsoleRun deps past w) :
    ∀ process, some process ∈ w.procs → StillThere w.store process := by
  refine (run.invariant (I := Secure (fun _ => True) StillThere) ?_ ?_).2
  · intro w new
    refine ⟨trivial, fun process mem => ?_⟩
    rw [new.idle] at mem
    cases mem
  · refine Secure.step (R := fun db db' => ∀ wanted, (findAdminUser db wanted).isSome = true →
      (findAdminUser db' wanted).isSome = true) ?_ ?_ ?_
    · intro db process _ starting comparison comparing
      obtain ⟨rfl, point⟩ := comparisonOf_some comparing
      rw [show comparison.call.point = .begin from starting] at point
      cases point
    · intro input db process _ still _
      refine ⟨trivial, step_stillThere still, fun wanted there => ?_⟩
      obtain ⟨done, _, same⟩ := process_does deps input db process
      have moved : ((consoleServer deps).advance input db process).1 = applied done db := same
      rw [moved]
      exact applied_there there
    · intro db db' process _ still stays comparison comparing
      exact stays _ (still comparison comparing)

/-- A step that compares no password leaves every account's failures and hold. -/
theorem Counted.pass (counted : Counted deps past w admin) (other : compared taken = none)
    (failures : failuresOf w'.store admin = failuresOf w.store admin)
    (hold : holdOf w'.store admin = holdOf w.store admin) :
    Counted deps (taken :: past) w' admin := by
  have since := failuresSince_none deps admin past other
  refine ⟨?_, ?_, ?_⟩
  · rw [failures, since]
    exact counted.failures
  · rw [hold, since]
    exact counted.hold
  · rw [since]
    exact counted.patient

/-- A comparison counts against the account it is for, and only against it. -/
theorem Counted.compare {w : World ConsoleDb ConsoleProcess} {comparison : Comparison}
    (counted : Counted deps past w admin) (here : compared taken = some comparison)
    (there : (findAdminUser w.store comparison.row.id).isSome = true)
    (before : taken.before = w) (undisturbed : Undisturbed deps taken)
    (after : w'.store = (comparison.call.step deps input w.store).1)
    (point : comparison.call.point = .comparing comparison.row comparison.now) :
    Counted deps (taken :: past) w' admin := by
  obtain ⟨row, found, columns⟩ := column_there there
  obtain ⟨free, current⟩ := undisturbed comparison here
  rw [before] at free current
  have since := failuresSince_some deps admin past here
  rw [compare_step point] at after
  by_cases same : comparison.row.id = admin
  · subst same
    rw [if_neg fun apart => apart rfl] at since
    by_cases wrong : Mistaken deps comparison.call comparison.row
    · rw [if_pos wrong] at since after
      have stored : ∀ {β : Type} (view : AdminUserRow → β) blank,
          column view blank w'.store comparison.row.id = view ((AccountChange.failed
            (lockUntilAfterFailure (comparison.row.failedAttempts + 1) comparison.now)).apply
              row) := by
        intro β view blank
        rw [after, applied, List.foldl_cons, List.foldl_nil, column_account, if_pos rfl]
        exact columns _ _
      have failures := (columns (·.failedAttempts) 0).symm.trans counted.failures
      have hold := (columns (·.lockedUntil) none).symm.trans counted.hold
      have earned := SameTier.hold (current wrong)
      rw [failuresOf, columns, failures] at earned
      refine ⟨(stored _ _).trans ?_, (stored _ _).trans ?_, ?_⟩
      · rw [since, List.length_cons, ← failures]
        rfl
      · rw [since, earnedHold, ← hold, ← earned, ← lockUntil_eq]
        rfl
      · rw [since]
        refine ⟨?_, counted.patient⟩
        rw [← counted.hold]
        exact free
    · rw [if_neg wrong] at since after
      have stored : ∀ {β : Type} (view : AdminUserRow → β) blank,
          column view blank w'.store comparison.row.id =
            view ((AccountChange.signedIn comparison.now).apply row) := by
        intro β view blank
        rw [after, applied, List.foldl_cons, List.foldl_cons, List.foldl_nil,
          column_opened, column_account, if_pos rfl]
        exact columns _ _
      refine ⟨(stored _ _).trans ?_, (stored _ _).trans ?_, ?_⟩
      · rw [since]
        rfl
      · rw [since]
        rfl
      · rw [since]
        trivial
  · rw [if_pos same] at since
    have kept : ∀ {β : Type} (view : AdminUserRow → β) blank,
        column view blank w'.store admin = column view blank w.store admin := by
      intro β view blank
      rw [after]
      split
      · rw [applied, List.foldl_cons, List.foldl_nil, column_account, if_neg (Ne.symm same)]
      · rw [applied, List.foldl_cons, List.foldl_cons, List.foldl_nil,
          column_opened, column_account, if_neg (Ne.symm same)]
    refine ⟨(kept _ _).trans ?_, (kept _ _).trans ?_, ?_⟩
    · rw [since]
      exact counted.failures
    · rw [since]
      exact counted.hold
    · rw [since]
      exact counted.patient

/-- Where every comparison found the account as its request read it, what is stored is what was
earned. -/
theorem run_counted (run : ConsoleRun deps past w)
    (undisturbed : ∀ taken ∈ past, Undisturbed deps taken) (admin : AdminId) :
    Counted deps past w admin := by
  induction run with
  | start new =>
    refine ⟨?_, ?_, trivial⟩
    · exact column_blank (fun row mem => (new.accounts row mem).1) admin
    · exact column_blank (fun row mem => (new.accounts row mem).2.1) admin
  | @step past w event w' run step ih =>
    have counted := ih fun taken mem => undisturbed taken (List.mem_cons_of_mem _ mem)
    have now := undisturbed _ (List.mem_cons_self ..)
    rcases Pool.acted step with ⟨same, other⟩ | ⟨slot, input, process, rfl, here, _, rfl⟩
    · exact counted.pass (actedOn_other other) (by rw [same]) (by rw [same])
    · cases comparing : comparisonOf process with
      | none =>
        obtain ⟨done, does, same⟩ := process_does deps input w.store process
        have kept := column_applied (does.keeps_sign_in comparing) w.store admin
        have moved : ((consoleServer deps).advance input w.store process).1 = applied done w.store :=
          same
        rw [← moved] at kept
        refine counted.pass ((actedOn_act here).trans comparing) ?_ ?_
        · have failures := congrArg Prod.fst kept
          rw [column_comp Prod.fst, column_comp Prod.fst] at failures
          exact failures
        · have hold := congrArg Prod.snd kept
          rw [column_comp Prod.snd, column_comp Prod.snd] at hold
          exact hold
      | some comparison =>
        have there := run_stillThere run process (World.proc_mem here) comparison comparing
        obtain ⟨rfl, point⟩ := comparisonOf_some comparing
        exact counted.compare ((actedOn_act here).trans comparing) there rfl now rfl point

/-- Five wrong passwords: all five requests read the account before the first is compared. -/
def fiveAtOnce : List (Event ConsoleInput ConsoleProcess) :=
  let input := stillAt 0 "token"
  List.replicate 5 (.start (guess "wrong")) ++
    (List.range 5).map (fun slot => .act slot input) ++
    (List.range 5).map (fun slot => .act slot input)

/-- One wrong password after another, and then the right one when the hold is over. -/
def oneByOne : List (Event ConsoleInput ConsoleProcess) :=
  let tries (slot : Nat) (password : String) (now : Timestamp) :
      List (Event ConsoleInput ConsoleProcess) :=
    [.start (guess password), .act slot (stillAt now "token"), .act slot (stillAt now "token")]
  tries 0 "wrong" 0 ++ tries 1 "wrong" 1 ++ tries 2 "wrong" 2 ++ tries 3 "wrong" 3 ++
    tries 4 "correct horse" (3 + AdminAuthPolicy.lockForMs)

theorem fiveAtOnce_run :
    ConsoleRun plainConsole (consolePlayed fiveAtOnce).1 (consolePlayed fiveAtOnce).2 :=
  consolePlayed_run (by decide +kernel)

theorem oneByOne_run :
    ConsoleRun plainConsole (consolePlayed oneByOne).1 (consolePlayed oneByOne).2 :=
  consolePlayed_run (by decide +kernel)

end Telga.Proofs.Console
