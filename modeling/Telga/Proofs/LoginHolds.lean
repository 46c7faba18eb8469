import Telga.Application.Logins
import Telga.Library.Holds
import Telga.Library.Windows

namespace Telga.Proofs.Logins
open Domain Persistence Application Library

/-- One step of the sign-ins, as it was taken. -/
abbrev LoginHappened := Taken (World LoginDb Login) (Event LoginInput Login)

/-- Who comes to the rate check with a step, and at what time. -/
def attempted (taken : LoginHappened) : Option (MerchantUserId × Timestamp) :=
  ofActor (fun input call =>
    if call.point = .begin then some (call.request.userId, input.now) else none) taken

/-- Who gets past the rate check with a step. -/
def passed (deps : LoginDeps) (taken : LoginHappened) : Option (MerchantUserId × Timestamp) :=
  ofActor (fun input call =>
    if call.point = .begin ∧
        (call.step deps input taken.before.store).2.point ≠ .failed .rateLimited then
      some (call.request.userId, input.now)
    else none) taken

/-- When attempts of an operator got past the rate check, the latest first. -/
def passedTimes (deps : LoginDeps) (userId : MerchantUserId) (past : List LoginHappened) :
    List Timestamp :=
  ((past.filterMap (passed deps)).filter fun attempt => attempt.1 = userId).map (·.2)

/-- A PIN that is compared with the stored one, and whether its operator is signed in. -/
structure LoginComparison where
  userId : MerchantUserId
  now : Timestamp
  wrong : Bool
  signsIn : Bool
deriving DecidableEq

def comparisonOf (deps : LoginDeps) (db : LoginDb) (input : LoginInput) (call : Login) :
    Option LoginComparison :=
  match call.point with
  | .pin user now =>
    some
      { userId := call.request.userId, now
        wrong := !deps.verifySecret call.request.pin user.pin
        signsIn := (call.step deps input db).2.point matches .signedIn _ }
  | _ => none

/-- The comparison a step makes, if it makes one. -/
def compared (deps : LoginDeps) (taken : LoginHappened) : Option LoginComparison :=
  ofActor (comparisonOf deps taken.before.store) taken

/-- The wrong PINs of an operator since the last successful sign-in, the latest first. -/
def wrongSince (deps : LoginDeps) (userId : MerchantUserId) : List LoginHappened → List Timestamp
  | [] => []
  | taken :: past =>
    match compared deps taken with
    | none => wrongSince deps userId past
    | some comparison =>
      if comparison.userId ≠ userId then wrongSince deps userId past
      else if comparison.wrong then comparison.now :: wrongSince deps userId past
      else if comparison.signsIn then []
      else wrongSince deps userId past

/-- The failures and the lock that are stored of an operator. -/
def account (db : LoginDb) (userId : MerchantUserId) : Option (Nat × Option Timestamp) :=
  (db.findMerchantUser userId).map fun user => (user.failedAttempts, user.lockedUntil)

def failuresOf (db : LoginDb) (userId : MerchantUserId) : Nat :=
  ((account db userId).map (·.1)).getD 0

def lockOf (db : LoginDb) (userId : MerchantUserId) : Option Timestamp :=
  (account db userId).bind (·.2)

/-- What is promised of signing in: an attempt gets past the rate check exactly when fewer than the
allowed ones did in the window that ends with it; from the last wrong PIN that is allowed until the
lockout is over no PIN is compared; and a lock is taken away only by a sign-in after its end. -/
structure SignInsKept (deps : LoginDeps) (past : List LoginHappened) : Prop where
  counted : ∀ later taken earlier, past = later ++ taken :: earlier →
    ∀ attempt ∈ attempted taken, (passed deps taken).isSome = true ↔
      ((passedTimes deps attempt.1 earlier).countP fun time =>
        attempt.2 - deps.lockout.rateWindowMs < time) < deps.lockout.maxAttemptsPerWindow
  window : ∀ userId last, within deps.lockout.rateWindowMs last (passedTimes deps userId past) ≤
    deps.lockout.maxAttemptsPerWindow
  held : ∀ later taken earlier, past = later ++ taken :: earlier →
    ∀ comparison ∈ compared deps taken, ∀ newer time older,
      wrongSince deps comparison.userId earlier = newer ++ time :: older →
      older.length + 1 = deps.lockout.maxFailedAttempts →
      time + deps.lockout.lockoutMs ≤ comparison.now
  kept : ∀ taken ∈ past, ∀ userId, ∀ ends ∈ lockOf taken.before.store userId,
    (∃ later ∈ lockOf taken.after.store userId, ends ≤ later) ∨
    ∃ comparison ∈ compared deps taken, comparison.userId = userId ∧
      comparison.signsIn = true ∧ ends ≤ comparison.now

/-- A step in which the second row that a sign-in records does not tip the rate check, and in which
an operator whose PIN is compared is not locked, as the account now stands. -/
def Fair (deps : LoginDeps) (taken : LoginHappened) : Prop :=
  (∀ attempt ∈ attempted taken,
    (taken.before.store.countAttemptsSince .login attempt.1
        (attempt.2 - deps.lockout.rateWindowMs) < deps.lockout.maxAttemptsPerWindow ↔
      taken.before.store.countFailuresSince .login attempt.1
        (attempt.2 - deps.lockout.rateWindowMs) < deps.lockout.maxAttemptsPerWindow)) ∧
  ∀ comparison ∈ compared deps taken,
    Free (lockOf taken.before.store comparison.userId) comparison.now

/-- A database in which nobody has tried to sign in yet. -/
structure NobodyTried (w : World LoginDb Login) : Prop where
  idle : w.procs = []
  attempts : w.store.authAttempts = []
  accounts : ∀ user ∈ w.store.merchantUsers, user.failedAttempts = 0 ∧ user.lockedUntil = none

/-- Sign-ins, any number of them at once. -/
abbrev SigningIn (deps : LoginDeps) :=
  Pool (loginServer deps) (fun _ call => call.point = .begin) fun _ _ _ => True

abbrev LoginRun (deps : LoginDeps) :=
  Run NobodyTried (SigningIn deps)

theorem findMerchantUser_update (db : LoginDb) (id userId : MerchantUserId)
    (change : LoginUserRow → LoginUserRow) (keeps : ∀ user, (change user).id = user.id) :
    LoginDb.findMerchantUser { db with
        merchantUsers := update (fun user => user.id = id) change db.merchantUsers } userId =
      (db.findMerchantUser userId).map fun user => if userId = id then change user else user := by
  unfold LoginDb.findMerchantUser
  rw [find?_update fun user => by rw [keeps]]
  cases found : db.merchantUsers.find? fun user => user.id = userId with
  | none => rfl
  | some user =>
    have named : user.id = userId := by simpa using List.find?_some found
    simp only [Option.map_some, named, decide_eq_true_eq]

theorem account_failed (db : LoginDb) (id userId : MerchantUserId) (max : Nat)
    (lockedUntil : Timestamp) :
    account (db.recordFailedLogin id max lockedUntil) userId =
      (account db userId).map fun stored =>
        if userId = id then
          (stored.1 + 1, if max ≤ stored.1 + 1 then some lockedUntil else stored.2)
        else stored := by
  unfold account LoginDb.recordFailedLogin
  rw [findMerchantUser_update, Option.map_map, Option.map_map]
  · congr 1
    funext user
    simp only [Function.comp]
    split <;> rfl
  · exact fun _ => rfl

theorem account_succeeded (db : LoginDb) (id userId : MerchantUserId) (now : Timestamp) :
    account (db.recordSuccessfulLogin id now) userId =
      (account db userId).map fun stored => if userId = id then (0, none) else stored := by
  unfold account LoginDb.recordSuccessfulLogin
  rw [findMerchantUser_update, Option.map_map, Option.map_map]
  · congr 1
    funext user
    simp only [Function.comp]
    split <;> rfl
  · exact fun _ => rfl

/-- When attempts of an operator were recorded as failed, the first first. -/
def failedTimes (db : LoginDb) (userId : MerchantUserId) : List Timestamp :=
  (db.authAttempts.filter fun row =>
    row.scope = .login ∧ row.subject = userId ∧ row.outcome = .failure).map (·.createdAt)

theorem failedTimes_since (db : LoginDb) (userId : MerchantUserId) (since : Timestamp) :
    db.countFailuresSince .login userId since =
      (failedTimes db userId).countP fun time => since < time := by
  unfold LoginDb.countFailuresSince failedTimes
  rw [List.countP_map, List.countP_filter, ← List.countP_eq_length_filter]
  refine List.countP_congr fun row _ => ?_
  simp only [Function.comp, decide_eq_true_eq, Bool.and_eq_true]
  constructor
  · rintro ⟨scope, subject, outcome, after⟩
    exact ⟨after, scope, subject, outcome⟩
  · rintro ⟨after, scope, subject, outcome⟩
    exact ⟨scope, subject, outcome, after⟩

theorem failedTimes_attempt (db : LoginDb) (id userId : MerchantUserId) (outcome : AttemptOutcome)
    (now : Timestamp) :
    failedTimes (db.recordAttempt .login id outcome now) userId =
      failedTimes db userId ++ if id = userId ∧ outcome = .failure then [now] else [] := by
  unfold failedTimes LoginDb.recordAttempt
  rw [List.filter_append, List.map_append]
  by_cases counts : id = userId ∧ outcome = .failure
  · simp [counts]
  · simp [counts]

section Steps

variable {deps : LoginDeps} {input : LoginInput} {db db' : LoginDb} {call call' : Login}

/-- What a right PIN writes, if the session can be stored. -/
theorem step_right (input : LoginInput) (db : LoginDb) (point : call.point = .pin user now)
    (right : deps.verifySecret call.request.pin user.pin = true) :
    (∃ fault, call.step deps input db = (db, call.at (.threw fault))) ∨
    ∃ opened sessions, opened = { db with sessions } ∧
      call.step deps input db =
        ((((opened.recordSuccessfulLogin call.request.userId now).recordAttempt .login
            call.request.userId .success now).touchDevice call.request.deviceId now),
          call.at (.signedIn (call.sessionOf deps input user now))) := by
  simp only [Login.step, point, right, if_true]
  cases made : db.createSession (call.sessionOf deps input user now) with
  | error fault => exact .inl ⟨fault, rfl⟩
  | ok opened => exact .inr ⟨opened, _, LoginDb.createSession_ok made, rfl⟩

theorem step_wrong (point : call.point = .pin user now)
    (wrong : deps.verifySecret call.request.pin user.pin = false) :
    call.step deps input db =
      (db.recordFailedLogin call.request.userId deps.lockout.maxFailedAttempts
        (now + deps.lockout.lockoutMs), call.at (.failed .invalidCredentials)) := by
  simp [Login.step, point, wrong]

/-- Only what compares a PIN touches an account. -/
theorem step_accounts (other : comparisonOf deps db input call = none) (userId : MerchantUserId) :
    account (call.step deps input db).1 userId = account db userId := by
  cases point : call.point with
  | pin user now => simp [comparisonOf, point] at other
  | begin | device user enrollment now =>
    simp only [Login.step, point]
    split <;> rfl
  | _ => simp only [Login.step, point]

/-- What a comparison makes of its operator's account: one more failure, or none. -/
theorem step_compared (here : comparisonOf deps db input call = some comparison)
    (userId : MerchantUserId) :
    account (call.step deps input db).1 userId = (account db userId).map fun stored =>
      if userId ≠ comparison.userId then stored
      else if comparison.wrong then
        (stored.1 + 1, if deps.lockout.maxFailedAttempts ≤ stored.1 + 1 then
          some (comparison.now + deps.lockout.lockoutMs) else stored.2)
      else if comparison.signsIn then (0, none) else stored := by
  cases point : call.point with
  | pin user now =>
    simp only [comparisonOf, point, Option.some.injEq] at here
    subst here
    cases right : deps.verifySecret call.request.pin user.pin with
    | false =>
      rw [step_wrong point right, account_failed]
      congr 1
      funext stored
      by_cases same : userId = call.request.userId <;> simp [same]
    | true =>
      rcases step_right input db point right with
        ⟨fault, went⟩ | ⟨opened, sessions, rfl, went⟩
      · rw [went]
        simp [Login.at]
      · rw [went]
        refine (account_succeeded _ _ userId now).trans ?_
        congr 1
        funext stored
        by_cases same : userId = call.request.userId <;> simp [same, Login.at]
  | _ => simp [comparisonOf, point] at here

theorem step_isSome (userId : MerchantUserId) :
    (account (call.step deps input db).1 userId).isSome = (account db userId).isSome := by
  cases here : comparisonOf deps db input call with
  | none => rw [step_accounts here]
  | some comparison => rw [step_compared here, Option.isSome_map]

end Steps

/-- The operator a sign-in has read is still there. -/
def StillThere (db : LoginDb) (call : Login) : Prop :=
  match call.point with
  | .device _ _ _ | .pin _ _ => (account db call.request.userId).isSome = true
  | _ => True

theorem step_stillThere (deps : LoginDeps) (input : LoginInput) {db : LoginDb} {call : Login}
    (still : StillThere db call) :
    StillThere (call.step deps input db).1 (call.step deps input db).2 := by
  cases point : call.point with
  | begin =>
    simp only [Login.step, point]
    split
    · trivial
    · unfold Login.check
      cases found : (db.recordAttempt .login call.request.userId .failure
          input.now).findMerchantUser call.request.userId with
      | none => trivial
      | some user =>
        simp only
        repeat' split
        all_goals first
          | trivial
          | simp only [StillThere, Login.at, account, found, Option.map_some, Option.isSome_some]
  | device user enrollment now =>
    simp only [StillThere, point] at still
    simp only [Login.step, point]
    split
    · exact still
    · trivial
  | pin user now =>
    cases right : deps.verifySecret call.request.pin user.pin with
    | false =>
      rw [step_wrong point right]
      trivial
    | true =>
      rcases step_right input db point right with
        ⟨fault, went⟩ | ⟨opened, sessions, rfl, went⟩
      all_goals
        rw [went]
        trivial
  | _ =>
    simp only [Login.step, point]
    exact still

theorem run_stillThere (run : LoginRun deps past w) :
    ∀ call, some call ∈ w.procs → StillThere w.store call := by
  refine (run.invariant (I := Secure (fun _ => True) StillThere) ?_ ?_).2
  · intro w opens
    refine ⟨trivial, fun call mem => ?_⟩
    rw [opens.idle] at mem
    cases mem
  · refine Secure.step (R := fun db db' => ∀ userId,
      (account db' userId).isSome = (account db userId).isSome) ?_ ?_ ?_
    · intro db call _ starting
      simp only [StillThere, starting]
    · intro input db call _ still _
      exact ⟨trivial, step_stillThere deps input still, step_isSome⟩
    · intro db db' call _ still same
      unfold StillThere at still ⊢
      simp only [same]
      exact still

/-- The lock that so many failures in a row have earned, from the time of the last of them on. -/
def tierOf (lockout : LockoutPolicy) (failures : Nat) : Option Int :=
  if lockout.maxFailedAttempts ≤ failures then some lockout.lockoutMs else none

theorem tierOf_lasts (deps : LoginDeps) : ∀ n, ∀ d ∈ tierOf deps.lockout n, 0 ≤ d := by
  intro n d earned
  unfold tierOf at earned
  split at earned
  · cases earned
    exact deps.lasting
  · cases earned

/-- What is stored of an operator's failures and lock is what the wrong PINs have earned. -/
structure Earned (deps : LoginDeps) (past : List LoginHappened) (w : World LoginDb Login)
    (userId : MerchantUserId) : Prop where
  failures : failuresOf w.store userId = (wrongSince deps userId past).length
  lock : lockOf w.store userId = earnedHold (tierOf deps.lockout) (wrongSince deps userId past)
  patient : Patient (tierOf deps.lockout) (wrongSince deps userId past)

theorem wrongSince_none (deps : LoginDeps) (userId : MerchantUserId) (past : List LoginHappened)
    {taken : LoginHappened} (none : compared deps taken = none) :
    wrongSince deps userId (taken :: past) = wrongSince deps userId past := by
  rw [wrongSince, none]

theorem wrongSince_some (deps : LoginDeps) (userId : MerchantUserId) (past : List LoginHappened)
    {taken : LoginHappened} (some : compared deps taken = some comparison) :
    wrongSince deps userId (taken :: past) =
      if comparison.userId ≠ userId then wrongSince deps userId past
      else if comparison.wrong then comparison.now :: wrongSince deps userId past
      else if comparison.signsIn then []
      else wrongSince deps userId past := by
  rw [wrongSince, some]

theorem Earned.pass (earned : Earned deps past w userId)
    (since : wrongSince deps userId (taken :: past) = wrongSince deps userId past)
    (same : account w'.store userId = account w.store userId) :
    Earned deps (taken :: past) w' userId := by
  refine ⟨?_, ?_, ?_⟩
  · rw [since, failuresOf, same]
    exact earned.failures
  · rw [since, lockOf, same]
    exact earned.lock
  · rw [since]
    exact earned.patient

/-- A comparison counts for the operator it is made for, and only for them. -/
theorem Earned.compare {comparison : LoginComparison} (earned : Earned deps past w userId)
    (here : compared deps taken = some comparison)
    (there : (account w.store comparison.userId).isSome = true)
    (free : Free (lockOf w.store comparison.userId) comparison.now)
    (after : ∀ userId, account w'.store userId = (account w.store userId).map fun stored =>
      if userId ≠ comparison.userId then stored
      else if comparison.wrong then
        (stored.1 + 1, if deps.lockout.maxFailedAttempts ≤ stored.1 + 1 then
          some (comparison.now + deps.lockout.lockoutMs) else stored.2)
      else if comparison.signsIn then (0, none) else stored) :
    Earned deps (taken :: past) w' userId := by
  have since := wrongSince_some deps userId past here
  by_cases same : comparison.userId = userId
  · subst same
    obtain ⟨⟨failures, lock⟩, stored⟩ := Option.isSome_iff_exists.mp there
    have count := earned.failures
    have hold := earned.lock
    have after := after comparison.userId
    rw [stored, Option.map_some, if_neg (fun apart => apart rfl)] at after
    rw [if_neg (fun apart => apart rfl)] at since
    simp only [failuresOf, stored, Option.map_some, Option.getD_some] at count
    simp only [lockOf, stored, Option.bind_some] at hold free
    by_cases wrong : comparison.wrong = true
    · rw [if_pos wrong] at since after
      refine ⟨?_, ?_, ?_⟩
      · rw [since, failuresOf, after, List.length_cons, ← count]
        rfl
      · rw [since, lockOf, after, earnedHold, ← count, ← hold, Option.bind_some]
        unfold tierOf
        split <;> rfl
      · rw [since]
        refine ⟨?_, earned.patient⟩
        rw [← hold]
        exact free
    · rw [if_neg wrong] at since after
      by_cases signs : comparison.signsIn = true
      · rw [if_pos signs] at since after
        refine ⟨?_, ?_, ?_⟩
        · rw [since, failuresOf, after]
          rfl
        · rw [since, lockOf, after]
          rfl
        · rw [since]
          trivial
      · rw [if_neg signs] at since after
        exact earned.pass since (after.trans stored.symm)
  · rw [if_pos same] at since
    refine earned.pass since ?_
    rw [after]
    simp [Ne.symm same]

theorem comparisonOf_some (compares : comparisonOf deps db input call = some comparison) :
    ∃ user, call.point = .pin user comparison.now ∧ comparison.userId = call.request.userId := by
  unfold comparisonOf at compares
  split at compares
  · rename_i user now point
    cases compares
    exact ⟨user, point, rfl⟩
  · cases compares

/-- Where no PIN is compared while its operator is locked, what is stored is what was earned. -/
theorem run_earned (run : LoginRun deps past w) (fair : ∀ taken ∈ past, Fair deps taken)
    (userId : MerchantUserId) : Earned deps past w userId := by
  induction run generalizing userId with
  | @start w opens =>
    have blank : ∀ stored ∈ account w.store userId, stored = (0, none) := by
      intro stored found
      obtain ⟨user, there, rfl⟩ := Option.map_eq_some_iff.mp found
      obtain ⟨failures, lock⟩ := opens.accounts user (List.mem_of_find?_eq_some there)
      rw [failures, lock]
    cases found : account w.store userId with
    | none => exact ⟨by simp [failuresOf, found, wrongSince], by simp [lockOf, found, wrongSince,
        earnedHold], trivial⟩
    | some stored =>
      cases blank stored found
      exact ⟨by simp [failuresOf, found, wrongSince], by simp [lockOf, found, wrongSince,
        earnedHold], trivial⟩
  | @step past w event w' run step ih =>
    have earned := ih (fun taken mem => fair taken (List.mem_cons_of_mem _ mem)) userId
    have now := fair _ (List.mem_cons_self ..)
    rcases Pool.acted step with ⟨same, other⟩ | ⟨slot, input, call, rfl, here, _, rfl⟩
    · have nothing : compared deps ⟨w, event, w'⟩ = none := by
        cases event with
        | act slot input => exact absurd rfl (other slot input)
        | _ => rfl
      exact earned.pass (wrongSince_none deps userId past nothing) (by rw [same])
    · have acts : compared deps ⟨w, .act slot input, ⟨(call.step deps input w.store).1,
          w.procs.set slot (some (call.step deps input w.store).2)⟩⟩ =
          comparisonOf deps w.store input call := ofActor_act here
      cases compares : comparisonOf deps w.store input call with
      | none =>
        exact earned.pass (wrongSince_none deps userId past (acts.trans compares))
          (step_accounts compares userId)
      | some comparison =>
        have here' : compared deps ⟨w, .act slot input, ⟨(call.step deps input w.store).1,
          w.procs.set slot (some (call.step deps input w.store).2)⟩⟩ = some comparison :=
          acts.trans compares
        have still := run_stillThere run call (World.proc_mem here)
        obtain ⟨user, point, same⟩ := comparisonOf_some compares
        simp only [StillThere, point] at still
        rw [← same] at still
        exact earned.compare here' still (now.2 comparison here') (step_compared compares)

theorem passedTimes_cons (deps : LoginDeps) (userId : MerchantUserId) (taken : LoginHappened)
    (past : List LoginHappened) :
    passedTimes deps userId (taken :: past) =
      (((passed deps taken).filter fun attempt => attempt.1 = userId).map (·.2)).toList ++
        passedTimes deps userId past := by
  unfold passedTimes
  cases through : passed deps taken with
  | none => simp [through]
  | some attempt =>
    by_cases same : attempt.1 = userId <;> simp [through, same, Option.filter]

/-- None of the checks after the rate limit answers as it does. -/
theorem check_unlimited (call : Login) (db : LoginDb) (now : Timestamp) :
    call.check db now ≠ .failed .rateLimited := by
  unfold Login.check
  cases db.findMerchantUser call.request.userId with
  | none => simp
  | some user =>
    generalize db.findDeviceEnrollment call.request.deviceId = found
    simp only
    repeat' split
    all_goals simp

theorem step_failed (deps : LoginDeps) (input : LoginInput) (db : LoginDb) (call : Login)
    (userId : MerchantUserId) :
    failedTimes (call.step deps input db).1 userId = failedTimes db userId ++
      (if call.point = .begin ∧ (call.step deps input db).2.point ≠ .failed .rateLimited ∧
        call.request.userId = userId then [input.now] else []) := by
  cases point : call.point with
  | begin =>
    simp only [Login.step, point]
    split
    · simp [Login.at]
    · simp [failedTimes_attempt, Login.at, check_unlimited]
  | device user enrollment now =>
    simp only [Login.step, point]
    split <;> simp [Login.at]
  | pin user now =>
    cases right : deps.verifySecret call.request.pin user.pin with
    | false =>
      rw [step_wrong point right]
      simp [failedTimes, LoginDb.recordFailedLogin]
    | true =>
      rcases step_right input db point right with
        ⟨fault, went⟩ | ⟨opened, sessions, rfl, went⟩
      · rw [went]
        simp
      · rw [went]
        have recorded := failedTimes_attempt (LoginDb.recordSuccessfulLogin { db with sessions }
          call.request.userId now) call.request.userId userId .success now
        simp only [reduceCtorEq, and_false, if_false] at recorded ⊢
        exact recorded
  | _ => simp [Login.step, point]

/-- Every attempt that got past the rate check is on record as failed, and no other. -/
theorem run_recorded (run : LoginRun deps past w) (userId : MerchantUserId) :
    failedTimes w.store userId = (passedTimes deps userId past).reverse := by
  induction run with
  | start opens =>
    rw [failedTimes, opens.attempts]
    rfl
  | @step past w event w' run step ih =>
    rw [passedTimes_cons, List.reverse_append, ← ih]
    rcases Pool.acted step with ⟨same, other⟩ | ⟨slot, input, call, rfl, here, _, rfl⟩
    · have nothing : passed deps ⟨w, event, w'⟩ = none := by
        cases event with
        | act slot input => exact absurd rfl (other slot input)
        | _ => rfl
      rw [same, nothing]
      simp
    · rw [passed, ofActor_act here]
      refine (step_failed deps input w.store call userId).trans ?_
      congr 1
      by_cases begins : call.point = .begin ∧
        (call.step deps input w.store).2.point ≠ .failed .rateLimited
      · rw [if_pos begins]
        by_cases same : call.request.userId = userId <;> simp [begins, same, Option.filter]
      · rw [if_neg begins, if_neg fun all => begins ⟨all.1, all.2.1⟩]
        rfl

/-- An attempt gets past the rate check exactly when fewer rows than the limit are on record. -/
theorem attempted_passes (here : attempted taken = some attempt) :
    (passed deps taken).isSome = true ↔
      taken.before.store.countAttemptsSince .login attempt.1
        (attempt.2 - deps.lockout.rateWindowMs) < deps.lockout.maxAttemptsPerWindow := by
  obtain ⟨before, event, after⟩ := taken
  cases event with
  | act slot input =>
    cases found : before.proc slot with
    | none => simp [attempted, ofActor, found] at here
    | some call =>
      rw [attempted, ofActor_act found] at here
      rw [passed, ofActor_act found]
      split at here
      · rename_i point
        cases here
        simp only [Login.step, point, true_and]
        split
        · rename_i limited
          simp [Login.at]
          exact limited
        · rename_i below
          simp [Login.at, check_unlimited]
          exact Nat.lt_of_not_le below
      · cases here
  | _ => cases here

theorem passed_attempted (through : passed deps taken = some attempt) :
    attempted taken = some attempt := by
  obtain ⟨before, event, after⟩ := taken
  cases event with
  | act slot input =>
    cases found : before.proc slot with
    | none => simp [passed, ofActor, found] at through
    | some call =>
      rw [passed, ofActor_act found] at through
      rw [attempted, ofActor_act found]
      split at through
      · rename_i begins
        rw [if_pos begins.1]
        exact through
      · cases through
  | _ => cases through

/-- Where each attempt that got through found room in its window, no window is overfull. -/
theorem passedTimes_spaced {span : Int} {limit : Nat} {past : List LoginHappened}
    (room : ∀ later taken earlier, past = later ++ taken :: earlier →
      ∀ attempt ∈ passed deps taken,
        ((passedTimes deps attempt.1 earlier).countP fun time => attempt.2 - span < time) < limit)
    (userId : MerchantUserId) : Spaced span limit (passedTimes deps userId past) := by
  induction past with
  | nil => trivial
  | cons taken earlier ih =>
    have before := ih fun later other rest split =>
      room (taken :: later) other rest (by rw [split, List.cons_append])
    rw [passedTimes_cons]
    cases through : passed deps taken with
    | none => exact before
    | some attempt =>
      by_cases same : attempt.1 = userId
      · subst same
        simp only [Option.filter, decide_true, if_true, Option.map_some, Option.toList_some,
          List.singleton_append]
        exact ⟨room [] taken earlier rfl attempt through, before⟩
      · simp only [Option.filter, same, decide_false, Bool.false_eq_true, if_false,
          Option.map_none, Option.toList_none, List.nil_append]
        exact before

/-- A lock is replaced by a later one, or taken away by a sign-in after its end. -/
theorem lock_kept {w w' : World LoginDb Login} (step : SigningIn deps w event w')
    (free : ∀ comparison ∈ compared deps ⟨w, event, w'⟩,
      Free (lockOf w.store comparison.userId) comparison.now) (userId : MerchantUserId) :
    ∀ ends ∈ lockOf w.store userId, (∃ later ∈ lockOf w'.store userId, ends ≤ later) ∨
      ∃ comparison ∈ compared deps ⟨w, event, w'⟩, comparison.userId = userId ∧
        comparison.signsIn = true ∧ ends ≤ comparison.now := by
  intro ends held
  rcases Pool.acted step with ⟨same, other⟩ | ⟨slot, input, call, rfl, here, _, rfl⟩
  · rw [same]
    exact .inl ⟨ends, held, Int.le_refl _⟩
  · have acts : compared deps ⟨w, .act slot input, ⟨(call.step deps input w.store).1,
        w.procs.set slot (some (call.step deps input w.store).2)⟩⟩ =
        comparisonOf deps w.store input call := ofActor_act here
    have moved : ∀ lock, lockOf (call.step deps input w.store).1 userId = lock → ends ∈ lock →
        ∃ later ∈ lockOf (call.step deps input w.store).1 userId, ends ≤ later := by
      intro lock same mem
      rw [same]
      exact ⟨ends, mem, Int.le_refl _⟩
    cases compares : comparisonOf deps w.store input call with
    | none =>
      refine .inl (moved _ ?_ held)
      rw [lockOf, lockOf, step_accounts compares]
    | some comparison =>
      have here' := acts.trans compares
      have after := step_compared compares userId
      obtain ⟨stored, there, lock⟩ := Option.bind_eq_some_iff.mp held
      rw [there, Option.map_some] at after
      have locked := congrArg (fun found => found.bind (·.2)) after
      by_cases same : userId = comparison.userId
      · subst same
        have past := free comparison here' ends held
        by_cases wrong : comparison.wrong = true
        · left
          have lasting := deps.lasting
          simp only [ne_eq, not_true, if_false, wrong, if_true, Option.bind_some] at locked
          by_cases many : deps.lockout.maxFailedAttempts ≤ stored.1 + 1
          · rw [if_pos many] at locked
            exact ⟨comparison.now + deps.lockout.lockoutMs, locked,
              Int.le_trans past (Int.le_add_of_nonneg_right lasting)⟩
          · rw [if_neg many] at locked
            exact moved _ locked lock
        · by_cases signs : comparison.signsIn = true
          · exact .inr ⟨comparison, here', rfl, signs, past⟩
          · simp only [ne_eq, not_true, if_false, wrong, signs, Option.bind_some] at locked
            exact .inl (moved _ locked lock)
      · simp only [ne_eq, same, not_false_eq_true, if_true, Option.bind_some] at locked
        exact .inl (moved _ locked lock)

instance (deps : LoginDeps) (taken : LoginHappened) : Decidable (Fair deps taken) :=
  inferInstanceAs (Decidable ((∀ attempt ∈ attempted taken, _ ↔ _) ∧
    ∀ comparison ∈ compared deps taken, _))

/-- A server that derives nothing, under the lockout it is shipped with. -/
def plainLogin : LoginDeps where
  verifySecret secret stored := secret == stored.hash
  tokenFingerprint token := "hash:" ++ token
  lockout := trainingLockoutPolicy
  session := ⟨15 * 60000, 8 * 3600000⟩
  lasting := by decide

/-- A shop with one operator and one till. -/
def oneOperator : LoginDb where
  merchants := [⟨"shop", .active⟩]
  devices := [⟨"till", "shop", .active⟩]
  merchantUsers :=
    [{ id := "operator", merchantId := "shop", active := true, lockedUntil := none
       role := .merchantOwner, pin := ⟨"1234", "", ""⟩ }]
  deviceEnrollments :=
    [{ deviceId := "till", merchantId := "shop", state := .enrolled, expiresAt := none
       updatedAt := 0, secretHash := "key", secretSalt := "" }]
  sessions := []
  authAttempts := []

/-- PINs the operator signs in with, and the steps the sign-ins take: whose it is, and when. -/
def loginEvents (pins : List String) (acts : List (Nat × Timestamp)) :
    List (Event LoginInput Login) :=
  pins.map (fun pin => .start ⟨⟨"operator", pin, "till", "key"⟩, .begin⟩) ++
    acts.map fun act => .act act.1 ⟨act.2, "session" ++ toString act.1, "csrf"⟩

def loginPlayed (events : List (Event LoginInput Login)) :
    List LoginHappened × World LoginDb Login :=
  played (World.next (loginServer plainLogin)) events [] ⟨oneOperator, []⟩

theorem loginPlayed_run {events : List (Event LoginInput Login)}
    (playable : Playable (World.May (fun _ call => call.point = .begin) fun _ _ _ => True)
      (World.next (loginServer plainLogin)) events ⟨oneOperator, []⟩) :
    LoginRun plainLogin (loginPlayed events).1 (loginPlayed events).2 := by
  have nobody : NobodyTried ⟨oneOperator, []⟩ := ⟨rfl, rfl, by decide⟩
  exact Run.play Pool.next (.start nobody) playable

/-- Six sign-ins with the right PIN, a second apart. -/
def sixSignIns : List (Event LoginInput Login) :=
  loginEvents (List.replicate 6 "1234")
    ((List.range 6).flatMap fun slot => List.replicate 3 (slot, slot * 1000))

theorem sixSignIns_run :
    LoginRun plainLogin (loginPlayed sixSignIns).1 (loginPlayed sixSignIns).2 :=
  loginPlayed_run (by decide +kernel)

/-- Four wrong PINs, the right one while the lock holds, and again when it is over. -/
def lockedAndBack : List (Event LoginInput Login) :=
  loginEvents ["1", "2", "3", "4", "1234", "1234"]
    (List.append ((List.range 4).flatMap fun slot => List.replicate 3 (slot, slot * 1000))
      ((4, 60000) :: List.replicate 3 (5, 303000)))

theorem lockedAndBack_run :
    LoginRun plainLogin (loginPlayed lockedAndBack).1 (loginPlayed lockedAndBack).2 :=
  loginPlayed_run (by decide +kernel)

end Telga.Proofs.Logins
