import Telga.Proofs.AdminHolds
import Telga.Proofs.SignInCodes

namespace Telga.Proofs.Console
open Domain Persistence Application Library

/-- The session has cleared its second factor. -/
def satisfied (db : ConsoleDb) (session : AdminSessionId) : Bool :=
  ((findAdminSession db session).map (·.mfaSatisfied)).getD false

/-- Whose session it is. -/
def ownerOf (db : ConsoleDb) (session : AdminSessionId) : Option AdminId :=
  (findAdminSession db session).map (·.adminUserId)

/-- The session a step opens, by a password alone, and for whom. -/
def openedOf (deps : ConsoleDeps) (input : ConsoleInput) (process : ConsoleProcess) :
    Option (AdminId × AdminSessionId) :=
  (comparisonOf process).bind fun comparison =>
    if Mistaken deps comparison.call comparison.row then none
    else some (comparison.row.id, deps.tokenFingerprint input.token)

def opened (deps : ConsoleDeps) (taken : ConsoleHappened) : Option (AdminId × AdminSessionId) :=
  actedOn (openedOf deps) taken

/-- An authenticator's code that is accepted for a session. -/
structure Confirmation where
  session : AdminSessionId
  admin : AdminId
  secret : String
deriving DecidableEq

def confirmationOf (deps : ConsoleDeps) (db : ConsoleDb) (input : ConsoleInput) :
    ConsoleProcess → Option Confirmation
  | .signIn _ => none
  | .request call =>
    match call.point, call.route with
    | .admitted session context _, .mfa supplied =>
      (secretOf db context.user.id).bind fun secret =>
        if secret ≠ "" ∧ verifyTotp deps secret supplied (input.now 0) = true then
          some ⟨session, context.user.id, secret⟩
        else none
    | _, _ => none

def confirmation (deps : ConsoleDeps) (taken : ConsoleHappened) : Option Confirmation :=
  actedOn (confirmationOf deps taken.before.store) taken

/-- A step enrols an authenticator for an administrator. -/
def Enrols (deps : ConsoleDeps) (taken : ConsoleHappened) (admin : AdminId) : Prop :=
  ∃ slot input call session context, taken.event = .act slot input ∧
    taken.before.proc slot = some (.request call) ∧ call.point = .begin ∧
    call.route = .enrolMfa ∧ Admitted deps taken.before.store call.sessionToken session context ∧
    context.user.mfaEnrolled = false ∧ context.user.id = admin

/-- What a route needs a permission for. -/
def permissionOf : ConsoleRoute → Option AdminPermission
  | .createAdmin _ | .resetMfa _ => some .manageAdmins
  | .screen permission => some permission
  | .logout | .enrolMfa | .page | .resendOtp | .otp _ | .mfa _ | .stepUp _ => none

/-- The permission a request gets with its session. -/
def reachedOf (deps : ConsoleDeps) (db : ConsoleDb) (input : ConsoleInput) :
    ConsoleProcess → Option (AdminSessionId × AdminPermission)
  | .signIn _ => none
  | .request call =>
    match call.point, (authenticateAdmin deps db call.sessionToken (input.now 0)).2 with
    | .begin, .ok (session, context) =>
      (permissionOf call.route).bind fun permission =>
        if refusedPermission deps context permission (input.now 1) = none then
          some (session, permission)
        else none
    | _, _ => none

def reached (deps : ConsoleDeps) (taken : ConsoleHappened) :
    Option (AdminSessionId × AdminPermission) :=
  actedOn (reachedOf deps taken.before.store) taken

/-- A step looks a candidate's code up for the process in a slot, and finds it outstanding. -/
def LooksUp (slot : Nat) (taken : ConsoleHappened) (submission : Submission) : Prop :=
  (∃ input, taken.event = .act slot input) ∧
  findAdminOtp taken.before.store submission.admin.id =
    some (submission.otp, submission.attempts)

/-- The candidate is the emailed code: the last one sent to the administrator when the request looked
it up, and outstanding then. -/
def ByCode (deps : ConsoleDeps) (earlier : List ConsoleHappened) (taken : ConsoleHappened)
    (session : AdminSessionId) (admin : AdminId) : Prop :=
  ∃ submission clock, submitted taken = some (submission, clock) ∧
    submission.session = session ∧ submission.admin.id = admin ∧ submission.Right deps ∧
    ∃ slot input between lookup older, taken.event = .act slot input ∧
      earlier = between ++ lookup :: older ∧ LooksUp slot lookup submission ∧
      lastSent admin older = some submission.otp

/-- The code is one of an authenticator enrolled before the session's sign-in. -/
def ByAuthenticator (deps : ConsoleDeps) (earlier : List ConsoleHappened)
    (taken : ConsoleHappened) (session : AdminSessionId) (admin : AdminId) : Prop :=
  ∃ secret, confirmation deps taken = some ⟨session, admin, secret⟩ ∧
    ∃ between signing older, earlier = between ++ signing :: older ∧
      opened deps signing = some (admin, session) ∧
      secretOf signing.before.store admin = some secret

/-- A step proves a session's second factor. -/
def Proves (deps : ConsoleDeps) (earlier : List ConsoleHappened) (taken : ConsoleHappened)
    (session : AdminSessionId) : Prop :=
  ∃ admin, ownerOf taken.before.store session = some admin ∧
    (ByCode deps earlier taken session admin ∨ ByAuthenticator deps earlier taken session admin)

/-- A session clears its second factor only by a step that proves it, and reaches a permission only
after one. -/
def SecondFactorsKept (deps : ConsoleDeps) (past : List ConsoleHappened) : Prop :=
  ∀ later taken earlier, past = later ++ taken :: earlier →
    (∀ session, satisfied taken.before.store session = false →
      satisfied taken.after.store session = true → Proves deps earlier taken session) ∧
    ∀ reach ∈ reached deps taken, ∃ between proof older,
      earlier = between ++ proof :: older ∧ Proves deps older proof reach.1

/-- No code of an authenticator is accepted for a session that was signed in before it was
enrolled. -/
def EnrolledBefore (deps : ConsoleDeps) (past : List ConsoleHappened) : Prop :=
  ∀ later taken between signing older,
    past = later ++ taken :: (between ++ signing :: older) →
    ∀ confirmed ∈ confirmation deps taken,
      opened deps signing = some (confirmed.admin, confirmed.session) →
      ∀ step ∈ between, ¬ Enrols deps step confirmed.admin

theorem findAdminSession_sessions (db : ConsoleDb) (hit : AdminSessionRow → Bool)
    (change : SessionChange) (wanted : AdminSessionId) :
    findAdminSession ((ConsoleChange.sessions hit change).apply db) wanted =
      (findAdminSession db wanted).map fun row => if hit row then change.apply row else row := by
  unfold findAdminSession ConsoleChange.apply
  exact find?_update fun row => by rw [change.apply_id]

theorem findAdminSession_opened (db : ConsoleDb) (session : AdminSessionRow)
    (wanted : AdminSessionId) :
    findAdminSession ((ConsoleChange.opened session).apply db) wanted =
      (findAdminSession db wanted).or (if session.id = wanted then some session else none) := by
  unfold findAdminSession ConsoleChange.apply saveAdminSession
  rw [List.find?_append]
  by_cases same : session.id = wanted
  · simp [same]
  · simp [same]

theorem SessionChange.apply_owner (change : SessionChange) (row : AdminSessionRow) :
    (change.apply row).adminUserId = row.adminUserId := by
  cases change <;> rfl

/-- A change takes no session from its owner, and gives one only by opening it. -/
theorem ownerOf_apply (change : ConsoleChange) (db : ConsoleDb) (session : AdminSessionId) :
    ownerOf (change.apply db) session = ownerOf db session ∨
    ownerOf db session = none ∧ ∃ row, change = .opened row ∧ row.id = session ∧
      ownerOf (change.apply db) session = some row.adminUserId := by
  unfold ownerOf
  cases change with
  | account id change | added row => exact .inl rfl
  | sessions hit change =>
    rw [findAdminSession_sessions, Option.map_map]
    refine .inl (congrFun (congrArg Option.map (funext fun row => ?_)) _)
    simp only [Function.comp]
    split
    · exact change.apply_owner row
    · rfl
  | opened row =>
    rw [findAdminSession_opened]
    cases found : findAdminSession db session with
    | some held => exact .inl rfl
    | none =>
      by_cases same : row.id = session
      · exact .inr ⟨rfl, row, rfl, same, by rw [if_pos same]; rfl⟩
      · rw [if_neg same]
        exact .inl rfl

theorem ownerOf_stays {done : List ConsoleChange} {db : ConsoleDb}
    (owned : ownerOf db session = some admin) :
    ownerOf (applied done db) session = some admin := by
  induction done generalizing db with
  | nil => exact owned
  | cons change rest ih =>
    refine ih ?_
    rcases ownerOf_apply change db session with same | ⟨none, _⟩
    · rw [same]
      exact owned
    · rw [none] at owned
      cases owned

theorem ownerOf_origin {done : List ConsoleChange} {db : ConsoleDb}
    (owned : ownerOf (applied done db) session = some admin) :
    ownerOf db session = some admin ∨
    ∃ row, .opened row ∈ done ∧ row.id = session ∧ row.adminUserId = admin := by
  induction done generalizing db with
  | nil => exact .inl owned
  | cons change rest ih =>
    rcases ih owned with before | ⟨row, mem, named⟩
    · rcases ownerOf_apply change db session with same | ⟨_, row, rfl, named, is⟩
      · rw [same] at before
        exact .inl before
      · rw [is] at before
        cases before
        exact .inr ⟨row, List.mem_cons_self .., named, rfl⟩
    · exact .inr ⟨row, List.mem_cons_of_mem _ mem, named⟩

/-- A change that brings a session with its second factor still to come, or none, and satisfies
none. -/
def ConsoleChange.Spares (session : AdminSessionId) : ConsoleChange → Prop
  | .sessions hit (.satisfied _) => ∀ row, hit row = true → row.id ≠ session
  | .opened row => row.mfaSatisfied = false
  | _ => True

theorem satisfied_apply {change : ConsoleChange} (spares : change.Spares session)
    (after : satisfied (change.apply db) session = true) : satisfied db session = true := by
  unfold satisfied at after ⊢
  cases change with
  | account id change | added row => exact after
  | opened row =>
    rw [findAdminSession_opened] at after
    cases found : findAdminSession db session with
    | some held =>
      rw [found] at after
      exact after
    | none =>
      rw [found] at after
      by_cases same : row.id = session
      · rw [if_pos same] at after
        rw [Option.or_some, Option.getD_none, Option.map_some, Option.getD_some,
          show row.mfaSatisfied = false from spares] at after
        cases after
      · rw [if_neg same] at after
        cases after
  | sessions hit change =>
    rw [findAdminSession_sessions] at after
    cases found : findAdminSession db session with
    | none =>
      rw [found] at after
      cases after
    | some row =>
      have named := findAdminSession_id found
      simp only [found, Option.map_some, Option.getD_some] at after ⊢
      split at after
      · rename_i struck
        cases change with
        | satisfied now => exact absurd named (spares row struck)
        | seen now idle => exact after
        | proved now => exact after
        | revoked reason => exact after
      · exact after

theorem satisfied_applied {done : List ConsoleChange} {db : ConsoleDb}
    (each : ∀ change ∈ done, change.Spares session)
    (after : satisfied (applied done db) session = true) : satisfied db session = true := by
  induction done generalizing db with
  | nil => exact after
  | cons change rest ih =>
    have kept := ih (fun other mem => each other (List.mem_cons_of_mem _ mem)) after
    exact satisfied_apply (each change (List.mem_cons_self ..)) kept

/-- A session is opened by a sign-in whose password was right. -/
theorem Does.opens (does : Does deps input db process done) (mem : .opened row ∈ done) :
    openedOf deps input process = some (row.adminUserId, row.id) := by
  cases does with
  | aside each => cases each _ mem
  | signedIn point right =>
    rcases List.mem_cons.mp mem with eq | mem
    · cases eq
    · cases List.mem_singleton.mp mem
      simp only [openedOf, comparisonOf, point, Option.bind_some, if_neg right, sessionOf]
  | failed point wrong | sent sending | guessed point wrong | uncoded point refused other =>
    cases List.mem_singleton.mp mem
  | accepted point right =>
    rcases List.mem_cons.mp mem with eq | mem
    · cases eq
    · cases List.mem_singleton.mp mem
  | confirmed point route enrolled present right => cases List.mem_singleton.mp mem
  | enrolled point route admitted free =>
    rcases List.mem_cons.mp mem with eq | mem
    · cases eq
    · cases List.mem_singleton.mp mem

/-- A step satisfies no session but that of a right code, mailed or an authenticator's. -/
theorem Does.spares (session : String) (does : Does deps input db process done)
    (uncoded : ∀ submission, submissionOf process = some submission → submission.Right deps →
      submission.session ≠ session)
    (unconfirmed : ∀ confirmed, confirmationOf deps db input process = some confirmed →
      confirmed.session ≠ session) :
    ∀ change ∈ done, change.Spares session := by
  intro change mem
  cases does with
  | aside each =>
    have aside := each change mem
    cases change with
    | account id change => trivial
    | added row => trivial
    | opened row => cases aside
    | sessions hit change =>
      cases change with
      | satisfied now => cases aside
      | seen now idle => trivial
      | proved now => trivial
      | revoked reason => trivial
  | failed point wrong =>
    cases List.mem_singleton.mp mem
    trivial
  | signedIn point right =>
    rcases List.mem_cons.mp mem with rfl | mem
    · trivial
    · cases List.mem_singleton.mp mem
      rfl
  | sent sending | guessed point wrong | uncoded point refused other =>
    cases List.mem_singleton.mp mem
    trivial
  | accepted point right =>
    rename_i candidate otp attempts now call found admin
    rcases List.mem_cons.mp mem with rfl | mem
    · trivial
    · cases List.mem_singleton.mp mem
      intro row struck
      have named := of_decide_eq_true struck
      rw [named]
      have submits : submissionOf (.request call) =
          some ⟨found, admin, candidate, otp, attempts, now⟩ := by
        simp only [submissionOf, point]
      exact uncoded _ submits (verdict_none_iff.mp right)
  | confirmed point route enrolled present right =>
    rename_i secret supplied call found context now
    cases List.mem_singleton.mp mem
    intro row struck
    have named := of_decide_eq_true struck
    rw [named]
    have confirms : confirmationOf deps db input (.request call) =
        some ⟨found, context.user.id, secret⟩ := by
      simp only [confirmationOf, point, route, enrolled, Option.bind_some]
      rw [if_pos ⟨present, right⟩]
    exact unconfirmed _ confirms
  | enrolled point route admitted free =>
    rcases List.mem_cons.mp mem with rfl | mem
    · trivial
    · cases List.mem_singleton.mp mem
      trivial

theorem confirmationOf_some {process : ConsoleProcess} {confirmed : Confirmation}
    (confirms : confirmationOf deps db input process = some confirmed) :
    ∃ call context now, process = .request call ∧
      call.point = .admitted confirmed.session context now ∧
      context.user.id = confirmed.admin ∧ secretOf db confirmed.admin = some confirmed.secret := by
  cases process with
  | signIn call => cases confirms
  | request call =>
    simp only [confirmationOf] at confirms
    split at confirms
    · rename_i session context now supplied point route
      obtain ⟨secret, enrolled, accepted⟩ := Option.bind_eq_some_iff.mp confirms
      split at accepted
      · cases accepted
        exact ⟨call, context, now, rfl, point, rfl, enrolled⟩
      · cases accepted
    · cases confirms

/-- What a change leaves of a secret was there before. -/
theorem secret_apply {change : ConsoleChange} (aside : change.Aside)
    (after : secretOf (change.apply db) admin = some secret) :
    secretOf db admin = some secret := by
  cases change with
  | account id change =>
    cases change with
    | unenrolled =>
      rw [secretOf, column_account] at after
      split at after
      · unfold column at after
        cases found : findAdminUser db admin with
        | none =>
          rw [found] at after
          cases after
        | some row =>
          rw [found] at after
          cases after
      · exact after
    | _ => cases aside
  | added row =>
    have blank : Blank row := aside
    have kept : (ConsoleChange.added row).Keeps (·.mfaSecret) none := blank.secret
    rw [secretOf, kept.column] at after
    exact after
  | sessions hit change => exact after
  | opened session => cases aside

theorem secret_applied {done : List ConsoleChange} {db : ConsoleDb}
    (each : ∀ change ∈ done, change.Aside)
    (after : secretOf (applied done db) admin = some secret) :
    secretOf db admin = some secret := by
  induction done generalizing db with
  | nil => exact after
  | cons change rest ih =>
    have kept := ih (fun other mem => each other (List.mem_cons_of_mem _ mem)) after
    exact secret_apply (each change (List.mem_cons_self ..)) kept

/-- A secret that stands after a step stood before it, unless the step enrolled it. -/
theorem Does.keeps_secret (does : Does deps input db process done)
    (after : secretOf (applied done db) admin = some secret) :
    secretOf db admin = some secret ∨
    ∃ call session context, process = .request call ∧ call.point = .begin ∧
      call.route = .enrolMfa ∧ Admitted deps db call.sessionToken session context ∧
      context.user.mfaEnrolled = false ∧ context.user.id = admin := by
  have kept : (∀ change ∈ done, change.Keeps (·.mfaSecret) none) →
      secretOf db admin = some secret := by
    intro each
    rw [secretOf, column_applied each] at after
    exact after
  cases does with
  | aside each => exact .inl (secret_applied each after)
  | failed point wrong =>
    refine .inl (kept fun change mem => ?_)
    cases List.mem_singleton.mp mem
    exact fun _ => rfl
  | signedIn point right =>
    refine .inl (kept fun change mem => ?_)
    rcases List.mem_cons.mp mem with rfl | mem
    · exact fun _ => rfl
    · cases List.mem_singleton.mp mem
      trivial
  | sent sending | guessed point wrong | uncoded point refused other =>
    refine .inl (kept fun change mem => ?_)
    cases List.mem_singleton.mp mem
    exact fun _ => rfl
  | accepted point right =>
    refine .inl (kept fun change mem => ?_)
    rcases List.mem_cons.mp mem with rfl | mem
    · exact fun _ => rfl
    · cases List.mem_singleton.mp mem
      trivial
  | confirmed point route enrolled present right =>
    refine .inl (kept fun change mem => ?_)
    cases List.mem_singleton.mp mem
    trivial
  | @enrolled session context call point route admitted free =>
    by_cases same : context.user.id = admin
    · exact .inr ⟨call, session, context, rfl, point, route, admitted, free, same⟩
    · refine .inl ?_
      rw [applied, List.foldl_cons, List.foldl_cons, List.foldl_nil, secretOf, column_account,
        if_neg (Ne.symm same)] at after
      exact after

/-- A request knows whose session it was made with. -/
def KnowsOwner (db : ConsoleDb) : ConsoleProcess → Prop
  | .signIn _ => True
  | .request call =>
    match call.point with
    | .admitted session context _ => ownerOf db session = some context.user.id
    | .verifying session admin _ _ _ _ => ownerOf db session = some admin.id
    | _ => True

theorem KnowsOwner.stays {process : ConsoleProcess} (knows : KnowsOwner db process)
    (stays : ∀ session admin, ownerOf db session = some admin → ownerOf db' session = some admin) :
    KnowsOwner db' process := by
  cases process with
  | signIn call => trivial
  | request call =>
    simp only [KnowsOwner] at knows ⊢
    split at knows
    · exact stays _ _ knows
    · exact stays _ _ knows
    · trivial

/-- A route answers at once or goes on with the session it was admitted with. -/
theorem admit_next (deps : ConsoleDeps) (input : ConsoleInput) (db : ConsoleDb)
    (call : ConsoleRequest) (session : AdminSessionId) (context : AdminAuthContext) :
    ( call.admit deps input db session context).2.point = .admitted session context (input.now 1) ∨
    ∃ answer, ( call.admit deps input db session context).2.point = .answered answer := by
  unfold ConsoleRequest.admit
  cases route : call.route with
  | logout | page => exact .inr ⟨_, rfl⟩
  | resendOtp | otp candidate | mfa supplied => exact .inl rfl
  | enrolMfa =>
    simp only []
    split
    · exact .inr ⟨_, rfl⟩
    · exact .inr ⟨_, rfl⟩
  | stepUp password | createAdmin form =>
    simp only []
    split
    · exact .inr ⟨_, rfl⟩
    · exact .inl rfl
  | screen permission =>
    simp only []
    split
    · exact .inr ⟨_, rfl⟩
    · exact .inr ⟨_, rfl⟩
  | resetMfa target =>
    simp only []
    split
    · exact .inr ⟨_, rfl⟩
    · split
      · exact .inr ⟨_, rfl⟩
      · exact .inr ⟨_, rfl⟩

/-- What a request has in hand after reading its body: a code that is outstanding, or nothing of the
session's. -/
theorem read_next (deps : ConsoleDeps) (input : ConsoleInput) (db : ConsoleDb)
    {call : ConsoleRequest} (point : call.point = .admitted session context now) :
    (∃ candidate otp attempts clock, findAdminOtp db context.user.id = some (otp, attempts) ∧
      (call.read deps input db session context now).2.point =
        .verifying session context.user candidate otp attempts clock) ∨
    (submissionOf (.request (call.read deps input db session context now).2) = none ∧
      ((call.read deps input db session context now).2.point = call.point ∨
        KnowsOwner db (.request (call.read deps input db session context now).2))) := by
  unfold ConsoleRequest.read
  have same : submissionOf (.request call) = none := by simp only [submissionOf, point]
  cases route : call.route with
  | resendOtp =>
    simp only []
    split
    · exact .inr ⟨rfl, .inr trivial⟩
    · split
      · exact .inr ⟨rfl, .inr trivial⟩
      · exact .inr ⟨rfl, .inr trivial⟩
  | otp candidate =>
    simp only []
    split
    · exact .inr ⟨rfl, .inr trivial⟩
    · rename_i otp attempts found
      exact .inl ⟨candidate, otp, attempts, _, found, rfl⟩
  | mfa supplied =>
    simp only []
    split
    · exact .inr ⟨rfl, .inr trivial⟩
    · split
      · exact .inr ⟨rfl, .inr trivial⟩
      · exact .inr ⟨rfl, .inr trivial⟩
  | stepUp password =>
    simp only []
    split
    · exact .inr ⟨rfl, .inr trivial⟩
    · exact .inr ⟨rfl, .inr trivial⟩
  | createAdmin form => exact .inr ⟨rfl, .inr trivial⟩
  | logout | enrolMfa | page | resetMfa target | screen permission => exact .inr ⟨same, .inl rfl⟩

/-- What a step of a request leaves in its hands. -/
theorem request_next (deps : ConsoleDeps) (input : ConsoleInput) {db : ConsoleDb}
    {call : ConsoleRequest} (knows : KnowsOwner db (.request call)) :
    KnowsOwner db (.request (call.step deps input db).2) ∧
    ∀ submission, submissionOf (.request (call.step deps input db).2) = some submission →
      findAdminOtp db submission.admin.id = some (submission.otp, submission.attempts) := by
  unfold ConsoleRequest.step
  cases point : call.point with
  | begin =>
    rcases authenticate_cases deps db call.sessionToken (input.now 0) with
      ⟨failure, done, _, same⟩ | ⟨session, context, admitted, same⟩
    · simp only [same]
      exact ⟨trivial, fun submission submits => by cases submits⟩
    · simp only [same]
      obtain ⟨row, found, owner, _⟩ := admitted.row
      rcases admit_next deps input (applied [.sessions (fun row => row.id = session)
        (.seen (input.now 0) (input.now 0 + AdminAuthPolicy.idleTimeoutMs))] db) call session
        context with goes | ⟨answer, answered⟩
      · refine ⟨?_, fun submission submits => ?_⟩
        · simp only [KnowsOwner, goes]
          rw [ownerOf, found, Option.map_some, owner]
        · simp only [submissionOf, goes] at submits
          cases submits
      · refine ⟨?_, fun submission submits => ?_⟩
        · simp only [KnowsOwner, answered]
        · simp only [submissionOf, answered] at submits
          cases submits
  | admitted session context now =>
    have owner : ownerOf db session = some context.user.id := by
      simp only [KnowsOwner, point] at knows
      exact knows
    rcases read_next deps input db point with
      ⟨candidate, otp, attempts, clock, found, goes⟩ | ⟨none, goes⟩
    · refine ⟨?_, fun submission submits => ?_⟩
      · simp only [KnowsOwner, goes]
        exact owner
      · simp only [submissionOf, goes] at submits
        cases submits
        exact found
    · refine ⟨?_, fun submission submits => ?_⟩
      · rcases goes with stays | knows
        · simp only [KnowsOwner, stays, point]
          exact owner
        · exact knows
      · rw [none] at submits
        cases submits
  | verifying session admin candidate otp attempts now =>
    simp only []
    split
    · exact ⟨trivial, fun submission submits => by cases submits⟩
    · exact ⟨trivial, fun submission submits => by cases submits⟩
    · exact ⟨trivial, fun submission submits => by cases submits⟩
  | sending admin issued | proving session password row | creating form password =>
    simp only []
    split
    · exact ⟨trivial, fun submission submits => by cases submits⟩
    · exact ⟨trivial, fun submission submits => by cases submits⟩
  | issuing admin => exact ⟨trivial, fun submission submits => by cases submits⟩
  | answered answer =>
    refine ⟨knows, fun submission submits => ?_⟩
    simp only [submissionOf, point] at submits
    cases submits

theorem step_next (deps : ConsoleDeps) (input : ConsoleInput) {db : ConsoleDb}
    {process : ConsoleProcess} (knows : KnowsOwner db process) :
    KnowsOwner db (process.step deps input db).2 ∧
    ∀ submission, submissionOf (process.step deps input db).2 = some submission →
      findAdminOtp db submission.admin.id = some (submission.otp, submission.attempts) := by
  cases process with
  | signIn call => exact ⟨trivial, fun submission submits => by cases submits⟩
  | request call => exact request_next deps input knows

/-- Every request knows whose session it has, as long as it runs. -/
theorem run_knowsOwner (run : ConsoleRun deps past w) :
    ∀ process, some process ∈ w.procs → KnowsOwner w.store process := by
  refine (run.invariant (I := Secure (fun _ => True) KnowsOwner) ?_ ?_).2
  · intro w new
    refine ⟨trivial, fun process mem => ?_⟩
    rw [new.idle] at mem
    cases mem
  · refine Secure.step (R := fun db db' => ∀ session admin, ownerOf db session = some admin →
      ownerOf db' session = some admin) ?_ ?_ ?_
    · intro db process _ starting
      cases process with
      | signIn call => trivial
      | request call =>
        have point : call.point = .begin := starting
        simp only [KnowsOwner, point]
    · intro input db process _ knows _
      obtain ⟨done, _, same⟩ := process_does deps input db process
      have moved : ((consoleServer deps).advance input db process).1 = applied done db := same
      have stays : ∀ session admin, ownerOf db session = some admin →
          ownerOf ((consoleServer deps).advance input db process).1 session = some admin := by
        intro session admin owned
        rw [moved]
        exact ownerOf_stays owned
      exact ⟨trivial, (step_next deps input knows).1.stays stays, stays⟩
    · intro db db' process _ knows stays
      exact knows.stays stays

/-- What is outstanding for an administrator is the code sent last. -/
theorem outstanding_last (run : ConsoleRun deps past w)
    (held : findAdminOtp w.store admin = some (otp, attempts)) :
    lastSent admin past = some otp := by
  induction run generalizing otp attempts with
  | start new =>
    rw [findAdminOtp_column, column_blank] at held
    · cases held
    · intro row mem
      rw [codeColumn, (new.accounts row mem).2.2]
      rfl
  | @step past w event w' run step ih =>
    rcases Pool.acted step with ⟨same, other⟩ | ⟨slot, input, process, rfl, here, _, moved⟩
    · rw [same] at held
      have unsent : ∀ code, sentCode ⟨w, event, w'⟩ ≠ some (admin, code) := by
        intro code sent
        rw [sentCode, actedOn_other other] at sent
        cases sent
      rw [lastSent_cons unsent]
      exact ih held
    · rw [moved] at held
      rcases code_after held with ⟨sent, _, _⟩ | ⟨other, before, _, there, _⟩
      · exact lastSent_sent ((actedOn_act here).trans sent)
      · rw [lastSent_cons fun code sent => other code ((actedOn_act here).symm.trans sent)]
        exact ih there

/-- A submission was looked up by an earlier step of its own request. -/
def LookedUp (past : List ConsoleHappened) (slot : Nat) (submission : Submission) : Prop :=
  ∃ between lookup older, past = between ++ lookup :: older ∧ LooksUp slot lookup submission ∧
    lastSent submission.admin.id older = some submission.otp

theorem LookedUp.later (looked : LookedUp past slot submission) (taken : ConsoleHappened) :
    LookedUp (taken :: past) slot submission := by
  obtain ⟨between, lookup, older, rfl, looks, last⟩ := looked
  exact ⟨taken :: between, lookup, older, rfl, looks, last⟩

theorem run_lookedUp (run : ConsoleRun deps past w) (here : w.proc slot = some process)
    (submits : submissionOf process = some submission) : LookedUp past slot submission := by
  induction run generalizing process with
  | start new =>
    unfold World.proc at here
    rw [new.idle] at here
    cases here
  | @step past w event w' run step ih =>
    have knows := run_knowsOwner run
    have last : ∀ {admin otp attempts}, findAdminOtp w.store admin = some (otp, attempts) →
        lastSent admin past = some otp := outstanding_last run
    cases step with
    | start admitted =>
      rw [World.proc_start] at here
      split at here
      · cases here
        obtain ⟨call, rfl, point⟩ := submissionOf_some submits
        rw [show call.point = .begin from admitted] at point
        cases point
      · exact (ih here submits).later _
    | crash =>
      rw [World.proc_crash] at here
      split at here
      · cases here
      · exact (ih here submits).later _
    | act there permitted moved =>
      rw [World.proc_act there] at here
      split at here
      · rename_i same
        subst same
        cases here
        have found := (step_next deps _ (knows _ (World.proc_mem there))).2 submission
          (by rw [← submits]; exact congrArg submissionOf (congrArg Prod.snd moved))
        exact ⟨[], _, past, rfl, ⟨⟨_, rfl⟩, found⟩, last found⟩
      · exact (ih here submits).later _

/-- A session that is owned was opened by a sign-in for its owner. -/
theorem run_opened (run : ConsoleRun deps past w)
    (owned : ownerOf w.store session = some admin) :
    ∃ between signing older, past = between ++ signing :: older ∧
      opened deps signing = some (admin, session) := by
  induction run with
  | start new =>
    rw [ownerOf, findAdminSession, new.sessions] at owned
    cases owned
  | @step past w event w' run step ih =>
    have later : ownerOf w.store session = some admin → ∃ between signing older,
        (⟨w, event, w'⟩ :: past : List ConsoleHappened) = between ++ signing :: older ∧
        opened deps signing = some (admin, session) := by
      intro before
      obtain ⟨between, signing, older, rfl, opens⟩ := ih before
      exact ⟨_ :: between, signing, older, rfl, opens⟩
    rcases Pool.acted step with ⟨same, _⟩ | ⟨slot, input, process, rfl, here, _, moved⟩
    · rw [same] at owned
      exact later owned
    · obtain ⟨done, does, same⟩ := process_does deps input w.store process
      have stored : w'.store = applied done w.store := by
        rw [moved]
        exact same
      rw [stored] at owned
      rcases ownerOf_origin owned with before | ⟨row, mem, rfl, rfl⟩
      · exact later before
      · exact ⟨[], _, past, rfl, (actedOn_act here).trans (does.opens mem)⟩

/-- A secret that stands after a step stood before it, unless the step enrolled it. -/
theorem secret_step {w w' : World ConsoleDb ConsoleProcess} (step : Serves deps w event w')
    (after : secretOf w'.store admin = some secret) :
    secretOf w.store admin = some secret ∨ Enrols deps ⟨w, event, w'⟩ admin := by
  rcases Pool.acted step with ⟨same, _⟩ | ⟨slot, input, process, rfl, here, _, moved⟩
  · rw [same] at after
    exact .inl after
  · obtain ⟨done, does, same⟩ := process_does deps input w.store process
    have stored : w'.store = applied done w.store := by
      rw [moved]
      exact same
    rw [stored] at after
    rcases does.keeps_secret after with before | ⟨call, session, context, rfl, enrols⟩
    · exact .inl before
    · exact .inr ⟨slot, input, call, session, context, rfl, here, enrols⟩

/-- A sign-in enrols nobody. -/
theorem opened_not_enrols {owner : AdminId × AdminSessionId} {taken : ConsoleHappened}
    (opens : opened deps taken = some owner) :
    ¬ Enrols deps taken admin := by
  rintro ⟨slot, input, call, _, _, event, here, _⟩
  rw [opened, actedOn, event] at opens
  simp only [here, Option.bind_some, openedOf, comparisonOf] at opens
  cases opens

/-- A secret that stands was there at a sign-in already, if none was enrolled since. -/
theorem secret_since {owner : AdminId × AdminSessionId}
    (run : ConsoleRun deps (between ++ signing :: older) w)
    (opens : opened deps signing = some owner)
    (none : ∀ step ∈ between, ¬ Enrols deps step admin)
    (after : secretOf w.store admin = some secret) :
    secretOf signing.before.store admin = some secret := by
  induction between generalizing w with
  | nil =>
    cases run with
    | step run step =>
      rcases secret_step step after with before | enrols
      · exact before
      · exact absurd enrols (opened_not_enrols opens)
  | cons last rest ih =>
    cases run with
    | step run step =>
      rcases secret_step step after with before | enrols
      · exact ih run (fun other mem => none other (List.mem_cons_of_mem _ mem)) before
      · exact absurd enrols (none _ (List.mem_cons_self ..))

/-- A step that satisfies a session is the acceptance of a code: the emailed one, or an
authenticator's. -/
theorem becomes_proved {w w' : World ConsoleDb ConsoleProcess} (run : ConsoleRun deps past w)
    (step : Serves deps w event w')
    (older : ∀ confirmed ∈ confirmation deps ⟨w, event, w'⟩, ∀ between signing earlier,
      past = between ++ signing :: earlier →
      opened deps signing = some (confirmed.admin, confirmed.session) →
      ∀ step ∈ between, ¬ Enrols deps step confirmed.admin)
    (before : satisfied w.store session = false) (after : satisfied w'.store session = true) :
    Proves deps past ⟨w, event, w'⟩ session := by
  rcases Pool.acted step with ⟨same, _⟩ | ⟨slot, input, process, rfl, here, _, moved⟩
  · rw [same, before] at after
    cases after
  · obtain ⟨done, does, same⟩ := process_does deps input w.store process
    have stored : w'.store = applied done w.store := by
      rw [moved]
      exact same
    rw [stored] at after
    have knows := run_knowsOwner run process (World.proc_mem here)
    by_cases coded : ∃ submission, submissionOf process = some submission ∧
        submission.Right deps ∧ submission.session = session
    · obtain ⟨submission, submits, right, rfl⟩ := coded
      obtain ⟨between, lookup, earlier, split, looks, last⟩ := run_lookedUp run here submits
      have decides : submitted ⟨w, .act slot input, w'⟩ = some (submission, input.now 0) := by
        rw [submitted, actedOn_act here, submits]
        rfl
      refine ⟨submission.admin.id, ?_, .inl ⟨submission, _, decides, rfl, rfl, right, slot, input,
        between, lookup, earlier, rfl, split, looks, last⟩⟩
      obtain ⟨call, rfl, point⟩ := submissionOf_some submits
      simp only [KnowsOwner, point] at knows
      exact knows
    · by_cases confirms : ∃ confirmed, confirmationOf deps w.store input process =
          some confirmed ∧ confirmed.session = session
      · obtain ⟨confirmed, confirms, rfl⟩ := confirms
        obtain ⟨call, context, now, rfl, point, named, enrolled⟩ := confirmationOf_some confirms
        have owned : ownerOf w.store confirmed.session = some confirmed.admin := by
          simp only [KnowsOwner, point] at knows
          rw [← named]
          exact knows
        have accepts : confirmation deps ⟨w, .act slot input, w'⟩ = some confirmed := by
          rw [confirmation, actedOn_act here]
          exact confirms
        obtain ⟨between, signing, earlier, split, opens⟩ := run_opened run owned
        have none := older confirmed accepts between signing earlier split opens
        rw [split] at run
        have stood := secret_since run opens none enrolled
        exact ⟨confirmed.admin, owned, .inr ⟨confirmed.secret, accepts, between, signing, earlier,
          split, opens, stood⟩⟩
      · have spares := does.spares session
          (fun submission submits right named => coded ⟨submission, submits, right, named⟩)
          (fun confirmed confirmed' named => confirms ⟨confirmed, confirmed', named⟩)
        rw [satisfied_applied spares after] at before
        cases before

theorem EnrolledBefore.earlier (later : List ConsoleHappened)
    (older : EnrolledBefore deps (later ++ past)) :
    EnrolledBefore deps past := by
  intro newer taken between signing first split
  refine older (later ++ newer) taken between signing first ?_
  rw [split, List.append_assoc]

/-- A session that has cleared its second factor proved it in one of the steps so far. -/
theorem run_proved (run : ConsoleRun deps past w) (older : EnrolledBefore deps past)
    (cleared : satisfied w.store session = true) :
    ∃ between proof earlier, past = between ++ proof :: earlier ∧
      Proves deps earlier proof session := by
  induction run with
  | start new =>
    rw [satisfied, findAdminSession, new.sessions] at cleared
    cases cleared
  | @step past w event w' run step ih =>
    have rest : EnrolledBefore deps past := older.earlier [_]
    by_cases before : satisfied w.store session = true
    · obtain ⟨between, proof, earlier, split, proves⟩ := ih rest before
      exact ⟨_ :: between, proof, earlier, by rw [split, List.cons_append], proves⟩
    · refine ⟨[], _, past, rfl, becomes_proved run step ?_ (Bool.eq_false_iff.mpr before) cleared⟩
      intro confirmed accepts between signing earlier split
      exact older [] _ between signing earlier (by rw [split, List.nil_append]) confirmed accepts

/-- Where second factors are required, only a session that has cleared its own gets a permission. -/
theorem reached_satisfied {process : ConsoleProcess} (required : deps.policy.requireMfa ≠ some false)
    (gets : reachedOf deps db input process = some reach) : satisfied db reach.1 = true := by
  cases process with
  | signIn call => cases gets
  | request call =>
    simp only [reachedOf] at gets
    split at gets
    · rename_i session context point authenticated
      obtain ⟨permission, _, granted⟩ := Option.bind_eq_some_iff.mp gets
      split at granted
      · rename_i free
        cases granted
        rcases authenticate_cases deps db call.sessionToken (input.now 0) with
          ⟨failure, done, _, same⟩ | ⟨session', context', admitted, same⟩
        · rw [same] at authenticated
          cases authenticated
        · rw [same] at authenticated
          cases authenticated
          obtain ⟨row, found, _, factor⟩ := admitted.row
          unfold refusedPermission at free
          split at free
          · cases free
          · rename_i shut
            rw [satisfied, found, Option.map_some, Option.getD_some, factor]
            by_contra unsatisfied
            exact shut (decide_eq_true ⟨required, Bool.eq_false_iff.mpr unsatisfied⟩)
      · cases granted
    · cases gets

/-- In every run of a console that requires second factors, as long as no session's authenticator code
is accepted that was enrolled after its sign-in, a session clears its second factor only with the
emailed code or an older authenticator's, and reaches no permission before. -/
theorem second_factors_kept (required : deps.policy.requireMfa ≠ some false)
    (run : ConsoleRun deps past w) (older : EnrolledBefore deps past) :
    SecondFactorsKept deps past := by
  intro later taken earlier split
  subst split
  obtain ⟨before, step⟩ := run.earlier
  have through : EnrolledBefore deps (taken :: earlier) := older.earlier
  constructor
  · intro session unsatisfied cleared
    refine becomes_proved before step ?_ unsatisfied cleared
    intro confirmed accepts between signing first split
    exact through [] taken between signing first (by rw [split, List.nil_append]) confirmed accepts
  · intro reach gets
    obtain ⟨slot, input, process, _, _, gets⟩ := actedOn_some gets
    exact run_proved before (through.earlier [taken]) (reached_satisfied required gets)

/-- A request made with the owner's session, just in. -/
def asked (route : ConsoleRoute) : ConsoleProcess :=
  .request ⟨"token", route, .begin⟩

/-- With the password alone: enrol an authenticator, and show its code. -/
def selfEnrolled : List (Event ConsoleInput ConsoleProcess) :=
  let input := stillAt 1 "unused"
  signedInOnce ++ [.start (asked .enrolMfa), .act 1 input, .start (asked (.mfa "111111")),
    .act 2 input, .act 2 input, .start (asked (.screen .viewMerchant)), .act 3 input]

/-- With the code that was mailed. -/
def byMail : List (Event ConsoleInput ConsoleProcess) :=
  let input := stillAt 1 "unused"
  signedInOnce ++ [.start (asked (.otp "000000")), .act 1 input, .act 1 input, .act 1 input,
    .start (asked (.screen .viewMerchant)), .act 2 input]

theorem selfEnrolled_run :
    ConsoleRun plainConsole (consolePlayed selfEnrolled).1 (consolePlayed selfEnrolled).2 :=
  consolePlayed_run (by decide +kernel)

theorem byMail_run : ConsoleRun plainConsole (consolePlayed byMail).1 (consolePlayed byMail).2 :=
  consolePlayed_run (by decide +kernel)

/-- Whoever has only the password reaches a permission: no code was typed for the mailed one, and no
authenticator was enrolled when the session was signed in. -/
theorem password_alone : ¬ ∀ deps past w, deps.policy.requireMfa ≠ some false → deps.mails = true →
    ConsoleRun deps past w → SecondFactorsKept deps past := by
  intro always
  have kept := always _ _ _ (by decide) rfl selfEnrolled_run
  have untyped : ∀ taken ∈ (consolePlayed selfEnrolled).1, submitted taken = none := by
    decide +kernel
  have unenrolled : ∀ taken ∈ (consolePlayed selfEnrolled).1,
      ∀ owner ∈ opened plainConsole taken, secretOf taken.before.store owner.1 = none := by
    decide +kernel
  have reaches : ∃ taken earlier, (consolePlayed selfEnrolled).1 = taken :: earlier ∧
      reached plainConsole taken = some ("token", .viewMerchant) := by
    refine ⟨_, _, rfl, ?_⟩
    decide +kernel
  obtain ⟨taken, earlier, split, reaches⟩ := reaches
  obtain ⟨between, proof, older, parts, admin, _, proves⟩ :=
    (kept [] taken earlier split).2 _ reaches
  rw [parts] at split
  rw [split] at untyped unenrolled
  rcases proves with ⟨submission, clock, submits, _⟩ |
    ⟨secret, _, middle, signing, first, older, opens, stood⟩
  · rw [untyped proof (by simp)] at submits
    cases submits
  · rw [unenrolled signing (by simp [older]) _ opens] at stood
    cases stood

/-- Whoever signs in with the mailed code keeps to it. -/
theorem byMail_kept : SecondFactorsKept plainConsole (consolePlayed byMail).1 := by
  have unconfirmed : ∀ taken ∈ (consolePlayed byMail).1, confirmation plainConsole taken = none := by
    decide +kernel
  refine second_factors_kept (by decide) byMail_run ?_
  intro later taken between signing older split confirmed accepts
  rw [unconfirmed taken (by rw [split]; simp)] at accepts
  cases accepts

end Telga.Proofs.Console
