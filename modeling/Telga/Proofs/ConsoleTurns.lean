import Telga.Application.AdminSessions

namespace Telga.Proofs.Console
open Domain Persistence Application Library

/-- One thing that happens to an administrator's row. -/
inductive AccountChange
  | failed (lockUntil : Option Timestamp)
  | signedIn (now : Timestamp)
  | coded (otp : AdminOtp)
  | guessed
  | uncoded
  | enrolled (secret : String) (now : Timestamp)
  | unenrolled

def AccountChange.apply : AccountChange → AdminUserRow → AdminUserRow
  | .failed lockUntil, row =>
    { row with
      failedAttempts := row.failedAttempts + 1, lockedUntil := lockUntil.or row.lockedUntil }
  | .signedIn now, row =>
    { row with failedAttempts := 0, lockedUntil := none, lastLoginAt := some now }
  | .coded otp, row => { row with otp := some otp, otpAttempts := 0 }
  | .guessed, row => { row with otpAttempts := row.otpAttempts + 1 }
  | .uncoded, row => { row with otp := none, otpAttempts := 0 }
  | .enrolled secret now, row => { row with mfaSecret := some secret, mfaEnrolledAt := some now }
  | .unenrolled, row => { row with mfaSecret := none, mfaEnrolledAt := none }

/-- One thing that happens to a session's row. -/
inductive SessionChange
  | seen (now idleExpiresAt : Timestamp)
  | satisfied (now : Timestamp)
  | proved (now : Timestamp)
  | revoked (reason : String)

def SessionChange.apply : SessionChange → AdminSessionRow → AdminSessionRow
  | .seen now idleExpiresAt, row => { row with lastSeenAt := now, idleExpiresAt }
  | .satisfied now, row => { row with mfaSatisfied := true, lastSeenAt := now }
  | .proved now, row => { row with steppedUpAt := some now, lastSeenAt := now }
  | .revoked reason, row => { row with status := .revoked, revocationReason := some reason }

inductive ConsoleChange
  | account (id : AdminId) (change : AccountChange)
  | sessions (hit : AdminSessionRow → Bool) (change : SessionChange)
  | added (row : AdminUserRow)
  | opened (session : AdminSessionRow)

def ConsoleChange.apply (db : ConsoleDb) : ConsoleChange → ConsoleDb
  | .account id change => updateAdmin db id change.apply
  | .sessions hit change =>
    { db with adminSessions := update hit change.apply db.adminSessions }
  | .added row => { db with adminUsers := db.adminUsers ++ [row] }
  | .opened session => saveAdminSession db session

/-- What a step's changes make of the database, one after another. -/
abbrev applied (changes : List ConsoleChange) (db : ConsoleDb) : ConsoleDb :=
  changes.foldl ConsoleChange.apply db

/-- A row that nobody signed in with yet. -/
structure Blank (row : AdminUserRow) : Prop where
  failures : row.failedAttempts = 0
  held : row.lockedUntil = none
  code : row.otp = none
  secret : row.mfaSecret = none

/-- A change that counts no sign-in, brings no code or secret, and satisfies no session. -/
def ConsoleChange.Aside : ConsoleChange → Prop
  | .account _ change => (change matches .unenrolled) = true
  | .sessions _ change => (change matches .satisfied _) = false
  | .added row => Blank row
  | .opened _ => False

/-- The code a process has issued and is sending, and to whom. -/
def sendingOf : ConsoleProcess → Option (AdminId × IssuedOtp)
  | .signIn call =>
    match call.point with
    | .sending admin issued => some (admin.id, issued)
    | _ => none
  | .request call =>
    match call.point with
    | .sending admin issued => some (admin.id, issued)
    | _ => none

/-- A sign-in's password is refused: it is not the account's, or the account is not active. -/
def Mistaken (deps : ConsoleDeps) (call : SignIn) (row : AdminUserRow) : Prop :=
  verifySecret deps call.password row.password = false ∨ row.status ≠ .active

instance (deps : ConsoleDeps) (call : SignIn) (row : AdminUserRow) :
    Decidable (Mistaken deps call row) :=
  inferInstanceAs (Decidable (_ ∨ _))

/-- Who a session token stands for, while the session is good. -/
structure Admitted (deps : ConsoleDeps) (db : ConsoleDb) (sessionToken : String)
    (session : AdminSessionId) (context : AdminAuthContext) : Prop where
  token : session = deps.tokenFingerprint sessionToken
  row : ∃ row, findAdminSession db session = some row ∧ row.adminUserId = context.user.id ∧
    row.mfaSatisfied = context.mfaSatisfied
  user : adminById db context.user.id = some context.user

/-- A column of an administrator's row, or its blank where there is no such administrator. -/
def column (view : AdminUserRow → β) (blank : β) (db : ConsoleDb) (id : AdminId) : β :=
  ((findAdminUser db id).map view).getD blank

/-- Failed sign-ins since the last successful one, as they are stored. -/
abbrev failuresOf (db : ConsoleDb) (id : AdminId) : Nat :=
  column (·.failedAttempts) 0 db id

/-- How long the account is held, as it is stored. -/
abbrev holdOf (db : ConsoleDb) (id : AdminId) : Option Timestamp :=
  column (·.lockedUntil) none db id

/-- The authenticator's secret, as it is stored. -/
abbrev secretOf (db : ConsoleDb) (id : AdminId) : Option String :=
  column (·.mfaSecret) none db id

/-- A change leaves a column as it is. -/
def ConsoleChange.Keeps (view : AdminUserRow → β) (blank : β) : ConsoleChange → Prop
  | .account _ change => ∀ row, view (change.apply row) = view row
  | .added row => view row = blank
  | .sessions _ _ | .opened _ => True

/-- What one step of a process does to the console's database. -/
inductive Does (deps : ConsoleDeps) (input : ConsoleInput) (db : ConsoleDb) :
    ConsoleProcess → List ConsoleChange → Prop
  | aside {done : List ConsoleChange} : (∀ change ∈ done, change.Aside) →
      Does deps input db process done
  | failed : call.point = .comparing row now → Mistaken deps call row →
      Does deps input db (.signIn call)
        [.account row.id (.failed (lockUntilAfterFailure (row.failedAttempts + 1) now))]
  | signedIn : call.point = .comparing row now → ¬ Mistaken deps call row →
      Does deps input db (.signIn call)
        [.account row.id (.signedIn now), .opened (sessionOf deps row now input.token)]
  | sent : sendingOf process = some (admin, issued) →
      Does deps input db process [.account admin (.coded (issued.stored input))]
  | guessed : call.point = .verifying session admin candidate otp attempts now →
      verifyEmailOtp deps candidate otp attempts now = some .codeIncorrect →
      Does deps input db (.request call) [.account admin.id .guessed]
  | uncoded : call.point = .verifying session admin candidate otp attempts now →
      verifyEmailOtp deps candidate otp attempts now = some refusal → refusal ≠ .codeIncorrect →
      Does deps input db (.request call) [.account admin.id .uncoded]
  | accepted : call.point = .verifying session admin candidate otp attempts now →
      verifyEmailOtp deps candidate otp attempts now = none →
      Does deps input db (.request call)
        [.account admin.id .uncoded,
          .sessions (fun row => row.id = session) (.satisfied (input.now 0))]
  | confirmed : call.point = .admitted session context now → call.route = .mfa supplied →
      secretOf db context.user.id = some secret → secret ≠ "" →
      verifyTotp deps secret supplied (input.now 0) = true →
      Does deps input db (.request call)
        [.sessions (fun row => row.id = session) (.satisfied (input.now 1))]
  | enrolled : call.point = .begin → call.route = .enrolMfa →
      Admitted deps db call.sessionToken session context → context.user.mfaEnrolled = false →
      Does deps input db (.request call)
        [.sessions (fun row => row.id = session)
            (.seen (input.now 0) (input.now 0 + AdminAuthPolicy.idleTimeoutMs)),
          .account context.user.id (.enrolled input.totpSecret (input.now 1))]

theorem findAdminUser_id (found : findAdminUser db wanted = some row) : row.id = wanted := by
  have named := List.find?_some found
  exact of_decide_eq_true named

theorem findAdminSession_id (found : findAdminSession db wanted = some row) : row.id = wanted := by
  have named := List.find?_some found
  exact of_decide_eq_true named

theorem adminById_id (found : adminById db wanted = some user) : user.id = wanted := by
  unfold adminById at found
  cases there : findAdminUser db wanted with
  | none =>
    rw [there] at found
    cases found
  | some row =>
    rw [there] at found
    cases found
    exact findAdminUser_id there

/-- A session is known, and seen; or it is not, and at most ended. -/
theorem authenticate_cases (deps : ConsoleDeps) (db : ConsoleDb) (sessionToken : String)
    (now : Timestamp) :
    (∃ failure done, (∀ change ∈ done, ConsoleChange.Aside change) ∧
      authenticateAdmin deps db sessionToken now = (applied done db, .error failure)) ∨
    ∃ session context, Admitted deps db sessionToken session context ∧
      authenticateAdmin deps db sessionToken now =
        (applied [.sessions (fun row => row.id = session)
          (.seen now (now + AdminAuthPolicy.idleTimeoutMs))] db, .ok (session, context)) := by
  have ended : ∀ reason, ∀ change ∈ [ConsoleChange.sessions
      (fun row => row.id = deps.tokenFingerprint sessionToken ∧ row.status = .active)
      (.revoked reason)], change.Aside := by
    intro reason change mem
    cases List.mem_singleton.mp mem
    rfl
  have untouched : ∀ change ∈ ([] : List ConsoleChange), change.Aside := fun _ mem => by cases mem
  unfold authenticateAdmin
  split
  · exact .inl ⟨_, [], untouched, rfl⟩
  · simp only []
    cases found : findAdminSession db (deps.tokenFingerprint sessionToken) with
    | none => exact .inl ⟨_, [], untouched, rfl⟩
    | some row =>
      simp only []
      split
      · exact .inl ⟨_, [], untouched, rfl⟩
      · split
        · exact .inl ⟨_, _, ended _, rfl⟩
        · split
          · exact .inl ⟨_, _, ended _, rfl⟩
          · cases known : adminById db row.adminUserId with
            | none => exact .inl ⟨_, [], untouched, rfl⟩
            | some user =>
              simp only []
              split
              · exact .inl ⟨_, [], untouched, rfl⟩
              · have named := adminById_id known
                exact .inr ⟨_, _, ⟨rfl, ⟨row, found, named.symm, rfl⟩, named ▸ known⟩, rfl⟩

theorem aside_one {change : ConsoleChange} (aside : change.Aside) :
    ∀ other ∈ [change], other.Aside := by
  intro other mem
  cases List.mem_singleton.mp mem
  exact aside

theorem aside_cons {change : ConsoleChange} {done : List ConsoleChange} (aside : change.Aside)
    (rest : ∀ other ∈ done, other.Aside) : ∀ other ∈ change :: done, other.Aside :=
  List.forall_mem_cons.mpr ⟨aside, rest⟩

theorem createAdmin_some (made : createAdmin deps input db form password = some db') :
    ∃ row, Blank row ∧ db' = applied [.added row] db := by
  unfold createAdmin at made
  cases role : form.role with
  | none =>
    rw [role] at made
    cases made
  | some held =>
    simp only [role, Option.bind_some, saveAdminUser] at made
    split at made
    · cases made
    · cases made
      exact ⟨_, ⟨rfl, rfl, rfl, rfl⟩, rfl⟩

/-- What a route does at once: it only ends sessions or takes a second factor away, unless it
enrols one. -/
theorem admit_does (deps : ConsoleDeps) (input : ConsoleInput) (db : ConsoleDb)
    (call : ConsoleRequest) (session : AdminSessionId) (context : AdminAuthContext) :
    (∃ done, (∀ change ∈ done, ConsoleChange.Aside change) ∧
      ( call.admit deps input db session context).1 = applied done db) ∨
    call.route = .enrolMfa ∧ context.user.mfaEnrolled = false ∧
      ( call.admit deps input db session context).1 =
        applied [.account context.user.id (.enrolled input.totpSecret (input.now 1))] db := by
  have untouched : ∃ done, (∀ change ∈ done, ConsoleChange.Aside change) ∧
      db = applied done db := ⟨[], fun _ mem => (by cases mem), rfl⟩
  unfold ConsoleRequest.admit
  cases route : call.route with
  | logout =>
    exact .inl ⟨[.sessions _ (.revoked _)], aside_one rfl, rfl⟩
  | enrolMfa =>
    simp only []
    split
    · exact .inl untouched
    · rename_i free
      exact .inr ⟨trivial, Bool.eq_false_iff.mpr free, rfl⟩
  | stepUp password =>
    simp only []
    split
    · exact .inl untouched
    · exact .inl untouched
  | resetMfa target =>
    simp only []
    split
    · exact .inl untouched
    · split
      · exact .inl untouched
      · exact .inl ⟨[.account target .unenrolled, .sessions _ (.revoked _)],
          aside_cons rfl (aside_one rfl), rfl⟩
  | createAdmin form | screen permission =>
    simp only []
    split
    · exact .inl untouched
    · exact .inl untouched
  | page | resendOtp | otp candidate | mfa supplied => exact .inl untouched

theorem column_bind (view : AdminUserRow → Option β) (db : ConsoleDb) (wanted : AdminId) :
    column view none db wanted = (findAdminUser db wanted).bind view := by
  unfold column
  cases findAdminUser db wanted with
  | none | some row => rfl

theorem read_does (point : call.point = .admitted session context now) :
    ∃ done, Does deps input db (.request call) done ∧
      (call.read deps input db session context now).1 = applied done db := by
  have untouched : ∃ done, Does deps input db (.request call) done ∧ db = applied done db :=
    ⟨[], .aside fun _ mem => (by cases mem), rfl⟩
  unfold ConsoleRequest.read
  cases route : call.route with
  | resendOtp =>
    simp only []
    split
    · exact untouched
    · split
      · exact untouched
      · exact untouched
  | otp candidate =>
    simp only []
    split
    · exact untouched
    · exact untouched
  | mfa supplied =>
    simp only []
    split
    · exact untouched
    · rename_i secret enrolled
      split
      · rename_i right
        refine ⟨_, .confirmed point route ?_ right.1 right.2, rfl⟩
        rw [secretOf, column_bind]
        exact enrolled
      · exact untouched
  | stepUp password =>
    simp only []
    split
    · exact untouched
    · exact untouched
  | createAdmin form | logout | enrolMfa | page | resetMfa target | screen permission =>
    exact untouched

theorem signIn_does (deps : ConsoleDeps) (input : ConsoleInput) (db : ConsoleDb) (call : SignIn) :
    ∃ done, Does deps input db (.signIn call) done ∧
      (call.step deps input db).1 = applied done db := by
  have untouched : ∃ done, Does deps input db (.signIn call) done ∧ db = applied done db :=
    ⟨[], .aside fun _ mem => (by cases mem), rfl⟩
  unfold SignIn.step
  cases point : call.point with
  | comparing row now =>
    simp only []
    split
    · rename_i wrong
      exact ⟨_, .failed point wrong, rfl⟩
    · rename_i right
      refine ⟨_, .signedIn point right, ?_⟩
      split
      · rfl
      · rfl
  | sending admin issued =>
    simp only []
    split
    · exact ⟨_, .sent (by simp only [sendingOf, point]), rfl⟩
    · exact untouched
  | begin =>
    simp only []
    split
    · exact untouched
    · split
      · exact untouched
      · exact untouched
  | decoy | issuing admin | refused reason | notSent | signedIn => exact untouched

theorem request_does (deps : ConsoleDeps) (input : ConsoleInput) (db : ConsoleDb)
    (call : ConsoleRequest) :
    ∃ done, Does deps input db (.request call) done ∧
      (call.step deps input db).1 = applied done db := by
  have untouched : ∃ done, Does deps input db (.request call) done ∧ db = applied done db :=
    ⟨[], .aside fun _ mem => (by cases mem), rfl⟩
  unfold ConsoleRequest.step
  cases point : call.point with
  | begin =>
    rcases authenticate_cases deps db call.sessionToken (input.now 0) with
      ⟨failure, done, aside, same⟩ | ⟨session, context, admitted, same⟩
    · exact ⟨done, .aside aside, by simp only [same]⟩
    · simp only [same]
      rcases admit_does deps input _ call session context with ⟨done, aside, acts⟩ |
        ⟨route, free, acts⟩
      · exact ⟨.sessions _ (.seen _ _) :: done, .aside (aside_cons rfl aside), acts⟩
      · exact ⟨_, .enrolled point route admitted free, acts⟩
  | admitted session context now => exact read_does point
  | verifying session admin candidate otp attempts now =>
    simp only []
    split
    · rename_i wrong
      exact ⟨_, .guessed point wrong, rfl⟩
    · rename_i refusal incorrect wrong
      exact ⟨_, .uncoded point wrong incorrect, rfl⟩
    · rename_i right
      exact ⟨_, .accepted point right, rfl⟩
  | sending admin issued =>
    simp only []
    split
    · exact ⟨_, .sent (by simp only [sendingOf, point]), rfl⟩
    · exact untouched
  | proving session password row =>
    simp only []
    split
    · exact ⟨[.sessions _ (.proved _)], .aside (aside_one rfl), rfl⟩
    · exact untouched
  | creating form password =>
    simp only []
    split
    · rename_i made
      obtain ⟨row, blank, same⟩ := createAdmin_some made
      exact ⟨[.added row], .aside (aside_one blank), same⟩
    · exact untouched
  | issuing admin | answered answer => exact untouched

/-- Every step of the console is one of its deeds. -/
theorem process_does (deps : ConsoleDeps) (input : ConsoleInput) (db : ConsoleDb)
    (process : ConsoleProcess) :
    ∃ done, Does deps input db process done ∧
      (process.step deps input db).1 = applied done db := by
  cases process with
  | signIn call => exact signIn_does deps input db call
  | request call => exact request_does deps input db call

theorem AccountChange.apply_id (change : AccountChange) (row : AdminUserRow) :
    (change.apply row).id = row.id := by
  cases change <;> rfl

theorem SessionChange.apply_id (change : SessionChange) (row : AdminSessionRow) :
    (change.apply row).id = row.id := by
  cases change <;> rfl

theorem findAdminUser_added (db : ConsoleDb) (row : AdminUserRow) (wanted : AdminId) :
    findAdminUser { db with adminUsers := db.adminUsers ++ [row] } wanted =
      (findAdminUser db wanted).or (if row.id = wanted then some row else none) := by
  unfold findAdminUser
  rw [List.find?_append]
  by_cases same : row.id = wanted
  · simp [same]
  · simp [same]

/-- A column of the account that was changed, and of every other. -/
theorem column_account (view : AdminUserRow → β) (blank : β) (db : ConsoleDb) (id : AdminId)
    (change : AccountChange) (wanted : AdminId) :
    column view blank ((ConsoleChange.account id change).apply db) wanted =
      if wanted = id then column (fun row => view (change.apply row)) blank db wanted
      else column view blank db wanted := by
  unfold column ConsoleChange.apply
  rw [findAdminUser_update db id wanted change.apply_id]
  split
  · rw [Option.map_map]
    rfl
  · rfl

theorem ConsoleChange.Keeps.column {change : ConsoleChange} {view : AdminUserRow → β} {blank : β}
    (keeps : change.Keeps view blank) (db : ConsoleDb) (wanted : AdminId) :
    column view blank (change.apply db) wanted = column view blank db wanted := by
  cases change with
  | account id change =>
    rw [column_account]
    split
    · unfold Console.column
      cases findAdminUser db wanted with
      | none => rfl
      | some row => exact keeps row
    · rfl
  | added row =>
    unfold Console.column ConsoleChange.apply
    rw [findAdminUser_added]
    cases findAdminUser db wanted with
    | some row => rfl
    | none =>
      by_cases same : row.id = wanted
      · simp only [same, if_true, Option.or_some, Option.getD_none, Option.map_some,
          Option.getD_some, Option.map_none]
        exact keeps
      · simp [same]
  | sessions hit change | opened session => rfl

/-- What is read off a column is a column. -/
theorem column_comp (read : β → γ) (view : AdminUserRow → β) (blank : β) (db : ConsoleDb)
    (wanted : AdminId) :
    read (column view blank db wanted) =
      column (fun row => read (view row)) (read blank) db wanted := by
  unfold column
  cases findAdminUser db wanted with
  | none | some row => rfl

theorem column_opened (view : AdminUserRow → β) (blank : β) (db : ConsoleDb)
    (session : AdminSessionRow) (wanted : AdminId) :
    column view blank ((ConsoleChange.opened session).apply db) wanted =
      column view blank db wanted :=
  rfl

/-- A step whose changes keep a column keeps it. -/
theorem column_applied {done : List ConsoleChange} {view : AdminUserRow → β} {blank : β}
    (each : ∀ change ∈ done, change.Keeps view blank) (db : ConsoleDb) (wanted : AdminId) :
    column view blank (applied done db) wanted = column view blank db wanted := by
  induction done generalizing db with
  | nil => rfl
  | cons change rest ih =>
    rw [applied, List.foldl_cons]
    calc column view blank (applied rest (change.apply db)) wanted
        = column view blank (change.apply db) wanted :=
          ih (fun other mem => each other (List.mem_cons_of_mem _ mem)) _
      _ = column view blank db wanted := (each change (List.mem_cons_self ..)).column db wanted

/-- The columns of an account that is there are those of its row. -/
theorem column_there (there : (findAdminUser db wanted).isSome = true) :
    ∃ row, findAdminUser db wanted = some row ∧
      ∀ {β : Type} (view : AdminUserRow → β) blank, column view blank db wanted = view row := by
  obtain ⟨row, found⟩ := Option.isSome_iff_exists.mp there
  refine ⟨row, found, fun view blank => ?_⟩
  rw [column, found]
  rfl

/-- No step takes an account away. -/
theorem applied_there {done : List ConsoleChange} {db : ConsoleDb}
    (there : (findAdminUser db wanted).isSome = true) :
    (findAdminUser (applied done db) wanted).isSome = true := by
  induction done generalizing db with
  | nil => exact there
  | cons change rest ih =>
    refine ih ?_
    cases change with
    | account id change =>
      rw [ConsoleChange.apply, findAdminUser_update db id wanted change.apply_id]
      split
      · rw [Option.isSome_map]
        exact there
      · exact there
    | added row =>
      rw [ConsoleChange.apply, findAdminUser_added]
      obtain ⟨held, found⟩ := Option.isSome_iff_exists.mp there
      rw [found]
      rfl
    | sessions hit change => exact there
    | opened session => exact there

/-- One step of the console as it was taken. -/
abbrev ConsoleHappened := Taken (World ConsoleDb ConsoleProcess) (Event ConsoleInput ConsoleProcess)

/-- A console that nobody has signed in to yet. -/
structure NewConsole (w : World ConsoleDb ConsoleProcess) : Prop where
  accounts : ∀ row ∈ w.store.adminUsers,
    row.failedAttempts = 0 ∧ row.lockedUntil = none ∧ row.otp = none
  sessions : w.store.adminSessions = []
  idle : w.procs = []

/-- No session has the token that a step may draw. -/
def FreshToken (deps : ConsoleDeps) (input : ConsoleInput) (db : ConsoleDb) : Prop :=
  findAdminSession db (deps.tokenFingerprint input.token) = none

instance (deps : ConsoleDeps) (input : ConsoleInput) (db : ConsoleDb) :
    Decidable (FreshToken deps input db) :=
  inferInstanceAs (Decidable (_ = none))

/-- Any number of sign-ins and requests to one console, interleaved. -/
abbrev Serves (deps : ConsoleDeps) :=
  Pool (consoleServer deps) (fun _ process => process.Starting)
    (fun input db _ => FreshToken deps input db)

abbrev ConsoleRun (deps : ConsoleDeps) := Run NewConsole (Serves deps)

/-- What a step acted on, of what can be read off the process that took it. -/
def actedOn (read : ConsoleInput → ConsoleProcess → Option α) (taken : ConsoleHappened) : Option α :=
  match taken.event with
  | .act slot input => (taken.before.proc slot).bind (read input)
  | _ => none

theorem actedOn_act {read : ConsoleInput → ConsoleProcess → Option α} {slot : Nat}
    {input : ConsoleInput} {w w' : World ConsoleDb ConsoleProcess} {process : ConsoleProcess}
    (here : w.proc slot = some process) :
    actedOn read ⟨w, .act slot input, w'⟩ = read input process := by
  simp only [actedOn, here, Option.bind_some]

theorem actedOn_other {read : ConsoleInput → ConsoleProcess → Option α}
    {event : Event ConsoleInput ConsoleProcess} {w w' : World ConsoleDb ConsoleProcess}
    (other : ∀ slot input, event ≠ .act slot input) : actedOn read ⟨w, event, w'⟩ = none := by
  cases event with
  | act slot input => exact absurd rfl (other slot input)
  | start process | crash slot => rfl

theorem actedOn_some {read : ConsoleInput → ConsoleProcess → Option α} {taken : ConsoleHappened}
    (acted : actedOn read taken = some a) :
    ∃ slot input process, taken.event = .act slot input ∧
      taken.before.proc slot = some process ∧ read input process = some a := by
  unfold actedOn at acted
  split at acted
  · rename_i slot input event
    cases here : taken.before.proc slot with
    | none =>
      rw [here] at acted
      cases acted
    | some process =>
      rw [here] at acted
      exact ⟨slot, input, process, event, here, acted⟩
  · cases acted

theorem column_blank {view : AdminUserRow → β} {blank : β}
    (each : ∀ row ∈ db.adminUsers, view row = blank) (wanted : AdminId) :
    column view blank db wanted = blank := by
  unfold column
  cases found : findAdminUser db wanted with
  | none => rfl
  | some row => exact each row (List.mem_of_find?_eq_some found)

/-- A console where what is derived from a secret is the secret itself, and whose codes are
mailed. -/
def plainConsole : ConsoleDeps where
  toLowerCase := fun text => text
  tokenFingerprint := fun token => token
  scrypt := fun secret _ _ => secret
  totpAt := fun secret _ => secret
  policy := {}
  mails := true

/-- An administrator who has never signed in. -/
def newOwner : AdminUserRow :=
  { id := "owner", email := "owner@telga.example", role := .platformOwner, status := .active,
    password := ⟨"correct horse", "salt", scryptParams⟩ }

def oneAdmin : ConsoleDb where
  adminUsers := [newOwner]
  adminPermissions := []
  adminSessions := []

theorem oneAdmin_new : NewConsole ⟨oneAdmin, []⟩ where
  accounts row mem := by
    cases List.mem_singleton.mp mem
    exact ⟨rfl, rfl, rfl⟩
  sessions := rfl
  idle := rfl

/-- Everything in one step happens at one time. -/
def stillAt (now : Timestamp) (token : String) : ConsoleInput :=
  { now := fun _ => now, newId := "", token, code := "000000", salt := "salt",
    totpSecret := "111111", sent := true }

/-- A sign-in with a password, just in. -/
def guess (password : String) : ConsoleProcess :=
  .signIn ⟨"owner@telga.example", password, .begin⟩

/-- What a console with one administrator makes of some events. -/
def consolePlayed (events : List (Event ConsoleInput ConsoleProcess)) :
    List ConsoleHappened × World ConsoleDb ConsoleProcess :=
  played (World.next (consoleServer plainConsole)) events [] ⟨oneAdmin, []⟩

theorem consolePlayed_run {events : List (Event ConsoleInput ConsoleProcess)}
    (playable : Playable (World.May (fun _ process => process.Starting)
      (fun input db _ => FreshToken plainConsole input db))
      (World.next (consoleServer plainConsole)) events ⟨oneAdmin, []⟩) :
    ConsoleRun plainConsole (consolePlayed events).1 (consolePlayed events).2 :=
  Run.play Pool.next (.start oneAdmin_new) playable

end Telga.Proofs.Console
