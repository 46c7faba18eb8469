import Telga.Library.Pool
import Telga.Persistence.Admins

namespace Telga.Application
open Domain Persistence Library

/-- What the console is given besides the database. What scrypt, sha256 and the authenticator's
HMAC make of a secret is the runtime's own. -/
structure ConsoleDeps where
  toLowerCase : String → String
  tokenFingerprint : String → String
  scrypt : String → String → String → String
  totpAt : String → Int → String
  policy : AdminAuthPolicy
  mails : Bool

/-- What the surroundings answer during one atomic step of a console request: the clock, the tokens,
ids, codes, salts and secrets drawn, and whether the mailer took the code. -/
structure ConsoleInput where
  now : Nat → Timestamp
  newId : AdminId
  token : String
  code : String
  salt : String
  totpSecret : String
  sent : Bool

def scryptParams : String :=
  "scrypt$N=16384,r=8,p=1,len=64"

/-- What the database holds for a secret: its derivation with a salt of its own. -/
def deriveSecret (deps : ConsoleDeps) (secret salt : String) : DerivedSecret :=
  { hash := deps.scrypt secret salt scryptParams, salt, params := scryptParams }

/-- Check a secret against a stored derivation. An empty one matches nothing. -/
def verifySecret (deps : ConsoleDeps) (secret : String) (stored : DerivedSecret) : Bool :=
  stored.hash ≠ "" ∧ deps.scrypt secret stored.salt stored.params = stored.hash

namespace AdminAuthPolicy

/-- Failed sign-ins before the first hold. -/
def lockAfterAttempts : Nat := 4

def lockForMs : Int := 10 * 60 * 1000

/-- Tries allowed after that hold before the long one. -/
def graceAttempts : Nat := 2

def longLockForMs : Int := 24 * 60 * 60 * 1000

def idleTimeoutMs : Int := 15 * 60 * 1000

def absoluteTimeoutMs : Int := 8 * 60 * 60 * 1000

end AdminAuthPolicy

open AdminAuthPolicy in
/-- How long a failure holds the account, if at all. The count includes the failure. -/
def lockUntilAfterFailure (attemptsAfter : Nat) (now : Timestamp) : Option Timestamp :=
  if lockAfterAttempts + graceAttempts ≤ attemptsAfter then some (now + longLockForMs)
  else if attemptsAfter = lockAfterAttempts then some (now + lockForMs)
  else none

/-- A row plus its grants, as the domain model wants it. -/
def toAdminUser (row : AdminUserRow) (grants : List AdminPermission) : AdminUser :=
  { id := row.id, email := row.email, role := row.role, status := row.status,
    mfaEnrolled := row.mfaSecret.isSome, grants }

/-- An admin and their grants, by id. -/
def adminById (db : ConsoleDb) (id : AdminId) : Option AdminUser :=
  (findAdminUser db id).map fun row => toAdminUser row (listAdminGrants db id)

def isLocked (row : AdminUserRow) (now : Timestamp) : Bool :=
  ∃ held ∈ row.lockedUntil, now < held

def otpTtlMs : Int := 60 * 1000

def maxOtpAttempts : Nat := 5

def otpResendIntervalMs : Int := 30 * 1000

/-- A code that was issued, and what to store for it. -/
structure IssuedOtp where
  code : String
  hash : String
  salt : String
deriving DecidableEq

/-- Derive what the row should hold for a code that was drawn. -/
def issueEmailOtp (deps : ConsoleDeps) (code salt : String) : IssuedOtp :=
  let derived := deriveSecret deps code salt
  { code, hash := derived.hash, salt := derived.salt }

/-- The code as it is stored once the mailer has taken it. The clock starts there. -/
def IssuedOtp.stored (issued : IssuedOtp) (input : ConsoleInput) : AdminOtp :=
  { hash := issued.hash, salt := issued.salt, expiresAt := input.now 0 + otpTtlMs,
    sentAt := input.now 1 }

inductive OtpRefusal
  | codeExpired
  | tooManyAttempts
  | codeIncorrect
deriving DecidableEq, Repr

def isSixDigits (candidate : String) : Bool :=
  candidate.toList.length = 6 ∧ candidate.toList.all fun c => '0' ≤ c && c ≤ '9'

/-- The candidate is compared with the code: the code is alive and the candidate could be one. -/
def comparesOtp (candidate : String) (otp : AdminOtp) (attempts : Nat) (now : Timestamp) : Bool :=
  attempts < maxOtpAttempts ∧ now < otp.expiresAt ∧ isSixDigits candidate = true

/-- Check a typed code against the stored one: why it is refused, if it is. The attempts and the
expiry are looked at before anything is derived. -/
def verifyEmailOtp (deps : ConsoleDeps) (candidate : String) (otp : AdminOtp) (attempts : Nat)
    (now : Timestamp) : Option OtpRefusal :=
  if maxOtpAttempts ≤ attempts then some .tooManyAttempts
  else if otp.expiresAt ≤ now then some .codeExpired
  else if isSixDigits candidate = false then some .codeIncorrect
  else if verifySecret deps candidate ⟨otp.hash, otp.salt, scryptParams⟩ then none
  else some .codeIncorrect

/-- Whether another code may not be sent yet. -/
def resendRefused (outstanding : Option (AdminOtp × Nat)) (now : Timestamp) : Bool :=
  ∃ found ∈ outstanding, now - found.1.sentAt < otpResendIntervalMs

def totpStepSeconds : Int := 30

/-- Check an authenticator's code, one time step either side of now. -/
def verifyTotp (deps : ConsoleDeps) (secret supplied : String) (now : Timestamp) : Bool :=
  let candidate := String.ofList (supplied.toList.filter fun c => isWhitespace c = false)
  isSixDigits candidate && [(-1 : Int), 0, 1].any fun drift =>
    deps.totpAt secret ((now + drift * totpStepSeconds * 1000) / 1000 / totpStepSeconds) ==
      candidate

inductive AdminLoginRefusal
  | invalidCredentials
  | accountLocked
deriving DecidableEq, Repr

inductive SignInPoint
  | begin
  | decoy
  | comparing (row : AdminUserRow) (now : Timestamp)
  | issuing (admin : AdminUserRow)
  | sending (admin : AdminUserRow) (issued : IssuedOtp)
  | refused (reason : AdminLoginRefusal)
  | notSent
  | signedIn
deriving DecidableEq

/-- A running sign-in: `adminLogin`, and the emailed code after it. -/
structure SignIn where
  email : String
  password : String
  point : SignInPoint
deriving DecidableEq

def SignIn.at (call : SignIn) (point : SignInPoint) : SignIn :=
  { call with point }

/-- The session a sign-in saves. Its second factor is still to come. -/
def sessionOf (deps : ConsoleDeps) (row : AdminUserRow) (now : Timestamp) (token : String) :
    AdminSessionRow :=
  { id := deps.tokenFingerprint token, adminUserId := row.id, createdAt := now, lastSeenAt := now,
    idleExpiresAt := now + AdminAuthPolicy.idleTimeoutMs,
    absoluteExpiresAt := now + AdminAuthPolicy.absoluteTimeoutMs }

/-- One atomic step of a sign-in. It is suspended while the password is derived, and goes on with
the row it read before. -/
def SignIn.step (deps : ConsoleDeps) (input : ConsoleInput) (db : ConsoleDb) (call : SignIn) :
    ConsoleDb × SignIn :=
  match call.point with
  | .begin =>
    match findAdminUserByEmail deps.toLowerCase db call.email with
    | none => (db, call.at .decoy)
    | some row =>
      if isLocked row (input.now 0) then (db, call.at (.refused .accountLocked))
      else (db, call.at (.comparing row (input.now 0)))
  | .decoy => (db, call.at (.refused .invalidCredentials))
  | .comparing row now =>
    if verifySecret deps call.password row.password = false ∨ row.status ≠ .active then
      (recordAdminLoginFailure db row.id (lockUntilAfterFailure (row.failedAttempts + 1) now),
        call.at (.refused .invalidCredentials))
    else
      let db := saveAdminSession (recordAdminLoginSuccess db row.id now)
        (sessionOf deps row now input.token)
      if deps.mails = true ∧ deps.policy.requireMfa ≠ some false then (db, call.at (.issuing row))
      else (db, call.at .signedIn)
  | .issuing admin => (db, call.at (.sending admin (issueEmailOtp deps input.code input.salt)))
  | .sending admin issued =>
    if input.sent then (saveAdminOtp db admin.id (issued.stored input), call.at .signedIn)
    else (db, call.at .notSent)
  | .refused _ | .notSent | .signedIn => (db, call)

inductive AdminAuthFailure
  | sessionMissing
  | sessionUnknown
  | sessionRevoked
  | sessionIdleExpired
  | sessionLifetimeExpired
  | accountInactive
deriving DecidableEq, Repr

/-- Resolve a session token into an admin context. The account is read afresh on every request. -/
def authenticateAdmin (deps : ConsoleDeps) (db : ConsoleDb) (sessionToken : String)
    (now : Timestamp) :
    ConsoleDb × Except AdminAuthFailure (AdminSessionId × AdminAuthContext) :=
  if sessionToken = "" then (db, .error .sessionMissing)
  else
    let id := deps.tokenFingerprint sessionToken
    match findAdminSession db id with
    | none => (db, .error .sessionUnknown)
    | some session =>
      if session.status ≠ .active then (db, .error .sessionRevoked)
      else if session.absoluteExpiresAt ≤ now then
        (revokeAdminSession db id "LIFETIME_EXPIRED", .error .sessionLifetimeExpired)
      else if session.idleExpiresAt ≤ now then
        (revokeAdminSession db id "IDLE_EXPIRED", .error .sessionIdleExpired)
      else
        match adminById db session.adminUserId with
        | none => (db, .error .accountInactive)
        | some user =>
          if user.status ≠ .active then (db, .error .accountInactive)
          else
            (touchAdminSession db id now (now + AdminAuthPolicy.idleTimeoutMs),
              .ok (id, { user, mfaSatisfied := session.mfaSatisfied,
                         steppedUpAt := session.steppedUpAt }))

/-- What is typed into the form for a new administrator. -/
structure NewAdmin where
  email : String
  password : String
  role : Option AdminRole
deriving DecidableEq

/-- What a request with a session asks for. A page shows where the second factor stands; every
route besides those named is a permission the session has to be granted. -/
inductive ConsoleRoute
  | logout
  | enrolMfa
  | page
  | resendOtp
  | otp (candidate : String)
  | mfa (supplied : String)
  | stepUp (password : String)
  | createAdmin (form : NewAdmin)
  | resetMfa (target : AdminId)
  | screen (permission : AdminPermission)
deriving DecidableEq

inductive ConsoleAnswer
  | toSignIn (failure : AdminAuthFailure)
  | signedOut
  | toMfa
  | enrolled
  | shown
  | toOtp
  | codeRefused (refusal : OtpRefusal)
  | mfaRefused
  | accepted
  | steppedUp (proved : Bool)
  | denied (denial : AdminDenial)
  | granted (permission : AdminPermission)
  | adminCreated
  | adminRefused
  | notFound
  | mfaReset
deriving DecidableEq

inductive ConsolePoint
  | begin
  | admitted (session : AdminSessionId) (context : AdminAuthContext) (now : Timestamp)
  | verifying (session : AdminSessionId) (admin : AdminUser) (candidate : String)
      (otp : AdminOtp) (attempts : Nat) (now : Timestamp)
  | issuing (admin : AdminUser)
  | sending (admin : AdminUser) (issued : IssuedOtp)
  | proving (session : AdminSessionId) (password : String) (row : AdminUserRow)
  | creating (form : NewAdmin) (password : DerivedSecret)
  | answered (answer : ConsoleAnswer)
deriving DecidableEq

/-- A running request made with a session's cookie. -/
structure ConsoleRequest where
  sessionToken : String
  route : ConsoleRoute
  point : ConsolePoint

def ConsoleRequest.at (call : ConsoleRequest) (point : ConsolePoint) : ConsoleRequest :=
  { call with point }

def ConsoleRequest.answer (call : ConsoleRequest) (answer : ConsoleAnswer) : ConsoleRequest :=
  call.at (.answered answer)

/-- The second-factor gate, which every route passes but those that prove the second factor. -/
def gateShut (deps : ConsoleDeps) (context : AdminAuthContext) : Bool :=
  deps.policy.requireMfa ≠ some false ∧ context.mfaSatisfied = false

/-- Why a permission is refused to a request, if it is: the second factor, then the guard. -/
def refusedPermission (deps : ConsoleDeps) (context : AdminAuthContext)
    (permission : AdminPermission) (now : Timestamp) : Option ConsoleAnswer :=
  if gateShut deps context then some .toMfa
  else (requireAdmin context permission now deps.policy).map .denied

/-- What a route does as soon as its session is known; most read the body first. -/
def ConsoleRequest.admit (deps : ConsoleDeps) (input : ConsoleInput) (db : ConsoleDb)
    (call : ConsoleRequest) (session : AdminSessionId) (context : AdminAuthContext) :
    ConsoleDb × ConsoleRequest :=
  let now := input.now 1
  match call.route with
  | .logout => (revokeAdminSession db session "SIGNED_OUT", call.answer .signedOut)
  | .enrolMfa =>
    if context.user.mfaEnrolled then (db, call.answer .toMfa)
    else (setAdminMfaSecret db context.user.id input.totpSecret now, call.answer .enrolled)
  | .page => (db, call.answer .shown)
  | .resendOtp | .otp _ | .mfa _ => (db, call.at (.admitted session context now))
  | .stepUp _ =>
    if gateShut deps context then (db, call.answer .toMfa)
    else (db, call.at (.admitted session context now))
  | .createAdmin _ =>
    match refusedPermission deps context .manageAdmins now with
    | some refusal => (db, call.answer refusal)
    | none => (db, call.at (.admitted session context now))
  | .resetMfa target =>
    match refusedPermission deps context .manageAdmins now with
    | some refusal => (db, call.answer refusal)
    | none =>
      match findAdminUser db target with
      | none => (db, call.answer .notFound)
      | some _ =>
        (revokeAllAdminSessions (clearAdminMfaSecret db target) target "MFA_RESET",
          call.answer .mfaReset)
  | .screen permission =>
    match refusedPermission deps context permission now with
    | some refusal => (db, call.answer refusal)
    | none => (db, call.answer (.granted permission))

/-- What a route does once it has read the body. -/
def ConsoleRequest.read (deps : ConsoleDeps) (input : ConsoleInput) (db : ConsoleDb)
    (call : ConsoleRequest) (session : AdminSessionId) (context : AdminAuthContext)
    (now : Timestamp) : ConsoleDb × ConsoleRequest :=
  let admin := context.user
  match call.route with
  | .resendOtp =>
    if resendRefused (findAdminOtp db admin.id) now then (db, call.answer .toOtp)
    else if deps.mails = false then (db, call.answer .toOtp)
    else (db, call.at (.issuing admin))
  | .otp candidate =>
    match findAdminOtp db admin.id with
    | none => (db, call.answer (.codeRefused .codeExpired))
    | some (otp, attempts) =>
      (db, call.at (.verifying session admin candidate otp attempts (input.now 0)))
  | .mfa supplied =>
    match (findAdminUser db admin.id).bind (·.mfaSecret) with
    | none => (db, call.answer .mfaRefused)
    | some secret =>
      if secret ≠ "" ∧ verifyTotp deps secret supplied (input.now 0) = true then
        (markAdminMfaSatisfied db session (input.now 1), call.answer .accepted)
      else (db, call.answer .mfaRefused)
  | .stepUp password =>
    match findAdminUser db admin.id with
    | none => (db, call.answer (.steppedUp false))
    | some row => (db, call.at (.proving session password row))
  | .createAdmin form =>
    (db, call.at (.creating form (deriveSecret deps form.password input.salt)))
  | .logout | .enrolMfa | .page | .resetMfa _ | .screen _ => (db, call)

/-- Add the administrator a form asks for, pending until they are let in. -/
def createAdmin (deps : ConsoleDeps) (input : ConsoleInput) (db : ConsoleDb) (form : NewAdmin)
    (password : DerivedSecret) : Option ConsoleDb :=
  form.role.bind fun role =>
    saveAdminUser deps.toLowerCase db
      { id := input.newId, email := form.email, role, status := .pending, password }

/-- One atomic step of a request made with a session. It is suspended while its body is read, while
a secret is derived and while a code is sent. -/
def ConsoleRequest.step (deps : ConsoleDeps) (input : ConsoleInput) (db : ConsoleDb)
    (call : ConsoleRequest) : ConsoleDb × ConsoleRequest :=
  match call.point with
  | .begin =>
    match authenticateAdmin deps db call.sessionToken (input.now 0) with
    | (db, .error failure) => (db, call.answer (.toSignIn failure))
    | (db, .ok (session, context)) => call.admit deps input db session context
  | .admitted session context now => call.read deps input db session context now
  | .verifying session admin candidate otp attempts now =>
    match verifyEmailOtp deps candidate otp attempts now with
    | some .codeIncorrect =>
      (countAdminOtpAttempt db admin.id, call.answer (.codeRefused .codeIncorrect))
    | some refusal => (clearAdminOtp db admin.id, call.answer (.codeRefused refusal))
    | none =>
      (markAdminMfaSatisfied (clearAdminOtp db admin.id) session (input.now 0),
        call.answer .accepted)
  | .issuing admin => (db, call.at (.sending admin (issueEmailOtp deps input.code input.salt)))
  | .sending admin issued =>
    if input.sent then (saveAdminOtp db admin.id (issued.stored input), call.answer .toOtp)
    else (db, call.answer .toOtp)
  | .proving session password row =>
    if verifySecret deps password row.password then
      (markAdminSteppedUp db session (input.now 0), call.answer (.steppedUp true))
    else (db, call.answer (.steppedUp false))
  | .creating form password =>
    match createAdmin deps input db form password with
    | some db => (db, call.answer .adminCreated)
    | none => (db, call.answer .adminRefused)
  | .answered _ => (db, call)

/-- Whatever the console's server is running. -/
inductive ConsoleProcess
  | signIn (call : SignIn)
  | request (call : ConsoleRequest)

def ConsoleProcess.step (deps : ConsoleDeps) (input : ConsoleInput) (db : ConsoleDb) :
    ConsoleProcess → ConsoleDb × ConsoleProcess
  | .signIn call => (call.step deps input db).map id .signIn
  | .request call => (call.step deps input db).map id .request

/-- The process has just come in. -/
def ConsoleProcess.Starting : ConsoleProcess → Prop
  | .signIn call => call.point = .begin
  | .request call => call.point = .begin

def ConsoleProcess.finished : ConsoleProcess → Prop
  | .signIn call => (call.point matches .refused _ | .notSent | .signedIn) = true
  | .request call => (call.point matches .answered _) = true

instance (process : ConsoleProcess) : Decidable process.Starting := by
  cases process <;> exact inferInstanceAs (Decidable (_ = _))

instance (process : ConsoleProcess) : Decidable process.finished := by
  cases process <;> exact inferInstanceAs (Decidable (_ = _))

/-- The console's server. -/
def consoleServer (deps : ConsoleDeps) : Machine ConsoleDb ConsoleInput ConsoleProcess where
  advance input db process := process.step deps input db
  finished := ConsoleProcess.finished

end Telga.Application
