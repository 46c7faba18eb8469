import Telga.Application.ChapaWebhook
import Telga.Application.Logins
import Telga.Persistence.Devices

namespace Telga.Application
open Domain Persistence Library

/-- What the till is given besides signing in. How a secret is derived with a salt, and how a text
is put in upper case, is the runtime's own. -/
structure DeviceDeps extends LoginDeps where
  deriveSecret : String → String → StoredSecret
  toUpperCase : String → String

/-- What one atomic step meets, with the secret, the code and the salt it may draw. -/
structure DeviceInput extends LoginInput where
  deviceSecret : String
  code : String
  salt : String

def enrollmentTokenTtlMs : Int := 60 * 60 * 1000

/-- Strip the cosmetic grouping and case, so that a typed code compares equal. -/
def normalizeEnrollmentToken (deps : DeviceDeps) (token : String) : String :=
  deps.toUpperCase (String.ofList (token.toList.filter fun c => ¬ (isWhitespace c ∨ c = '-')))

structure EnrolInput where
  deviceId : DeviceId
  merchantId : MerchantId
  displayName : Option String := none
  expiresAt : Option Timestamp := none
deriving DecidableEq

/-- A device being enrolled: the secret drawn for it is being derived. -/
structure Enrolling where
  input : EnrolInput
  secret : String
  derived : StoredSecret
deriving DecidableEq

def enrolDevice (deps : DeviceDeps) (drawn : DeviceInput) (input : EnrolInput) : Enrolling :=
  { input, secret := drawn.deviceSecret
    derived := deps.deriveSecret drawn.deviceSecret drawn.salt }

/-- The rest of an enrolment, once the secret is derived. Whatever holds the old secret stops
working. -/
def Enrolling.finish (call : Enrolling) (db : LoginDb) (now : Timestamp) :
    Except Fault LoginDb := do
  let db ← db.saveDeviceEnrollment
    { deviceId := call.input.deviceId, merchantId := call.input.merchantId, state := .enrolled
      displayName := call.input.displayName, secretHash := call.derived.hash
      secretSalt := call.derived.salt, expiresAt := call.input.expiresAt, now }
  return (db.revokeSessionsForDevice call.input.deviceId "DEVICE_REENROLLED" now).1

inductive EnrolPoint
  | begin (input : EnrolInput)
  | enrolling (call : Enrolling)
  | enrolled (deviceId : DeviceId) (secret : String)
  | threw (fault : Fault)
deriving DecidableEq

def EnrolPoint.step (deps : DeviceDeps) (input : DeviceInput) (db : LoginDb) :
    EnrolPoint → LoginDb × EnrolPoint
  | .begin enrol => (db, .enrolling (enrolDevice deps input enrol))
  | .enrolling call =>
    match call.finish db input.now with
    | .ok db => (db, .enrolled call.input.deviceId call.secret)
    | .error fault => (db, .threw fault)
  | .enrolled deviceId secret => (db, .enrolled deviceId secret)
  | .threw fault => (db, .threw fault)

inductive RedemptionRefusal
  | activationRefused
  | activationExpired
  | activationNotPending
deriving DecidableEq, Repr

structure RedemptionRequest where
  deviceId : DeviceId
  token : String
deriving DecidableEq

inductive RedemptionPoint
  | begin
  | verifying (row : LoginDeviceRow)
  | enrolling (row : LoginDeviceRow) (call : Enrolling)
  | activated (deviceId : DeviceId) (secret : String)
  | refused (reason : RedemptionRefusal)
  | threw (fault : Fault)
deriving DecidableEq

/-- A running call of `redeemEnrollmentToken`. -/
structure Redemption where
  request : RedemptionRequest
  point : RedemptionPoint
deriving DecidableEq

def Redemption.at (call : Redemption) (point : RedemptionPoint) : Redemption :=
  { call with point }

/-- What the row of a device says about a code before the code itself is looked at. -/
def redemptionRefusal (row : LoginDeviceRow) (now : Timestamp) : Option RedemptionRefusal :=
  if row.state ≠ .pending then some .activationNotPending
  else if ∃ expiry ∈ row.expiresAt, expiry ≤ now then some .activationExpired
  else none

/-- One atomic step of `redeemEnrollmentToken`, which waits for two derivations: the code's, then
the new secret's. The row is not looked at again after the first. -/
def Redemption.step (deps : DeviceDeps) (input : DeviceInput) (db : LoginDb) (call : Redemption) :
    LoginDb × Redemption :=
  match call.point with
  | .begin =>
    match db.findDeviceEnrollment call.request.deviceId with
    | none => (db, call.at (.refused .activationRefused))
    | some row =>
      match redemptionRefusal row input.now with
      | some reason => (db, call.at (.refused reason))
      | none => (db, call.at (.verifying row))
  | .verifying row =>
    if deps.verifySecret (normalizeEnrollmentToken deps call.request.token)
        (deviceSecretOf row) then
      (db, call.at (.enrolling row (enrolDevice deps input
        { deviceId := call.request.deviceId, merchantId := row.merchantId
          displayName := row.displayName })))
    else (db, call.at (.refused .activationRefused))
  | .enrolling row enrolling =>
    match enrolling.finish db input.now with
    | .ok db => (db, call.at (.activated enrolling.input.deviceId enrolling.secret))
    | .error fault => (db, call.at (.threw fault))
  | .activated _ _ => (db, call)
  | .refused _ => (db, call)
  | .threw _ => (db, call)

inductive TokenIssuePoint
  | begin
  | writing (code : String) (derived : StoredSecret) (expiresAt : Timestamp)
  | issued (code : String) (expiresAt : Timestamp)
deriving DecidableEq

/-- The console's route that issues an activation code, once it has passed the guard. -/
structure TokenIssue where
  deviceId : DeviceId
  point : TokenIssuePoint
deriving DecidableEq

def TokenIssue.step (deps : DeviceDeps) (input : DeviceInput) (db : LoginDb) (call : TokenIssue) :
    LoginDb × TokenIssue :=
  match call.point with
  | .begin =>
    (db, { call with
      point := .writing input.code
        (deps.deriveSecret (normalizeEnrollmentToken deps input.code) input.salt)
        (input.now + enrollmentTokenTtlMs) })
  | .writing code derived expiresAt =>
    (db.saveEnrollmentToken call.deviceId derived expiresAt input.now,
      { call with point := .issued code expiresAt })
  | .issued _ _ => (db, call)

namespace Devices

/-- A session that may not be used: one that ran out is revoked. -/
def rejectSession (db : LoginDb) (session : LoginSessionRow) (rejected : AuthFailureCode)
    (now : Timestamp) : LoginDb × AuthResult :=
  if (rejected = .sessionIdleExpired ∨ rejected = .sessionLifetimeExpired) ∧
      session.status = .active then
    ((db.revokeSession session.id rejected.text now).1, .refused rejected)
  else (db, .refused rejected)

/-- A live session on an enrolled device: is its operator, is its shop still allowed? A request that
is only a poll renews nothing. -/
def admitSession (deps : DeviceDeps) (db : LoginDb) (session : LoginSessionRow) (extendIdle : Bool)
    (now : Timestamp) : LoginDb × AuthResult :=
  match db.findMerchantUser session.userId with
  | none => (db, .refused .userNotFound)
  | some user =>
    if user.active = false then (db, .refused .userSuspended)
    else if isLockedOut user.lockedUntil now then (db, .refused .userLockedOut)
    else if (db.findMerchant session.merchantId).map (·.status) ≠ some .active then
      ((db.revokeSession session.id AuthFailureCode.merchantNotActive.text now).1,
        .refused .merchantNotActive)
    else if user.merchantId ≠ session.merchantId then
      ((db.revokeSession session.id "USER_MERCHANT_CHANGED" now).1, .refused .sessionRevoked)
    else
      (if extendIdle then
          (db.touchSession session.id now (now + deps.session.idleTimeoutMs)).touchDevice
            session.deviceId now
        else db,
        .admitted ⟨session.id, user.id, user.merchantId, session.deviceId⟩)

/-- Whose session is this? The enrolment of its device is judged before the session itself, and the
device's own row not at all. -/
def authenticate (deps : DeviceDeps) (db : LoginDb) (token : Option String) (extendIdle : Bool)
    (now : Timestamp) : LoginDb × AuthResult :=
  match token with
  | none => (db, .refused .sessionMissing)
  | some token =>
    if textLength token = 0 then (db, .refused .sessionMissing)
    else
      match db.findSession (deps.tokenFingerprint token) with
      | none => (db, .refused .sessionUnknown)
      | some session =>
        match deviceRejection
          ((db.findDeviceEnrollment session.deviceId).map (·.toDeviceEnrollment))
          session.merchantId now with
        | some problem =>
          (db.noteSessionRejection session.id problem.text now, .refused problem)
        | none =>
          match sessionRejection (some session.toSessionFacts) now with
          | some rejected => rejectSession db session rejected now
          | none => admitSession deps db session extendIdle now

end Devices

/-- What is done in a single step: a request authenticated, a session left, a device revoked or
retired, an operator or a shop suspended, a PIN replaced. -/
inductive DeviceAct
  | authenticate (token : Option String) (extendIdle : Bool)
  | logout (sessionId : String)
  | revokeDevice (deviceId : DeviceId) (reason : String)
  | retireDevice (deviceId : DeviceId) (merchantId : MerchantId)
  | suspendOperator (id : MerchantUserId)
  | suspendMerchant (id : MerchantId)
  | replacePin (id : MerchantUserId) (merchantId : MerchantId) (pin : StoredSecret)
deriving DecidableEq

/-- What an act answers, where it is a request that is authenticated. -/
def DeviceAct.run (deps : DeviceDeps) (db : LoginDb) (now : Timestamp) :
    DeviceAct → LoginDb × Option AuthResult
  | .authenticate token extendIdle =>
    let (db, result) := Devices.authenticate deps db token extendIdle now
    (db, some result)
  | .logout sessionId => ((db.revokeSession sessionId "LOGOUT" now).1, none)
  | .revokeDevice deviceId reason => ((db.revokeDevice deviceId reason now).1, none)
  | .retireDevice deviceId merchantId => (db.retireDevice deviceId merchantId, none)
  | .suspendOperator id => (db.suspendOperator id now, none)
  | .suspendMerchant id => (db.suspendMerchant id, none)
  | .replacePin id merchantId pin => (db.updateMerchantUserPin id merchantId pin, none)

/-- What runs on the database: sign-ins, redemptions, codes being issued, devices being enrolled,
and the acts that take a single step, each done once. -/
inductive DeviceProcess
  | login (call : Login)
  | redeem (call : Redemption)
  | issue (call : TokenIssue)
  | enrol (point : EnrolPoint)
  | once (act : DeviceAct)
  | done (answer : Option AuthResult)
deriving DecidableEq

def DeviceProcess.step (deps : DeviceDeps) (input : DeviceInput) (db : LoginDb) :
    DeviceProcess → LoginDb × DeviceProcess
  | .login call => (call.step deps.toLoginDeps input.toLoginInput db).map id .login
  | .redeem call => (call.step deps input db).map id .redeem
  | .issue call => (call.step deps input db).map id .issue
  | .enrol point => (point.step deps input db).map id .enrol
  | .once act => (act.run deps db input.now).map id .done
  | .done answer => (db, .done answer)

/-- A process starts at its beginning. -/
def DeviceProcess.Starting : DeviceProcess → Prop
  | .login call => call.point = .begin
  | .redeem call => call.point = .begin
  | .issue call => call.point = .begin
  | .enrol (.begin _) => True
  | .enrol _ => False
  | .once _ => True
  | .done _ => False

instance DeviceProcess.decidableStarting (process : DeviceProcess) :
    Decidable process.Starting :=
  match process with
  | .login call => inferInstanceAs (Decidable (call.point = .begin))
  | .redeem call => inferInstanceAs (Decidable (call.point = .begin))
  | .issue call => inferInstanceAs (Decidable (call.point = .begin))
  | .enrol (.begin _) => isTrue trivial
  | .enrol (.enrolling _) => isFalse id
  | .enrol (.enrolled _ _) => isFalse id
  | .enrol (.threw _) => isFalse id
  | .once _ => isTrue trivial
  | .done _ => isFalse id

/-- A process that has answered or thrown. -/
def DeviceProcess.finished : DeviceProcess → Bool
  | .login call => call.finished
  | .redeem call => (call.point matches .activated _ _ | .refused _ | .threw _)
  | .issue call => (call.point matches .issued _ _)
  | .enrol point => (point matches .enrolled _ _ | .threw _)
  | .once _ => false
  | .done _ => true

/-- Everything at work on the database that sessions, devices and operators are kept in. -/
def deviceServer (deps : DeviceDeps) : Machine LoginDb DeviceInput DeviceProcess where
  advance := DeviceProcess.step deps
  finished process := process.finished = true

end Telga.Application
