import Telga.Application.VoucherOrders
import Telga.Library.Pool
import Telga.Persistence.Logins

namespace Telga.Application
open Domain Persistence Library

/-- Four wrong PINs, then a five-minute hold. -/
def trainingLockoutPolicy : LockoutPolicy :=
  { maxFailedAttempts := 4, lockoutMs := 5 * 60000, maxAttemptsPerWindow := 10,
    rateWindowMs := 60000 }

theorem trainingLockout_lasts : 0 ≤ trainingLockoutPolicy.lockoutMs := by decide

structure SessionPolicy where
  idleTimeoutMs : Int
  absoluteLifetimeMs : Int

/-- What signing in is given besides the database. A lockout lasts. -/
structure LoginDeps where
  verifySecret : String → StoredSecret → Bool
  tokenFingerprint : String → String
  lockout : LockoutPolicy
  session : SessionPolicy
  lasting : 0 ≤ lockout.lockoutMs

/-- What one atomic step of a sign-in meets: the time, and the tokens it may draw. -/
structure LoginInput where
  now : Timestamp
  sessionToken : String
  csrfToken : String

structure LoginRequest where
  userId : MerchantUserId
  pin : String
  deviceId : DeviceId
  deviceSecret : String
deriving DecidableEq

inductive LoginFailure
  | rateLimited
  | invalidCredentials
  | rejected (code : AuthFailureCode)
deriving DecidableEq, Repr

inductive LoginPoint
  | begin
  | device (user : LoginUserRow) (enrollment : LoginDeviceRow) (now : Timestamp)
  | pin (user : LoginUserRow) (now : Timestamp)
  | failed (failure : LoginFailure)
  | signedIn (session : LoginSessionRow)
  | threw (fault : Fault)
deriving DecidableEq

/-- A running call of `login`. -/
structure Login where
  request : LoginRequest
  point : LoginPoint
deriving DecidableEq

def Login.at (call : Login) (point : LoginPoint) : Login :=
  { call with point }

/-- The parameters every device secret is derived with. -/
def deviceSecretParams : String := "scrypt$N=16384,r=8,p=1,len=64"

/-- The derivation of a device's secret. -/
def deviceSecretOf (row : LoginDeviceRow) : StoredSecret :=
  ⟨row.secretHash, row.secretSalt, deviceSecretParams⟩

/-- The checks of a sign-in that comes after the rate limit, the operator's and the shop's before
the device's. -/
def Login.check (call : Login) (db : LoginDb) (now : Timestamp) : LoginPoint :=
  match db.findMerchantUser call.request.userId with
  | none => .failed .invalidCredentials
  | some user =>
    if user.active = false then .failed (.rejected .userSuspended)
    else if isLockedOut user.lockedUntil now then .failed (.rejected .userLockedOut)
    else if (db.findMerchant user.merchantId).all fun merchant => merchant.status ≠ .active then
      .failed (.rejected .merchantNotActive)
    else
      let enrollment := db.findDeviceEnrollment call.request.deviceId
      match deviceRejection (enrollment.map fun row => row.toDeviceEnrollment) user.merchantId
          now, enrollment with
      | some code, _ => .failed (.rejected code)
      | none, none => .failed (.rejected .deviceNotEnrolled)
      | none, some enrollment =>
        if (db.findDevice call.request.deviceId user.merchantId).all fun device =>
            device.status ≠ .active then .failed (.rejected .deviceRevoked)
        else .device user enrollment now

/-- The session a sign-in opens. -/
def Login.sessionOf (call : Login) (deps : LoginDeps) (input : LoginInput) (user : LoginUserRow)
    (now : Timestamp) : LoginSessionRow :=
  { id := deps.tokenFingerprint input.sessionToken, userId := call.request.userId,
    merchantId := user.merchantId, deviceId := call.request.deviceId, role := user.role,
    csrfHash := deps.tokenFingerprint input.csrfToken, status := .active, createdAt := now,
    lastSeenAt := now, idleExpiresAt := now + deps.session.idleTimeoutMs,
    absoluteExpiresAt := now + deps.session.absoluteLifetimeMs }

/-- One atomic step of `login`, which waits for two derivations: the device's secret, then the
PIN. Every attempt within the rate is counted as a failure before anything else. -/
def Login.step (deps : LoginDeps) (input : LoginInput) (db : LoginDb) (call : Login) :
    LoginDb × Login :=
  let userId := call.request.userId
  match call.point with
  | .begin =>
    let now := input.now
    if deps.lockout.maxAttemptsPerWindow ≤
        db.countAttemptsSince .login userId (now - deps.lockout.rateWindowMs) then
      (db, call.at (.failed .rateLimited))
    else
      let db := db.recordAttempt .login userId .failure now
      (db, call.at (call.check db now))
  | .device user enrollment now =>
    if deps.verifySecret call.request.deviceSecret (deviceSecretOf enrollment) then
      (db, call.at (.pin user now))
    else (db, call.at (.failed .invalidCredentials))
  | .pin user now =>
    if deps.verifySecret call.request.pin user.pin then
      match db.createSession (call.sessionOf deps input user now) with
      | .error fault => (db, call.at (.threw fault))
      | .ok db =>
        let db := db.recordSuccessfulLogin userId now
        let db := db.recordAttempt .login userId .success now
        (db.touchDevice call.request.deviceId now,
          call.at (.signedIn (call.sessionOf deps input user now)))
    else
      (db.recordFailedLogin userId deps.lockout.maxFailedAttempts (now + deps.lockout.lockoutMs),
        call.at (.failed .invalidCredentials))
  | .failed _ => (db, call)
  | .signedIn _ => (db, call)
  | .threw _ => (db, call)

/-- A sign-in that has answered or thrown. -/
def Login.finished (call : Login) : Bool :=
  match call.point with
  | .failed _ | .signedIn _ | .threw _ => true
  | _ => false

/-- The sign-ins at work on one database. -/
def loginServer (deps : LoginDeps) : Machine LoginDb LoginInput Login where
  advance := Login.step deps
  finished call := call.finished = true

end Telga.Application
