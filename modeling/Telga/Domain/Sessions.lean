import Telga.Domain.Ids

namespace Telga.Domain

inductive SessionStatus
  | active
  | revoked
deriving DecidableEq, Repr

inductive DeviceEnrollmentState
  | pending
  | enrolled
  | revoked
  | expired
deriving DecidableEq, Repr

/-- Why a request that needs a session is refused. -/
inductive AuthFailureCode
  | sessionMissing
  | sessionUnknown
  | sessionRevoked
  | sessionIdleExpired
  | sessionLifetimeExpired
  | deviceNotEnrolled
  | deviceRevoked
  | deviceEnrollmentExpired
  | deviceNotAssignedToMerchant
  | userNotFound
  | userSuspended
  | merchantNotActive
  | userLockedOut
deriving DecidableEq, Repr

/-- The code as it is stored and shown. -/
def AuthFailureCode.text : AuthFailureCode → String
  | .sessionMissing => "SESSION_MISSING"
  | .sessionUnknown => "SESSION_UNKNOWN"
  | .sessionRevoked => "SESSION_REVOKED"
  | .sessionIdleExpired => "SESSION_IDLE_EXPIRED"
  | .sessionLifetimeExpired => "SESSION_LIFETIME_EXPIRED"
  | .deviceNotEnrolled => "DEVICE_NOT_ENROLLED"
  | .deviceRevoked => "DEVICE_REVOKED"
  | .deviceEnrollmentExpired => "DEVICE_ENROLLMENT_EXPIRED"
  | .deviceNotAssignedToMerchant => "DEVICE_NOT_ASSIGNED_TO_MERCHANT"
  | .userNotFound => "USER_NOT_FOUND"
  | .userSuspended => "USER_SUSPENDED"
  | .merchantNotActive => "MERCHANT_NOT_ACTIVE"
  | .userLockedOut => "USER_LOCKED_OUT"

/-- Whether signing in again may help. -/
def AuthFailureCode.reauthenticate : AuthFailureCode → Bool
  | .sessionMissing | .sessionUnknown | .sessionRevoked | .sessionIdleExpired
  | .sessionLifetimeExpired => true
  | _ => false

structure SessionFacts where
  userId : MerchantUserId
  merchantId : MerchantId
  deviceId : DeviceId
  status : SessionStatus
  idleExpiresAt : Timestamp
  absoluteExpiresAt : Timestamp
deriving DecidableEq

/-- Why a session may not be used now, if it may not. -/
def sessionRejection (session : Option SessionFacts) (now : Timestamp) : Option AuthFailureCode :=
  match session with
  | none => some .sessionUnknown
  | some session =>
    if session.status = .revoked then some .sessionRevoked
    else if session.absoluteExpiresAt ≤ now then some .sessionLifetimeExpired
    else if session.idleExpiresAt ≤ now then some .sessionIdleExpired
    else none

structure DeviceEnrollment where
  deviceId : DeviceId
  merchantId : MerchantId
  state : DeviceEnrollmentState
  expiresAt : Option Timestamp
deriving DecidableEq

/-- Why an enrolment may not carry a session of a shop now, if it may not. -/
def deviceRejection (enrollment : Option DeviceEnrollment) (merchantId : MerchantId)
    (now : Timestamp) : Option AuthFailureCode :=
  match enrollment with
  | none => some .deviceNotEnrolled
  | some enrollment =>
    if enrollment.state = .revoked then some .deviceRevoked
    else if enrollment.state = .expired then some .deviceEnrollmentExpired
    else if enrollment.state ≠ .enrolled then some .deviceNotEnrolled
    else if ∃ expiry ∈ enrollment.expiresAt, expiry ≤ now then some .deviceEnrollmentExpired
    else if enrollment.merchantId ≠ merchantId then some .deviceNotAssignedToMerchant
    else none

def isLockedOut (lockedUntil : Option Timestamp) (now : Timestamp) : Bool :=
  ∃ held ∈ lockedUntil, now < held

def defaultLockSeconds : Int := 60

/-- Seconds until a screen locks, as stored. What `Number` reads is the runtime's own. -/
def lockSecondsFrom (toSafeInteger : String → Option Int) (stored : Option String) : Int :=
  match stored.bind toSafeInteger with
  | none => defaultLockSeconds
  | some parsed => if parsed < 15 ∨ 3600 < parsed then defaultLockSeconds else parsed

end Telga.Domain
