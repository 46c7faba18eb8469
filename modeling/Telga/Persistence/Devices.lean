import Telga.Persistence.Logins

namespace Telga.Persistence
open Domain Library

structure DeviceEnrollmentInput where
  deviceId : DeviceId
  merchantId : MerchantId
  state : DeviceEnrollmentState
  displayName : Option String
  secretHash : String
  secretSalt : String
  expiresAt : Option Timestamp
  now : Timestamp

/-- What an enrolment that is saved makes of the row of its device. -/
def DeviceEnrollmentInput.apply (input : DeviceEnrollmentInput) (row : LoginDeviceRow) :
    LoginDeviceRow :=
  { row with
    merchantId := input.merchantId, state := input.state, displayName := input.displayName
    secretHash := input.secretHash, secretSalt := input.secretSalt, expiresAt := input.expiresAt
    updatedAt := input.now }

/-- The row of a device that is enrolled for the first time. -/
def DeviceEnrollmentInput.row (input : DeviceEnrollmentInput) : LoginDeviceRow :=
  { deviceId := input.deviceId, merchantId := input.merchantId, state := input.state
    displayName := input.displayName, secretHash := input.secretHash
    secretSalt := input.secretSalt, expiresAt := input.expiresAt, updatedAt := input.now }

namespace LoginDb

/-- Insert an enrolment, or overwrite the one its device has, whatever state that is in. -/
def saveDeviceEnrollment (db : LoginDb) (input : DeviceEnrollmentInput) :
    Except Fault LoginDb := do
  demand (Present (·.id) input.deviceId db.devices) .constraint
  demand (Present (·.id) input.merchantId db.merchants) .constraint
  if Present (·.deviceId) input.deviceId db.deviceEnrollments then
    return { db with
      deviceEnrollments :=
        update (fun row => row.deviceId = input.deviceId) input.apply db.deviceEnrollments }
  else
    return { db with deviceEnrollments := db.deviceEnrollments ++ [input.row] }

/-- Put the derivation of an activation code into a device's enrolment. -/
def saveEnrollmentToken (db : LoginDb) (deviceId : DeviceId) (derived : StoredSecret)
    (expiresAt now : Timestamp) : LoginDb :=
  { db with
    deviceEnrollments := update (fun row => row.deviceId = deviceId)
      (fun row => { row with
        secretHash := derived.hash, secretSalt := derived.salt, state := .pending
        expiresAt := some expiresAt, updatedAt := now }) db.deviceEnrollments }

def revoked (reason : String) (now : Timestamp) (row : LoginSessionRow) : LoginSessionRow :=
  { row with status := .revoked, revokedAt := some now, revocationReason := some reason }

def sessionsOfDevice (deviceId : DeviceId) (row : LoginSessionRow) : Bool :=
  row.deviceId = deviceId ∧ row.status = .active

def revokeSessionsForDevice (db : LoginDb) (deviceId : DeviceId) (reason : String)
    (now : Timestamp) : LoginDb × Nat :=
  ({ db with sessions := update (sessionsOfDevice deviceId) (revoked reason now) db.sessions },
    changes (sessionsOfDevice deviceId) db.sessions)

def unrevoked (deviceId : DeviceId) (row : LoginDeviceRow) : Bool :=
  row.deviceId = deviceId ∧ row.state ≠ .revoked

/-- Revoke a device, and whatever sessions it was carrying. -/
def revokeDevice (db : LoginDb) (deviceId : DeviceId) (reason : String) (now : Timestamp) :
    LoginDb × Bool × Nat :=
  let (revoking, sessionsRevoked) :=
    revokeSessionsForDevice
      { db with
        deviceEnrollments := update (unrevoked deviceId)
          (fun row => { row with state := .revoked, updatedAt := now }) db.deviceEnrollments }
      deviceId reason now
  (revoking, decide (changes (unrevoked deviceId) db.deviceEnrollments = 1), sessionsRevoked)

def findSession (db : LoginDb) (id : String) : Option LoginSessionRow :=
  db.sessions.find? fun row => row.id = id

/-- Slide a live session's idle window. Its absolute expiry is never extended. -/
def touchSession (db : LoginDb) (id : String) (now idleExpiresAt : Timestamp) : LoginDb :=
  { db with
    sessions := update (fun row => row.id = id ∧ row.status = .active)
      (fun row => { row with lastSeenAt := now, idleExpiresAt }) db.sessions }

/-- Revoke a session that is active. Whether it was tells whether a row was written. -/
def revokeSession (db : LoginDb) (id reason : String) (now : Timestamp) : LoginDb × Bool :=
  ({ db with
      sessions := update (fun row => row.id = id ∧ row.status = .active) (revoked reason now)
        db.sessions },
    decide (changes (fun row => row.id = id ∧ row.status = .active) db.sessions = 1))

/-- Record why a session was refused, whatever its status. -/
def noteSessionRejection (db : LoginDb) (id reason : String) (now : Timestamp) : LoginDb :=
  { db with
    sessions := update (fun row => row.id = id ∧ row.revocationReason ≠ some reason)
      (fun row => { row with
        status := .revoked, revokedAt := row.revokedAt.or (some now)
        revocationReason := some reason }) db.sessions }

def updateMerchantUserPin (db : LoginDb) (id : MerchantUserId) (merchantId : MerchantId)
    (pin : StoredSecret) : LoginDb :=
  { db with
    merchantUsers := update (fun user => user.id = id ∧ user.merchantId = merchantId)
      (fun user => { user with pin }) db.merchantUsers }

/-- Take a device of a shop out of service. Neither its enrolment nor its sessions are looked at. -/
def retireDevice (db : LoginDb) (id : DeviceId) (merchantId : MerchantId) : LoginDb :=
  { db with
    devices := update (fun device => device.id = id ∧ device.merchantId = merchantId)
      (fun device => { device with status := .stopped }) db.devices }

def unsuspended (id : MerchantUserId) (user : LoginUserRow) : Bool :=
  user.id = id ∧ user.active = true

/-- Suspend an operator who is not suspended, and end the sessions the operator is holding. -/
def suspendOperator (db : LoginDb) (id : MerchantUserId) (now : Timestamp) : LoginDb :=
  if changes (unsuspended id) db.merchantUsers = 0 then db
  else
    { db with
      merchantUsers := update (unsuspended id) (fun user => { user with active := false })
        db.merchantUsers
      sessions := update (fun row => row.userId = id ∧ row.status = .active)
        (revoked "OPERATOR_SUSPENDED" now) db.sessions }

def suspendMerchant (db : LoginDb) (id : MerchantId) : LoginDb :=
  { db with
    merchants := update (fun merchant => merchant.id = id ∧ merchant.status ≠ .suspended)
      (fun merchant => { merchant with status := .suspended }) db.merchants }

end LoginDb

end Telga.Persistence
