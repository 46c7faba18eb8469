import Telga.Persistence.PendingOrders
import Telga.Persistence.Sessions

namespace Telga.Persistence
open Domain Library

/-- An operator's row, with what signing in goes by. -/
structure LoginUserRow extends OperatorRow where
  role : ActorRole
  pin : StoredSecret
  failedAttempts : Nat := 0
  lastLoginAt : Option Timestamp := none
deriving DecidableEq

/-- An enrolment, with the derivation of its device's secret. -/
structure LoginDeviceRow extends DeviceEnrollmentRow where
  secretHash : String
  secretSalt : String
  displayName : Option String := none
deriving DecidableEq

structure LoginSessionRow extends TillSessionRow where
  role : ActorRole
  csrfHash : String
  createdAt : Timestamp
deriving DecidableEq

/-- The same database as signing in sees it. -/
structure LoginDb where
  merchants : List MerchantRow
  devices : List DeviceRow
  merchantUsers : List LoginUserRow
  deviceEnrollments : List LoginDeviceRow
  sessions : List LoginSessionRow
  authAttempts : List AuthAttemptRow

namespace LoginDb

def findMerchant (db : LoginDb) (id : MerchantId) : Option MerchantRow :=
  db.merchants.find? fun merchant => merchant.id = id

def findDevice (db : LoginDb) (id : DeviceId) (merchantId : MerchantId) : Option DeviceRow :=
  db.devices.find? fun device => device.id = id ∧ device.merchantId = merchantId

def findMerchantUser (db : LoginDb) (id : MerchantUserId) : Option LoginUserRow :=
  db.merchantUsers.find? fun user => user.id = id

def findDeviceEnrollment (db : LoginDb) (deviceId : DeviceId) : Option LoginDeviceRow :=
  db.deviceEnrollments.find? fun row => row.deviceId = deviceId

def recordAttempt (db : LoginDb) (scope : AttemptScope) (subject : String)
    (outcome : AttemptOutcome) (now : Timestamp) : LoginDb :=
  { db with authAttempts := db.authAttempts ++ [⟨scope, subject, outcome, now⟩] }

def countAttemptsSince (db : LoginDb) (scope : AttemptScope) (subject : String)
    (since : Timestamp) : Nat :=
  (db.authAttempts.filter fun row =>
    row.scope = scope ∧ row.subject = subject ∧ since < row.createdAt).length

def countFailuresSince (db : LoginDb) (scope : AttemptScope) (subject : String)
    (since : Timestamp) : Nat :=
  (db.authAttempts.filter fun row =>
    row.scope = scope ∧ row.subject = subject ∧ row.outcome = .failure ∧
      since < row.createdAt).length

/-- Count a failed sign-in, and lock the account when the threshold is reached. -/
def recordFailedLogin (db : LoginDb) (id : MerchantUserId) (maxFailedAttempts : Nat)
    (lockedUntil : Timestamp) : LoginDb :=
  { db with
    merchantUsers := update (fun user => user.id = id)
      (fun user => { user with
        failedAttempts := user.failedAttempts + 1
        lockedUntil :=
          if maxFailedAttempts ≤ user.failedAttempts + 1 then some lockedUntil
          else user.lockedUntil }) db.merchantUsers }

/-- Clear the failure counter and the lock. Called only after a correct PIN. -/
def recordSuccessfulLogin (db : LoginDb) (id : MerchantUserId) (now : Timestamp) : LoginDb :=
  { db with
    merchantUsers := update (fun user => user.id = id)
      (fun user => { user with
        failedAttempts := 0, lockedUntil := none, lastLoginAt := some now }) db.merchantUsers }

/-- Insert a session, under the table's key and references. -/
def createSession (db : LoginDb) (row : LoginSessionRow) : Except Fault LoginDb := do
  demand (¬ Present (·.id) row.id db.sessions) .constraint
  demand (Present (·.id) row.userId db.merchantUsers) .constraint
  demand (Present (·.id) row.merchantId db.merchants) .constraint
  demand (Present (·.id) row.deviceId db.devices) .constraint
  return { db with sessions := db.sessions ++ [row] }

def touchDevice (db : LoginDb) (deviceId : DeviceId) (now : Timestamp) : LoginDb :=
  { db with
    deviceEnrollments := update (fun row => row.deviceId = deviceId)
      (fun row => { row with lastSeenAt := some now, updatedAt := now }) db.deviceEnrollments }

theorem createSession_ok {db db' : LoginDb} (h : db.createSession row = .ok db') :
    db' = { db with sessions := db.sessions ++ [row] } := by
  simp only [createSession, bind_ok, demand_ok, pure_ok] at h
  obtain ⟨_, _, _, _, _, _, _, _, rfl⟩ := h
  rfl

end LoginDb

end Telga.Persistence
