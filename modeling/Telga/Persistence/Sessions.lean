import Telga.Domain.Sessions
import Telga.Persistence.TopupOrders

namespace Telga.Persistence
open Domain Library

structure TillSessionRow extends SessionFacts where
  id : String
  lastSeenAt : Timestamp
  revokedAt : Option Timestamp := none
  revocationReason : Option String := none
deriving DecidableEq

structure DeviceEnrollmentRow extends DeviceEnrollment where
  lastSeenAt : Option Timestamp := none
  updatedAt : Timestamp
deriving DecidableEq

structure OperatorRow where
  id : MerchantUserId
  merchantId : MerchantId
  active : Bool
  lockedUntil : Option Timestamp
deriving DecidableEq

structure SettingRow where
  merchantId : MerchantId
  key : String
  value : String
deriving DecidableEq

inductive AuthAction
  | deviceRejected
  | authSessionExpired
deriving DecidableEq, Repr

/-- What is recorded of a session that was refused. -/
structure AuthAuditRow where
  id : AuditEventId
  occurredAt : Timestamp
  action : AuthAction
  userId : MerchantUserId
  merchantId : MerchantId
  deviceId : DeviceId
  correlationId : CorrelationId
  detail : String
deriving DecidableEq

/-- The same database as the point of sale sees it: the deposits, the sessions of its operators with
what they are judged on, and, in the server's memory, when each session last proved its PIN. -/
structure TillDb extends DepositDb where
  sessions : List TillSessionRow
  deviceEnrollments : List DeviceEnrollmentRow
  operators : List OperatorRow
  settings : List SettingRow
  authAudits : List AuthAuditRow
  unlockedAt : List (String × Timestamp)

def findSession (db : TillDb) (id : String) : Option TillSessionRow :=
  db.sessions.find? fun row => row.id = id

def findDeviceEnrollment (db : TillDb) (deviceId : DeviceId) : Option DeviceEnrollmentRow :=
  db.deviceEnrollments.find? fun row => row.deviceId = deviceId

def findMerchantUserById (db : TillDb) (id : MerchantUserId) : Option OperatorRow :=
  db.operators.find? fun row => row.id = id

def readSetting (db : TillDb) (merchantId : MerchantId) (key : String) : Option String :=
  (db.settings.find? fun row => row.merchantId = merchantId ∧ row.key = key).map (·.value)

/-- Slide a live session's idle window. -/
def touchSession (db : TillDb) (id : String) (now idleExpiresAt : Timestamp) : TillDb :=
  { db with
    sessions := update (fun row => row.id = id ∧ row.status = .active)
      (fun row => { row with lastSeenAt := now, idleExpiresAt }) db.sessions }

def touchDevice (db : TillDb) (deviceId : DeviceId) (now : Timestamp) : TillDb :=
  { db with
    deviceEnrollments := update (fun row => row.deviceId = deviceId)
      (fun row => { row with lastSeenAt := some now, updatedAt := now }) db.deviceEnrollments }

def revokeSession (db : TillDb) (id reason : String) (now : Timestamp) : TillDb :=
  { db with
    sessions := update (fun row => row.id = id ∧ row.status = .active)
      (fun row => { row with
        status := .revoked, revokedAt := some now, revocationReason := some reason })
      db.sessions }

/-- A session whose refusal for a reason is not on record. -/
def unnoted (id reason : String) (row : TillSessionRow) : Bool :=
  row.id = id ∧ row.revocationReason ≠ some reason

/-- Record why a session was refused, whatever its status, and whether that is new. -/
def noteSessionRejection (db : TillDb) (id reason : String) (now : Timestamp) : TillDb × Bool :=
  ({ db with
      sessions := update (unnoted id reason)
        (fun row => { row with
          status := .revoked, revokedAt := row.revokedAt.or (some now),
          revocationReason := some reason })
        db.sessions },
    decide (changes (unnoted id reason) db.sessions = 1))

def saveAuthAudit (db : TillDb) (row : AuthAuditRow) : Except Fault TillDb := do
  demand (¬ Present (·.id) row.id db.authAudits) .constraint
  return { db with authAudits := db.authAudits ++ [row] }

end Telga.Persistence
