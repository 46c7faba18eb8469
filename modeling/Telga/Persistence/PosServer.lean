import Telga.Persistence.Devices
import Telga.Persistence.Pending

namespace Telga.Persistence
open Domain Library

/-- An operator's row, with whether somebody else issued its PIN. -/
structure StaffRow extends LoginUserRow where
  mustChangePin : Bool := false
deriving DecidableEq

structure CustomerRow where
  id : String
  merchantId : MerchantId
  displayName : String
  phoneMasked : String
  createdAt : Timestamp
deriving DecidableEq

structure ShiftRow where
  id : String
  merchantId : MerchantId
  operatorId : MerchantUserId
  openedAt : Timestamp
  closedAt : Option Timestamp := none
deriving DecidableEq

/-- What a shop said happened to a sale, in its own words. -/
structure ComplaintReviewRow where
  id : String
  supportCaseId : String
  merchantId : MerchantId
  description : String
  createdAt : Timestamp
deriving DecidableEq

/-- The same database as the server of the point of sale sees it, and, in the server's memory, when
each session last proved its PIN. -/
structure PosServerDb extends DepositDb where
  merchantUsers : List StaffRow
  deviceEnrollments : List LoginDeviceRow
  sessions : List LoginSessionRow
  authAttempts : List AuthAttemptRow
  pendingOrders : List PendingOrderRow
  settings : List SettingRow
  customers : List CustomerRow
  shifts : List ShiftRow
  complaintReviews : List ComplaintReviewRow
  unlockedAt : List (String × Timestamp)

namespace PosServerDb

/-- What a session is known by to the orders that refer to it. -/
def sessionRow (row : LoginSessionRow) : SessionRow :=
  ⟨row.id, row.merchantId, row.deviceId, row.userId⟩

def merchantUserRow (row : StaffRow) : MerchantUserRow :=
  ⟨row.id, row.merchantId, row.pin⟩

/-- The database as the requests that sell and post see it. -/
def pos (db : PosServerDb) : PosDb :=
  { db.toDb with
    merchantUsers := db.merchantUsers.map merchantUserRow
    sessions := db.sessions.map sessionRow
    pendingOrders := db.pendingOrders
    authAttempts := db.authAttempts }

/-- What such a request writes: a PIN is the one column of an operator that it may write. -/
def withPos (db : PosServerDb) (pos : PosDb) : PosServerDb :=
  { db with
    toDb := pos.toDb
    merchantUsers :=
      List.zipWith (fun row user => { row with pin := user.pin }) db.merchantUsers
        pos.merchantUsers
    pendingOrders := pos.pendingOrders
    authAttempts := pos.authAttempts }

/-- The database as signing in sees it. -/
def login (db : PosServerDb) : LoginDb :=
  { merchants := db.merchants, devices := db.devices
    merchantUsers := db.merchantUsers.map (·.toLoginUserRow)
    deviceEnrollments := db.deviceEnrollments, sessions := db.sessions
    authAttempts := db.authAttempts }

def withLogin (db : PosServerDb) (login : LoginDb) : PosServerDb :=
  { db with
    merchants := login.merchants
    devices := login.devices
    merchantUsers :=
      List.zipWith (fun row user => { row with toLoginUserRow := user }) db.merchantUsers
        login.merchantUsers
    deviceEnrollments := login.deviceEnrollments
    sessions := login.sessions
    authAttempts := login.authAttempts }

/-- The database as the screen lock sees it. -/
def till (db : PosServerDb) : TillDb :=
  { db.toDepositDb with
    sessions := db.sessions.map (·.toTillSessionRow)
    deviceEnrollments := db.deviceEnrollments.map (·.toDeviceEnrollmentRow)
    operators := db.merchantUsers.map (·.toOperatorRow)
    settings := db.settings
    authAudits := []
    unlockedAt := db.unlockedAt }

def findSession (db : PosServerDb) (id : String) : Option LoginSessionRow :=
  db.sessions.find? fun row => row.id = id

def findMerchantUser (db : PosServerDb) (id : MerchantUserId) : Option StaffRow :=
  db.merchantUsers.find? fun row => row.id = id

/-- Write one setting of a shop, in place of the one it has. -/
def writeSetting (db : PosServerDb) (merchantId : MerchantId) (setting : String × String) :
    PosServerDb :=
  let own := fun row : SettingRow => decide (row.merchantId = merchantId ∧ row.key = setting.1)
  { db with
    settings :=
      if db.settings.any own then
        update own (fun row => { row with value := setting.2 }) db.settings
      else db.settings ++ [⟨merchantId, setting.1, setting.2⟩] }

def saveCustomer (db : PosServerDb) (row : CustomerRow) : Except Fault PosServerDb := do
  demand (¬ Present (·.id) row.id db.customers) .constraint
  demand (Present (·.id) row.merchantId db.merchants) .constraint
  return { db with customers := db.customers ++ [row] }

/-- The shift an operator has open, the one opened last. -/
def findOpenShift (db : PosServerDb) (merchantId : MerchantId) (operatorId : MerchantUserId) :
    Option ShiftRow :=
  ((db.shifts.filter fun row =>
    row.merchantId = merchantId ∧ row.operatorId = operatorId ∧ row.closedAt = none).mergeSort
      fun row other => other.openedAt ≤ row.openedAt).head?

/-- Close a shift. Only from open. -/
def closeShift (db : PosServerDb) (id : String) (now : Timestamp) : PosServerDb :=
  { db with
    shifts := update (fun row => row.id = id ∧ row.closedAt = none)
      (fun row => { row with closedAt := some now }) db.shifts }

def saveComplaintReview (db : PosServerDb) (row : ComplaintReviewRow) :
    Except Fault PosServerDb := do
  demand (¬ Present (·.id) row.id db.complaintReviews) .constraint
  demand (Present (·.id) row.supportCaseId db.supportCases) .constraint
  demand (Present (·.id) row.merchantId db.merchants) .constraint
  return { db with complaintReviews := db.complaintReviews ++ [row] }

/-- Forget that a session proved its PIN, which locks its screen. -/
def lockNow (db : PosServerDb) (sessionId : String) : PosServerDb :=
  { db with unlockedAt := db.unlockedAt.filter fun entry => ¬ entry.1 = sessionId }

/-- Record that a session just proved its PIN. Once there are many, those of more than a day ago
are forgotten. -/
def markUnlocked (db : PosServerDb) (sessionId : String) (now : Timestamp) : PosServerDb :=
  let marked :=
    if db.unlockedAt.any fun entry => entry.1 = sessionId then
      update (fun entry => decide (entry.1 = sessionId)) (fun entry => (entry.1, now)) db.unlockedAt
    else db.unlockedAt ++ [(sessionId, now)]
  { db with
    unlockedAt :=
      if 512 < marked.length then marked.filter fun entry => ¬ entry.2 < now - 86400000
      else marked }

/-- The PIN of an operator is their own from here on. -/
def pinChanged (db : PosServerDb) (id : MerchantUserId) (merchantId : MerchantId) : PosServerDb :=
  { db with
    merchantUsers := update (fun row => row.id = id ∧ row.merchantId = merchantId)
      (fun row => { row with mustChangePin := false }) db.merchantUsers }

end PosServerDb

end Telga.Persistence
