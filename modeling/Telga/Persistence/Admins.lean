import Telga.Domain.Admin
import Telga.Domain.Sessions
import Telga.Domain.Text
import Telga.Library.Table
import Telga.Persistence.Schema

namespace Telga.Persistence
open Domain Library

/-- A derivation as it is stored; the secret itself never is. -/
structure DerivedSecret where
  hash : String
  salt : String
  params : String
deriving DecidableEq

/-- The emailed sign-in code that is outstanding, by its derivation. -/
structure AdminOtp where
  hash : String
  salt : String
  expiresAt : Timestamp
  sentAt : Timestamp
deriving DecidableEq

structure AdminUserRow where
  id : AdminId
  email : String
  role : AdminRole
  status : AdminStatus
  password : DerivedSecret
  mfaSecret : Option String := none
  mfaEnrolledAt : Option Timestamp := none
  failedAttempts : Nat := 0
  lockedUntil : Option Timestamp := none
  lastLoginAt : Option Timestamp := none
  otp : Option AdminOtp := none
  otpAttempts : Nat := 0
deriving DecidableEq

structure AdminGrantRow where
  adminUserId : AdminId
  permission : AdminPermission
deriving DecidableEq

abbrev AdminSessionId := String

structure AdminSessionRow where
  id : AdminSessionId
  adminUserId : AdminId
  mfaSatisfied : Bool := false
  steppedUpAt : Option Timestamp := none
  status : SessionStatus := .active
  createdAt : Timestamp
  lastSeenAt : Timestamp
  idleExpiresAt : Timestamp
  absoluteExpiresAt : Timestamp
  revocationReason : Option String := none
deriving DecidableEq

/-- The console's side of the database: its administrators, their grants and their sessions. -/
structure ConsoleDb where
  adminUsers : List AdminUserRow
  adminPermissions : List AdminGrantRow
  adminSessions : List AdminSessionRow
deriving DecidableEq

/-- Lowercased and trimmed. The only form an email is ever stored or matched in. -/
def normalizeEmail (toLowerCase : String → String) (email : String) : String :=
  toLowerCase (trim email)

def findAdminUser (db : ConsoleDb) (id : AdminId) : Option AdminUserRow :=
  db.adminUsers.find? fun row => row.id = id

def findAdminUserByEmail (toLowerCase : String → String) (db : ConsoleDb) (email : String) :
    Option AdminUserRow :=
  db.adminUsers.find? fun row => row.email = normalizeEmail toLowerCase email

def listAdminGrants (db : ConsoleDb) (id : AdminId) : List AdminPermission :=
  (db.adminPermissions.filter fun grant => grant.adminUserId = id).map (·.permission)

/-- Add an administrator. The table has one row an id and one an email; a second is refused. -/
def saveAdminUser (toLowerCase : String → String) (db : ConsoleDb) (row : AdminUserRow) :
    Option ConsoleDb :=
  let row := { row with email := normalizeEmail toLowerCase row.email }
  if db.adminUsers.any fun other => other.id = row.id ∨ other.email = row.email then none
  else some { db with adminUsers := db.adminUsers ++ [row] }

/-- Rewrite one administrator. -/
def updateAdmin (db : ConsoleDb) (id : AdminId) (change : AdminUserRow → AdminUserRow) :
    ConsoleDb :=
  { db with adminUsers := update (fun row => row.id = id) change db.adminUsers }

/-- Rewrite one session. -/
def updateAdminSession (db : ConsoleDb) (id : AdminSessionId)
    (change : AdminSessionRow → AdminSessionRow) : ConsoleDb :=
  { db with adminSessions := update (fun row => row.id = id) change db.adminSessions }

/-- Count a failed sign-in, and start a hold if this failure earns one. No hold given means none is
started, never that the one that stands is cleared. -/
def recordAdminLoginFailure (db : ConsoleDb) (id : AdminId) (lockUntil : Option Timestamp) :
    ConsoleDb :=
  updateAdmin db id fun row => { row with
    failedAttempts := row.failedAttempts + 1, lockedUntil := lockUntil.or row.lockedUntil }

/-- A successful sign-in clears the counter and the lock in one statement. -/
def recordAdminLoginSuccess (db : ConsoleDb) (id : AdminId) (now : Timestamp) : ConsoleDb :=
  updateAdmin db id fun row => { row with
    failedAttempts := 0, lockedUntil := none, lastLoginAt := some now }

def setAdminMfaSecret (db : ConsoleDb) (id : AdminId) (secret : String) (now : Timestamp) :
    ConsoleDb :=
  updateAdmin db id fun row => { row with mfaSecret := some secret, mfaEnrolledAt := some now }

/-- Clear an administrator's second factor so that they can enrol a new one. -/
def clearAdminMfaSecret (db : ConsoleDb) (id : AdminId) : ConsoleDb :=
  updateAdmin db id fun row => { row with mfaSecret := none, mfaEnrolledAt := none }

/-- Store a sent code over whatever was outstanding, with no wrong guesses. -/
def saveAdminOtp (db : ConsoleDb) (id : AdminId) (otp : AdminOtp) : ConsoleDb :=
  updateAdmin db id fun row => { row with otp := some otp, otpAttempts := 0 }

/-- What is outstanding for this administrator, and how often it was guessed wrong. -/
def findAdminOtp (db : ConsoleDb) (id : AdminId) : Option (AdminOtp × Nat) :=
  (findAdminUser db id).bind fun row => row.otp.map fun otp => (otp, row.otpAttempts)

/-- A wrong guess. -/
def countAdminOtpAttempt (db : ConsoleDb) (id : AdminId) : ConsoleDb :=
  updateAdmin db id fun row => { row with otpAttempts := row.otpAttempts + 1 }

/-- Used, expired, or abandoned: the code is gone either way. -/
def clearAdminOtp (db : ConsoleDb) (id : AdminId) : ConsoleDb :=
  updateAdmin db id fun row => { row with otp := none, otpAttempts := 0 }

def saveAdminSession (db : ConsoleDb) (session : AdminSessionRow) : ConsoleDb :=
  { db with adminSessions := db.adminSessions ++ [session] }

def findAdminSession (db : ConsoleDb) (id : AdminSessionId) : Option AdminSessionRow :=
  db.adminSessions.find? fun row => row.id = id

/-- Mark the second factor cleared. -/
def markAdminMfaSatisfied (db : ConsoleDb) (id : AdminSessionId) (now : Timestamp) : ConsoleDb :=
  updateAdminSession db id fun row => { row with mfaSatisfied := true, lastSeenAt := now }

/-- Record a fresh identity proof. -/
def markAdminSteppedUp (db : ConsoleDb) (id : AdminSessionId) (now : Timestamp) : ConsoleDb :=
  updateAdminSession db id fun row => { row with steppedUpAt := some now, lastSeenAt := now }

def touchAdminSession (db : ConsoleDb) (id : AdminSessionId) (now idleExpiresAt : Timestamp) :
    ConsoleDb :=
  updateAdminSession db id fun row => { row with lastSeenAt := now, idleExpiresAt }

def revokeAdminSession (db : ConsoleDb) (id : AdminSessionId) (reason : String) : ConsoleDb :=
  { db with
    adminSessions := update (fun row => row.id = id ∧ row.status = .active)
      (fun row => { row with status := .revoked, revocationReason := some reason })
      db.adminSessions }

/-- Revoke every session an administrator holds. -/
def revokeAllAdminSessions (db : ConsoleDb) (id : AdminId) (reason : String) : ConsoleDb :=
  { db with
    adminSessions := update (fun row => row.adminUserId = id ∧ row.status = .active)
      (fun row => { row with status := .revoked, revocationReason := some reason })
      db.adminSessions }

/-- The row of one administrator after another, or the same, was rewritten. -/
theorem findAdminUser_update {change : AdminUserRow → AdminUserRow} (db : ConsoleDb)
    (id other : AdminId) (keeps : ∀ row, (change row).id = row.id) :
    findAdminUser (updateAdmin db id change) other =
      if other = id then (findAdminUser db other).map change else findAdminUser db other := by
  unfold findAdminUser updateAdmin
  rw [find?_update fun row => by rw [keeps]]
  cases found : db.adminUsers.find? fun row => row.id = other with
  | none => simp
  | some row =>
    have named := List.find?_some found
    simp only [decide_eq_true_eq] at named
    by_cases same : other = id
    · simp [named, same]
    · simp [named, same]

end Telga.Persistence
