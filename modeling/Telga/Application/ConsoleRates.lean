import Telga.Application.AdminSessions
import Telga.Library.Entries

namespace Telga.Application
open Domain Persistence Library

/-- What the caller is trying to do. Proving who one is gets the tight limit. -/
inductive ConsoleRateScope
  | auth
  | request
deriving DecidableEq, Repr

def ConsoleRateScope.word : ConsoleRateScope → String
  | .auth => "AUTH"
  | .request => "REQUEST"

structure ConsoleRatePolicy where
  authPerMinute : Nat
  requestsPerMinute : Nat
  windowMs : Int
deriving DecidableEq, Repr

/-- The policy the console runs with. -/
def consoleRatePolicy : ConsoleRatePolicy :=
  { authPerMinute := 10, requestsPerMinute := 240, windowMs := 60000 }

def ConsoleRatePolicy.limit (policy : ConsoleRatePolicy) : ConsoleRateScope → Nat
  | .auth => policy.authPerMinute
  | .request => policy.requestsPerMinute

structure RateCounter where
  count : Nat
  windowStart : Timestamp
deriving DecidableEq, Repr

/-- The map of a limiter: the counter of each scope and address. -/
abbrev RateCounters := Entries String RateCounter

def counterKey (scope : ConsoleRateScope) (address : String) : String :=
  scope.word ++ ":" ++ address

inductive ConsoleRateVerdict
  | ok
  | refused (retryAfterSeconds : Int)
deriving DecidableEq, Repr

def pruneAbove : Nat := 4096

/-- Drop the counters whose window is over. -/
def pruneCounters (policy : ConsoleRatePolicy) (counters : RateCounters) (now : Timestamp) :
    RateCounters :=
  counters.filter fun entry => now - entry.2.windowStart < policy.windowMs

/-- The seconds until a window is over, at least one. -/
def retryAfter (policy : ConsoleRatePolicy) (elapsed : Int) : Int :=
  max 1 (-(-(policy.windowMs - elapsed) / 1000))

/-- May this address do this now? The counters are tidied before a window is opened. -/
def checkTidied (tidy : RateCounters → RateCounters) (policy : ConsoleRatePolicy)
    (counters : RateCounters) (address : String) (scope : ConsoleRateScope) (now : Timestamp) :
    RateCounters × ConsoleRateVerdict :=
  let key := counterKey scope address
  match counters.lookup key with
  | none => ((tidy counters).put key ⟨1, now⟩, .ok)
  | some existing =>
    if policy.windowMs ≤ now - existing.windowStart then
      ((tidy counters).put key ⟨1, now⟩, .ok)
    else if policy.limit scope ≤ existing.count then
      (counters, .refused (retryAfter policy (now - existing.windowStart)))
    else (counters.put key { existing with count := existing.count + 1 }, .ok)

/-- The limiter's check. It prunes before inserting when the map has grown. -/
def checkRate (policy : ConsoleRatePolicy) (counters : RateCounters) (address : String)
    (scope : ConsoleRateScope) (now : Timestamp) : RateCounters × ConsoleRateVerdict :=
  checkTidied
    (fun counters =>
      if pruneAbove < counters.length then pruneCounters policy counters now else counters)
    policy counters address scope now

/-- A limiter that drops nothing, to compare with. -/
def checkKeeping : ConsoleRatePolicy → RateCounters → String → ConsoleRateScope → Timestamp →
    RateCounters × ConsoleRateVerdict :=
  checkTidied id

/-- Which scope a path falls under. -/
def scopeForPath (path : String) : ConsoleRateScope :=
  if path = "/login" ∨ "/mfa".toList.isPrefixOf path.toList ∨
    "/step-up".toList.isPrefixOf path.toList then .auth
  else .request

/-- A request as it reaches the console. The form is what its body reads as. -/
structure ConsoleVisit where
  address : String
  method : String
  path : String
  originAllowed : Bool
  sessionToken : String
  form : String → Option String

/-- A field of the form, empty when it was left out. -/
def ConsoleVisit.field (visit : ConsoleVisit) (name : String) : String :=
  (visit.form name).getD ""

/-- A route on which a secret is typed in. -/
def ConsoleRoute.proves : ConsoleRoute → Bool
  | .otp _ | .mfa _ | .stepUp _ => true
  | _ => false

/-- The screens after the guard, which ask for no secret. -/
structure ConsoleScreens where
  route : ConsoleVisit → ConsoleRoute
  asks_nothing : ∀ visit, (route visit).proves = false

/-- The route of a request that has a session. -/
def ConsoleVisit.route (screens : ConsoleScreens) (visit : ConsoleVisit) : ConsoleRoute :=
  if visit.path = "/logout" ∧ visit.method = "POST" then .logout
  else if visit.path = "/mfa/enrol" then .enrolMfa
  else if visit.path = "/otp" ∧ visit.method = "GET" then .page
  else if visit.path = "/otp/resend" ∧ visit.method = "POST" then .resendOtp
  else if visit.path = "/otp" ∧ visit.method = "POST" then .otp (visit.field "code")
  else if visit.path = "/mfa" then
    if visit.method = "POST" then .mfa (visit.field "code") else .page
  else if visit.path = "/step-up" ∧ visit.method = "POST" then .stepUp (visit.field "password")
  else screens.route visit

/-- What runs for a request that was let through. One from another site is refused, and the health
check and the page that asks for a password are answered at once. -/
def ConsoleVisit.process (screens : ConsoleScreens) (visit : ConsoleVisit) :
    Option ConsoleProcess :=
  if visit.method ≠ "GET" ∧ visit.originAllowed = false then none
  else if visit.path = "/api/health/ready" then none
  else if visit.path = "/login" ∧ visit.method = "GET" then none
  else if visit.path = "/login" ∧ visit.method = "POST" then
    some (.signIn ⟨visit.field "email", visit.field "password", .begin⟩)
  else some (.request ⟨visit.sessionToken, visit.route screens, .begin⟩)

inductive ConsoleSecret
  | password
  | emailedCode
  | authenticatorCode
  | stepUp
deriving DecidableEq, Repr

/-- The secret that the next step of a process compares with what was typed, if any. An address
nobody has is answered as slowly, by comparing with a decoy. -/
def ConsoleProcess.compares (db : ConsoleDb) : ConsoleProcess → Option ConsoleSecret
  | .signIn call => if call.point matches .decoy | .comparing .. then some .password else none
  | .request call =>
    match call.point with
    | .admitted _ context _ =>
      match call.route, (findAdminUser db context.user.id).bind (·.mfaSecret) with
      | .mfa _, some secret => if secret ≠ "" then some .authenticatorCode else none
      | _, _ => none
    | .verifying _ _ candidate otp attempts now =>
      if comparesOtp candidate otp attempts now then some .emailedCode else none
    | .proving .. => some .stepUp
    | _ => none

/-- A request that is being served. -/
structure Served where
  visit : ConsoleVisit
  process : ConsoleProcess

/-- The console: the limiter's counters, the database and the requests being served. -/
structure RatedConsole where
  counters : RateCounters
  db : ConsoleDb
  served : List Served

inductive ConsoleEvent
  | visited (visit : ConsoleVisit) (now : Timestamp)
  | advanced (place : Nat) (input : ConsoleInput)

/-- The limiter's answer to a request, before anything else happens. -/
def RatedConsole.answer (policy : ConsoleRatePolicy) (console : RatedConsole) (visit : ConsoleVisit)
    (now : Timestamp) : RateCounters × ConsoleRateVerdict :=
  checkRate policy console.counters visit.address (scopeForPath visit.path) now

/-- What an event makes of the console: a request comes in, or one that is served takes a step. -/
def RatedConsole.next (deps : ConsoleDeps) (screens : ConsoleScreens) (policy : ConsoleRatePolicy)
    (console : RatedConsole) : ConsoleEvent → RatedConsole
  | .visited visit now =>
    match console.answer policy visit now with
    | (counters, .refused _) => { console with counters }
    | (counters, .ok) =>
      { console with
        counters
        served := console.served ++
          ((visit.process screens).map fun process => ⟨visit, process⟩).toList }
  | .advanced place input =>
    match console.served[place]? with
    | none => console
    | some served =>
      let (db, process) := served.process.step deps input console.db
      { console with db, served := console.served.set place { served with process } }

/-- A console that has just started. -/
def RatedConsole.Fresh (console : RatedConsole) : Prop :=
  console.counters = [] ∧ console.served = []

end Telga.Application
