import Telga.Application.PosRouter

namespace Telga.Application.ApiRouter
open Domain Persistence Library

/-- Why a request is refused before its handler sees it. -/
inductive RefusalCode
  | session (code : AuthFailureCode)
  | permissionDenied
  | merchantScopeMismatch
  | csrfTokenMissing
  | csrfTokenInvalid
  | rateLimited
  | requestTooLarge
deriving DecidableEq

def RefusalCode.text : RefusalCode → String
  | .session code => code.text
  | .permissionDenied => "PERMISSION_DENIED"
  | .merchantScopeMismatch => "MERCHANT_SCOPE_MISMATCH"
  | .csrfTokenMissing => "CSRF_TOKEN_MISSING"
  | .csrfTokenInvalid => "CSRF_TOKEN_INVALID"
  | .rateLimited => "RATE_LIMITED"
  | .requestTooLarge => "REQUEST_TOO_LARGE"

/-- Whether the merchant is sent to sign in again. -/
def RefusalCode.reauthenticate : RefusalCode → Bool
  | .session code => code.reauthenticate
  | _ => false

def RefusalCode.messageKey (code : RefusalCode) : String :=
  if code.reauthenticate then "error.session.expired" else "error.permission.denied"

/-- HTTP status for each refusal. 401 means "sign in"; 403 means "not for you". -/
def statusFor : RefusalCode → Nat
  | .session code => if code.reauthenticate then 401 else 403
  | .rateLimited => 429
  | .requestTooLarge => 413
  | _ => 403

/-- What a response holds: an error, or whatever a handler wrote. -/
inductive ResponseBody
  | error (kind reasonCode messageKey : String)
  | data (text : String)
deriving DecidableEq

structure ApiResponse where
  status : Nat
  correlationId : CorrelationId
  body : ResponseBody
deriving DecidableEq

def errorResponse (correlationId : CorrelationId) (status : Nat) (kind reasonCode : String) :
    ApiResponse :=
  { status, correlationId
    body := .error kind reasonCode
      (if 500 ≤ status then "status.sales_unavailable" else "error.permission.denied") }

def refusal (correlationId : CorrelationId) (code : RefusalCode) : ApiResponse :=
  { status := statusFor code, correlationId
    body := .error (if code.reauthenticate then "REAUTHENTICATE" else "ACCESS_DENIED") code.text
      code.messageKey }

/-- A request as the router is handed it: how long its body is as JSON, when it has one, and no
length when it cannot be written as JSON. -/
structure RoutedRequest extends ApiRequest where
  size : Option (Option Nat)

/-- What the router meets. A statement of the guard may throw, and leaves the database as it is
then. -/
structure RouterInput extends ServerInput where
  broken : Option PosServerDb

inductive GuardResult
  | passed (context : AuthContext)
  | refused (code : RefusalCode)
  | threw

/-- Everything a protected route must survive before its handler sees the request, in the order it
has to happen. -/
def guard (options : PosServerOptions) (input : RouterInput) (db : PosServerDb)
    (request : ApiRequest) (permission : Permission) (write sale : Bool) :
    PosServerDb × GuardResult :=
  match input.broken with
  | some db => (db, .threw)
  | none =>
    match Devices.authenticate options.devices db.login request.session (¬ request.background)
      (input.now 0) with
    | (login, .refused code) => (db.withLogin login, .refused (.session code))
    | (login, .threw _) => (db.withLogin login, .threw)
    | (login, .admitted named) =>
      let db := db.withLogin login
      let context : AuthContext :=
        ⟨named.sessionId, named.merchantId, named.deviceId, named.userId⟩
      if (roleOf db context).any (authorize · permission) = false then
        (db, .refused .permissionDenied)
      else if write = true ∧
          csrfMatches options db context.sessionId (csrfTokenOf request) = false then
        (db, .refused
          (if (csrfTokenOf request).isNone then .csrfTokenMissing else .csrfTokenInvalid))
      else if sale = true ∧ options.maxSalesPerWindow ≤
          countAttemptsSince db.pos .sale context.sessionId
            (input.now 0 - options.saleRateWindowMs) then
        (db, .refused .rateLimited)
      else if consistentMerchantHint context.merchantId
          (request.merchantId.or (request.body.text "merchantId")) = false then
        (db, .refused .merchantScopeMismatch)
      else (db, .passed context)

/-- A rough size check on an already-parsed body. It never throws. -/
def tooLarge (maxRequestBytes : Nat) (request : RoutedRequest) : Bool :=
  match request.size with
  | none => false
  | some none => true
  | some (some length) => maxRequestBytes < length

/-- What the handlers do: what becomes of the database, and the response, unless one throws. -/
abbrev Handlers := Handler → PosServerDb → RoutedRequest → Option AuthContext → CorrelationId →
  List String → PosServerDb × Option ApiResponse

/-- A handler that was run: for which route and session, and what it did. -/
structure HandlerCall where
  route : Route
  params : List String
  context : Option AuthContext
  before : PosServerDb
  after : PosServerDb
  response : Option ApiResponse

inductive HandleResult
  | resolved (response : ApiResponse)
  | rejected

/-- What comes of a request: the database, the handlers that were run and how the promise ends. -/
structure Handled where
  db : PosServerDb
  calls : List HandlerCall
  result : HandleResult

/-- Answered by the router itself. -/
def answered (db : PosServerDb) (response : ApiResponse) : Handled :=
  { db, calls := [], result := .resolved response }

/-- What an unhandled throw becomes. -/
def unexpected (correlationId : CorrelationId) : ApiResponse :=
  errorResponse correlationId 500 "SYSTEM_ERROR" "UNEXPECTED_HANDLER_ERROR"

def runHandler (handlers : Handlers) (db : PosServerDb) (request : RoutedRequest)
    (correlationId : CorrelationId) (route : Route) (params : List String)
    (context : Option AuthContext) : Handled :=
  let (after, response) := handlers route.handler db request context correlationId params
  { db := after
    calls := [{ route, params, context, before := db, after, response }]
    result := .resolved (response.getD (unexpected correlationId)) }

/-- What a route does with a request of its method and path: size, guard, handle. -/
def serve (options : PosServerOptions) (maxRequestBytes : Nat) (handlers : Handlers)
    (input : RouterInput) (db : PosServerDb) (request : RoutedRequest)
    (correlationId : CorrelationId) (route : Route) (params : List String) : Handled :=
  if tooLarge maxRequestBytes request then
    answered db (refusal correlationId .requestTooLarge)
  else
    match route.permission with
    | none => runHandler handlers db request correlationId route params none
    | some permission =>
      match guard options input db request.toApiRequest permission route.write route.sale with
      | (db, .passed context) =>
        runHandler handlers db request correlationId route params (some context)
      | (db, .refused code) => answered db (refusal correlationId code)
      | (db, .threw) => answered db (unexpected correlationId)

/-- The router's loop over its table. A path is matched, and its parameters decoded, before
anything is caught. -/
def dispatch (options : PosServerOptions) (maxRequestBytes : Nat) (handlers : Handlers)
    (input : RouterInput) (db : PosServerDb) (request : RoutedRequest)
    (correlationId : CorrelationId) (path : List Char) : Bool → List Route → Handled
  | pathMatched, [] =>
    answered db
      (if pathMatched then
        errorResponse correlationId 405 "INVALID_REQUEST" "METHOD_NOT_ALLOWED"
      else errorResponse correlationId 404 "NOT_FOUND" "ROUTE_NOT_FOUND")
  | pathMatched, route :: more =>
    match matchPattern options.decodeURIComponent route.pattern.toList path with
    | .error _ => { db, calls := [], result := .rejected }
    | .ok none =>
      dispatch options maxRequestBytes handlers input db request correlationId path pathMatched more
    | .ok (some params) =>
      if route.method = request.method then
        serve options maxRequestBytes handlers input db request correlationId route params
      else
        dispatch options maxRequestBytes handlers input db request correlationId path true more

/-- Dispatch one request. -/
def handle (options : PosServerOptions) (maxRequestBytes : Nat) (handlers : Handlers)
    (input : RouterInput) (db : PosServerDb) (request : RoutedRequest) : Handled :=
  dispatch options maxRequestBytes handlers input db request
    (correlationOf input.toServerInput request.toApiRequest)
    (normalizePath request.path.toList) false routes

end Telga.Application.ApiRouter
