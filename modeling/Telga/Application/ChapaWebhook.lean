import Telga.Application.DepositServices
import Telga.Persistence.Sessions

namespace Telga.Application
open Domain Persistence Library

/-- What `JSON.parse` makes of a text. A number stays the text it was written as. -/
inductive JsonValue
  | null
  | bool (value : Bool)
  | number (text : String)
  | string (text : String)
  | array (items : List JsonValue)
  | object (members : List (String × JsonValue))

/-- What the point of sale is started with: the deposits with the gateway's key, whether the gateway
is configured, the sessions' idle window, and the runtime's own functions. -/
structure PosOptions where
  deposits : DepositDeps
  chapaConfigured : Bool
  idleTimeoutMs : Int
  hmacSha256 : String → String → String
  parseJson : String → Option JsonValue
  toSafeInteger : String → Option Int

/-- A delivery as it arrives: its cookies and headers by name, and its body unless that is too
large. -/
structure WebhookRequest where
  cookies : String → Option String
  headers : String → List String
  body : Option String

def sessionCookie : String := "telga_session"

def payloadSignatureHeader : String := "x-chapa-signature"

inductive WebhookVerdict
  | valid
  | badSignature
  | unsigned
deriving DecidableEq, Repr

/-- Did the gateway sign this body? -/
def verifyChapaWebhook (options : PosOptions) (headers : String → List String)
    (rawBody : String) : WebhookVerdict :=
  match (headers payloadSignatureHeader).head? with
  | none => .unsigned
  | some provided =>
    if textLength (trim provided) = 0 then .unsigned
    else if trim provided = options.hmacSha256 options.deposits.secretKey rawBody then .valid
    else .badSignature

/-- The payment a body names, and nothing if it is not an object that names one. -/
def txRefOf (parsed : Option JsonValue) : String :=
  match parsed with
  | some (.object members) =>
    match members.reverse.find? fun member => member.1 = "tx_ref" with
    | some (_, .string txRef) => txRef
    | _ => ""
  | _ => ""

structure TillContext where
  sessionId : String
  userId : MerchantUserId
  merchantId : MerchantId
  deviceId : DeviceId
deriving DecidableEq

inductive AuthResult
  | admitted (context : TillContext)
  | refused (code : AuthFailureCode)
  | threw (fault : Fault)
deriving DecidableEq

/-- What is recorded of a session that was refused, or of one that ran out. -/
def authAudit (session : TillSessionRow) (action : AuthAction) (code : AuthFailureCode)
    (input : DepositInput) : AuthAuditRow :=
  { id := input.newId 1, occurredAt := input.now 1, action, userId := session.userId,
    merchantId := session.merchantId, deviceId := session.deviceId,
    correlationId := input.newId 0, detail := code.text }

/-- Refuse, and record it. -/
def refuseAudited (db : TillDb) (row : AuthAuditRow) (code : AuthFailureCode) :
    TillDb × AuthResult :=
  match saveAuthAudit db row with
  | .ok db => (db, .refused code)
  | .error fault => (db, .threw fault)

/-- A session whose device may not carry it: noted once, and recorded when it is new. -/
def rejectDevice (db : TillDb) (session : TillSessionRow) (problem : AuthFailureCode)
    (input : DepositInput) : TillDb × AuthResult :=
  if input.busy then (db, .threw .busy)
  else
    match noteSessionRejection db session.id problem.text (input.now 0) with
    | (db, true) => refuseAudited db (authAudit session .deviceRejected problem input) problem
    | (db, false) => (db, .refused problem)

/-- A session that may not be used: one that ran out is revoked and recorded. -/
def rejectSession (db : TillDb) (session : TillSessionRow) (rejected : AuthFailureCode)
    (input : DepositInput) : TillDb × AuthResult :=
  if (rejected = .sessionIdleExpired ∨ rejected = .sessionLifetimeExpired) ∧
      session.status = .active then
    if input.busy then (db, .threw .busy)
    else
      refuseAudited (revokeSession db session.id rejected.text (input.now 0))
        (authAudit session .authSessionExpired rejected input) rejected
  else (db, .refused rejected)

/-- A live session on an enrolled device: is its operator, is its shop still allowed? -/
def admitSession (options : PosOptions) (db : TillDb) (session : TillSessionRow)
    (input : DepositInput) : TillDb × AuthResult :=
  match findMerchantUserById db session.userId with
  | none => (db, .refused .userNotFound)
  | some user =>
    if user.active = false then (db, .refused .userSuspended)
    else if isLockedOut user.lockedUntil (input.now 0) then (db, .refused .userLockedOut)
    else if (findMerchant db.toDb session.merchantId).map (·.status) ≠ some .active then
      if input.busy then (db, .threw .busy)
      else
        (revokeSession db session.id AuthFailureCode.merchantNotActive.text (input.now 0),
          .refused .merchantNotActive)
    else if user.merchantId ≠ session.merchantId then
      if input.busy then (db, .threw .busy)
      else
        (revokeSession db session.id "USER_MERCHANT_CHANGED" (input.now 0),
          .refused .sessionRevoked)
    else if input.busy then (db, .threw .busy)
    else
      (touchDevice (touchSession db session.id (input.now 0)
          (input.now 0 + options.idleTimeoutMs)) session.deviceId (input.now 0),
        .admitted ⟨session.id, user.id, user.merchantId, session.deviceId⟩)

/-- Whose session is this? The device is judged before the session itself. -/
def authenticate (options : PosOptions) (db : TillDb) (token : Option String)
    (input : DepositInput) : TillDb × AuthResult :=
  match token with
  | none => (db, .refused .sessionMissing)
  | some token =>
    if textLength token = 0 then (db, .refused .sessionMissing)
    else
      match findSession db (options.deposits.sha256 token) with
      | none => (db, .refused .sessionUnknown)
      | some session =>
        match deviceRejection
          ((findDeviceEnrollment db session.deviceId).map (·.toDeviceEnrollment))
          session.merchantId (input.now 0) with
        | some problem => rejectDevice db session problem input
        | none =>
          match sessionRejection (some session.toSessionFacts) (input.now 0) with
          | some rejected => rejectSession db session rejected input
          | none => admitSession options db session input

/-- Whether a session's screen is locked: its shop asks for it, and it has not proved its PIN
lately. -/
def screenIsLocked (options : PosOptions) (db : TillDb) (context : TillContext)
    (now : Timestamp) : Bool :=
  if readSetting db context.merchantId "PIN_LOCK_ENABLED" ≠ some "on" then false
  else
    match (db.unlockedAt.find? fun entry => entry.1 = context.sessionId).map (·.2) with
    | none => true
    | some last =>
      lockSecondsFrom options.toSafeInteger (readSetting db context.merchantId "LOCK_SECONDS") *
        1000 ≤ now - last

inductive WebhookPoint
  | begin
  | receiving
  | settling (call : SettleChapaDeposit)
  | answered (status : Nat)

/-- A delivery being handled, once it has passed the host and origin checks. -/
structure ChapaWebhook where
  options : PosOptions
  request : WebhookRequest
  point : WebhookPoint

def ChapaWebhook.at (delivery : ChapaWebhook) (point : WebhookPoint) : ChapaWebhook :=
  { delivery with point }

/-- The gates above every route that needs a session, which the gateway's route stands below. -/
def ChapaWebhook.gate (delivery : ChapaWebhook) (input : DepositInput) (db : TillDb) :
    TillDb × WebhookPoint :=
  match authenticate delivery.options db (delivery.request.cookies sessionCookie) input with
  | (db, .threw _) => (db, .answered 500)
  | (db, .refused code) => (db, .answered (if code.reauthenticate then 401 else 403))
  | (db, .admitted context) =>
    if screenIsLocked delivery.options db context (input.now 2) then (db, .answered 200)
    else (db, .receiving)

/-- The route itself: read the body, check its signature, and settle the payment it names. -/
def ChapaWebhook.receive (delivery : ChapaWebhook) : WebhookPoint :=
  if delivery.options.chapaConfigured = false then .answered 404
  else
    match delivery.request.body with
    | none => .answered 413
    | some rawText =>
      if verifyChapaWebhook delivery.options delivery.request.headers rawText ≠ .valid then
        .answered 200
      else
        let txRef := txRefOf (delivery.options.parseJson rawText)
        if textLength txRef = 0 then .answered 200
        else .settling { deps := delivery.options.deposits, txRef, point := .begin }

/-- What a settlement that is over is answered with. -/
def SettlePoint.answer : SettlePoint → Option Nat
  | .returned (.unverifiable _) => some 503
  | .returned _ => some 200
  | .threw _ => some 500
  | _ => none

/-- One atomic step of a delivery: the gates, the route, then the settlement's own steps. -/
def ChapaWebhook.step (input : DepositInput) (db : TillDb) (delivery : ChapaWebhook) :
    TillDb × ChapaWebhook :=
  match delivery.point with
  | .begin => (delivery.gate input db).map id delivery.at
  | .receiving => (db, delivery.at delivery.receive)
  | .settling call =>
    let (deposits, call) := call.step input db.toDepositDb
    ({ db with toDepositDb := deposits },
      delivery.at (match call.point.answer with
        | some status => .answered status
        | none => .settling call))
  | .answered _ => (db, delivery)

/-- What runs on the database: the gateway's deliveries, every other request about deposits, and
the rest of the till, which does what it does to sessions and settings. -/
inductive TillProcess
  | webhook (delivery : ChapaWebhook)
  | deposit (process : DepositProcess)
  | till (change : TillDb → TillDb)

def TillProcess.step (input : DepositInput) (db : TillDb) : TillProcess → TillDb × TillProcess
  | .webhook delivery => (delivery.step input db).map id .webhook
  | .deposit process =>
    let (deposits, process) := process.step input db.toDepositDb
    ({ db with toDepositDb := deposits }, .deposit process)
  | .till change => ({ change db with toDepositDb := db.toDepositDb }, .till change)

def TillProcess.Starting : TillProcess → Prop
  | .webhook delivery => match delivery.point with
    | .begin => True
    | _ => False
  | .deposit process => process.Starting
  | .till _ => True

def TillProcess.finished : TillProcess → Bool
  | .webhook { point := .answered _, .. } => true
  | .webhook _ => false
  | .deposit process => process.finished
  | .till _ => false

def tillServer : Machine TillDb DepositInput TillProcess where
  advance := TillProcess.step
  finished process := process.finished = true

/-- Steps of the point of sale, whatever its surroundings answer. -/
abbrev TillStep : World TillDb TillProcess → Event DepositInput TillProcess →
    World TillDb TillProcess → Prop :=
  Pool tillServer (fun _ process => process.Starting) fun _ _ _ => True

end Telga.Application
