import Telga.Application.CounterRequests
import Telga.Application.Devices
import Telga.Domain.FeatureFlags
import Telga.Domain.Permissions
import Telga.Persistence.PosServer

namespace Telga.Application
open Domain Persistence Library

/-- What the server is started with. What is left to the runtime: how a birr amount, a percentage
and a URI component are read. -/
structure PosServerOptions extends PinDeps where
  flags : Flags
  sha256 : String → String
  lockout : LockoutPolicy
  lasting : 0 ≤ lockout.lockoutMs
  session : SessionPolicy
  saleRateWindowMs : Int
  maxSalesPerWindow : Nat
  topups : TopupOrderPolicy
  secretKey : String
  chapaConfigured : Bool
  hmacSha256 : String → String → String
  parseJson : String → Option JsonValue
  toUpperCase : String → String
  toSafeInteger : String → Option Int
  birrToMinor : String → Option Int
  percentToBps : String → Option Int
  decodeURIComponent : String → Option String

namespace PosServerOptions

def devices (options : PosServerOptions) : DeviceDeps :=
  { verifySecret := options.verifySecret, tokenFingerprint := options.sha256
    lockout := options.lockout, session := options.session, lasting := options.lasting
    deriveSecret := options.deriveSecret, toUpperCase := options.toUpperCase }

def deposits (options : PosServerOptions) : DepositDeps :=
  { mode := options.mode, policy := options.topups, secretKey := options.secretKey
    toUpperCase := options.toUpperCase, sha256 := options.sha256 }

def till (options : PosServerOptions) : PosOptions :=
  { deposits := options.deposits, chapaConfigured := options.chapaConfigured
    idleTimeoutMs := options.session.idleTimeoutMs, hmacSha256 := options.hmacSha256
    parseJson := options.parseJson, toSafeInteger := options.toSafeInteger }

end PosServerOptions

/-- What one atomic step of a request meets: all that its handler may ask of its surroundings. -/
structure ServerInput extends PinInput where
  newReference : Nat → String
  initialized : InitializeResult
  verified : VerifyResult
  sessionToken : String
  csrfToken : String
  deviceSecret : String

def ServerInput.deposit (input : ServerInput) : DepositInput :=
  { now := input.now, newId := input.newId, newReference := input.newReference, busy := input.busy
    initialized := input.initialized, verified := input.verified }

def ServerInput.device (input : ServerInput) : DeviceInput :=
  { now := input.now 0, sessionToken := input.sessionToken, csrfToken := input.csrfToken
    deviceSecret := input.deviceSecret, code := "", salt := input.salt }

/-- The body of a request to the API, as its handlers read it: a field that is text, a field that
must be a whole number, which may be there and be none, and a field of birr in minor units. -/
structure Body where
  text : String → Option String
  number : String → Option (Option Int)
  birr : String → Option Int

def emptyBody : Body :=
  ⟨fun _ => none, fun _ => none, fun _ => none⟩

/-- A request to the API: from outside, or handed on by a screen's form. -/
structure ApiRequest where
  method : String
  path : String
  merchantId : Option String
  session : Option String
  background : Bool
  csrfHeader : Option String
  correlationId : Option String
  body : Body

inductive Handler
  | getLiveness
  | getReadiness
  | postLogin
  | postLogout
  | getSession
  | postEnrolDevice
  | listTransactions
  | getTransaction
  | getReceipt
  | postReprint
  | getQueue
  | getBalance
  | postSale
  | postOrder
  | getOrder
  | postCancelOrder
  | postAuthorizeOrder
  | getSettings
  | postSettings
  | postDeposit
  | postProfitTransfer
  | postShopTransferRequest
  | postChapaDeposit
  | postBankDepositOrder
  | getBankDepositOrder
  | postCancelBankDepositOrder
  | postChangePin
deriving DecidableEq, Repr

/-- One row of the route table. A route without a permission is public. -/
structure Route where
  method : String
  pattern : String
  permission : Option Permission
  write : Bool := false
  sale : Bool := false
  handler : Handler
deriving DecidableEq

def routes : List Route :=
  [{ method := "GET", pattern := "/api/health/live", permission := none,
     handler := .getLiveness },
   { method := "GET", pattern := "/api/health/ready", permission := none,
     handler := .getReadiness },
   { method := "POST", pattern := "/api/training/auth/login", permission := none,
     handler := .postLogin },
   { method := "POST", pattern := "/api/training/auth/logout", permission := some .posLogout,
     write := true, handler := .postLogout },
   { method := "GET", pattern := "/api/training/auth/session", permission := some .posLogout,
     handler := .getSession },
   { method := "POST", pattern := "/api/training/auth/devices", permission := some .deviceEnrol,
     write := true, handler := .postEnrolDevice },
   { method := "GET", pattern := "/api/training/transactions", permission := some .posViewHistory,
     handler := .listTransactions },
   { method := "GET", pattern := "/api/training/transactions/:id",
     permission := some .posViewTransaction, handler := .getTransaction },
   { method := "GET", pattern := "/api/training/transactions/:id/receipt",
     permission := some .posViewTransaction, handler := .getReceipt },
   { method := "POST", pattern := "/api/training/transactions/:id/reprint",
     permission := some .posViewTransaction, write := true, handler := .postReprint },
   { method := "GET", pattern := "/api/training/queue", permission := some .posViewPendingQueue,
     handler := .getQueue },
   { method := "GET", pattern := "/api/training/balance", permission := some .posViewHome,
     handler := .getBalance },
   { method := "POST", pattern := "/api/training/sales", permission := some .posCreateSale,
     write := true, sale := true, handler := .postSale },
   { method := "POST", pattern := "/api/training/orders", permission := some .posCreateSale,
     write := true, sale := true, handler := .postOrder },
   { method := "GET", pattern := "/api/training/orders/:id", permission := some .posCreateSale,
     handler := .getOrder },
   { method := "POST", pattern := "/api/training/orders/:id/cancel",
     permission := some .posCreateSale, write := true, handler := .postCancelOrder },
   { method := "POST", pattern := "/api/training/orders/:id/authorize",
     permission := some .posCreateSale, write := true, handler := .postAuthorizeOrder },
   { method := "GET", pattern := "/api/training/settings", permission := some .posViewHome,
     handler := .getSettings },
   { method := "POST", pattern := "/api/training/settings", permission := some .posManageSettings,
     write := true, handler := .postSettings },
   { method := "POST", pattern := "/api/training/pay/deposits",
     permission := some .posDepositTrainingFunds, write := true, sale := true,
     handler := .postDeposit },
   { method := "POST", pattern := "/api/training/profit/transfers",
     permission := some .posDepositTrainingFunds, write := true, sale := true,
     handler := .postProfitTransfer },
   { method := "POST", pattern := "/api/training/transfers",
     permission := some .posDepositTrainingFunds, write := true, sale := true,
     handler := .postShopTransferRequest },
   { method := "POST", pattern := "/api/training/deposits/chapa",
     permission := some .posDepositTrainingFunds, write := true, sale := true,
     handler := .postChapaDeposit },
   { method := "POST", pattern := "/api/training/deposits/orders",
     permission := some .posDepositTrainingFunds, write := true, sale := true,
     handler := .postBankDepositOrder },
   { method := "GET", pattern := "/api/training/deposits/orders/open",
     permission := some .posDepositTrainingFunds, handler := .getBankDepositOrder },
   { method := "POST", pattern := "/api/training/deposits/orders/cancel",
     permission := some .posDepositTrainingFunds, write := true, sale := true,
     handler := .postCancelBankDepositOrder },
   { method := "POST", pattern := "/api/training/operators/pin",
     permission := some .posManageSettings, write := true, sale := true,
     handler := .postChangePin }]

/-- The segments of a path between its slashes. -/
def splitPath : List Char → List (List Char)
  | [] => [[]]
  | c :: rest =>
    if c = '/' then [] :: splitPath rest
    else
      match splitPath rest with
      | [] => [[c]]
      | first :: more => (c :: first) :: more

/-- Strip a trailing slash. -/
def normalizePath (path : List Char) : List Char :=
  if 1 < path.length ∧ path.getLast? = some '/' then path.dropLast else path

/-- What the parameters of a pattern are in a path, if the path matches it segment by segment. A
parameter that cannot be decoded throws, whatever comes after it. -/
def matchSegments (decode : String → Option String) :
    List (List Char) → List (List Char) → Except Unit (Option (List String))
  | [], [] => .ok (some [])
  | (':' :: _) :: pattern, value :: path =>
    if value = [] then .ok none
    else
      match decode (String.ofList value) with
      | none => .error ()
      | some decoded => do
        let rest ← matchSegments decode pattern path
        return rest.map (decoded :: ·)
  | segment :: pattern, value :: path =>
    if segment = value then matchSegments decode pattern path else .ok none
  | _, _ => .ok none

/-- Both are split first, and differ at once when they differ in length. -/
def matchPattern (decode : String → Option String) (pattern path : List Char) :
    Except Unit (Option (List String)) :=
  if (splitPath pattern).length = (splitPath path).length then
    matchSegments decode (splitPath pattern) (splitPath path)
  else .ok none

/-- The first route of a list that a method and a path match, with the parameters of its path. -/
def findRoute (decode : String → Option String) (method : String) (path : List Char) :
    List Route → Except Unit (Option (Route × List String))
  | [] => .ok none
  | route :: more => do
    match ← matchPattern decode route.pattern.toList path with
    | none => findRoute decode method path more
    | some params =>
      if route.method = method then return some (route, params)
      else findRoute decode method path more

/-- A correlation id that is safe to put in a log line. -/
def correlationSafe (supplied : String) : Bool :=
  supplied.toList.all (fun c => c.isAlphanum || c == '_' || c == '-') &&
    decide (4 ≤ supplied.length) && decide (supplied.length ≤ 64)

/-- A client-supplied correlation id, when it is safe, or one that is drawn. -/
def correlationOf (input : ServerInput) (request : ApiRequest) : CorrelationId :=
  (request.correlationId.filter correlationSafe).getD (input.newId 0)

/-- A text with something in it. -/
def nonEmpty (text : Option String) : Option String :=
  text.filter fun text => 0 < textLength text

/-- The CSRF token a browser submitted: form field first, then header. -/
def csrfTokenOf (request : ApiRequest) : Option String :=
  (nonEmpty (request.body.text "csrfToken")).or (nonEmpty request.csrfHeader)

/-- Is this the token bound to a live session? -/
def csrfMatches (options : PosServerOptions) (db : PosServerDb) (sessionId : String)
    (supplied : Option String) : Bool :=
  match nonEmpty supplied, db.findSession sessionId with
  | some token, some row => row.status = .active ∧ options.sha256 token = row.csrfHash
  | _, _ => false

/-- A client-supplied merchant id is compared with the session's, and grants nothing. -/
def consistentMerchantHint (merchantId : MerchantId) (supplied : Option String) : Bool :=
  (nonEmpty supplied).all fun hint => hint = merchantId

/-- Who the session of a cookie speaks for, if it speaks for anyone now. -/
def PosServer.authenticate (options : PosServerOptions) (db : PosServerDb)
    (session : Option String) (extendIdle : Bool) (now : Timestamp) :
    PosServerDb × Option AuthContext :=
  match Devices.authenticate options.devices db.login session extendIdle now with
  | (login, .admitted context) =>
    (db.withLogin login,
      some ⟨context.sessionId, context.merchantId, context.deviceId, context.userId⟩)
  | (login, _) => (db.withLogin login, none)

/-- The role of whom a session speaks for. -/
def roleOf (db : PosServerDb) (context : AuthContext) : Option ActorRole :=
  (db.findMerchantUser context.userId).map (·.role)

/-- What a route asks of a session that is live: its permission, then for a write the token and the
rate of sales, and last the merchant the request names, if it names one. -/
def mayPass (options : PosServerOptions) (db : PosServerDb) (request : ApiRequest) (route : Route)
    (permission : Permission) (context : AuthContext) (now : Timestamp) : Bool :=
  (roleOf db context).any (authorize · permission) ∧
  (route.write = true → csrfMatches options db context.sessionId (csrfTokenOf request) = true) ∧
  (route.sale = true →
    countAttemptsSince db.pos .sale context.sessionId (now - options.saleRateWindowMs) <
      options.maxSalesPerWindow) ∧
  consistentMerchantHint context.merchantId
    (request.merchantId.or (request.body.text "merchantId")) = true

/-- Everything a protected route must survive before its handler sees the request. -/
def PosServer.guard (options : PosServerOptions) (db : PosServerDb) (request : ApiRequest) (route : Route)
    (permission : Permission) (now : Timestamp) : PosServerDb × Option AuthContext :=
  match PosServer.authenticate options db request.session (¬ request.background) now with
  | (db, none) => (db, none)
  | (db, some context) =>
    (db, if mayPass options db request route permission context now then some context else none)

/-- What runs on for a request once it is let through. -/
inductive Work
  | counter (request : CounterRequest)
  | deposit (process : DepositProcess)
  | enrol (point : EnrolPoint)
  | signIn (call : Login)
  | activate (call : Redemption)
  | fileReversal (call : FileReversal)

/-- What a request is let through to do. -/
inductive Act
  | show
  | work (work : Work)
  | takeCardPayment
  | writeSettings (settings : List (String × String))
  | saveCustomer (displayName phone : String)
  | endShift
  | fileComplaint (transactionId description : String)
  | lock
  | unlock (pin : String)
  | logout

/-- A number that must be whole where it is there. -/
def wholeNumber (code : String) (value : Option (Option Int)) : Except String (Option Int) :=
  match value with
  | none => .ok none
  | some none => .error code
  | some (some number) => .ok (some number)

/-- The order a body asks for. -/
def validateOrderBody (body : Body) : Except String CreatePendingOrderRequest := do
  let network ← requiredText "NETWORK_REQUIRED" (body.text "network")
  let productType ← requiredText "PRODUCT_TYPE_REQUIRED" (body.text "productType")
  let productId ← requiredText "PRODUCT_ID_REQUIRED" (body.text "productId")
  let clientRequestId ← requiredText "CLIENT_REQUEST_ID_REQUIRED" (body.text "clientRequestId")
  let customAmountMinor ← wholeNumber "AMOUNT_NOT_A_NUMBER" (body.number "customAmountMinor")
  let quantity ← wholeNumber "QUANTITY_INVALID" (body.number "quantity")
  return { network, productType, productId, clientRequestId, customAmountMinor, quantity,
           recipient := body.text "recipient" }

/-- The fields of a sale's body. -/
def saleBody (body : Body) : SaleBody :=
  { productId := body.text "productId", recipient := body.text "recipient"
    clientRequestId := body.text "clientRequestId"
    amountMinor := (body.number "amountMinor").join }

/-- The longest line that still fits a narrow roll legibly. -/
def maxAdvertLength : Nat := 120

/-- A line that may be printed: not too long, and with no control character in it. -/
def printable (text : String) : Bool :=
  decide (textLength text ≤ maxAdvertLength) &&
    text.toList.all fun c => decide (0x1f < c.toNat) && decide (c.toNat ≠ 0x7f)

/-- The writes of one field of the settings' form, if the field may be stored. -/
inductive SettingField
  | slipSize
  | line (key : String)
  | profit
  | toggle (key : String)
  | lockSeconds

/-- The fields of the settings, in the order they are looked at. -/
def settingFields : List (String × SettingField) :=
  [("slipSize", .slipSize), ("slipAdvert", .line "SLIP_ADVERT"), ("profitPercent", .profit),
   ("businessName", .line "BUSINESS_NAME"), ("businessAddress", .line "BUSINESS_ADDRESS"),
   ("businessPhone", .line "BUSINESS_PHONE"), ("businessTin", .line "BUSINESS_TIN"),
   ("businessLicence", .line "BUSINESS_LICENCE"), ("slipFooter", .line "SLIP_FOOTER"),
   ("soundEnabled", .toggle "SOUND_ENABLED"), ("hideBalance", .toggle "HIDE_BALANCE"),
   ("lowBalanceAlert", .toggle "LOW_BALANCE_ALERT"),
   ("statementsAdminOnly", .toggle "STATEMENTS_ADMIN_ONLY"),
   ("printBarcode", .toggle "PRINT_BARCODE"), ("printLookupSlip", .toggle "PRINT_LOOKUP_SLIP"),
   ("screenLockEnabled", .toggle "PIN_LOCK_ENABLED"), ("lockSeconds", .lockSeconds)]

/-- The text after the last comma. -/
def lastValue (text : String) : String :=
  String.ofList (text.toList.reverse.takeWhile (· ≠ ',')).reverse

def SettingField.write (options : PosServerOptions) (supplied : String) :
    SettingField → Except String (String × String)
  | .slipSize =>
    if supplied = "58" ∨ supplied = "80" then .ok ("SLIP_SIZE", supplied)
    else .error "SLIP_SIZE_INVALID"
  | .line key =>
    if printable (trim supplied) then .ok (key, trim supplied) else .error "ADVERT_INVALID"
  | .profit =>
    match options.percentToBps supplied with
    | none => .error "PROFIT_INVALID"
    | some bps =>
      if 0 < textLength (trim supplied) ∧ 0 ≤ bps ∧ bps ≤ 10000 then
        .ok ("PROFIT_PERCENT_BPS", toString bps)
      else .error "PROFIT_INVALID"
  | .toggle key => .ok (key, if trim (lastValue supplied) = "on" then "on" else "off")
  | .lockSeconds =>
    match options.toSafeInteger supplied with
    | none => .error "LOCK_SECONDS_INVALID"
    | some seconds =>
      if seconds < 15 ∨ 3600 < seconds then .error "LOCK_SECONDS_INVALID"
      else .ok ("LOCK_SECONDS", toString seconds)

/-- What a body would store of the settings: all of its fields, or nothing. -/
def settingWrites (options : PosServerOptions) (body : Body) :
    Except String (List (String × String)) := do
  let writes ← settingFields.mapM fun field => do
    match body.text field.1 with
    | none => return none
    | some supplied => return some (← field.2.write options supplied)
  return writes.filterMap id

/-- What a handler goes on to do for a session, if it does not refuse at once. -/
def Handler.act (options : PosServerOptions) (db : PosServerDb) (input : ServerInput)
    (context : AuthContext) (request : ApiRequest) (params : List String) :
    Handler → Option Act
  | .postLogout => some .logout
  | .postEnrolDevice =>
    match request.body.text "deviceId" with
    | none => none
    | some deviceId =>
      if textLength (trim deviceId) = 0 ∨ 128 < textLength deviceId then none
      else if (db.login.findDevice deviceId context.merchantId).isNone then none
      else some (.work (.enrol (.begin { deviceId, merchantId := context.merchantId
                                         displayName := request.body.text "displayName" })))
  | .postSale =>
    some (.work (.counter (.pin (.pos (.postSale
      { deps := options.toPosDeps, context, origin := .api (saleBody request.body)
        correlationId := correlationOf input request, point := .begin })))))
  | .postOrder =>
    match validateOrderBody request.body with
    | .error _ => none
    | .ok order =>
      some (.work (.counter (.pin (.pos (.postOrder
        { deps := options.toPosDeps, context, request := order, point := .begin })))))
  | .getOrder =>
    params.head?.bind fun orderId =>
      if textLength (trim orderId) = 0 then none
      else some (.work (.counter (.pin (.pos (.getOrder { context, orderId, point := .begin })))))
  | .postCancelOrder =>
    params.head?.bind fun orderId =>
      if textLength (trim orderId) = 0 then none
      else
        some (.work (.counter (.pin (.pos (.cancelOrder { context, orderId, point := .begin })))))
  | .postAuthorizeOrder =>
    params.head?.bind fun orderId =>
      let pin := (request.body.text "pin").getD ""
      if textLength (trim orderId) = 0 ∨ textLength pin = 0 then none
      else
        some (.work (.counter (.pin (.pos (.authorizeOrder
          { deps := options.toPosDeps, context, orderId, pin
            correlationId := correlationOf input request, point := .begin })))))
  | .postSettings =>
    if options.mode ≠ .training then none
    else
      match settingWrites options request.body with
      | .error _ => none
      | .ok writes => some (.writeSettings writes)
  | .postDeposit =>
    some (.work (.counter (.postDeposit
      { deps := options.toPosDeps, context
        body := { amountMinor := (request.body.number "amountMinor").join
                  method := (request.body.text "method").getD ""
                  clientRequestId := (request.body.text "clientRequestId").getD "" }
        point := .begin })))
  | .postProfitTransfer =>
    some (.work (.counter (.postProfitTransfer
      { deps := options.toPosDeps, context, amountMinor := request.body.birr "amountBirr"
        correlationId := correlationOf input request, point := .begin })))
  | .postShopTransferRequest =>
    some (.work (.counter (.postShopTransfer
      { deps := options.toPosDeps, context
        body := { recipientDeviceId := (request.body.text "recipientDeviceId").getD ""
                  amountMinor := request.body.birr "amountBirr"
                  pin := (request.body.text "pin").getD "" }
        point := .begin })))
  | .postChapaDeposit =>
    if options.mode ≠ .training ∨ options.chapaConfigured = false then none
    else
      (request.body.birr "amountBirr").map fun amountMinor =>
        .work (.deposit (.startChapaDeposit
          { deps := options.deposits
            context := ⟨context.merchantId, context.deviceId, context.userId⟩, amountMinor
            correlationId := correlationOf input request, point := .begin }))
  | .postBankDepositOrder =>
    if options.mode ≠ .training then none
    else
      (request.body.birr "amountBirr").map fun amountMinor =>
        .work (.deposit (.orderBankDeposit
          { deps := options.deposits
            context := ⟨context.merchantId, context.deviceId, context.userId⟩, amountMinor
            correlationId := correlationOf input request, point := .begin }))
  | .postCancelBankDepositOrder =>
    if options.mode ≠ .training then none
    else
      some (.work (.deposit (.cancelBankDeposit
        { context := ⟨context.merchantId, context.deviceId, context.userId⟩, point := .begin })))
  | .postChangePin =>
    some (.work (.counter (.pin (.changePin
      { deps := options.toPinDeps, context
        currentPin := (request.body.text "currentPin").getD ""
        newPin := (request.body.text "newPin").getD "", point := .begin }))))
  | .getLiveness | .getReadiness | .postLogin => none
  | .getSession | .listTransactions | .getTransaction | .getReceipt | .postReprint | .getQueue
  | .getBalance | .getSettings | .getBankDepositOrder => some .show

/-- A text a sign-in's body may hold. -/
def credential (value : Option String) : Option String :=
  value.filter fun text => 0 < textLength text ∧ textLength text ≤ 512

/-- The sign-in a body asks the API for. -/
def credentialsOf (body : Body) : Option LoginRequest := do
  let userId ← credential (body.text "userId")
  let pin ← credential (body.text "pin")
  let deviceId ← credential (body.text "deviceId")
  let deviceSecret ← credential (body.text "deviceSecret")
  return { userId, pin, deviceId, deviceSecret }

/-- What comes of a request at a gate: it is answered, or let through, for a session or for
anyone. -/
inductive Passage
  | answered
  | admitted (context : AuthContext) (act : Act)
  | anyone (work : Work)

/-- Dispatch one request to the API: match, guard, handle. -/
def handle (options : PosServerOptions) (input : ServerInput) (db : PosServerDb)
    (request : ApiRequest) : PosServerDb × Passage :=
  match findRoute options.decodeURIComponent request.method (normalizePath request.path.toList)
    routes with
  | .error _ => (db, .answered)
  | .ok none => (db, .answered)
  | .ok (some (route, params)) =>
    match route.permission with
    | none =>
      match route.handler, credentialsOf request.body with
      | .postLogin, some login =>
        if options.mode ≠ .training then (db, .answered)
        else (db, .anyone (.signIn { request := login, point := .begin }))
      | _, _ => (db, .answered)
    | some permission =>
      match PosServer.guard options db request route permission (input.now 0) with
      | (db, none) => (db, .answered)
      | (db, some context) =>
        match route.handler.act options db input context request params with
        | none => (db, .answered)
        | some act => (db, .admitted context act)

end Telga.Application
