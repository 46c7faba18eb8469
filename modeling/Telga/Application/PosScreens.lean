import Telga.Application.PosRouter

namespace Telga.Application
open Domain Persistence Library

/-- A request's body: its text, its fields when it is read as a form, and what it holds when it is
read as JSON. -/
structure ReceivedBody where
  raw : String
  form : String → Option String
  json : Body

/-- A request to the server, once it has passed the host and origin checks. The body is missing when
it is too large. -/
structure HttpRequest where
  method : String
  path : String
  merchantId : Option String := none
  session : Option String
  background : Bool := false
  csrfHeader : Option String := none
  correlationId : Option String := none
  headers : String → List String := fun _ => []
  body : Option ReceivedBody := none

/-- The request as the API's router is given it. -/
def HttpRequest.toApi (request : HttpRequest) (body : Body) : ApiRequest :=
  { method := request.method, path := request.path, merchantId := request.merchantId
    session := request.session, background := request.background
    csrfHeader := request.csrfHeader, correlationId := request.correlationId, body }

/-- A request the server makes of its own router, with nothing but the cookie of the one it is
answering. -/
def HttpRequest.handOn (request : HttpRequest) (method path : String) (body : Body) : ApiRequest :=
  { method, path, merchantId := none, session := request.session, background := false
    csrfHeader := none, correlationId := none, body }

/-- The forms of the screens that need a session and an open screen. -/
inductive ScreenForm
  | logout
  | customers
  | shiftEnd
  | reverse
  | complaint
  | settingsPin
  | settingsPreferences
  | settingsBusiness
  | transfer
  | depositChapa
  | webhooksChapa
  | deposit
  | depositCancel
  | profitTransfer
  | orders
  | settings
  | payDeposit
  | orderCancel (orderId : String)
  | orderAuthorize (orderId : String)
  | reprint (transactionId : String)
  | sell
  | enrol
deriving DecidableEq, Repr

/-- The forms that are posted to one path each. -/
def fixedForms : List (String × ScreenForm) :=
  [("/logout", .logout), ("/customers", .customers), ("/shift/end", .shiftEnd),
   ("/reverse", .reverse), ("/complaint", .complaint), ("/settings/pin", .settingsPin),
   ("/settings/preferences", .settingsPreferences), ("/settings/business", .settingsBusiness),
   ("/transfer", .transfer), ("/deposit/chapa", .depositChapa),
   ("/webhooks/chapa", .webhooksChapa), ("/deposit", .deposit),
   ("/deposit/cancel", .depositCancel), ("/profit/transfer", .profitTransfer),
   ("/orders", .orders), ("/settings", .settings), ("/pay/deposit", .payDeposit),
   ("/sell", .sell), ("/enrol", .enrol)]

/-- An order id as the screens' paths may hold it. -/
def orderIdSafe (text : List Char) : Bool :=
  text ≠ [] ∧ text.all fun c => c.isAlphanum || c == '_'

/-- The form a path is of. -/
def formOf (path : List Char) : Option ScreenForm :=
  match fixedForms.find? fun form => form.1.toList = path with
  | some form => some form.2
  | none =>
    match splitPath path with
    | [[], area, value, action] =>
      if area = "orders".toList ∧ orderIdSafe value ∧ action = "cancel".toList then
        some (.orderCancel (String.ofList value))
      else if area = "orders".toList ∧ orderIdSafe value ∧ action = "authorize".toList then
        some (.orderAuthorize (String.ofList value))
      else if area = "transactions".toList ∧ value ≠ [] ∧ action = "reprint".toList then
        some (.reprint (String.ofList value))
      else none
    | _ => none

/-- The order a page is about, if it is about one. -/
def orderPage (path : List Char) : Option String :=
  match splitPath path with
  | [[], area, value] =>
    if area = "orders".toList ∧ orderIdSafe value then some (String.ofList value) else none
  | [[], area, value, page] =>
    if area = "orders".toList ∧ orderIdSafe value ∧
        (page = "authorize".toList ∨ page = "result".toList) then some (String.ofList value)
    else none
  | _ => none

/-- The fields of a form that are passed on as they are. -/
def passedOn (options : PosServerOptions) (form : String → Option String) (names : List String) :
    Body :=
  { text := fun name => if name ∈ names then form name else none
    number := fun _ => none
    birr := fun name => if name ∈ names then (form name).bind options.birrToMinor else none }

/-- A number among the fields that are passed on. -/
def Body.withNumber (body : Body) (field : String) (value : Option (Option Int)) : Body :=
  { body with number := fun name => if name = field then value else body.number name }

/-- What a form's field holds, unless it is blank. -/
def typedIn (form : String → Option String) (name : String) : Option String :=
  (form name).filter fun text => text ≠ ""

def preferenceFields : List String :=
  ["csrfToken", "soundEnabled", "hideBalance", "lowBalanceAlert", "statementsAdminOnly",
   "printBarcode", "printLookupSlip", "screenLockEnabled", "lockSeconds"]

def businessFields : List String :=
  ["csrfToken", "businessName", "businessAddress", "businessPhone", "businessTin",
   "businessLicence", "slipFooter"]

/-- The body of a voucher order's form: the birr typed in become minor units. -/
def orderFormBody (options : PosServerOptions) (form : String → Option String) : Body :=
  let body := passedOn options form
    ["csrfToken", "network", "productType", "productId", "clientRequestId", "recipient"]
  (body.withNumber "customAmountMinor"
      ((typedIn form "customAmountBirr").map options.birrToMinor)).withNumber "quantity"
    ((typedIn form "quantity").map options.toSafeInteger)

/-- The body of the sell screen's form: the price is the catalog's. -/
def sellFormBody (options : PosServerOptions) (form : String → Option String) : Body :=
  (passedOn options form ["csrfToken", "productId", "recipient", "clientRequestId"]).withNumber
    "amountMinor" (some (sellBody ⟨form "productId", none, none⟩).amountMinor)

/-- The body of a deposit's form into the training float. -/
def depositFormBody (options : PosServerOptions) (form : String → Option String) : Body :=
  (passedOn options form ["csrfToken", "method", "clientRequestId"]).withNumber "amountMinor"
    (some ((typedIn form "amountBirr").bind options.birrToMinor))

/-- Where in the API a form is handed on, and with what body, if it is handed on. -/
def ScreenForm.apiCall (options : PosServerOptions) (form : String → Option String) :
    ScreenForm → Option (String × Body)
  | .settingsPin =>
    if form "newPin" = form "confirmPin" then
      some ("/api/training/operators/pin",
        passedOn options form ["csrfToken", "currentPin", "newPin"])
    else none
  | .settingsPreferences =>
    some ("/api/training/settings", passedOn options form preferenceFields)
  | .settingsBusiness => some ("/api/training/settings", passedOn options form businessFields)
  | .settings =>
    some ("/api/training/settings",
      passedOn options (fun name =>
          if name = "slipAdvert" then some ((form name).getD "") else form name)
        ["csrfToken", "slipSize", "slipAdvert"])
  | .transfer =>
    some ("/api/training/transfers",
      passedOn options form ["csrfToken", "recipientDeviceId", "amountBirr", "pin"])
  | .depositChapa =>
    some ("/api/training/deposits/chapa", passedOn options form ["csrfToken", "amountBirr"])
  | .deposit =>
    some ("/api/training/deposits/orders", passedOn options form ["csrfToken", "amountBirr"])
  | .depositCancel =>
    some ("/api/training/deposits/orders/cancel", passedOn options form ["csrfToken"])
  | .profitTransfer =>
    some ("/api/training/profit/transfers", passedOn options form ["csrfToken", "amountBirr"])
  | .orders => some ("/api/training/orders", orderFormBody options form)
  | .payDeposit => some ("/api/training/pay/deposits", depositFormBody options form)
  | .orderCancel orderId =>
    some ("/api/training/orders/" ++ orderId ++ "/cancel", passedOn options form ["csrfToken"])
  | .orderAuthorize orderId =>
    some ("/api/training/orders/" ++ orderId ++ "/authorize",
      passedOn options form ["csrfToken", "pin"])
  | .reprint transactionId =>
    some ("/api/training/transactions/" ++ transactionId ++ "/reprint",
      passedOn options form ["csrfToken"])
  | .sell => some ("/api/training/sales", sellFormBody options form)
  | .enrol => some ("/api/training/auth/devices", passedOn options form ["csrfToken", "deviceId"])
  | .logout | .customers | .shiftEnd | .reverse | .complaint | .webhooksChapa => none

/-- Whose body the server is waiting for. -/
inductive Awaiting
  | api
  | login
  | activate
  | register
  | card (context : AuthContext)
  | lock (context : AuthContext)
  | unlock (context : AuthContext)
  | form (form : ScreenForm) (context : AuthContext)

/-- What comes of a request when it arrives: it is decided, or its body is awaited. -/
inductive Dispatch
  | decided (passage : Passage)
  | awaits (awaiting : Awaiting)

/-- Every file that is served to anyone. -/
def servedAssets : List String :=
  ["telga-logo.png", "icon-32.png", "icon-180.png", "icon-192.png", "icon-512.png",
   "icon-maskable-192.png", "icon-maskable-512.png", "app-vending.png", "app-pay.png"]

/-- The pages anyone may see. -/
def publicPages : List String :=
  servedAssets.map ("/assets/" ++ ·) ++
    ["/manifest.webmanifest", "/activate", "/register", "/login"]

def AuthContext.till (context : AuthContext) : TillContext :=
  ⟨context.sessionId, context.userId, context.merchantId, context.deviceId⟩

/-- The rest of the dispatcher, for a session whose screen is open. -/
def openScreen (options : PosServerOptions) (input : ServerInput) (db : PosServerDb)
    (request : HttpRequest) (context : AuthContext) (form : Option ScreenForm) :
    PosServerDb × Dispatch :=
  match form with
  | some form =>
    if (form = .depositChapa ∨ form = .webhooksChapa) ∧
        ¬ (options.flags .depositChapa = true ∧ options.chapaConfigured = true) then
      (db, .decided .answered)
    else (db, .awaits (.form form context))
  | none =>
    match orderPage request.path.toList with
    | some orderId =>
      (handle options input db
        (request.handOn "GET" ("/api/training/orders/" ++ orderId) emptyBody)).map id .decided
    | none => (db, .decided (.admitted context .show))

/-- The dispatcher below the session check: the routes above the screen lock, the lock, and the
rest. -/
def sessionRoute (options : PosServerOptions) (input : ServerInput) (db : PosServerDb)
    (request : HttpRequest) (context : AuthContext) : PosServerDb × Dispatch :=
  let form := if request.method = "POST" then formOf request.path.toList else none
  if request.method = "POST" ∧ request.path = "/pay/card/authorize" then
    (db, .awaits (.card context))
  else if request.method = "POST" ∧ request.path = "/lock" then (db, .awaits (.lock context))
  else if request.method = "POST" ∧ request.path = "/unlock" then (db, .awaits (.unlock context))
  else if screenIsLocked options.till db.till context.till (input.now 0) ∧
      form ≠ some .logout then
    (db, .decided .answered)
  else openScreen options input db request context form

/-- What the server does with a request when it arrives. -/
def route (options : PosServerOptions) (input : ServerInput) (db : PosServerDb)
    (request : HttpRequest) : PosServerDb × Dispatch :=
  if (routeBlockedBy options.flags request.path.toList).isSome then (db, .decided .answered)
  else if startsWith request.path.toList "/api/".toList then
    if request.method = "POST" then (db, .awaits .api)
    else (handle options input db (request.toApi emptyBody)).map id .decided
  else if request.method = "GET" ∧ request.path ∈ publicPages then (db, .decided .answered)
  else if request.method = "POST" ∧ request.path = "/activate" then (db, .awaits .activate)
  else if request.method = "POST" ∧ request.path = "/register" then (db, .awaits .register)
  else if request.method = "POST" ∧ request.path = "/login" then (db, .awaits .login)
  else
    match PosServer.authenticate options db request.session true (input.now 0) with
    | (db, none) => (db, .decided .answered)
    | (db, some context) => sessionRoute options input db request context

/-- What a screen's own form asks for. Two of them look at no token. -/
def ScreenForm.ownAct (options : PosServerOptions) (db : PosServerDb) (context : AuthContext)
    (form : String → Option String) : ScreenForm → Option Act
  | .logout =>
    if csrfMatches options db context.sessionId (form "csrfToken") then some .logout else none
  | .customers =>
    let displayName := trim ((form "displayName").getD "")
    let phone := trim ((form "phone").getD "")
    if csrfMatches options db context.sessionId (form "csrfToken") = true ∧
        0 < textLength displayName ∧ recipientRejection phone = none then
      some (.saveCustomer displayName phone)
    else none
  | .shiftEnd =>
    if csrfMatches options db context.sessionId (form "csrfToken") then some .endShift else none
  | .reverse =>
    some (.work (.fileReversal
      { transactionId := trim ((form "transactionId").getD ""), merchantId := context.merchantId
        requestedBy := context.userId, deviceId := context.deviceId
        reason := trim ((form "reason").getD ""), point := .begin }))
  | .complaint =>
    let transactionId := trim ((form "transactionId").getD "")
    let description := trim ((form "description").getD "")
    if textLength transactionId = 0 ∨ textLength description = 0 then none
    else some (.fileComplaint transactionId description)
  | _ => none

/-- What a gateway's delivery asks for, once its signature is checked. -/
def deliveryPassage (options : PosServerOptions) (request : HttpRequest) : Passage :=
  match ChapaWebhook.receive
      { options := options.till
        request := { cookies := fun _ => request.session, headers := request.headers
                     body := request.body.map (·.raw) }
        point := .receiving } with
  | .settling call => .anyone (.deposit (.settleChapaDeposit call))
  | _ => .answered

/-- What a screen's form comes to when its body is there. -/
def formPassage (options : PosServerOptions) (input : ServerInput) (db : PosServerDb)
    (request : HttpRequest) (form : ScreenForm) (context : AuthContext) (body : ReceivedBody) :
    PosServerDb × Passage :=
  match form.apiCall options body.form with
  | some (path, json) => handle options input db (request.handOn "POST" path json)
  | none =>
    if form = .webhooksChapa then (db, deliveryPassage options request)
    else
      match form.ownAct options db context body.form with
      | some act => (db, .admitted context act)
      | none => (db, .answered)

/-- What the server does with a request when its body has come in. -/
def resume (options : PosServerOptions) (input : ServerInput) (db : PosServerDb)
    (request : HttpRequest) (body : ReceivedBody) : Awaiting → PosServerDb × Passage
  | .api => handle options input db (request.toApi body.json)
  | .login =>
    (db, .anyone (.signIn
      { request := { userId := (body.form "userId").getD "", pin := (body.form "pin").getD ""
                     deviceId := (body.form "deviceId").getD ""
                     deviceSecret := (body.form "deviceSecret").getD "" }
        point := .begin }))
  | .activate =>
    (db, .anyone (.activate
      { request := ⟨(body.form "deviceId").getD "", (body.form "token").getD ""⟩
        point := .begin }))
  | .register => (db, .answered)
  | .card context =>
    (db, if csrfMatches options db context.sessionId (body.form "csrfToken") then
        .admitted context .takeCardPayment
      else .answered)
  | .lock context =>
    (db, if csrfMatches options db context.sessionId (body.form "csrfToken") then
        .admitted context .lock
      else .answered)
  | .unlock context =>
    (db, if csrfMatches options db context.sessionId (body.form "csrfToken") then
        .admitted context (.unlock ((body.form "pin").getD ""))
      else .answered)
  | .form form context => formPassage options input db request form context body

/-- The case a complaint opens, with the shop's own words: both or neither. -/
def complain (input : ServerInput) (context : AuthContext) (transactionId description : String)
    (db : PosServerDb) : Except Fault PosServerDb := do
  demand (input.busy = false) .busy
  let base ← createSupportCase db.toDb
    { id := input.newId 0, merchantId := context.merchantId, transactionId
      reason := .merchantReported, reference := input.newReference 0
      correlationId := input.newId 1, now := input.now 0 }
  PosServerDb.saveComplaintReview { db with toDb := base }
    { id := input.newId 2, supportCaseId := input.newId 0, merchantId := context.merchantId
      description := trim description, createdAt := input.now 0 }

/-- Where a request stands between two atomic steps. -/
inductive VisitPoint
  | arriving
  | awaiting (awaiting : Awaiting)
  | working (work : Work)
  | unlocking (call : UnlockWithPin)
  | answered

/-- What an act does at once, and where it leaves its request. -/
def Act.perform (options : PosServerOptions) (input : ServerInput) (db : PosServerDb)
    (context : AuthContext) : Act → PosServerDb × VisitPoint
  | .show => (db, .answered)
  | .work running => (db, .working running)
  | .takeCardPayment => (db, .answered)
  | .writeSettings settings =>
    (settings.foldl (fun db setting => db.writeSetting context.merchantId setting) db, .answered)
  | .saveCustomer displayName phone =>
    match db.saveCustomer
        { id := input.newId 0, merchantId := context.merchantId, displayName
          phoneMasked := maskRecipient phone, createdAt := input.now 0 } with
    | .ok db => (db, .answered)
    | .error _ => (db, .answered)
  | .endShift =>
    match db.findOpenShift context.merchantId context.userId with
    | some shift => (db.closeShift shift.id (input.now 0), .answered)
    | none => (db, .answered)
  | .fileComplaint transactionId description =>
    if (findTransaction db.toDb transactionId context.merchantId).isNone ∨
        (findSupportCaseByTransaction db.toDb transactionId context.merchantId).isSome then
      (db, .answered)
    else
      match complain input context transactionId description db with
      | .ok db => (db, .answered)
      | .error _ => (db, .answered)
  | .lock => (db.lockNow context.sessionId, .answered)
  | .unlock pin =>
    (db, .unlocking { deps := options.toPinDeps, context, pin, point := .begin })
  | .logout =>
    (db.withLogin (db.login.revokeSession context.sessionId "LOGOUT" (input.now 0)).1, .answered)

/-- Whose PIN a request has just written. -/
def CounterRequest.wrotePin : CounterRequest → CounterRequest → Option AuthContext
  | .pin (.changePin { point := .changing _ _, .. }),
    .pin (.changePin { point := .recording _, context, .. }) => some context
  | _, _ => none

/-- One atomic step of what runs on for a request. -/
def Work.step (options : PosServerOptions) (input : ServerInput) (db : PosServerDb) :
    Work → PosServerDb × Work
  | .counter request =>
    let (pos, next) := request.step input.toPinInput db.pos
    let db := db.withPos pos
    (match request.wrotePin next with
      | some context => db.pinChanged context.userId context.merchantId
      | none => db, .counter next)
  | .deposit process =>
    let (deposits, process) := process.step input.deposit db.toDepositDb
    ({ db with toDepositDb := deposits }, .deposit process)
  | .enrol point =>
    let (login, point) := point.step options.devices input.device db.login
    (db.withLogin login, .enrol point)
  | .signIn call =>
    let (login, call) :=
      call.step options.devices.toLoginDeps input.device.toLoginInput db.login
    (db.withLogin login, .signIn call)
  | .activate call =>
    let (login, call) := call.step options.devices input.device db.login
    (db.withLogin login, .activate call)
  | .fileReversal call =>
    let (base, call) := call.step input.toInput db.toDb
    ({ db with toDb := base }, .fileReversal call)

def Work.finished : Work → Bool
  | .counter request => request.finished
  | .deposit process => process.finished
  | .enrol point => (point matches .enrolled _ _ | .threw _)
  | .signIn call => call.finished
  | .activate call => (call.point matches .activated _ _ | .refused _ | .threw _)
  | .fileReversal call => (call.point matches .filed | .refused _)

/-- A request being answered. -/
structure Visit where
  request : HttpRequest
  point : VisitPoint

def Visit.at (visit : Visit) (point : VisitPoint) : Visit :=
  { visit with point }

/-- What a gate makes of a request, and where the request stands after it. -/
def Passage.follow (options : PosServerOptions) (input : ServerInput) (db : PosServerDb) :
    Passage → PosServerDb × VisitPoint
  | .answered => (db, .answered)
  | .admitted context act => act.perform options input db context
  | .anyone work => (db, .working work)

/-- What the gate a request stands at makes of it now, if it stands at one. -/
def Visit.passage (options : PosServerOptions) (input : ServerInput) (db : PosServerDb)
    (visit : Visit) : PosServerDb × Option Dispatch :=
  match visit.point with
  | .arriving => (route options input db visit.request).map id some
  | .awaiting awaiting =>
    match visit.request.body with
    | none => (db, some (.decided .answered))
    | some body =>
      (resume options input db visit.request body awaiting).map id fun passage =>
        some (.decided passage)
  | _ => (db, none)

/-- One atomic step of a request. -/
def Visit.step (options : PosServerOptions) (input : ServerInput) (db : PosServerDb)
    (visit : Visit) : PosServerDb × Visit :=
  match visit.point with
  | .working work =>
    let (db, work) := work.step options input db
    (db, visit.at (.working work))
  | .unlocking call =>
    let (pos, call) := call.step input.toPinInput db.pos
    let db := db.withPos pos
    match call.point with
    | .returned .unlocked =>
      (db.markUnlocked call.context.sessionId (input.now 0), visit.at .answered)
    | .returned _ => (db, visit.at .answered)
    | .threw _ => (db, visit.at .answered)
    | _ => (db, visit.at (.unlocking call))
  | .answered => (db, visit)
  | _ =>
    match visit.passage options input db with
    | (db, some (.decided passage)) => (passage.follow options input db).map id visit.at
    | (db, some (.awaits awaiting)) => (db, visit.at (.awaiting awaiting))
    | (db, none) => (db, visit)

def Visit.finished (visit : Visit) : Bool :=
  match visit.point with
  | .answered => true
  | .working work => work.finished
  | _ => false

/-- The requests to the server at work on one database. -/
def screenServer (options : PosServerOptions) : Machine PosServerDb ServerInput Visit where
  advance := Visit.step options
  finished visit := visit.finished = true

end Telga.Application
