import Telga.Proofs.Visits

namespace Telga.Proofs.FormTokens
open Domain Persistence Application Library Visits

/-- The tokens a request carries, wherever a route may look for one. -/
def carried (request : HttpRequest) : List String :=
  request.csrfHeader.toList ++
    match request.body with
    | none => []
    | some body => (body.form "csrfToken").toList ++ (body.json.text "csrfToken").toList

/-- None of the tokens a request carries is the one of the session its cookie names. -/
def Untokened (options : PosServerOptions) (request : HttpRequest) (db : PosServerDb) : Prop :=
  ∀ token ∈ carried request, ∀ row ∈ db.sessions,
    request.session.map options.sha256 = some row.id → options.sha256 token ≠ row.csrfHash

instance (options : PosServerOptions) (request : HttpRequest) (db : PosServerDb) :
    Decidable (Untokened options request db) :=
  inferInstanceAs (Decidable (∀ token ∈ carried request, ∀ row ∈ db.sessions, _ → _))

/-- The forms anyone may post, and the gateway's deliveries, which are signed. -/
def OpenToAll (method path : String) : Prop :=
  method = "POST" ∧ (path ∈ ["/login", "/register", "/activate", "/webhooks/chapa"] ∨
    normalizePath path.toList = "/api/training/auth/login".toList)

/-- What a step leaves as it was: all a shop has in its books, its settings, its operators and its
devices, and the lock and the sign-in of every session. An order that is due may have expired. -/
structure Unharmed (db db' : PosServerDb) : Prop where
  sales : db'.transactions = db.transactions
  entries : db'.ledgerEntries = db.ledgerEntries
  transfers : db'.shopTransfers = db.shopTransfers
  reversals : db'.reversalRequests = db.reversalRequests
  cases : db'.supportCases = db.supportCases
  complaints : db'.complaintReviews = db.complaintReviews
  deposits : db'.topupOrders = db.topupOrders
  submissions : db'.fundingSubmissions = db.fundingSubmissions
  customers : db'.customers = db.customers
  shifts : db'.shifts = db.shifts
  settings : db'.settings = db.settings
  operators : db'.merchantUsers = db.merchantUsers
  machines : db'.devices = db.devices
  unlocked : db'.unlockedAt = db.unlockedAt
  orders : ∀ row ∈ db'.pendingOrders, ∃ old ∈ db.pendingOrders,
    row = old ∨ row = { old with status := .expired }
  sessions : ∀ row ∈ db'.sessions, ∃ old ∈ db.sessions, SameSession old row
  enrollments : ∀ row ∈ db'.deviceEnrollments, ∃ old ∈ db.deviceEnrollments, SameEnrollment old row

/-- Whether a step takes a card payment. -/
def takesCard (options : PosServerOptions) (input : ServerInput) (db : PosServerDb)
    (visit : Visit) : Bool :=
  match (visit.passage options input db).2 with
  | some (.decided (.admitted _ .takeCardPayment)) => true
  | _ => false

/-- What is promised of a path: a request to it without its session's token does no harm. -/
def TokenBound (method path : String) : Prop :=
  ¬ OpenToAll method path →
  ∀ (options : PosServerOptions) (request : HttpRequest), request.method = method →
    request.path = path → ∀ point, Follows options request (Untokened options request) point →
    ∀ (input : ServerInput) (db : PosServerDb), Untokened options request db →
      Unharmed db ((⟨request, point⟩ : Visit).step options input db).1 ∧
      takesCard options input db ⟨request, point⟩ = false

theorem unharmed_of_checked (checked : Checked db db') : Unharmed db db' := by
  obtain ⟨rest, sessions, _, devices⟩ := checked
  rw [rest]
  exact ⟨rfl, rfl, rfl, rfl, rfl, rfl, rfl, rfl, rfl, rfl, rfl, rfl, rfl, rfl,
    fun row mem => ⟨row, mem, .inl rfl⟩, sessions, devices⟩

theorem Untokened.checked {request : HttpRequest} (untokened : Untokened options request db)
    (checked : Checked db db') : Untokened options request db' := by
  intro token mem row there named
  obtain ⟨old, here, same⟩ := checked.sessions row there
  obtain ⟨id, _, _, _, csrf⟩ := same.facts
  rw [csrf]
  exact untokened token mem old here (by rw [named, id])

/-- A token that is not the session's opens nothing. -/
theorem csrf_refused {request : HttpRequest} {supplied : Option String}
    (untokened : Untokened options request db)
    (named : request.session.map options.sha256 = some sessionId)
    (sources : ∀ token ∈ supplied, token ∈ carried request) :
    csrfMatches options db sessionId supplied = false := by
  unfold csrfMatches
  split
  · rename_i token row given found
    have own : row.id = sessionId := by simpa using List.find?_some found
    have source : token ∈ supplied := (Option.mem_filter_iff.mp given).1
    have other := untokened token (sources token source) row (List.mem_of_find?_eq_some found)
      (by rw [named, own])
    simp [other]
  · rfl

theorem csrfTokenOf_source {request : ApiRequest} (mem : token ∈ csrfTokenOf request) :
    request.body.text "csrfToken" = some token ∨ request.csrfHeader = some token := by
  unfold csrfTokenOf at mem
  cases text : nonEmpty (request.body.text "csrfToken") with
  | some own =>
    rw [text] at mem
    cases mem
    exact .inl (Option.mem_filter_iff.mp text).1
  | none =>
    rw [text] at mem
    exact .inr (Option.mem_filter_iff.mp mem).1

/-- The handlers of the routes that ask for no token. -/
def readers : List Handler :=
  [.getLiveness, .getReadiness, .postLogin, .getSession, .listTransactions, .getTransaction,
   .getReceipt, .getQueue, .getBalance, .getOrder, .getSettings, .getBankDepositOrder]

theorem reader_of_unwritten : ∀ route ∈ routes, route.write = false → route.handler ∈ readers := by
  decide

/-- An act that only reads: it shows something, or looks an order up. -/
def ReadsOnly (act : Application.Act) : Prop :=
  act = .show ∨ ∃ call, act = .work (.counter (.pin (.pos (.getOrder call))))

theorem reader_reads {handler : Handler} (mem : handler ∈ readers)
    (acts : handler.act options db input context request params = some act) : ReadsOnly act := by
  cases handler with
  | getOrder =>
    obtain ⟨orderId, _, acts⟩ := Option.bind_eq_some_iff.mp acts
    split at acts
    · cases acts
    · cases acts
      exact .inr ⟨_, rfl⟩
  | getSession | listTransactions | getTransaction | getReceipt | getQueue | getBalance
  | getSettings | getBankDepositOrder =>
    cases acts
    exact .inl rfl
  | getLiveness | getReadiness | postLogin => cases acts
  | _ => simp [readers] at mem

/-- A call of the API that carries none of the tokens but those of a request, for its session. -/
structure CarriesOf (request : HttpRequest) (call : ApiRequest) : Prop where
  session : call.session = request.session
  tokens : ∀ token ∈ csrfTokenOf call, token ∈ carried request

theorem carried_header {request : HttpRequest} (header : request.csrfHeader = some token) :
    token ∈ carried request := by
  apply List.mem_append_left
  rw [header]
  exact List.mem_singleton_self token

theorem carried_form {request : HttpRequest} {body : ReceivedBody}
    (there : request.body = some body) (field : body.form "csrfToken" = some token) :
    token ∈ carried request := by
  apply List.mem_append_right
  rw [there]
  apply List.mem_append_left
  rw [field]
  exact List.mem_singleton_self token

theorem carried_json {request : HttpRequest} {body : ReceivedBody}
    (there : request.body = some body) (field : body.json.text "csrfToken" = some token) :
    token ∈ carried request := by
  apply List.mem_append_right
  rw [there]
  apply List.mem_append_right
  rw [field]
  exact List.mem_singleton_self token

theorem api_carries {request : HttpRequest} {body : ReceivedBody}
    (there : request.body = some body) : CarriesOf request (request.toApi body.json) := by
  refine ⟨rfl, fun token mem => ?_⟩
  rcases csrfTokenOf_source mem with text | header
  · exact carried_json there text
  · exact carried_header header

theorem empty_carries (request : HttpRequest) : CarriesOf request (request.toApi emptyBody) := by
  refine ⟨rfl, fun token mem => ?_⟩
  rcases csrfTokenOf_source mem with text | header
  · cases text
  · exact carried_header header

theorem handOn_carries {request : HttpRequest} {body : Body}
    (tokens : ∀ token, body.text "csrfToken" = some token → token ∈ carried request) :
    CarriesOf request (request.handOn method path body) := by
  refine ⟨rfl, fun token mem => ?_⟩
  rcases csrfTokenOf_source mem with text | header
  · exact tokens token text
  · cases header

/-- What the API lets through for a request without its session's token only reads. -/
theorem handle_reads {request : HttpRequest} {call : ApiRequest}
    (untokened : Untokened options request db) (carries : CarriesOf request call)
    (passes : (handle options input db call).2 = .admitted context act) : ReadsOnly act := by
  have checked := handle_checked options input db call
  obtain ⟨route, passed⟩ := handle_admitted passes
  obtain ⟨params, _, acts⟩ := passed.found
  obtain ⟨permission, _, allowed⟩ := passed.allowed
  refine reader_reads (reader_of_unwritten route passed.listed.1 ?_) acts
  cases write : route.write with
  | false => rfl
  | true =>
    have named := passed.admits.named
    rw [carries.session] at named
    simp [mayPass, write, csrf_refused (untokened.checked checked) named carries.tokens] at allowed

/-- What a gate may make of a request without its session's token: it answers, or lets something
be read. -/
def Harmless (passage : Passage) : Prop :=
  match passage with
  | .answered => True
  | .admitted _ act => ReadsOnly act
  | .anyone _ => False

theorem handle_harmless {request : HttpRequest} {call : ApiRequest}
    (untokened : Untokened options request db) (carries : CarriesOf request call)
    (other : ∀ login, (handle options input db call).2 ≠
      .anyone (.signIn { request := login, point := .begin })) :
    Harmless (handle options input db call).2 := by
  obtain ⟨_, outcome⟩ := handle_cases options input db call
  rcases outcome with answered | ⟨login, _, _, _, _, signIn⟩ | ⟨route, own, did, passed, admitted⟩
  · rw [answered]
    trivial
  · exact absurd signIn (other login)
  · rw [admitted]
    exact handle_reads untokened carries admitted

/-- A form that is handed on is handed on with the token it came with. -/
theorem apiCall_token {screen : ScreenForm}
    (handed : screen.apiCall options form = some (path, json)) :
    json.text "csrfToken" = form "csrfToken" := by
  cases screen with
  | settingsPin =>
    simp only [ScreenForm.apiCall] at handed
    split at handed
    · cases handed
      rfl
    · cases handed
  | logout | customers | shiftEnd | reverse | complaint | webhooksChapa => cases handed
  | _ =>
    cases handed
    rfl

theorem signIn_route : ∀ route ∈ routes, route.handler = .postLogin →
    route.method = "POST" ∧ route.pattern = "/api/training/auth/login" := by
  decide

/-- The signing in of the API is reached by its own path only. -/
theorem signIn_path {call : ApiRequest}
    (signIn : (handle options input db call).2 = .anyone work) :
    call.method = "POST" ∧
      normalizePath call.path.toList = "/api/training/auth/login".toList := by
  obtain ⟨_, outcome⟩ := handle_cases options input db call
  rcases outcome with answered | ⟨login, route, params, found, own, _⟩ |
    ⟨route, own, did, passed, admitted⟩
  · rw [signIn] at answered
    cases answered
  · obtain ⟨listed, method, matched⟩ := findRoute_mem found
    obtain ⟨post, pattern⟩ := signIn_route route listed own
    rw [pattern] at matched
    exact ⟨method.symm.trans post, matchPattern_plain (by decide) matched⟩
  · rw [signIn] at admitted
    cases admitted

/-- No form is handed on to the signing in. -/
theorem apiCall_path {screen : ScreenForm}
    (handed : screen.apiCall options form = some (path, json)) :
    normalizePath path.toList ≠ "/api/training/auth/login".toList := by
  cases screen with
  | settingsPin =>
    simp only [ScreenForm.apiCall] at handed
    split at handed
    · cases handed
      decide
    · cases handed
  | logout | customers | shiftEnd | reverse | complaint | webhooksChapa => cases handed
  | orderCancel orderId | orderAuthorize orderId | reprint orderId =>
    cases handed
    apply elsewhere 14 (by decide)
    simp only [String.toList_append, List.append_assoc]
    rw [List.getElem?_append_left (by decide)]
    decide
  | _ =>
    cases handed
    decide

/-- The form a path is of is one of those that have a path, or of an order or a receipt. -/
theorem formOf_listed (found : formOf path = some screen) :
    (∃ form ∈ fixedForms, form.1.toList = path ∧ form.2 = screen) ∨
    (∃ orderId, screen = .orderCancel orderId) ∨ (∃ orderId, screen = .orderAuthorize orderId) ∨
    ∃ transactionId, screen = .reprint transactionId := by
  unfold formOf at found
  split at found
  · rename_i form first
    cases found
    exact .inl ⟨form, List.mem_of_find?_eq_some first, by simpa using List.find?_some first, rfl⟩
  · split at found
    · split at found
      · cases found
        exact .inr (.inl ⟨_, rfl⟩)
      · split at found
        · cases found
          exact .inr (.inr (.inl ⟨_, rfl⟩))
        · split at found
          · cases found
            exact .inr (.inr (.inr ⟨_, rfl⟩))
          · cases found
    · cases found

/-- The forms that look at no token of their own. -/
theorem fixedForms_path : ∀ form ∈ fixedForms,
    (form.2 = .reverse → form.1 = "/reverse") ∧ (form.2 = .complaint → form.1 = "/complaint") ∧
      (form.2 = .webhooksChapa → form.1 = "/webhooks/chapa") := by
  decide

theorem formOf_path {path : String} (found : formOf path.toList = some screen) :
    (screen = .reverse → path = "/reverse") ∧ (screen = .complaint → path = "/complaint") ∧
      (screen = .webhooksChapa → path = "/webhooks/chapa") := by
  rcases formOf_listed found with ⟨form, mem, same, rfl⟩ | ⟨_, rfl⟩ | ⟨_, rfl⟩ | ⟨_, rfl⟩
  · have own : form.1 = path := String.toList_injective same
    rw [← own]
    exact fixedForms_path form mem
  all_goals
    refine ⟨?_, ?_, ?_⟩
    all_goals
      intro same
      cases same

/-- A request that is neither one of the two forms without a token nor open to all. -/
structure Bound (request : HttpRequest) : Prop where
  closed : ¬ OpenToAll request.method request.path
  asks : ¬ (request.method = "POST" ∧
    (request.path = "/reverse" ∨ request.path = "/complaint"))

/-- The body a request is waited for, in the name of the session its cookie names. -/
def Named (options : PosServerOptions) (request : HttpRequest) (context : AuthContext) : Prop :=
  request.session.map options.sha256 = some context.sessionId

/-- What a request without its session's token may be waited for. -/
def SafeAwaiting (options : PosServerOptions) (request : HttpRequest) : Awaiting → Prop
  | .api => True
  | .login | .activate | .register => False
  | .card context | .lock context | .unlock context => Named options request context
  | .form form context =>
    Named options request context ∧
      form ≠ .reverse ∧ form ≠ .complaint ∧ form ≠ .webhooksChapa

/-- Where such a request may stand. -/
def SafePoint (options : PosServerOptions) (request : HttpRequest) : VisitPoint → Prop
  | .arriving | .answered => True
  | .awaiting awaiting => SafeAwaiting options request awaiting
  | .working work => ∃ call, work = .counter (.pin (.pos (.getOrder call)))
  | .unlocking _ => False

/-- What may become of such a request when it arrives. -/
def SafeDispatch (options : PosServerOptions) (request : HttpRequest) : Dispatch → Prop
  | .decided passage => Harmless passage
  | .awaits awaiting => SafeAwaiting options request awaiting

theorem toApi_harmless {request : HttpRequest} {body : Body} (input : ServerInput) (bound : Bound request)
    (untokened : Untokened options request db)
    (carries : CarriesOf request (request.toApi body)) :
    Harmless (handle options input db (request.toApi body)).2 := by
  apply handle_harmless untokened carries
  intro login signIn
  obtain ⟨post, path⟩ := signIn_path signIn
  exact bound.closed ⟨post, .inr path⟩

/-- A page that is read through the API is only read. -/
theorem page_harmless {request : HttpRequest} (untokened : Untokened options request db)
    (input : ServerInput) (path : String) :
    Harmless (handle options input db (request.handOn "GET" path emptyBody)).2 := by
  apply handle_harmless untokened
  · apply handOn_carries
    intro token text
    cases text
  · intro login signIn
    have get : "GET" = "POST" := (signIn_path signIn).1
    exact absurd get (by decide)

theorem openScreen_safe {request : HttpRequest} {form : Option ScreenForm} (bound : Bound request)
    (untokened : Untokened options request db) (named : Named options request context)
    (own : ∀ screen, form = some screen →
      request.method = "POST" ∧ formOf request.path.toList = some screen) :
    SafeDispatch options request (openScreen options input db request context form).2 := by
  unfold openScreen
  cases form with
  | some screen =>
    obtain ⟨post, found⟩ := own screen rfl
    obtain ⟨reverse, complaint, webhook⟩ := formOf_path found
    simp only []
    split
    · trivial
    · refine ⟨named, fun same => ?_, fun same => ?_, fun same => ?_⟩
      · exact bound.asks ⟨post, .inl (reverse same)⟩
      · exact bound.asks ⟨post, .inr (complaint same)⟩
      · exact bound.closed ⟨post, .inl (by simp [webhook same])⟩
  | none =>
    simp only []
    split
    · rename_i orderId _
      have harmless := page_harmless untokened input ("/api/training/orders/" ++ orderId)
      generalize handle options input db _ = handled at harmless ⊢
      exact harmless
    · exact .inl rfl

theorem sessionRoute_safe {request : HttpRequest} (bound : Bound request)
    (untokened : Untokened options request db) (named : Named options request context) :
    SafeDispatch options request (sessionRoute options input db request context).2 := by
  simp only [sessionRoute]
  have own : ∀ screen, (if request.method = "POST" then formOf request.path.toList else none) =
      some screen → request.method = "POST" ∧ formOf request.path.toList = some screen := by
    intro screen found
    split at found
    · exact ⟨‹_›, found⟩
    · cases found
  generalize (if request.method = "POST" then formOf request.path.toList else none) = form at own ⊢
  split
  · exact named
  split
  · exact named
  split
  · exact named
  split
  · trivial
  · exact openScreen_safe bound untokened named own

theorem route_safe {request : HttpRequest} (bound : Bound request)
    (untokened : Untokened options request db) :
    SafeDispatch options request (route options input db request).2 := by
  unfold route
  split
  · trivial
  split
  · split
    · trivial
    · have harmless := toApi_harmless input bound untokened (empty_carries request)
      generalize handle options input db (request.toApi emptyBody) = handled at harmless ⊢
      exact harmless
  split
  · trivial
  split
  · rename_i activate
    exact absurd ⟨activate.1, .inl (by simp [activate.2])⟩ bound.closed
  split
  · rename_i register
    exact absurd ⟨register.1, .inl (by simp [register.2])⟩ bound.closed
  split
  · rename_i login
    exact absurd ⟨login.1, .inl (by simp [login.2])⟩ bound.closed
  · have checked := authenticate_checked options db request.session true (input.now 0)
    cases asked : PosServer.authenticate options db request.session true (input.now 0) with
    | mk db' admitted =>
      rw [asked] at checked
      obtain ⟨checked, admits⟩ := checked
      cases admitted with
      | none => trivial
      | some context =>
        exact sessionRoute_safe bound (untokened.checked checked) (admits context rfl).named

/-- A form's own act needs its token, but for the two that look at none. -/
theorem ownAct_refused {request : HttpRequest} {body : ReceivedBody} {screen : ScreenForm}
    (there : request.body = some body) (untokened : Untokened options request db)
    (named : Named options request context)
    (other : screen ≠ .reverse ∧ screen ≠ .complaint) :
    screen.ownAct options db context body.form = none := by
  have refused : csrfMatches options db context.sessionId (body.form "csrfToken") = false :=
    csrf_refused untokened named fun token mem => carried_form there mem
  cases screen with
  | reverse => exact absurd rfl other.1
  | complaint => exact absurd rfl other.2
  | logout | shiftEnd | customers => simp [ScreenForm.ownAct, refused]
  | _ => rfl

theorem formPassage_harmless {request : HttpRequest} {body : ReceivedBody}
    (there : request.body = some body) (untokened : Untokened options request db)
    (safe : SafeAwaiting options request (.form screen context)) :
    Harmless (formPassage options input db request screen context body).2 := by
  obtain ⟨named, reverse, complaint, webhook⟩ := safe
  unfold formPassage
  cases handed : screen.apiCall options body.form with
  | some call =>
    obtain ⟨path, json⟩ := call
    apply handle_harmless untokened
    · apply handOn_carries
      intro token text
      rw [apiCall_token handed] at text
      exact carried_form there text
    · intro login signIn
      exact apiCall_path handed (signIn_path signIn).2
  | none =>
    simp only [if_neg webhook, ownAct_refused there untokened named ⟨reverse, complaint⟩]
    trivial

theorem resume_harmless {request : HttpRequest} {body : ReceivedBody} (bound : Bound request)
    (there : request.body = some body) (untokened : Untokened options request db)
    (safe : SafeAwaiting options request awaiting) :
    Harmless (resume options input db request body awaiting).2 := by
  cases awaiting with
  | api => exact toApi_harmless input bound untokened (api_carries there)
  | login | activate | register => exact safe.elim
  | card context | lock context | unlock context =>
    have refused : csrfMatches options db context.sessionId (body.form "csrfToken") = false :=
      csrf_refused untokened safe fun token mem => carried_form there mem
    simp only [resume, refused]
    trivial
  | form screen context => exact formPassage_harmless there untokened safe

/-- What only reads leaves the database as it is. -/
theorem readsOnly_performs {act : Application.Act} (reads : ReadsOnly act) :
    (act.perform options input db context).1 = db ∧
      SafePoint options request (act.perform options input db context).2 := by
  rcases reads with rfl | ⟨call, rfl⟩
  · exact ⟨rfl, trivial⟩
  · exact ⟨rfl, call, rfl⟩

theorem harmless_follows {passage : Passage} (harmless : Harmless passage) :
    (passage.follow options input db).1 = db ∧
      SafePoint options request (passage.follow options input db).2 := by
  cases passage with
  | answered => exact ⟨rfl, trivial⟩
  | admitted context act => exact readsOnly_performs harmless
  | anyone work => exact harmless.elim

theorem unharmed_refl (db : PosServerDb) : Unharmed db db :=
  unharmed_of_checked (.refl db)

/-- An order past its time is marked so, and no other row is written. -/
theorem unharmed_expired (db : PosServerDb) (orderId : String) (now : Timestamp) :
    Unharmed db (db.withPos (expireIfDue db.pos orderId now)) := by
  have same := withPos_tables db db.toDb (expireIfDue db.pos orderId now).pendingOrders
    db.authAttempts
  change db.withPos (expireIfDue db.pos orderId now) = _ at same
  rw [same]
  refine ⟨rfl, rfl, rfl, rfl, rfl, rfl, rfl, rfl, rfl, rfl, rfl, rfl, rfl, rfl, fun row mem => ?_,
    fun row mem => ⟨row, mem, .refl row⟩, fun row mem => ⟨row, mem, .refl row⟩⟩
  obtain ⟨old, there, rfl⟩ := mem_update.mp mem
  refine ⟨old, there, ?_⟩
  split
  · exact .inr rfl
  · exact .inl rfl

/-- Looking an order up writes nothing, but that it is past its time. -/
theorem getOrder_step (options : PosServerOptions) (input : ServerInput) (db : PosServerDb)
    (call : GetOrder) :
    Unharmed db ((Work.counter (.pin (.pos (.getOrder call)))).step options input db).1 ∧
    ∃ next, ((Work.counter (.pin (.pos (.getOrder call)))).step options input db).2 =
      .counter (.pin (.pos (.getOrder next))) := by
  refine ⟨?_, _, rfl⟩
  change Unharmed db (db.withPos (call.step input.toInput db.pos).1)
  unfold GetOrder.step
  cases call.point with
  | begin =>
    rcases expiring_cases input.toInput call.orderId db.pos with same | ⟨fault, same⟩
    · simp only [same]
      exact unharmed_expired db call.orderId _
    · simp only [same, withPos_pos]
      exact unharmed_refl db
  | _ =>
    simp only [withPos_pos]
    exact unharmed_refl db

/-- What the gate a request stands at makes of it, if its token is not the session's. -/
theorem passage_safe {request : HttpRequest} (bound : Bound request)
    (untokened : Untokened options request db) (safe : SafePoint options request point) :
    ∀ dispatch ∈ ((⟨request, point⟩ : Visit).passage options input db).2,
      SafeDispatch options request dispatch := by
  unfold Visit.passage
  cases point with
  | arriving =>
    rintro _ ⟨⟩
    exact route_safe bound untokened
  | awaiting awaiting =>
    simp only []
    cases there : request.body with
    | none =>
      rintro _ ⟨⟩
      trivial
    | some body =>
      rintro _ ⟨⟩
      exact resume_harmless bound there untokened safe
  | working | unlocking | answered => rintro _ ⟨⟩

theorem takesCard_harmless {visit : Visit}
    (safe : ∀ dispatch ∈ (visit.passage options input db).2,
      SafeDispatch options visit.request dispatch) : takesCard options input db visit = false := by
  unfold takesCard
  split
  · rename_i taken
    have reads : ReadsOnly .takeCardPayment := safe _ taken
    rcases reads with same | ⟨call, same⟩
    · cases same
    · cases same
  · rfl

/-- A gate of such a request only looks at its session, and lets it do no more than read. -/
theorem gate_step {visit : Visit} (gate : VisitPoint.AtGate visit.point)
    (safe : ∀ dispatch ∈ (visit.passage options input db).2,
      SafeDispatch options visit.request dispatch) :
    Unharmed db (visit.step options input db).1 ∧
      SafePoint options visit.request (visit.step options input db).2.point := by
  obtain ⟨mid, checked, ⟨awaiting, made, moved⟩ | ⟨passage, made, moved⟩⟩ :=
    Visits.gate_cases options input db visit gate
  all_goals
    rw [made] at safe
    rw [moved]
  · exact ⟨unharmed_of_checked checked, safe _ rfl⟩
  · obtain ⟨same, stands⟩ := harmless_follows (safe _ rfl)
    refine ⟨?_, stands⟩
    change Unharmed db (passage.follow options input mid).1
    rw [same]
    exact unharmed_of_checked checked

/-- A step of a request without its session's token harms nothing, and leaves the request where such
a request may stand. -/
theorem step_safe {request : HttpRequest} (bound : Bound request)
    (untokened : Untokened options request db) (safe : SafePoint options request point) :
    Unharmed db ((⟨request, point⟩ : Visit).step options input db).1 ∧
    SafePoint options request ((⟨request, point⟩ : Visit).step options input db).2.point := by
  cases point with
  | arriving => exact gate_step (.inl rfl) (passage_safe bound untokened safe)
  | awaiting awaiting => exact gate_step (.inr ⟨awaiting, rfl⟩) (passage_safe bound untokened safe)
  | working work =>
    obtain ⟨call, rfl⟩ := safe
    exact getOrder_step options input db call
  | unlocking call => exact safe.elim
  | answered => exact ⟨unharmed_refl db, trivial⟩

theorem follows_safe {request : HttpRequest} (bound : Bound request)
    (follows : Follows options request (Untokened options request) point) :
    SafePoint options request point := by
  induction follows with
  | arriving => trivial
  | step _ untokened safe => exact (step_safe bound untokened safe).2

/-- Every path but two is bound to the token. -/
theorem bound_tokenBound (asks : ¬ (method = "POST" ∧ (path = "/reverse" ∨ path = "/complaint"))) :
    TokenBound method path := by
  rintro closed options request rfl rfl point follows input db untokened
  have bound : Bound request := ⟨closed, asks⟩
  have safe := follows_safe bound follows
  exact ⟨(step_safe bound untokened safe).1,
    takesCard_harmless (passage_safe bound untokened safe)⟩

/-- A form posted without a token, about the sale on record. -/
def untokened (path : String) : HttpRequest where
  method := "POST"
  path := path
  session := some "cookie"
  body := some
    { raw := ""
      form := fun name =>
        if name = "transactionId" then some "sale"
        else if name = "reason" then some "never arrived"
        else if name = "description" then some "never arrived"
        else none
      json := emptyBody }

theorem untokened_meets (path : String) :
    Untokened (plainServer featureFlags) (untokened path) openShop := by
  intro token mem
  simp [carried, untokened, emptyBody] at mem

/-- A reversal is asked for without a token. -/
theorem reverse_unbound : ¬ TokenBound "POST" "/reverse" := by
  intro bound
  have closed : ¬ OpenToAll "POST" "/reverse" := by
    rintro ⟨_, listed | login⟩
    · exact absurd listed (by decide)
    · exact absurd login (by decide)
  obtain ⟨unharmed, _⟩ := bound closed (plainServer featureFlags) (untokened "/reverse") rfl rfl _
    (stepsOn_follows (met "a" 1) (untokened_meets "/reverse") 4) (met "a" 1) openShop
    (untokened_meets "/reverse")
  have filed := unharmed.reversals
  revert filed
  decide +kernel

/-- A complaint opens a case without a token. -/
theorem complaint_unbound : ¬ TokenBound "POST" "/complaint" := by
  intro bound
  have closed : ¬ OpenToAll "POST" "/complaint" := by
    rintro ⟨_, listed | login⟩
    · exact absurd listed (by decide)
    · exact absurd login (by decide)
  obtain ⟨unharmed, _⟩ := bound closed (plainServer featureFlags) (untokened "/complaint") rfl rfl _
    (stepsOn_follows (met "a" 1) (untokened_meets "/complaint") 1) (met "a" 1) openShop
    (untokened_meets "/complaint")
  have opened := unharmed.cases
  revert opened
  decide +kernel

/-- A path is bound to the token exactly when it is not the posting of a reversal request or of a
complaint. -/
theorem tokenBound_iff (method path : String) :
    TokenBound method path ↔
      ¬ (method = "POST" ∧ (path = "/reverse" ∨ path = "/complaint")) := by
  constructor
  · rintro bound ⟨rfl, rfl | rfl⟩
    · exact reverse_unbound bound
    · exact complaint_unbound bound
  · exact bound_tokenBound

/-- Some path is not bound to the token. -/
theorem not_always_tokenBound : ¬ ∀ method path, TokenBound method path :=
  fun always => reverse_unbound (always "POST" "/reverse")

end Telga.Proofs.FormTokens
