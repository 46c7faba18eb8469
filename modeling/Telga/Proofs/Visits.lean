import Telga.Application.PosScreens
import Telga.Proofs.CounterTurns
import Telga.Proofs.DeviceTurns

namespace Telga.Proofs.Visits
open Domain Persistence Application Library

/-- Rows joined again with what was taken from them are the rows. -/
theorem zipWith_taken {f : α → β → α} {g : α → β} (joins : ∀ row, f row (g row) = row)
    (rows : List α) : List.zipWith f rows (rows.map g) = rows := by
  induction rows with
  | nil => rfl
  | cons row rows ih => simp only [List.map_cons, List.zipWith_cons_cons, joins, ih]

/-- Writing back what signing in sees, its sessions and enrolments changed, changes those. -/
theorem withLogin_sessions (db : PosServerDb) (sessions : List LoginSessionRow)
    (deviceEnrollments : List LoginDeviceRow) :
    db.withLogin { db.login with sessions, deviceEnrollments } =
      { db with sessions, deviceEnrollments } := by
  simp only [PosServerDb.withLogin, PosServerDb.login]
  rw [zipWith_taken (fun _ => rfl)]

/-- Writing back what the selling requests see, its shared tables, orders and attempts changed,
changes those. -/
theorem withPos_tables (db : PosServerDb) (base : Db) (pendingOrders : List PendingOrderRow)
    (authAttempts : List AuthAttemptRow) :
    db.withPos { db.pos with toDb := base, pendingOrders, authAttempts } =
      { db with toDb := base, pendingOrders, authAttempts } := by
  simp only [PosServerDb.withPos, PosServerDb.pos]
  rw [zipWith_taken (fun _ => rfl)]

theorem withPos_pos (db : PosServerDb) : db.withPos db.pos = db :=
  withPos_tables db db.toDb db.pendingOrders db.authAttempts

/-- A session as it was before, seen or revoked since, but not signed out. -/
structure SameSession (old row : LoginSessionRow) : Prop where
  facts : row.id = old.id ∧ row.userId = old.userId ∧ row.merchantId = old.merchantId ∧
    row.deviceId = old.deviceId ∧ row.csrfHash = old.csrfHash
  stays : row.revocationReason = some "LOGOUT" → old.revocationReason = some "LOGOUT"

theorem SameSession.refl (row : LoginSessionRow) : SameSession row row :=
  ⟨⟨rfl, rfl, rfl, rfl, rfl⟩, id⟩

theorem SameSession.trans (first : SameSession old mid) (second : SameSession mid row) :
    SameSession old row := by
  obtain ⟨⟨a, b, c, d, e⟩, stays⟩ := first
  obtain ⟨⟨a', b', c', d', e'⟩, stays'⟩ := second
  exact ⟨⟨a'.trans a, b'.trans b, c'.trans c, d'.trans d, e'.trans e⟩, fun out => stays (stays' out)⟩

/-- The session of an id is the same in both, seen or revoked since. -/
def SameFound (sessions sessions' : List LoginSessionRow) : Prop :=
  ∀ id, (sessions'.find? fun row => row.id = id).map
      (fun row => (row.id, row.merchantId, row.deviceId, row.userId)) =
    (sessions.find? fun row => row.id = id).map
      fun row => (row.id, row.merchantId, row.deviceId, row.userId)

theorem sameFound_update {hit : LoginSessionRow → Bool}
    {change : LoginSessionRow → LoginSessionRow} (keeps : ∀ row, SameSession row (change row))
    (rows : List LoginSessionRow) : SameFound rows (update hit change rows) := by
  intro id
  have named : ∀ row, decide ((change row).id = id) = decide (row.id = id) :=
    fun row => by rw [(keeps row).facts.1]
  rw [find?_update named, Option.map_map]
  refine Option.map_congr fun row _ => ?_
  obtain ⟨same, user, merchant, device, _⟩ := (keeps row).facts
  simp only [Function.comp]
  split
  · rw [same, merchant, device, user]
  · rfl

/-- An enrolment as it was before, perhaps seen since. -/
def SameEnrollment (old row : LoginDeviceRow) : Prop :=
  ∃ lastSeenAt updatedAt, row = { old with lastSeenAt, updatedAt }

theorem SameEnrollment.refl (row : LoginDeviceRow) : SameEnrollment row row :=
  ⟨row.lastSeenAt, row.updatedAt, rfl⟩

theorem SameEnrollment.trans (first : SameEnrollment old mid) (second : SameEnrollment mid row) :
    SameEnrollment old row := by
  obtain ⟨_, _, rfl⟩ := first
  obtain ⟨seen, updated, rfl⟩ := second
  exact ⟨seen, updated, rfl⟩

/-- What asking whose a session is may do to the database: sessions are seen or revoked, and their
devices seen. -/
structure Checked (db db' : PosServerDb) : Prop where
  rest : db' = { db with sessions := db'.sessions, deviceEnrollments := db'.deviceEnrollments }
  sessions : ∀ row ∈ db'.sessions, ∃ old ∈ db.sessions, SameSession old row
  found : SameFound db.sessions db'.sessions
  devices : ∀ row ∈ db'.deviceEnrollments, ∃ old ∈ db.deviceEnrollments, SameEnrollment old row

theorem Checked.refl (db : PosServerDb) : Checked db db :=
  ⟨rfl, fun row mem => ⟨row, mem, .refl row⟩, fun _ => rfl, fun row mem => ⟨row, mem, .refl row⟩⟩

theorem Checked.trans (first : Checked db mid) (second : Checked mid db') : Checked db db' := by
  refine ⟨?_, fun row mem => ?_, fun id => (second.found id).trans (first.found id),
    fun row mem => ?_⟩
  · rw [second.rest, first.rest]
  · obtain ⟨between, there, same⟩ := second.sessions row mem
    obtain ⟨old, here, before⟩ := first.sessions between there
    exact ⟨old, here, before.trans same⟩
  · obtain ⟨between, there, same⟩ := second.devices row mem
    obtain ⟨old, here, before⟩ := first.devices between there
    exact ⟨old, here, before.trans same⟩

/-- What authenticating does to the sessions and the devices that signing in sees. -/
structure Looked (db db' : LoginDb) : Prop where
  rest : db' = { db with sessions := db'.sessions, deviceEnrollments := db'.deviceEnrollments }
  sessions : ∀ row ∈ db'.sessions, ∃ old ∈ db.sessions, SameSession old row
  found : SameFound db.sessions db'.sessions
  devices : ∀ row ∈ db'.deviceEnrollments, ∃ old ∈ db.deviceEnrollments, SameEnrollment old row

theorem Looked.refl (db : LoginDb) : Looked db db :=
  ⟨rfl, fun row mem => ⟨row, mem, .refl row⟩, fun _ => rfl, fun row mem => ⟨row, mem, .refl row⟩⟩

theorem looked_sessions (db : LoginDb) {hit : LoginSessionRow → Bool}
    {change : LoginSessionRow → LoginSessionRow} (keeps : ∀ row, SameSession row (change row)) :
    Looked db { db with sessions := update hit change db.sessions } := by
  refine ⟨rfl, fun row mem => ?_, sameFound_update keeps db.sessions,
    fun row mem => ⟨row, mem, .refl row⟩⟩
  obtain ⟨old, there, rfl⟩ := mem_update.mp mem
  refine ⟨old, there, ?_⟩
  split
  · exact keeps old
  · exact .refl old

/-- What ends a session that is not signed out of. -/
theorem code_not_logout (code : AuthFailureCode) : code.text ≠ "LOGOUT" := by
  cases code with
  | _ => decide

theorem looked_revoked (db : LoginDb) (id reason : String) (now : Timestamp)
    (other : reason ≠ "LOGOUT") : Looked db (db.revokeSession id reason now).1 :=
  looked_sessions db fun _ =>
    ⟨⟨rfl, rfl, rfl, rfl, rfl⟩, fun out => absurd (Option.some.inj out) other⟩

theorem looked_noted (db : LoginDb) (id reason : String) (now : Timestamp)
    (other : reason ≠ "LOGOUT") : Looked db (db.noteSessionRejection id reason now) :=
  looked_sessions db fun _ =>
    ⟨⟨rfl, rfl, rfl, rfl, rfl⟩, fun out => absurd (Option.some.inj out) other⟩

theorem looked_renewed (deps : DeviceDeps) (db : LoginDb) (session : LoginSessionRow)
    (now : Timestamp) : Looked db (Proofs.Devices.renewedDb deps db session now) := by
  refine ⟨rfl, fun row mem => ?_, ?_, fun row mem => ?_⟩
  · obtain ⟨old, there, rfl⟩ := mem_update.mp mem
    refine ⟨old, there, ?_⟩
    split
    · exact ⟨⟨rfl, rfl, rfl, rfl, rfl⟩, id⟩
    · exact .refl old
  · apply sameFound_update
    intro row
    exact ⟨⟨rfl, rfl, rfl, rfl, rfl⟩, id⟩
  · obtain ⟨old, there, rfl⟩ := mem_update.mp mem
    refine ⟨old, there, ?_⟩
    split
    · exact ⟨_, _, rfl⟩
    · exact .refl old

/-- Authenticating looks at the sessions and the devices, and at nothing else. -/
theorem authenticate_looked (deps : DeviceDeps) (db : LoginDb) (token : Option String)
    (extendIdle : Bool) (now : Timestamp) :
    Looked db (Devices.authenticate deps db token extendIdle now).1 := by
  unfold Devices.authenticate
  cases token with
  | none => exact .refl db
  | some token =>
    simp only []
    split
    · exact .refl db
    · split
      · exact .refl db
      · split
        · exact looked_noted db _ _ now (code_not_logout _)
        · split
          · unfold Devices.rejectSession
            split
            · exact looked_revoked db _ _ now (code_not_logout _)
            · exact .refl db
          · rename_i session _ _ _ _ _
            unfold Devices.admitSession
            split
            · exact .refl db
            · split
              · exact .refl db
              · split
                · exact .refl db
                · split
                  · exact looked_revoked db _ _ now (code_not_logout _)
                  · split
                    · exact looked_revoked db _ _ now (by decide)
                    · simp only []
                      split
                      · exact looked_renewed deps db session now
                      · exact .refl db

theorem checked_of_looked {db : PosServerDb} {login : LoginDb} (looked : Looked db.login login) :
    Checked db (db.withLogin login) := by
  obtain ⟨rest, sessions, found, devices⟩ := looked
  have same := withLogin_sessions db login.sessions login.deviceEnrollments
  rw [← rest] at same
  rw [same]
  exact ⟨rfl, sessions, found, devices⟩

/-- Whom a session's cookie admits: the live session it names. -/
structure Admits (options : PosServerOptions) (db : PosServerDb) (session : Option String)
    (context : AuthContext) : Prop where
  named : session.map options.sha256 = some context.sessionId
  found : ∃ row, db.findSession context.sessionId = some row ∧ row.status = .active ∧
    context.userId = row.userId ∧ context.merchantId = row.merchantId ∧
    context.deviceId = row.deviceId

theorem usable_active (usable : sessionRejection (some session) now = none) :
    session.status = .active := by
  cases status : session.status with
  | active => rfl
  | revoked => simp [sessionRejection, status] at usable

theorem authenticate_named {deps : DeviceDeps} {db db' : LoginDb} {token : Option String}
    (done : Devices.authenticate deps db token extendIdle now = (db', .admitted context)) :
    token.map deps.tokenFingerprint = some context.sessionId := by
  unfold Devices.authenticate at done
  cases token with
  | none => cases done
  | some token =>
    simp only [] at done
    split at done
    · cases done
    · split at done
      · cases done
      · rename_i session found
        split at done
        · cases done
        · split at done
          · unfold Devices.rejectSession at done
            split at done
            all_goals cases done
          · unfold Devices.admitSession at done
            have named : session.id = deps.tokenFingerprint token := by
              simpa using List.find?_some found
            repeat' split at done
            all_goals cases done
            all_goals exact congrArg Option.some named.symm

/-- Asking whose a session is checks the database, and answers with whom its cookie admits. -/
theorem authenticate_checked (options : PosServerOptions) (db : PosServerDb)
    (session : Option String) (extendIdle : Bool) (now : Timestamp) :
    Checked db (PosServer.authenticate options db session extendIdle now).1 ∧
    ∀ context, (PosServer.authenticate options db session extendIdle now).2 = some context →
      Admits options db session context := by
  have looked := authenticate_looked options.devices db.login session extendIdle now
  have outcome := Devices.authenticate_cases options.devices db.login session extendIdle now
  unfold PosServer.authenticate
  cases result : Application.Devices.authenticate options.devices db.login session extendIdle
    now with
  | mk login answer =>
    rw [result] at looked outcome
    cases answer with
    | refused code => exact ⟨checked_of_looked looked, by rintro _ ⟨⟩⟩
    | threw fault => exact ⟨checked_of_looked looked, by rintro _ ⟨⟩⟩
    | admitted admitted =>
      refine ⟨checked_of_looked looked, ?_⟩
      rintro context ⟨⟩
      have named := authenticate_named result
      rcases outcome with ⟨_, code, ⟨⟩⟩ | ⟨row, admissible, same⟩
      cases same
      exact ⟨named, row, admissible.found, usable_active admissible.usable, rfl, rfl, rfl⟩

/-- The session a request's cookie names. -/
def cookieContext (options : PosServerOptions) (db : PosServerDb) (session : Option String) :
    Option AuthContext :=
  session.bind fun token =>
    (db.findSession (options.sha256 token)).map fun row =>
      ⟨row.id, row.merchantId, row.deviceId, row.userId⟩

/-- Whom a cookie admits is whom it names. -/
theorem Admits.cookie (admits : Admits options db session context) :
    cookieContext options db session = some context := by
  obtain ⟨named, row, found, _, user, merchant, device⟩ := admits
  obtain ⟨token, rfl, hashed⟩ := Option.map_eq_some_iff.mp named
  have own : row.id = context.sessionId := by simpa using List.find?_some found
  simp only [cookieContext, Option.bind_some, hashed, found, Option.map_some, ← merchant, ← device,
    ← user, own]

/-- Looking at sessions changes none that a cookie names. -/
theorem Checked.cookie (checked : Checked db db') (options : PosServerOptions)
    (session : Option String) :
    cookieContext options db' session = cookieContext options db session := by
  cases session with
  | none => rfl
  | some token =>
    have same := checked.found (options.sha256 token)
    have named : ∀ sessions : List LoginSessionRow,
        (sessions.find? fun row => row.id = options.sha256 token).map
          (fun row => (⟨row.id, row.merchantId, row.deviceId, row.userId⟩ : AuthContext)) =
        ((sessions.find? fun row => row.id = options.sha256 token).map
          fun row => (row.id, row.merchantId, row.deviceId, row.userId)).map
            fun facts => ⟨facts.1, facts.2.1, facts.2.2.1, facts.2.2.2⟩ := by
      intro sessions
      rw [Option.map_map]
      rfl
    exact (named db'.sessions).trans ((congrArg _ same).trans (named db.sessions).symm)

/-- A route that was found is one of the table's, for the request's method and path. -/
theorem findRoute_mem {table : List Route} {route : Route} {params : List String}
    (found : findRoute decode method path table = .ok (some (route, params))) :
    route ∈ table ∧ route.method = method ∧
      matchPattern decode route.pattern.toList path = .ok (some params) := by
  induction table with
  | nil => cases found
  | cons first more ih =>
    unfold findRoute at found
    cases matched : matchPattern decode first.pattern.toList path with
    | error _ =>
      rw [matched] at found
      cases found
    | ok outcome =>
      rw [matched] at found
      cases outcome with
      | none =>
        obtain ⟨mem, rest⟩ := ih found
        exact ⟨List.mem_cons_of_mem _ mem, rest⟩
      | some values =>
        change (if first.method = method then _ else _) = _ at found
        split at found
        · rename_i same
          cases found
          exact ⟨List.mem_cons_self, same, matched⟩
        · obtain ⟨mem, rest⟩ := ih found
          exact ⟨List.mem_cons_of_mem _ mem, rest⟩

theorem splitPath_ne_nil (path : List Char) : splitPath path ≠ [] := by
  cases path with
  | nil => simp [splitPath]
  | cons c rest =>
    unfold splitPath
    split
    · simp
    · split
      all_goals simp

/-- The slashes put back between its segments, a path is what it was. -/
theorem splitPath_join (path : List Char) : List.intercalate ['/'] (splitPath path) = path := by
  induction path with
  | nil => rfl
  | cons c rest ih =>
    unfold splitPath
    split
    · rename_i slash
      subst slash
      cases segments : splitPath rest with
      | nil => exact absurd segments (splitPath_ne_nil rest)
      | cons first more =>
        rw [segments] at ih
        rw [← ih]
        rfl
    · cases segments : splitPath rest with
      | nil => exact absurd segments (splitPath_ne_nil rest)
      | cons first more =>
        rw [segments] at ih
        rw [← ih]
        cases more with
        | nil => rfl
        | cons _ _ => rfl

theorem splitPath_inj (same : splitPath path = splitPath other) : path = other := by
  rw [← splitPath_join path, same, splitPath_join other]

/-- A path is passed on without its trailing slash, or as it is. -/
theorem normalizePath_prefix (path : List Char) : normalizePath path <+: path := by
  unfold normalizePath
  split
  · exact List.dropLast_prefix path
  · exact List.prefix_rfl

/-- A path that goes another way does not lead there. -/
theorem elsewhere {path target : List Char} (i : Nat) (far : i < target.length)
    (other : path[i]? ≠ target[i]?) : normalizePath path ≠ target := by
  intro same
  have start := normalizePath_prefix path
  rw [same] at start
  obtain ⟨rest, rfl⟩ := start
  exact other (List.getElem?_append_left far)

/-- A pattern without a parameter is matched by itself alone. -/
theorem matchSegments_plain {pattern path : List (List Char)} {params : List String}
    (plain : ∀ segment ∈ pattern, segment.head? ≠ some ':')
    (matched : matchSegments decode pattern path = .ok (some params)) : path = pattern := by
  induction pattern generalizing path params with
  | nil =>
    cases path with
    | nil => rfl
    | cons _ _ => cases matched
  | cons segment pattern ih =>
    have rest := fun other mem => plain other (List.mem_cons_of_mem segment mem)
    have own := plain segment List.mem_cons_self
    cases path with
    | nil =>
      unfold matchSegments at matched
      split at matched
      all_goals simp_all
    | cons value path =>
      unfold matchSegments at matched
      split at matched
      · simp_all
      · simp_all
      · rename_i one two three four _ left right
        cases left
        cases right
        split at matched
        · rename_i same
          rw [same, ih rest matched]
        · cases matched
      · cases matched

/-- A pattern that holds no parameter. -/
theorem matchPattern_plain {pattern path : List Char} {params : List String}
    (plain : ∀ segment ∈ splitPath pattern, segment.head? ≠ some ':')
    (matched : matchPattern decode pattern path = .ok (some params)) : path = pattern := by
  unfold matchPattern at matched
  split at matched
  · exact splitPath_inj (matchSegments_plain plain matched)
  · cases matched

/-- A request the API lets through: by a route of its method and path, past everything the route
asks, to what the route's handler goes on to do. -/
structure Passed (options : PosServerOptions) (input : ServerInput) (db db' : PosServerDb)
    (request : ApiRequest) (route : Route) (context : AuthContext)
    (act : Application.Act) : Prop where
  found : ∃ params, findRoute options.decodeURIComponent request.method
      (normalizePath request.path.toList) routes = .ok (some (route, params)) ∧
    route.handler.act options db' input context request params = some act
  admits : Admits options db request.session context
  allowed : ∃ permission, route.permission = some permission ∧
    mayPass options db' request route permission context (input.now 0) = true

/-- The route of what is let through is one of the table's, for the request's method and path. -/
theorem Passed.listed {route : Route} {act : Application.Act}
    (passed : Passed options input db db' request route context act) :
    route ∈ routes ∧ route.method = request.method ∧ ∃ params,
      matchPattern options.decodeURIComponent route.pattern.toList
        (normalizePath request.path.toList) = .ok (some params) := by
  obtain ⟨params, found, _⟩ := passed.found
  obtain ⟨listed, method, matched⟩ := findRoute_mem found
  exact ⟨listed, method, params, matched⟩

/-- The API answers a request, lets anyone sign in, or lets a session's request through. -/
theorem handle_cases (options : PosServerOptions) (input : ServerInput) (db : PosServerDb)
    (request : ApiRequest) :
    Checked db (handle options input db request).1 ∧
    ((handle options input db request).2 = .answered ∨
      (∃ login route params,
        findRoute options.decodeURIComponent request.method (normalizePath request.path.toList)
          routes = .ok (some (route, params)) ∧ route.handler = .postLogin ∧
        (handle options input db request).2 =
          .anyone (.signIn { request := login, point := .begin })) ∨
      ∃ route context act,
        Passed options input db (handle options input db request).1 request route context act ∧
        (handle options input db request).2 = .admitted context act) := by
  unfold handle
  cases found : findRoute options.decodeURIComponent request.method
    (normalizePath request.path.toList) routes with
  | error _ => exact ⟨.refl db, .inl rfl⟩
  | ok outcome =>
    cases outcome with
    | none => exact ⟨.refl db, .inl rfl⟩
    | some found' =>
      obtain ⟨route, params⟩ := found'
      simp only []
      cases permission : route.permission with
      | none =>
        simp only []
        split
        · rename_i login own _
          split
          · exact ⟨.refl db, .inl rfl⟩
          · exact ⟨.refl db, .inr (.inl ⟨_, route, params, rfl, own, rfl⟩)⟩
        · exact ⟨.refl db, .inl rfl⟩
      | some permission' =>
        have checked := authenticate_checked options db request.session (¬ request.background)
          (input.now 0)
        simp only [PosServer.guard]
        cases asked : PosServer.authenticate options db request.session (¬ request.background)
          (input.now 0) with
        | mk db' admitted =>
          rw [asked] at checked
          obtain ⟨checked, admits⟩ := checked
          cases admitted with
          | none => exact ⟨checked, .inl rfl⟩
          | some context =>
            have own := admits context rfl
            simp only []
            split
            · rename_i refused
              split at refused
              · cases refused
              · cases refused
                exact ⟨checked, .inl rfl⟩
            · rename_i allowed
              split at allowed
              · rename_i may
                cases allowed
                split
                · exact ⟨checked, .inl rfl⟩
                · rename_i act acts
                  exact ⟨checked, .inr (.inr ⟨route, context, act,
                    ⟨⟨params, found, acts⟩, own, permission', permission, may⟩,
                    rfl⟩)⟩
              · cases allowed

/-- What the API lets through for a session has passed its gate. -/
theorem handle_admitted {request : ApiRequest} {act : Application.Act}
    (passes : (handle options input db request).2 = .admitted context act) :
    ∃ route, Passed options input db (handle options input db request).1 request route context
      act := by
  obtain ⟨_, answered | ⟨_, _, _, _, _, signIn⟩ | ⟨route, own, did, passed, admitted⟩⟩ :=
    handle_cases options input db request
  · rw [passes] at answered
    cases answered
  · rw [passes] at signIn
    cases signIn
  · rw [passes] at admitted
    cases admitted
    exact ⟨route, passed⟩

theorem handle_checked (options : PosServerOptions) (input : ServerInput) (db : PosServerDb)
    (request : ApiRequest) : Checked db (handle options input db request).1 :=
  (handle_cases options input db request).1

theorem openScreen_checked (options : PosServerOptions) (input : ServerInput) (db : PosServerDb)
    (request : HttpRequest) (context : AuthContext) (form : Option ScreenForm) :
    Checked db (openScreen options input db request context form).1 := by
  unfold openScreen
  cases form with
  | some screen =>
    simp only []
    split
    · exact .refl db
    · exact .refl db
  | none =>
    simp only []
    split
    · rename_i orderId _
      have checked := handle_checked options input db (request.handOn "GET"
        ("/api/training/orders/" ++ orderId) emptyBody)
      generalize handle options input db _ = handled at checked ⊢
      exact checked
    · exact .refl db

theorem sessionRoute_checked (options : PosServerOptions) (input : ServerInput) (db : PosServerDb)
    (request : HttpRequest) (context : AuthContext) :
    Checked db (sessionRoute options input db request context).1 := by
  simp only [sessionRoute]
  generalize (if request.method = "POST" then formOf request.path.toList else none) = form
  split
  · exact .refl db
  split
  · exact .refl db
  split
  · exact .refl db
  split
  · exact .refl db
  · exact openScreen_checked options input db request context form

theorem route_checked (options : PosServerOptions) (input : ServerInput) (db : PosServerDb)
    (request : HttpRequest) : Checked db (route options input db request).1 := by
  unfold route
  split
  · exact .refl db
  split
  · split
    · exact .refl db
    · have checked := handle_checked options input db (request.toApi emptyBody)
      generalize handle options input db (request.toApi emptyBody) = handled at checked ⊢
      exact checked
  split
  · exact .refl db
  split
  · exact .refl db
  split
  · exact .refl db
  split
  · exact .refl db
  · have checked := (authenticate_checked options db request.session true (input.now 0)).1
    cases asked : PosServer.authenticate options db request.session true (input.now 0) with
    | mk db' admitted =>
      rw [asked] at checked
      cases admitted with
      | none => exact checked
      | some context =>
        exact checked.trans (sessionRoute_checked options input db' request context)

theorem resume_checked (options : PosServerOptions) (input : ServerInput) (db : PosServerDb)
    (request : HttpRequest) (body : ReceivedBody) (awaiting : Awaiting) :
    Checked db (resume options input db request body awaiting).1 := by
  cases awaiting with
  | api => exact handle_checked options input db (request.toApi body.json)
  | form screen context =>
    simp only [resume, formPassage]
    split
    · exact handle_checked options input db _
    · split
      · exact .refl db
      · split
        · exact .refl db
        · exact .refl db
  | _ => exact .refl db

/-- A gate only looks at the session. -/
theorem passage_checked (options : PosServerOptions) (input : ServerInput) (db : PosServerDb)
    (visit : Visit) : Checked db (visit.passage options input db).1 := by
  unfold Visit.passage
  split
  · exact route_checked options input db visit.request
  · split
    · exact .refl db
    · exact resume_checked options input db visit.request _ _
  · exact .refl db

/-- How a gate comes to let a request through for a session, and to what. -/
inductive LetThrough (options : PosServerOptions) (input : ServerInput) (db : PosServerDb)
    (request : HttpRequest) : VisitPoint → AuthContext → Application.Act → Prop
  | called : startsWith request.path.toList "/api/".toList = true → request.method ≠ "POST" →
      (handle options input db (request.toApi emptyBody)).2 = .admitted context act →
      LetThrough options input db request .arriving context act
  | paged (mid : PosServerDb) (first : AuthContext) (orderId : String) : Checked db mid →
      Admits options db request.session first →
      screenIsLocked options.till mid.till first.till (input.now 0) = false →
      (handle options input mid
        (request.handOn "GET" ("/api/training/orders/" ++ orderId) emptyBody)).2 =
        .admitted context act →
      LetThrough options input db request .arriving context act
  | shown (mid : PosServerDb) : Checked db mid → Admits options db request.session context →
      screenIsLocked options.till mid.till context.till (input.now 0) = false →
      LetThrough options input db request .arriving context .show
  | posted : request.body = some body →
      (handle options input db (request.toApi body.json)).2 = .admitted context act →
      LetThrough options input db request (.awaiting .api) context act
  | carded : request.body = some body →
      csrfMatches options db context.sessionId (body.form "csrfToken") = true →
      LetThrough options input db request (.awaiting (.card context)) context .takeCardPayment
  | locking : request.body = some body →
      csrfMatches options db context.sessionId (body.form "csrfToken") = true →
      LetThrough options input db request (.awaiting (.lock context)) context .lock
  | unlocking : request.body = some body →
      csrfMatches options db context.sessionId (body.form "csrfToken") = true →
      LetThrough options input db request (.awaiting (.unlock context)) context
        (.unlock ((body.form "pin").getD ""))
  | handedOn : request.body = some body → form.apiCall options body.form = some (path, json) →
      (handle options input db (request.handOn "POST" path json)).2 = .admitted context act →
      LetThrough options input db request (.awaiting (.form form waiting)) context act
  | own : request.body = some body → form.ownAct options db context body.form = some act →
      LetThrough options input db request (.awaiting (.form form context)) context act

theorem openScreen_letThrough {form : Option ScreenForm}
    (made : (openScreen options input mid request first form).2 =
      .decided (.admitted context act))
    (checked : Checked db mid) (admits : Admits options db request.session first)
    (unlocked : screenIsLocked options.till mid.till first.till (input.now 0) = false) :
    LetThrough options input db request .arriving context act := by
  unfold openScreen at made
  cases form with
  | some screen =>
    simp only [] at made
    split at made
    · cases made
    · cases made
  | none =>
    simp only [] at made
    split at made
    · rename_i orderId _
      refine .paged mid first orderId checked admits unlocked ?_
      generalize handle options input mid _ = handled at made ⊢
      exact Dispatch.decided.inj made
    · cases made
      exact .shown mid checked admits unlocked

theorem sessionRoute_letThrough
    (made : (sessionRoute options input mid request first).2 = .decided (.admitted context act))
    (checked : Checked db mid) (admits : Admits options db request.session first) :
    LetThrough options input db request .arriving context act := by
  simp only [sessionRoute] at made
  generalize (if request.method = "POST" then formOf request.path.toList else none) = form at made
  split at made
  · cases made
  split at made
  · cases made
  split at made
  · cases made
  split at made
  · cases made
  · rename_i unlocked
    by_cases logout : form = some .logout
    · rw [logout] at made
      simp [openScreen] at made
    · exact openScreen_letThrough made checked admits (by simpa [logout] using unlocked)

theorem route_letThrough
    (made : (route options input db request).2 = .decided (.admitted context act)) :
    LetThrough options input db request .arriving context act := by
  unfold route at made
  split at made
  · cases made
  split at made
  · rename_i api
    split at made
    · cases made
    · rename_i get
      refine .called api get ?_
      generalize handle options input db (request.toApi emptyBody) = handled at made ⊢
      exact Dispatch.decided.inj made
  split at made
  · cases made
  split at made
  · cases made
  split at made
  · cases made
  split at made
  · cases made
  · have checked := authenticate_checked options db request.session true (input.now 0)
    cases asked : PosServer.authenticate options db request.session true (input.now 0) with
    | mk mid admitted =>
      rw [asked] at made checked
      obtain ⟨checked, admits⟩ := checked
      cases admitted with
      | none => cases made
      | some first => exact sessionRoute_letThrough made checked (admits first rfl)

theorem resume_letThrough (there : request.body = some body)
    (made : (resume options input db request body awaiting).2 = .admitted context act) :
    LetThrough options input db request (.awaiting awaiting) context act := by
  cases awaiting with
  | api => exact .posted there made
  | login | activate | register => cases made
  | card waiting =>
    simp only [resume] at made
    split at made
    · rename_i token
      cases made
      exact .carded there token
    · cases made
  | lock waiting =>
    simp only [resume] at made
    split at made
    · rename_i token
      cases made
      exact .locking there token
    · cases made
  | unlock waiting =>
    simp only [resume] at made
    split at made
    · rename_i token
      cases made
      exact .unlocking there token
    · cases made
  | form screen waiting =>
    simp only [resume, formPassage] at made
    split at made
    · rename_i handed
      exact .handedOn there handed made
    · split at made
      · unfold deliveryPassage at made
        split at made
        · cases made
        · cases made
      · split at made
        · rename_i acts
          cases made
          exact .own there acts
        · cases made

theorem passage_letThrough {visit : Visit}
    (made : (visit.passage options input db).2 = some (.decided (.admitted context act))) :
    LetThrough options input db visit.request visit.point context act := by
  obtain ⟨request, point⟩ := visit
  unfold Visit.passage at made
  cases point with
  | arriving => exact route_letThrough (Option.some.inj made)
  | awaiting awaiting =>
    simp only [] at made
    cases there : request.body with
    | none =>
      rw [there] at made
      cases made
    | some body =>
      rw [there] at made
      exact resume_letThrough there (Dispatch.decided.inj (Option.some.inj made))
  | working | unlocking | answered => cases made

/-- A request that stands at a gate. -/
def VisitPoint.AtGate (point : VisitPoint) : Prop :=
  point = .arriving ∨ ∃ awaiting, point = .awaiting awaiting

/-- What a step at a gate comes to: the request waits for its body, or the gate's decision is
followed. -/
theorem gate_cases (options : PosServerOptions) (input : ServerInput) (db : PosServerDb)
    (visit : Visit) (gate : VisitPoint.AtGate visit.point) : ∃ mid, Checked db mid ∧
    ((∃ awaiting, visit.passage options input db = (mid, some (.awaits awaiting)) ∧
      visit.step options input db = (mid, visit.at (.awaiting awaiting))) ∨
    ∃ passage, visit.passage options input db = (mid, some (.decided passage)) ∧
      visit.step options input db = (passage.follow options input mid).map id visit.at) := by
  have checked := passage_checked options input db visit
  have decides : ∀ {mid passage}, visit.passage options input db = (mid, some (.decided passage)) →
      visit.step options input db = (passage.follow options input mid).map id visit.at := by
    intro mid passage made
    obtain ⟨request, point⟩ := visit
    rcases gate with same | ⟨awaiting, same⟩
    all_goals
      cases same
      simp only [Visit.step, made]
  have awaits : ∀ {mid awaiting}, visit.passage options input db = (mid, some (.awaits awaiting)) →
      visit.step options input db = (mid, visit.at (.awaiting awaiting)) := by
    intro mid passage made
    obtain ⟨request, point⟩ := visit
    rcases gate with same | ⟨awaiting, same⟩
    all_goals
      cases same
      simp only [Visit.step, made]
  have decided : (visit.passage options input db).2 ≠ none := by
    obtain ⟨request, point⟩ := visit
    rcases gate with same | ⟨awaiting, same⟩
    all_goals
      cases same
      simp only [Visit.passage]
    · simp
    · split
      · simp
      · simp
  cases made : visit.passage options input db with
  | mk mid dispatch =>
    rw [made] at checked decided
    cases dispatch with
    | none => exact absurd rfl decided
    | some dispatch =>
      cases dispatch with
      | awaits awaiting => exact ⟨mid, checked, .inl ⟨awaiting, rfl, awaits made⟩⟩
      | decided passage => exact ⟨mid, checked, .inr ⟨passage, rfl, decides made⟩⟩

/-- Where one request may come to stand, whatever happens to the database between its steps, as long
as the database is one of those it meets. -/
inductive Follows (options : PosServerOptions) (request : HttpRequest)
    (meets : PosServerDb → Prop) : VisitPoint → Prop
  | arriving : Follows options request meets .arriving
  | step : Follows options request meets point → meets db →
      Follows options request meets ((⟨request, point⟩ : Visit).step options input db).2.point

/-- Where a request stands after some steps, each of which meets the same. -/
def stepsOn (options : PosServerOptions) (input : ServerInput) (db : PosServerDb)
    (request : HttpRequest) : Nat → VisitPoint
  | 0 => .arriving
  | n + 1 =>
    ((⟨request, stepsOn options input db request n⟩ : Visit).step options input db).2.point

theorem stepsOn_follows {request : HttpRequest} (input : ServerInput) (there : meets db) (n : Nat) :
    Follows options request meets (stepsOn options input db request n) := by
  induction n with
  | zero => exact .arriving
  | succ n ih => exact ih.step there

/-- A step of the requests to a server, each of which starts where it arrives. -/
abbrev ServerStep (options : PosServerOptions) :=
  Pool (screenServer options) (fun _ visit => visit.point = .arriving) fun _ _ _ => True

abbrev ServerWorld := World PosServerDb Visit

abbrev ServerTaken := Taken ServerWorld (Event ServerInput Visit)

/-- A server that has just been started, on any database. -/
def JustStarted (w : ServerWorld) : Prop :=
  w.procs = [] ∧ w.store.unlockedAt = []

/-- A visit takes a step of a run, and the run's next state is what it leaves. -/
theorem server_step {w w' : ServerWorld} (step : ServerStep options w event w') :
    (w'.store = w.store ∧ ∀ slot input, event ≠ .act slot input) ∨
    ∃ slot input visit, event = .act slot input ∧ w.proc slot = some visit ∧
      w'.store = (visit.step options input w.store).1 := by
  rcases Pool.acted step with idle | ⟨slot, input, visit, event, here, _, left⟩
  · exact .inl idle
  · exact .inr ⟨slot, input, visit, event, here, by rw [left]; rfl⟩

/-- A training server, its flags assigned. -/
def plainServer (flags : Flags) : PosServerOptions where
  toPinDeps := trainingOptions
  flags := flags
  sha256 text := "hash:" ++ text
  lockout := trainingLockoutPolicy
  lasting := trainingLockout_lasts
  session := ⟨15 * 60000, 8 * 3600000⟩
  saleRateWindowMs := 30000
  maxSalesPerWindow := 30
  topups := trainingTopupPolicy
  secretKey := "key"
  chapaConfigured := true
  hmacSha256 _ _ := ""
  parseJson _ := none
  toUpperCase text := text
  toSafeInteger _ := none
  birrToMinor text := if text = "100" then some 10000 else none
  percentToBps _ := none
  decodeURIComponent text := some text

/-- What a step meets, its ids drawn under a tag. -/
def met (tag : String) (now : Timestamp) : ServerInput where
  toPinInput := attended tag now
  newReference _ := "reference" ++ tag
  initialized := .started "checkout"
  verified := .notFound
  sessionToken := "token" ++ tag
  csrfToken := "csrf" ++ tag
  deviceSecret := "device" ++ tag

/-- Ten birr of airtime sold at the till. -/
def soldAirtime : TransactionRow where
  id := "sale"
  merchantId := "shop"
  deviceId := "till"
  operatorId := "cashier"
  productType := "AIRTIME_10"
  providerId := some "provider_simulated"
  amount := ⟨1000, safe_thousand⟩
  recipientMasked := "09******44"
  state := .successful
  idempotencyKey := "key"
  payloadFingerprint := "fingerprint"
  providerReference := none
  createdAt := 0
  updatedAt := 0

/-- A shop with a sale on record, its owner signed in at the till. -/
def openShop : PosServerDb where
  toDb := { twoShops with transactions := [soldAirtime] }
  depositReferences := []
  depositLookups := []
  adminUsers := []
  topupOrders := []
  fundingSubmissions := []
  merchantUsers :=
    [{ id := "cashier", merchantId := "shop", active := true, lockedUntil := none
       role := .merchantOwner, pin := ⟨"1234", "", ""⟩ }]
  deviceEnrollments :=
    [{ deviceId := "till", merchantId := "shop", state := .enrolled, expiresAt := none
       updatedAt := 0, secretHash := "key", secretSalt := "" }]
  sessions :=
    [{ id := "hash:cookie", userId := "cashier", merchantId := "shop", deviceId := "till"
       status := .active, idleExpiresAt := 900000, absoluteExpiresAt := 28800000, lastSeenAt := 0
       role := .merchantOwner, csrfHash := "hash:csrf", createdAt := 0 }]
  authAttempts := []
  pendingOrders := []
  settings := []
  customers := []
  shifts := []
  complaintReviews := []
  unlockedAt := []

/-- The same shop, with a hundred birr in its float. -/
def fundedShop : PosServerDb :=
  { openShop with
    toDb := (float.step (drawing "float" .confirmedSuccess .success 0) openShop.pos).1.toDb }

/-- Requests that arrive, and the steps they take: whose it is, and when. -/
def visits (requests : List HttpRequest) (acts : List (Nat × Timestamp)) :
    List (Event ServerInput Visit) :=
  requests.map (fun request => .start ⟨request, .arriving⟩) ++
    acts.map fun act => .act act.1 (met "a" act.2)

def visitsPlayed (flags : Flags) (db : PosServerDb) (events : List (Event ServerInput Visit)) :
    List ServerTaken × ServerWorld :=
  played (World.next (screenServer (plainServer flags))) events [] ⟨db, []⟩

/-- The steps of processes that live may be played. -/
theorem playable_acts {machine : Machine σ ι π} {acts : List (Nat × ι)} {w : World σ π}
    (alive : ∀ held ∈ w.procs, held ≠ none) (within : ∀ act ∈ acts, act.1 < w.procs.length) :
    Playable (World.May (fun _ _ => True) fun _ _ _ => True) (World.next machine)
      (acts.map fun act => .act act.1 act.2) w := by
  induction acts generalizing w with
  | nil => trivial
  | cons act acts ih =>
    obtain ⟨own, others⟩ := List.forall_mem_cons.mp within
    obtain ⟨p, here⟩ : ∃ p, w.proc act.1 = some p := by
      have held : w.procs[act.1]? = some w.procs[act.1] := List.getElem?_eq_getElem own
      cases there : w.procs[act.1] with
      | none => exact absurd there (alive _ (List.getElem_mem own))
      | some p => exact ⟨p, by rw [World.proc, held, there]; rfl⟩
    refine ⟨?_, ?_⟩
    · simp only [World.May, here]
    · simp only [World.next, here]
      apply ih
      · intro held mem
        rcases List.mem_or_eq_of_mem_set mem with mem | rfl
        · exact alive held mem
        · rintro ⟨⟩
      · intro other mem
        rw [List.length_set]
        exact others other mem

theorem playable_starts {machine : Machine σ ι π} {starts : List π} {events : List (Event ι π)}
    {w : World σ π}
    (rest : Playable (World.May (fun _ _ => True) fun _ _ _ => True) (World.next machine) events
      { w with procs := w.procs ++ starts.map some }) :
    Playable (World.May (fun _ _ => True) fun _ _ _ => True) (World.next machine)
      (starts.map .start ++ events) w := by
  induction starts generalizing w with
  | nil =>
    rw [List.map_nil, List.append_nil] at rest
    exact rest
  | cons p starts ih =>
    refine ⟨trivial, ih ?_⟩
    simp only [World.next]
    rw [List.append_assoc]
    exact rest

/-- Requests that arrive and take steps make a run of a server. -/
theorem visitsPlayed_run {requests : List HttpRequest} {acts : List (Nat × Timestamp)}
    (empty : db.unlockedAt = []) (within : ∀ act ∈ acts, act.1 < requests.length) :
    Run JustStarted (ServerStep (plainServer flags))
      (visitsPlayed flags db (visits requests acts)).1
      (visitsPlayed flags db (visits requests acts)).2 := by
  have opening : Run JustStarted (ServerStep (plainServer flags)) [] ⟨db, []⟩ :=
    .start ⟨rfl, empty⟩
  have playable : Playable (World.May (fun _ _ => True) fun _ _ _ => True)
      (World.next (screenServer (plainServer flags))) (visits requests acts) ⟨db, []⟩ := by
    have events : visits requests acts =
        (requests.map fun request => (⟨request, .arriving⟩ : Visit)).map .start ++
          (acts.map fun act => (act.1, met "a" act.2)).map fun act => .act act.1 act.2 := by
      rw [List.map_map, List.map_map]
      rfl
    rw [events]
    apply playable_starts
    apply playable_acts
    · intro held mem
      rw [List.nil_append] at mem
      obtain ⟨_, _, rfl⟩ := List.mem_map.mp mem
      rintro ⟨⟩
    · intro act mem
      obtain ⟨own, there, rfl⟩ := List.mem_map.mp mem
      simpa using within own there
  refine opening.play Pool.next (playable_admits ?_ playable)
  intro visit mem _
  rcases List.mem_append.mp mem with mem | mem
  · obtain ⟨_, _, same⟩ := List.mem_map.mp mem
    cases same
    rfl
  · obtain ⟨_, _, same⟩ := List.mem_map.mp mem
    cases same

/-- Ten birr of airtime asked for through the API. -/
def saleCall : HttpRequest where
  method := "POST"
  path := "/api/training/sales"
  session := some "cookie"
  csrfHeader := some "csrf"
  body := some
    { raw := ""
      form := fun _ => none
      json :=
        { text := fun name =>
            if name = "productId" then some "AIRTIME_10"
            else if name = "recipient" then some "0911223344"
            else if name = "clientRequestId" then some "request"
            else none
          number := fun name => if name = "amountMinor" then some (some 1000) else none
          birr := fun _ => none } }

end Telga.Proofs.Visits
