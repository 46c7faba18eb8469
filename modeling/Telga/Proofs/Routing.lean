import Telga.Application.ApiRouter
import Telga.Proofs.Visits

namespace Telga.Proofs.Routing
open Domain Persistence Library Application Application.ApiRouter

variable {decode : String → Option String} {segment value : List Char}
  {pattern segments : List (List Char)} {path : List Char} {route : Route}

/-- A segment of a pattern takes a segment of a path: a parameter anything that can be decoded,
other text itself. -/
def Takes (decode : String → Option String) (segment value : List Char) : Prop :=
  if segment.head? = some ':' then value ≠ [] ∧ (decode (String.ofList value)).isSome = true
  else segment = value

theorem takes_param {name : List Char} : Takes decode (':' :: name) value ↔
    value ≠ [] ∧ (decode (String.ofList value)).isSome = true := by
  simp [Takes]

theorem takes_text (other : segment.head? ≠ some ':') :
    Takes decode segment value ↔ segment = value := by
  simp [Takes, other]

/-- A path comes to a parameter that it cannot be decoded for. -/
def Undecodable (decode : String → Option String) (pattern segments : List (List Char)) : Prop :=
  ∃ before name after front value rest,
    pattern = before ++ (':' :: name) :: after ∧ segments = front ++ value :: rest ∧
    List.Forall₂ (Takes decode) before front ∧ value ≠ [] ∧ decode (String.ofList value) = none

theorem match_other (other : segment.head? ≠ some ':') :
    matchSegments decode (segment :: pattern) (value :: segments) =
      if segment = value then matchSegments decode pattern segments else .ok none := by
  cases segment with
  | nil => rw [matchSegments]; simp
  | cons head tail =>
    have differs : head ≠ ':' := by
      intro same
      exact other (by rw [same]; rfl)
    rw [matchSegments]
    intro name same
    cases same
    exact differs rfl

theorem Undecodable.cons (takes : Takes decode segment value)
    (undecodable : Undecodable decode pattern segments) :
    Undecodable decode (segment :: pattern) (value :: segments) := by
  obtain ⟨before, name, after, front, own, rest, rfl, rfl, taken, some', none⟩ := undecodable
  exact ⟨segment :: before, name, after, value :: front, own, rest, rfl, rfl,
    .cons takes taken, some', none⟩

theorem Undecodable.cases
    (undecodable : Undecodable decode (segment :: pattern) (value :: segments)) :
    (segment.head? = some ':' ∧ value ≠ [] ∧ decode (String.ofList value) = none) ∨
      Takes decode segment value ∧ Undecodable decode pattern segments := by
  obtain ⟨before, name, after, front, own, rest, same, same', taken, some', none⟩ := undecodable
  cases taken with
  | nil =>
    rw [List.nil_append] at same same'
    cases same
    cases same'
    exact .inl ⟨rfl, some', none⟩
  | cons first taken =>
    rw [List.cons_append] at same same'
    cases same
    cases same'
    exact .inr ⟨first, _, name, after, _, own, rest, rfl, rfl, taken, some', none⟩

/-- Matching throws exactly where a parameter is reached that cannot be decoded. -/
theorem match_throws : matchSegments decode pattern segments = .error () ↔
    Undecodable decode pattern segments := by
  induction pattern generalizing segments with
  | nil =>
    constructor
    · intro threw
      cases segments <;> cases threw
    · rintro ⟨before, name, after, _, _, _, same, _⟩
      cases before <;> cases same
  | cons segment pattern ih =>
    cases segments with
    | nil =>
      constructor
      · intro threw
        unfold matchSegments at threw
        split at threw <;> simp_all
      · rintro ⟨_, _, _, front, _, _, _, same, _⟩
        cases front <;> cases same
    | cons value segments =>
      by_cases param : segment.head? = some ':'
      · obtain ⟨name, rfl⟩ : ∃ name, segment = ':' :: name := by
          cases segment with
          | nil => cases param
          | cons head name => exact ⟨name, by rw [Option.some.inj param]⟩
        rw [matchSegments]
        by_cases empty : value = []
        · rw [if_pos empty]
          refine ⟨fun threw => (by cases threw), fun undecodable => ?_⟩
          rcases undecodable.cases with ⟨_, some', _⟩ | ⟨takes, _⟩
          · exact absurd empty some'
          · exact absurd empty (takes_param.mp takes).1
        · rw [if_neg empty]
          cases decoded : decode (String.ofList value) with
          | none =>
            refine ⟨fun _ => ?_, fun _ => rfl⟩
            exact ⟨[], name, pattern, [], value, segments, rfl, rfl, .nil, empty, decoded⟩
          | some text =>
            have takes : Takes decode (':' :: name) value :=
              takes_param.mpr ⟨empty, by rw [decoded]; rfl⟩
            constructor
            · intro threw
              cases rest : matchSegments decode pattern segments with
              | ok found =>
                rw [rest] at threw
                cases threw
              | error _ => exact (ih.mp rest).cons takes
            · intro undecodable
              rcases undecodable.cases with ⟨_, _, none⟩ | ⟨_, later⟩
              · rw [decoded] at none
                cases none
              · simp only [ih.mpr later]
                rfl
      · rw [match_other param]
        by_cases same : segment = value
        · rw [if_pos same]
          have takes : Takes decode segment value := (takes_text param).mpr same
          refine ⟨fun threw => (ih.mp threw).cons takes, fun undecodable => ?_⟩
          rcases undecodable.cases with ⟨colon, _⟩ | ⟨_, later⟩
          · exact absurd colon param
          · exact ih.mpr later
        · rw [if_neg same]
          refine ⟨fun threw => (by cases threw), fun undecodable => ?_⟩
          rcases undecodable.cases with ⟨colon, _⟩ | ⟨takes, _⟩
          · exact absurd colon param
          · exact absurd ((takes_text param).mp takes) same

/-- What is matched is taken segment by segment. -/
theorem match_takes {params : List String}
    (matched : matchSegments decode pattern segments = .ok (some params)) :
    List.Forall₂ (Takes decode) pattern segments := by
  induction pattern generalizing segments params with
  | nil =>
    cases segments with
    | nil => exact .nil
    | cons value segments => cases matched
  | cons segment pattern ih =>
    cases segments with
    | nil =>
      unfold matchSegments at matched
      split at matched <;> simp_all
    | cons value segments =>
      by_cases param : segment.head? = some ':'
      · obtain ⟨name, rfl⟩ : ∃ name, segment = ':' :: name := by
          cases segment with
          | nil => cases param
          | cons head name => exact ⟨name, by rw [Option.some.inj param]⟩
        rw [matchSegments] at matched
        split at matched
        · cases matched
        · rename_i some'
          cases decoded : decode (String.ofList value) with
          | none =>
            rw [decoded] at matched
            cases matched
          | some text =>
            rw [decoded] at matched
            cases rest : matchSegments decode pattern segments with
            | error _ =>
              rw [rest] at matched
              cases matched
            | ok found =>
              rw [rest] at matched
              cases found with
              | none => cases matched
              | some later =>
                exact .cons (takes_param.mpr ⟨some', by rw [decoded]; rfl⟩) (ih rest)
      · rw [match_other param] at matched
        split at matched
        · rename_i same
          exact .cons ((takes_text param).mpr same) (ih matched)
        · cases matched

/-- The pattern of a route matches a path. -/
def Matches (decode : String → Option String) (path : List Char) (route : Route) : Prop :=
  ∃ params, matchPattern decode route.pattern.toList path = .ok (some params)

/-- A route's pattern has as many segments as a path, and a parameter of it is reached that cannot
be decoded. -/
def Malformed (decode : String → Option String) (path : List Char) (route : Route) : Prop :=
  (splitPath route.pattern.toList).length = (splitPath path).length ∧
    Undecodable decode (splitPath route.pattern.toList) (splitPath path)

theorem pattern_throws :
    matchPattern decode route.pattern.toList path = .error () ↔ Malformed decode path route := by
  unfold matchPattern Malformed
  by_cases long : (splitPath route.pattern.toList).length = (splitPath path).length
  · rw [if_pos long, match_throws]
    simp [long]
  · rw [if_neg long]
    simp [long]

/-- Two patterns that no path matches both: they differ in length, or in text at one place. -/
def apart (pattern other : List (List Char)) : Bool :=
  pattern.length != other.length ||
    (pattern.zip other).any fun pair =>
      pair.1.head? != some ':' && pair.2.head? != some ':' && pair.1 != pair.2

theorem apart_cons {first second : List Char} {pattern other : List (List Char)}
    (far : apart (first :: pattern) (second :: other) = true) :
    (first.head? ≠ some ':' ∧ second.head? ≠ some ':' ∧ first ≠ second) ∨
      apart pattern other = true := by
  unfold apart at far ⊢
  simp only [List.length_cons, List.zip_cons_cons, List.any_cons, Bool.or_eq_true, bne_iff_ne,
    Bool.and_eq_true, ne_eq, Nat.add_right_cancel_iff] at far ⊢
  tauto

theorem apart_takes {pattern other : List (List Char)}
    (one : List.Forall₂ (Takes decode) pattern segments)
    (two : List.Forall₂ (Takes decode) other segments) : apart pattern other = false := by
  induction one generalizing other with
  | nil =>
    cases two
    rfl
  | @cons segment value pattern segments takes one ih =>
    cases two with
    | @cons segment' _ other _ takes' two =>
      by_contra far
      rw [Bool.not_eq_false] at far
      rcases apart_cons far with ⟨text, text', differs⟩ | later
      · have same := (takes_text text).mp takes
        have same' := (takes_text text').mp takes'
        exact differs (same.trans same'.symm)
      · rw [ih two] at later
        cases later

theorem Matches.takes (matched : Matches decode path route) :
    List.Forall₂ (Takes decode) (splitPath route.pattern.toList) (splitPath path) := by
  obtain ⟨params, matched⟩ := matched
  unfold matchPattern at matched
  split at matched
  · exact match_takes matched
  · cases matched

/-- No two routes of the table are matched by one method and path. -/
theorem routes_apart : routes.Pairwise fun one two => one.method = two.method →
    apart (splitPath one.pattern.toList) (splitPath two.pattern.toList) = true := by
  decide +kernel

theorem matches_once {one two : Route} (listed : one ∈ routes) (listed' : two ∈ routes)
    (method : one.method = two.method) (matched : Matches decode path one)
    (matched' : Matches decode path two) : one = two := by
  have clash : routes.Pairwise fun one two =>
      ¬ (one.method = two.method ∧ Matches decode path one ∧ Matches decode path two) := by
    refine routes_apart.imp fun far both => ?_
    obtain ⟨same, matched, matched'⟩ := both
    have near := apart_takes matched.takes matched'.takes
    rw [far same] at near
    cases near
  have either : Std.Symm fun one two : Route =>
      ¬ (one.method = two.method ∧ Matches decode path one ∧ Matches decode path two) :=
    ⟨fun one two none both => none ⟨both.1.symm, both.2.2, both.2.1⟩⟩
  by_contra differs
  exact clash.forall listed listed' differs ⟨method, matched, matched'⟩

variable {options : PosServerOptions} {maxRequestBytes : Nat} {handlers : Handlers}
  {input : RouterInput} {db mid : PosServerDb} {request : RoutedRequest}
  {correlationId : CorrelationId} {table : List Route}

/-- A route that the loop goes past: it does not throw, and does not answer. -/
def Passed (decode : String → Option String) (method : String) (path : List Char) (route : Route) :
    Prop :=
  ¬ Malformed decode path route ∧ (route.method = method → ¬ Matches decode path route)

/-- Where the loop over a table ends: at a parameter that cannot be decoded, at the route that
answers, or past the table's end. -/
inductive Ends (options : PosServerOptions) (maxRequestBytes : Nat) (handlers : Handlers)
    (input : RouterInput) (db : PosServerDb) (request : RoutedRequest)
    (correlationId : CorrelationId) (path : List Char) (pathMatched : Bool) (table : List Route) :
    ApiRouter.Handled → Prop
  | thrown {earlier later : List Route} {route : Route} : table = earlier ++ route :: later →
      (∀ other ∈ earlier, Passed options.decodeURIComponent request.method path other) →
      Malformed options.decodeURIComponent path route →
      Ends options maxRequestBytes handlers input db request correlationId path pathMatched table
        { db, calls := [], result := .rejected }
  | served {earlier later : List Route} {route : Route} {params : List String} :
      table = earlier ++ route :: later →
      (∀ other ∈ earlier, Passed options.decodeURIComponent request.method path other) →
      route.method = request.method →
      matchPattern options.decodeURIComponent route.pattern.toList path = .ok (some params) →
      Ends options maxRequestBytes handlers input db request correlationId path pathMatched table
        (serve options maxRequestBytes handlers input db request correlationId route params)
  | past (found : Bool) :
      (∀ other ∈ table, Passed options.decodeURIComponent request.method path other) →
      (found = true ↔ pathMatched = true ∨
        ∃ other ∈ table, Matches options.decodeURIComponent path other) →
      Ends options maxRequestBytes handlers input db request correlationId path pathMatched table
        (answered db
          (if found then errorResponse correlationId 405 "INVALID_REQUEST" "METHOD_NOT_ALLOWED"
          else errorResponse correlationId 404 "NOT_FOUND" "ROUTE_NOT_FOUND"))

theorem Ends.cons {pathMatched pathMatched' : Bool} {handled : ApiRouter.Handled}
    (passed : Passed options.decodeURIComponent request.method path route)
    (told : pathMatched' = true ↔
      pathMatched = true ∨ Matches options.decodeURIComponent path route)
    (ends : Ends options maxRequestBytes handlers input db request correlationId path pathMatched'
      table handled) :
    Ends options maxRequestBytes handlers input db request correlationId path pathMatched
      (route :: table) handled := by
  cases ends with
  | @thrown earlier later own split gone malformed =>
    rw [split]
    exact .thrown (earlier.cons_append ..).symm
      (List.forall_mem_cons.mpr ⟨passed, gone⟩) malformed
  | @served earlier later own params split gone method matched =>
    rw [split]
    exact .served (earlier.cons_append ..).symm
      (List.forall_mem_cons.mpr ⟨passed, gone⟩) method matched
  | past found gone finds =>
    refine .past found (List.forall_mem_cons.mpr ⟨passed, gone⟩) ?_
    rw [finds, told, List.exists_mem_cons_iff, or_assoc]

theorem dispatch_ends (pathMatched : Bool) (table : List Route) :
    Ends options maxRequestBytes handlers input db request correlationId path pathMatched table
      (dispatch options maxRequestBytes handlers input db request correlationId path pathMatched
        table) := by
  induction table generalizing pathMatched with
  | nil => exact .past pathMatched (by simp) (by simp)
  | cons route more ih =>
    cases matched : matchPattern options.decodeURIComponent route.pattern.toList path with
    | error _ =>
      simp only [dispatch, matched]
      exact .thrown (List.nil_append _).symm (by simp) (pattern_throws.mp matched)
    | ok outcome =>
      have sound : ¬ Malformed options.decodeURIComponent path route := by
        intro malformed
        rw [pattern_throws.mpr malformed] at matched
        cases matched
      cases outcome with
      | none =>
        have unmatched : ¬ Matches options.decodeURIComponent path route := by
          rintro ⟨params, other⟩
          rw [matched] at other
          cases other
        simp only [dispatch, matched]
        exact (ih pathMatched).cons ⟨sound, fun _ => unmatched⟩ (by simp [unmatched])
      | some params =>
        simp only [dispatch, matched]
        split
        · rename_i method
          exact .served (List.nil_append _).symm (by simp) method matched
        · rename_i method
          exact (ih true).cons ⟨sound, fun same => absurd same method⟩ (by simp [Matches, matched])

/-- The path as the router looks it up. -/
abbrev pathOf (request : RoutedRequest) : List Char :=
  normalizePath request.path.toList

/-- The correlation id a request is answered under. -/
abbrev idOf (input : RouterInput) (request : RoutedRequest) : CorrelationId :=
  correlationOf input.toServerInput request.toApiRequest

/-- A route is of a request's method and path. -/
def Answering (options : PosServerOptions) (request : RoutedRequest) (route : Route) : Prop :=
  route ∈ routes ∧ route.method = request.method ∧
    Matches options.decodeURIComponent (pathOf request) route

/-- What a route's handler meets, if the request is let through to it: for a public route the
database as it is, for another what its guard leaves and whom it accepts. -/
def LetIn (options : PosServerOptions) (input : RouterInput) (db : PosServerDb)
    (request : RoutedRequest) (route : Route) (mid : PosServerDb) (context : Option AuthContext) :
    Prop :=
  match route.permission with
  | none => mid = db ∧ context = none
  | some permission => ∃ accepted, context = some accepted ∧
      ApiRouter.guard options input db request.toApiRequest permission route.write route.sale =
        (mid, .passed accepted)

/-- What the router promises of a request. -/
structure Answers (options : PosServerOptions) (maxRequestBytes : Nat) (handlers : Handlers)
    (input : RouterInput) (db : PosServerDb) (request : RoutedRequest) : Prop where
  resolves : ∃ response,
    (ApiRouter.handle options maxRequestBytes handlers input db request).result = .resolved response
  once : (ApiRouter.handle options maxRequestBytes handlers input db request).calls.length ≤ 1
  guarded : ∀ call ∈ (ApiRouter.handle options maxRequestBytes handlers input db request).calls,
    Answering options request call.route ∧
    (∀ other, Answering options request other → other = call.route) ∧
    LetIn options input db request call.route call.before call.context
  notFound : (∀ route ∈ routes, ¬ Matches options.decodeURIComponent (pathOf request) route) →
    ApiRouter.handle options maxRequestBytes handlers input db request =
      answered db (errorResponse (idOf input request) 404 "NOT_FOUND" "ROUTE_NOT_FOUND")
  otherMethod : (∃ route ∈ routes, Matches options.decodeURIComponent (pathOf request) route) →
    (∀ route, ¬ Answering options request route) →
      ApiRouter.handle options maxRequestBytes handlers input db request =
        answered db
          (errorResponse (idOf input request) 405 "INVALID_REQUEST" "METHOD_NOT_ALLOWED")
  oversized : ∀ route, Answering options request route → tooLarge maxRequestBytes request = true →
    ApiRouter.handle options maxRequestBytes handlers input db request =
      answered db (refusal (idOf input request) .requestTooLarge)
  refused : ∀ route permission mid code, Answering options request route →
    tooLarge maxRequestBytes request = false → route.permission = some permission →
      ApiRouter.guard options input db request.toApiRequest permission route.write route.sale =
          (mid, .refused code) →
        ApiRouter.handle options maxRequestBytes handlers input db request =
            answered mid (refusal (idOf input request) code) ∧
          statusFor code ∈ [401, 403, 429]
  threw : ∀ call ∈ (ApiRouter.handle options maxRequestBytes handlers input db request).calls,
    call.response = none →
      (ApiRouter.handle options maxRequestBytes handlers input db request).result =
          .resolved (unexpected (idOf input request)) ∧
        (ApiRouter.handle options maxRequestBytes handlers input db request).db = call.before

/-- No route that the router comes to before one that answers has a parameter in the path that
cannot be decoded, nor has that one. -/
def Decodes (options : PosServerOptions) (request : RoutedRequest) : Prop :=
  ∀ earlier route later, routes = earlier ++ route :: later →
    (∀ other ∈ earlier, ¬ Answering options request other) →
      ¬ Malformed options.decodeURIComponent (pathOf request) route

/-- A handler that throws has changed nothing by then. -/
def ThrowsClean (options : PosServerOptions) (maxRequestBytes : Nat) (handlers : Handlers)
    (input : RouterInput) (db : PosServerDb) (request : RoutedRequest) : Prop :=
  ∀ route params mid context, Answering options request route →
    matchPattern options.decodeURIComponent route.pattern.toList (pathOf request) =
        .ok (some params) →
    tooLarge maxRequestBytes request = false →
    LetIn options input db request route mid context →
    (handlers route.handler mid request context (idOf input request) params).2 = none →
      (handlers route.handler mid request context (idOf input request) params).1 = mid

/-- A refusal's status is its own, unless the body is too large. -/
theorem statusFor_guarded {code : RefusalCode} (small : code ≠ .requestTooLarge) :
    statusFor code ∈ [401, 403, 429] := by
  cases code with
  | session code =>
    have status : statusFor (.session code) = if code.reauthenticate then 401 else 403 := rfl
    rw [status]
    split <;> simp
  | requestTooLarge => exact absurd rfl small
  | _ => simp [statusFor]

section Guard

variable {request : ApiRequest} {permission : Permission} {write sale : Bool} {login : LoginDb}
  {named : TillContext}

/-- The context the guard hands on for a session that is admitted. -/
abbrev contextOf (named : TillContext) : AuthContext :=
  ⟨named.sessionId, named.merchantId, named.deviceId, named.userId⟩

theorem guard_admitted (whole : input.broken = none)
    (asked : Devices.authenticate options.devices db.login request.session
      (¬ request.background) (input.now 0) = (login, .admitted named)) :
    ApiRouter.guard options input db request permission write sale =
      if (roleOf (db.withLogin login) (contextOf named)).any (authorize · permission) = false then
        (db.withLogin login, .refused .permissionDenied)
      else if write = true ∧
          csrfMatches options (db.withLogin login) named.sessionId (csrfTokenOf request) = false then
        (db.withLogin login, .refused
          (if (csrfTokenOf request).isNone then .csrfTokenMissing else .csrfTokenInvalid))
      else if sale = true ∧ options.maxSalesPerWindow ≤
          countAttemptsSince (db.withLogin login).pos .sale named.sessionId
            (input.now 0 - options.saleRateWindowMs) then
        (db.withLogin login, .refused .rateLimited)
      else if consistentMerchantHint named.merchantId
          (request.merchantId.or (request.body.text "merchantId")) = false then
        (db.withLogin login, .refused .merchantScopeMismatch)
      else (db.withLogin login, .passed (contextOf named)) := by
  unfold ApiRouter.guard
  rw [whole]
  simp only [asked]

/-- What the guard refuses with has a status that no other answer of the router has. -/
theorem guard_status {code : RefusalCode}
    (refused : ApiRouter.guard options input db request permission write sale =
      (mid, .refused code)) :
    statusFor code ∈ [401, 403, 429] := by
  apply statusFor_guarded
  rintro rfl
  cases whole : input.broken with
  | some other =>
    unfold ApiRouter.guard at refused
    rw [whole] at refused
    cases refused
  | none =>
    cases asked : Devices.authenticate options.devices db.login request.session
        (¬ request.background) (input.now 0) with
    | mk login result =>
      cases result with
      | refused code =>
        unfold ApiRouter.guard at refused
        simp only [whole, asked] at refused
        cases refused
      | threw fault =>
        unfold ApiRouter.guard at refused
        simp only [whole, asked] at refused
        cases refused
      | admitted named =>
        rw [guard_admitted whole asked] at refused
        split at refused
        · cases refused
        split at refused
        · have code := congrArg Prod.snd refused
          cases token : (csrfTokenOf request).isNone <;> rw [token] at code <;> cases code
        split at refused
        · cases refused
        split at refused <;> cases refused

end Guard

section Cases

variable {params : List String} {context : Option AuthContext}

/-- A request that is let in has the handler of its route run, once. -/
theorem serve_letIn (small : tooLarge maxRequestBytes request = false)
    (letIn : LetIn options input db request route mid context) :
    serve options maxRequestBytes handlers input db request correlationId route params =
      runHandler handlers mid request correlationId route params context := by
  unfold serve LetIn at *
  rw [if_neg (by simp [small])]
  cases permission : route.permission with
  | none =>
    rw [permission] at letIn
    obtain ⟨rfl, rfl⟩ := letIn
    rfl
  | some permission' =>
    rw [permission] at letIn
    obtain ⟨accepted, rfl, passed⟩ := letIn
    simp only [passed]

theorem serve_large (large : tooLarge maxRequestBytes request = true) :
    serve options maxRequestBytes handlers input db request correlationId route params =
      answered db (refusal correlationId .requestTooLarge) :=
  if_pos large

theorem serve_refused {permission : Permission} {code : RefusalCode}
    (small : tooLarge maxRequestBytes request = false) (own : route.permission = some permission)
    (refused : ApiRouter.guard options input db request.toApiRequest permission route.write
      route.sale = (mid, .refused code)) :
    serve options maxRequestBytes handlers input db request correlationId route params =
      answered mid (refusal correlationId code) := by
  unfold serve
  rw [if_neg (by simp [small]), own]
  simp only [refused]

/-- Whatever a route does with a request, it answers, and runs its handler once at most, for a
request that is let in. -/
theorem serve_cases :
    (∃ mid response, serve options maxRequestBytes handlers input db request correlationId route
      params = answered mid response) ∨
    ∃ mid context, tooLarge maxRequestBytes request = false ∧
      LetIn options input db request route mid context ∧
      serve options maxRequestBytes handlers input db request correlationId route params =
        runHandler handlers mid request correlationId route params context := by
  by_cases large : tooLarge maxRequestBytes request = true
  · exact .inl ⟨db, _, serve_large large⟩
  · have small : tooLarge maxRequestBytes request = false := by simpa using large
    cases own : route.permission with
    | none =>
      have letIn : LetIn options input db request route db none := by
        unfold LetIn
        rw [own]
        exact ⟨rfl, rfl⟩
      exact .inr ⟨db, none, small, letIn, serve_letIn small letIn⟩
    | some permission =>
      cases asked : ApiRouter.guard options input db request.toApiRequest permission route.write
          route.sale with
      | mk mid result =>
        cases result with
        | passed accepted =>
          have letIn : LetIn options input db request route mid (some accepted) := by
            unfold LetIn
            rw [own]
            exact ⟨accepted, rfl, asked⟩
          exact .inr ⟨mid, some accepted, small, letIn, serve_letIn small letIn⟩
        | refused code => exact .inl ⟨mid, _, serve_refused small own asked⟩
        | threw =>
          refine .inl ⟨mid, unexpected correlationId, ?_⟩
          unfold serve
          rw [if_neg (by simp [small]), own]
          simp only [asked]

end Cases

/-- A request whose path can be decoded is served by the one route that answers it, or there is
none. -/
theorem handle_decoded (decodes : Decodes options request) :
    (∃ route params, Answering options request route ∧
      matchPattern options.decodeURIComponent route.pattern.toList (pathOf request) =
        .ok (some params) ∧
      ApiRouter.handle options maxRequestBytes handlers input db request =
        serve options maxRequestBytes handlers input db request (idOf input request) route
          params) ∨
    (∀ route, ¬ Answering options request route) ∧
      ∃ found : Bool, (found = true ↔
          ∃ other ∈ routes, Matches options.decodeURIComponent (pathOf request) other) ∧
        ApiRouter.handle options maxRequestBytes handlers input db request =
          answered db (if found then
              errorResponse (idOf input request) 405 "INVALID_REQUEST" "METHOD_NOT_ALLOWED"
            else errorResponse (idOf input request) 404 "NOT_FOUND" "ROUTE_NOT_FOUND") := by
  unfold ApiRouter.handle
  generalize handled : dispatch options maxRequestBytes handlers input db request
    (idOf input request) (pathOf request) false routes = outcome
  have ends := @dispatch_ends (pathOf request) options maxRequestBytes handlers input db request
    (idOf input request) false routes
  rw [handled] at ends
  cases ends with
  | @thrown earlier later route split gone malformed =>
    refine absurd malformed (decodes earlier route later split fun other mem answering => ?_)
    exact (gone other mem).2 answering.2.1 answering.2.2
  | @served earlier later route params split gone method matched =>
    have listed : route ∈ routes := by
      rw [split]
      exact List.mem_append_right _ List.mem_cons_self
    exact .inl ⟨route, params, ⟨listed, method, params, matched⟩, matched, rfl⟩
  | past found gone finds =>
    refine .inr ⟨fun route answering => ?_, found, by simpa using finds, rfl⟩
    exact (gone route answering.1).2 answering.2.1 answering.2.2

/-- Of two places in a list, one is before the other, or they are the same. -/
theorem split_order {α : Type} {earlier later earlier' later' : List α} {one two : α}
    (same : earlier ++ one :: later = earlier' ++ two :: later') :
    two ∈ earlier ∨ one = two ∨ one ∈ earlier' := by
  induction earlier generalizing earlier' with
  | nil =>
    cases earlier' with
    | nil => exact .inr (.inl (List.cons.inj same).1)
    | cons head earlier' =>
      have first : one = head := (List.cons.inj same).1
      exact .inr (.inr (first ▸ List.mem_cons_self))
  | cons head earlier ih =>
    cases earlier' with
    | nil =>
      have first : head = two := (List.cons.inj same).1
      exact .inl (first ▸ List.mem_cons_self)
    | cons head' earlier' =>
      rcases ih (List.cons.inj same).2 with before | same | before
      · exact .inl (List.mem_cons_of_mem _ before)
      · exact .inr (.inl same)
      · exact .inr (.inr (List.mem_cons_of_mem _ before))

/-- A path that cannot be decoded makes the router throw outside of what it catches. -/
theorem handle_rejects (malformed : ¬ Decodes options request) :
    (ApiRouter.handle options maxRequestBytes handlers input db request).result = .rejected := by
  unfold Decodes at malformed
  push Not at malformed
  obtain ⟨earlier, route, later, split, none, malformed⟩ := malformed
  have listed : ∀ other ∈ earlier, other ∈ routes := by
    intro other mem
    rw [split]
    exact List.mem_append_left _ mem
  unfold ApiRouter.handle
  generalize handled : dispatch options maxRequestBytes handlers input db request
    (idOf input request) (pathOf request) false routes = outcome
  have ends := @dispatch_ends (pathOf request) options maxRequestBytes handlers input db request
    (idOf input request) false routes
  rw [handled] at ends
  cases ends with
  | thrown => rfl
  | @served before after own params split' gone method matched =>
    rcases split_order (split.symm.trans split') with answers | same | passed
    · exact absurd ⟨listed own answers, method, params, matched⟩ (none own answers)
    · rw [same, ← pattern_throws, matched] at malformed
      cases malformed
    · exact absurd malformed (gone route passed).1
  | past found gone finds =>
    have mem : route ∈ routes := by
      rw [split]
      exact List.mem_append_right _ List.mem_cons_self
    exact absurd malformed (gone route mem).1

theorem Answering.once {one two : Route} (first : Answering options request one)
    (second : Answering options request two) : one = two :=
  matches_once first.1 second.1 (first.2.1.trans second.2.1.symm) first.2.2 second.2.2

/-- A request whose path can be decoded and that a route answers is served by that route. -/
theorem handle_served (decodes : Decodes options request)
    (answering : Answering options request route) :
    ∃ params, matchPattern options.decodeURIComponent route.pattern.toList (pathOf request) =
        .ok (some params) ∧
      ApiRouter.handle options maxRequestBytes handlers input db request =
        serve options maxRequestBytes handlers input db request (idOf input request) route
          params := by
  rcases @handle_decoded options maxRequestBytes handlers input db request decodes with
    ⟨own, params, first, matched, handled⟩ | ⟨none, _⟩
  · cases first.once answering
    exact ⟨params, matched, handled⟩
  · exact absurd answering (none route)

/-- The router answers by itself, or has run the one route's handler for a request it let in. -/
theorem handle_ran (decodes : Decodes options request) :
    (∃ mid response,
      ApiRouter.handle options maxRequestBytes handlers input db request = answered mid response) ∨
    ∃ route params mid context, Answering options request route ∧
      matchPattern options.decodeURIComponent route.pattern.toList (pathOf request) =
        .ok (some params) ∧
      tooLarge maxRequestBytes request = false ∧
      LetIn options input db request route mid context ∧
      ApiRouter.handle options maxRequestBytes handlers input db request =
        runHandler handlers mid request (idOf input request) route params context := by
  rcases @handle_decoded options maxRequestBytes handlers input db request decodes with
    ⟨route, params, answering, matched, handled⟩ | ⟨_, found, _, handled⟩
  · rcases @serve_cases route options maxRequestBytes handlers input db request
        (idOf input request) params with
      ⟨mid, response, served⟩ | ⟨mid, context, small, letIn, served⟩
    · exact .inl ⟨mid, response, handled.trans served⟩
    · exact .inr ⟨route, params, mid, context, answering, matched, small, letIn,
        handled.trans served⟩
  · exact .inl ⟨db, _, handled⟩

/-- A server that reads no lone percent sign. -/
def strictServer : PosServerOptions :=
  { Visits.plainServer fun _ => true with
    decodeURIComponent := fun text => if text = "%" then none else some text }

/-- A transaction asked for under a lone percent sign. -/
def percentAsked : RoutedRequest where
  method := "GET"
  path := "/api/training/transactions/%"
  merchantId := none
  session := none
  background := false
  csrfHeader := none
  correlationId := none
  body := emptyBody
  size := none

end Telga.Proofs.Routing
