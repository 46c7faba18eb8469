import Telga.Application.SaleRates
import Telga.Proofs.Visits

namespace Telga.Proofs.SaleRates
open Domain Persistence Application Library

/-- No attempt on record is taken away. -/
def Kept (pos pos' : PosDb) : Prop :=
  pos.authAttempts <+: pos'.authAttempts

theorem Kept.same {pos pos' : PosDb} (same : pos'.authAttempts = pos.authAttempts) :
    Kept pos pos' := by
  unfold Kept
  rw [same]

theorem attempt_kept (pos : PosDb) (scope : AttemptScope) (subject : String)
    (outcome : AttemptOutcome) (now : Timestamp) :
    Kept pos (recordAttempt pos scope subject outcome now) :=
  List.prefix_append ..

/-- What a piece of work keeps, a unit of it keeps. -/
theorem unit_kept {input : Input} {work : PosDb → Except Fault (PosDb × α)} {pos pos' : PosDb}
    {answer : Except Fault α} (keeps : ∀ next answer, work pos = .ok (next, answer) → Kept pos next)
    (done : posUnit input work pos = (pos', answer)) : Kept pos pos' := by
  rcases posUnit_cases input work pos with ⟨next, value, _, worked, same⟩ | ⟨fault, same⟩
  · cases same.symm.trans done
    exact keeps pos' value worked
  · cases same.symm.trans done
    exact .same rfl

/-- A unit of work that records an attempt, and nothing else. -/
theorem recording_kept {input : Input} {pos pos' : PosDb} {scope : AttemptScope} {subject : String}
    {outcome : AttemptOutcome} {now : Timestamp} {answer : Except Fault Unit}
    (done : posUnit input (fun pos => .ok (recordAttempt pos scope subject outcome now, ())) pos =
      (pos', answer)) : Kept pos pos' := by
  refine unit_kept (fun next value worked => ?_) done
  cases worked
  exact attempt_kept ..

section Steps

variable {input : Input} {pos pos' : PosDb}

theorem expiring_kept (done : expiring input orderId pos = (pos', answer)) : Kept pos pos' := by
  refine unit_kept (fun next value worked => ?_) done
  cases worked
  exact .same rfl

theorem postSale_kept {call : PostSale} (moved : call.step input pos = (pos', call')) :
    Kept pos pos' := by
  cases point : call.point with
  | recording request =>
    simp only [PostSale.step, point] at moved
    split at moved
    all_goals
      rename_i done
      cases moved
      exact recording_kept done
  | selling sale =>
    simp only [PostSale.step, point] at moved
    split at moved
    all_goals
      cases moved
      exact .same rfl
  | _ =>
    simp only [PostSale.step, point] at moved
    repeat' split at moved
    all_goals
      cases moved
      exact .same rfl

theorem postOrder_kept {call : CreatePendingOrder}
    (moved : call.step input pos = (pos', call')) : Kept pos pos' := by
  cases point : call.point with
  | creating product amountMinor quantity supplied =>
    simp only [CreatePendingOrder.step, point] at moved
    split at moved
    all_goals
      rename_i done
      cases moved
      refine unit_kept (fun next value worked => ?_) done
      obtain ⟨_, _, rfl⟩ := createPendingOrder_ok worked
      exact .same rfl
  | _ =>
    simp only [CreatePendingOrder.step, point] at moved
    cases moved
    exact .same rfl

theorem getOrder_kept {call : GetOrder} (moved : call.step input pos = (pos', call')) :
    Kept pos pos' := by
  cases point : call.point with
  | begin =>
    simp only [GetOrder.step, point] at moved
    split at moved
    all_goals
      rename_i done
      cases moved
      exact expiring_kept done
  | _ =>
    simp only [GetOrder.step, point] at moved
    cases moved
    exact .same rfl

theorem cancelOrder_kept {call : CancelOrder} (moved : call.step input pos = (pos', call')) :
    Kept pos pos' := by
  cases point : call.point with
  | begin =>
    simp only [CancelOrder.step, point] at moved
    split at moved
    all_goals
      rename_i done
      cases moved
      exact expiring_kept done
  | cancelling =>
    simp only [CancelOrder.step, point] at moved
    split at moved
    all_goals
      rename_i done
      cases moved
      refine unit_kept (fun next value worked => ?_) done
      cases worked
      exact .same rfl
  | _ =>
    simp only [CancelOrder.step, point] at moved
    repeat' split at moved
    all_goals
      cases moved
      exact .same rfl

theorem authorizeOrder_kept {call : AuthorizeOrder}
    (moved : call.step input pos = (pos', call')) : Kept pos pos' := by
  cases point : call.point with
  | begin =>
    simp only [AuthorizeOrder.step, point] at moved
    split at moved
    · cases moved
      exact .same rfl
    · split at moved
      all_goals
        rename_i done
        cases moved
        exact expiring_kept done
  | refusing now | accepting order now =>
    simp only [AuthorizeOrder.step, point] at moved
    split at moved
    all_goals
      rename_i done
      cases moved
      exact recording_kept done
  | selling order results sale =>
    simp only [AuthorizeOrder.step, point] at moved
    split at moved
    all_goals
      cases moved
      exact .same rfl
  | claiming order results =>
    cases results with
    | nil =>
      simp only [AuthorizeOrder.step, point] at moved
      cases moved
      exact .same rfl
    | cons result results =>
      simp only [AuthorizeOrder.step, point] at moved
      split at moved
      · cases moved
        exact .same rfl
      · split at moved
        all_goals
          rename_i done
          cases moved
          refine unit_kept (fun next value worked => ?_) done
          cases worked
          exact .same rfl
  | _ =>
    simp only [AuthorizeOrder.step, point] at moved
    repeat' split at moved
    all_goals
      cases moved
      exact .same rfl

theorem posRequest_kept (request : PosRequest) : Kept pos (request.step input pos).1 := by
  cases request with
  | service process => exact .same rfl
  | postSale call => exact postSale_kept rfl
  | postOrder call => exact postOrder_kept rfl
  | getOrder call => exact getOrder_kept rfl
  | cancelOrder call => exact cancelOrder_kept rfl
  | authorizeOrder call => exact authorizeOrder_kept rfl

theorem postDeposit_kept (call : PostDeposit) : Kept pos (call.step input pos).1 := by
  cases point : call.point with
  | begin =>
    simp only [PostDeposit.step, point]
    repeat' split
    all_goals exact .same rfl
  | _ =>
    simp only [PostDeposit.step, point]
    repeat' split
    all_goals exact .same rfl

theorem postProfitTransfer_kept (call : PostProfitTransfer) : Kept pos (call.step input pos).1 := by
  cases point : call.point with
  | _ =>
    simp only [PostProfitTransfer.step, point]
    repeat' split
    all_goals exact .same rfl

theorem postShopTransfer_kept (call : PostShopTransfer) : Kept pos (call.step input pos).1 := by
  cases point : call.point with
  | _ =>
    simp only [PostShopTransfer.step, point]
    repeat' split
    all_goals exact .same rfl

end Steps

section Steps

variable {input : PinInput} {pos pos' : PosDb}

theorem changePin_kept {call : ChangePin} (moved : call.step input pos = (pos', call')) :
    Kept pos pos' := by
  cases point : call.point with
  | refusing now | recording now =>
    simp only [ChangePin.step, point] at moved
    split at moved
    all_goals
      rename_i done
      cases moved
      exact recording_kept done
  | changing now derived =>
    simp only [ChangePin.step, point] at moved
    split at moved
    all_goals
      rename_i done
      cases moved
      refine unit_kept (fun next value worked => ?_) done
      cases worked
      exact .same rfl
  | _ =>
    simp only [ChangePin.step, point] at moved
    repeat' split at moved
    all_goals
      cases moved
      exact .same rfl

theorem unlockWithPin_kept {call : UnlockWithPin} (moved : call.step input pos = (pos', call')) :
    Kept pos pos' := by
  cases point : call.point with
  | recording now outcome =>
    simp only [UnlockWithPin.step, point] at moved
    split at moved
    all_goals
      rename_i done
      cases moved
      exact recording_kept done
  | _ =>
    simp only [UnlockWithPin.step, point] at moved
    repeat' split at moved
    all_goals
      cases moved
      exact .same rfl

theorem counter_kept (request : CounterRequest) : Kept pos (request.step input pos).1 := by
  cases request with
  | pin request =>
    cases request with
    | pos request => exact posRequest_kept request
    | changePin call => exact changePin_kept rfl
    | unlockWithPin call => exact unlockWithPin_kept rfl
  | postDeposit call => exact postDeposit_kept call
  | postProfitTransfer call => exact postProfitTransfer_kept call
  | postShopTransfer call => exact postShopTransfer_kept call

end Steps

section Server

variable {options : PosServerOptions} {input : ServerInput} {db db' : PosServerDb}

theorem login_kept (deps : LoginDeps) (input : LoginInput) (db : LoginDb) (call : Login) :
    db.authAttempts <+: (call.step deps input db).1.authAttempts := by
  cases point : call.point with
  | begin =>
    simp only [Login.step, point]
    split
    · exact List.prefix_rfl
    · exact List.prefix_append ..
  | device user enrollment now =>
    simp only [Login.step, point]
    split <;> exact List.prefix_rfl
  | pin user now =>
    simp only [Login.step, point]
    split
    · cases created : db.createSession (call.sessionOf deps input user now) with
      | error fault => exact List.prefix_rfl
      | ok next =>
        have same : next.authAttempts = db.authAttempts := by
          rw [LoginDb.createSession_ok created]
        rw [← same]
        exact List.prefix_append ..
    · exact List.prefix_rfl
  | _ =>
    simp only [Login.step, point]
    exact List.prefix_rfl

theorem finish_kept {call : Enrolling} {login login' : LoginDb}
    (done : call.finish login now = .ok login') : login.authAttempts <+: login'.authAttempts := by
  obtain ⟨_, _, _, _, same⟩ := Devices.finish_cases done
  rw [same]

theorem enrol_kept (deps : DeviceDeps) (input : DeviceInput) (db : LoginDb) (point : EnrolPoint) :
    db.authAttempts <+: (point.step deps input db).1.authAttempts := by
  cases point with
  | enrolling call =>
    simp only [EnrolPoint.step]
    cases done : call.finish db input.now with
    | error fault => exact List.prefix_rfl
    | ok next => exact finish_kept done
  | _ => exact List.prefix_rfl

theorem activation_kept (deps : DeviceDeps) (input : DeviceInput) (db : LoginDb)
    (call : Redemption) : db.authAttempts <+: (call.step deps input db).1.authAttempts := by
  cases point : call.point with
  | begin =>
    simp only [Redemption.step, point]
    split
    · exact List.prefix_rfl
    · split <;> exact List.prefix_rfl
  | verifying row =>
    simp only [Redemption.step, point]
    split <;> exact List.prefix_rfl
  | enrolling row enrolling =>
    simp only [Redemption.step, point]
    cases done : enrolling.finish db input.now with
    | error fault => exact List.prefix_rfl
    | ok next => exact finish_kept done
  | _ =>
    simp only [Redemption.step, point]
    exact List.prefix_rfl

theorem work_kept (work : Work) :
    db.authAttempts <+: (work.step options input db).1.authAttempts := by
  cases work with
  | counter request =>
    have kept : Kept db.pos (request.step input.toPinInput db.pos).1 := counter_kept request
    simp only [Work.step]
    split
    · exact kept
    · exact kept
  | deposit process => exact List.prefix_rfl
  | enrol point => exact enrol_kept options.devices input.device db.login point
  | signIn call =>
    exact login_kept options.devices.toLoginDeps input.device.toLoginInput db.login call
  | activate call => exact activation_kept options.devices input.device db.login call
  | fileReversal call => exact List.prefix_rfl

theorem settings_attempts (merchantId : MerchantId) (settings : List (String × String)) :
    (settings.foldl (fun db setting => PosServerDb.writeSetting db merchantId setting)
      db).authAttempts = db.authAttempts := by
  induction settings generalizing db with
  | nil => rfl
  | cons setting settings ih => exact ih

theorem complain_attempts
    (done : complain input context transactionId description db = .ok db') :
    db'.authAttempts = db.authAttempts := by
  simp only [complain, PosServerDb.saveComplaintReview, bind_ok, demand_ok, pure_ok] at done
  obtain ⟨_, _, _, _, _, _, _, _, _, _, rfl⟩ := done
  rfl

theorem act_kept {context : AuthContext} (act : Application.Act) :
    db.authAttempts <+: (act.perform options input db context).1.authAttempts := by
  cases act with
  | writeSettings settings =>
    simp only [Act.perform]
    rw [settings_attempts]
  | saveCustomer displayName phone =>
    simp only [Act.perform]
    split
    · rename_i done
      simp only [PosServerDb.saveCustomer, bind_ok, demand_ok, pure_ok] at done
      obtain ⟨_, _, _, _, rfl⟩ := done
      exact List.prefix_rfl
    · exact List.prefix_rfl
  | endShift =>
    simp only [Act.perform]
    split <;> exact List.prefix_rfl
  | fileComplaint transactionId description =>
    simp only [Act.perform]
    split
    · exact List.prefix_rfl
    · split
      · rename_i done
        rw [complain_attempts done]
      · exact List.prefix_rfl
  | _ => exact List.prefix_rfl

theorem follow_kept (passage : Passage) :
    db.authAttempts <+: (passage.follow options input db).1.authAttempts := by
  cases passage with
  | admitted context act => exact act_kept act
  | _ => exact List.prefix_rfl

theorem checked_attempts (checked : Visits.Checked db db') : db'.authAttempts = db.authAttempts := by
  rw [checked.rest]

/-- A step of a request takes no attempt away. -/
theorem visit_kept (visit : Visit) :
    db.authAttempts <+: (visit.step options input db).1.authAttempts := by
  by_cases gate : Visits.VisitPoint.AtGate visit.point
  · obtain ⟨mid, checked, ⟨awaiting, _, moved⟩ | ⟨passage, _, moved⟩⟩ :=
      Visits.gate_cases options input db visit gate
    · rw [moved, ← checked_attempts checked]
    · rw [moved, ← checked_attempts checked]
      exact follow_kept passage
  · obtain ⟨request, point⟩ := visit
    cases point with
    | arriving => exact absurd (.inl rfl) gate
    | awaiting awaiting => exact absurd (.inr ⟨awaiting, rfl⟩) gate
    | working work => exact work_kept work
    | unlocking call =>
      have kept : Kept db.pos (call.step input.toPinInput db.pos).1 := unlockWithPin_kept rfl
      simp only [Visit.step]
      split
      · exact kept
      all_goals exact kept
    | answered => exact List.prefix_rfl

theorem carryOn_kept (state : PosServerDb × Visit) :
    state.1.authAttempts <+: (Visit.carryOn options input state).1.authAttempts := by
  unfold Visit.carryOn
  split
  · exact visit_kept state.2
  · exact List.prefix_rfl

theorem goOn_kept {inputs : Nat → ServerInput} (visit : Visit) :
    db.authAttempts <+: (visit.goOn options inputs db).1.authAttempts :=
  ((visit_kept visit).trans (carryOn_kept _)).trans (carryOn_kept _)

/-- What the guard lets past on a route of the scope has been asked the rate, in the database as it
is. -/
theorem salePassed_cases {request : ApiRequest} {route : Route} {context : AuthContext}
    (passed : salePassed options input db request = some (route, context)) :
    ∃ mid params, Visits.Checked db mid ∧
      countAttemptsSince mid.pos .sale context.sessionId
        (input.now 0 - options.saleRateWindowMs) < options.maxSalesPerWindow ∧
      handle options input db request =
        (mid, match route.handler.act options mid input context request params with
          | none => .answered
          | some act => .admitted context act) := by
  unfold salePassed at passed
  cases found : findRoute options.decodeURIComponent request.method
      (normalizePath request.path.toList) routes with
  | error _ =>
    rw [found] at passed
    cases passed
  | ok outcome =>
    rw [found] at passed
    cases outcome with
    | none => cases passed
    | some pair =>
      obtain ⟨own, params⟩ := pair
      simp only [] at passed
      split at passed
      · rename_i sale
        obtain ⟨permission, permitted, passed⟩ := Option.bind_eq_some_iff.mp passed
        obtain ⟨admitted, guarded, same⟩ := Option.map_eq_some_iff.mp passed
        cases same
        have checked := (Visits.authenticate_checked options db request.session
          (¬ request.background) (input.now 0)).1
        unfold PosServer.guard at guarded
        cases asked : PosServer.authenticate options db request.session (¬ request.background)
            (input.now 0) with
        | mk mid answer =>
          rw [asked] at checked guarded
          cases answer with
          | none => cases guarded
          | some named =>
            simp only [] at guarded
            split at guarded
            · rename_i may
              cases guarded
              have rate := may
              unfold mayPass at rate
              obtain ⟨_, _, rate, _⟩ := of_decide_eq_true rate
              refine ⟨mid, params, checked, rate sale, ?_⟩
              unfold handle PosServer.guard
              simp only [found, permitted, asked, may, if_true]
              split <;> simp_all
            · cases guarded
      · cases passed

theorem posted_step {visit : Visit} {request : ApiRequest} {passage : Passage}
    (posted : visit.posted options = some request)
    (handled : handle options input db request = (db', passage)) :
    visit.step options input db = (passage.follow options input db').map id visit.at := by
  obtain ⟨own, point⟩ := visit
  simp only [Visit.posted] at posted
  split at posted
  · rename_i awaits body
    cases posted
    cases awaits
    simp only [Visit.step, Visit.passage, resume, body, handled]
    rfl
  · rename_i awaits body
    obtain ⟨call, called, same⟩ := Option.map_eq_some_iff.mp posted
    cases same
    cases awaits
    simp only [Visit.step, Visit.passage, resume, formPassage, body, called, handled]
    rfl
  · cases posted

/-- A request that is let past counts its attempt: it is a sale whose body will do, in a training
server, the database takes the attempt's row, and the clock has not gone back meanwhile. -/
structure Counts (options : PosServerOptions) (inputs : Nat → ServerInput) (request : ApiRequest)
    (route : Route) (context : AuthContext) : Prop where
  sale : route.handler = .postSale
  training : options.mode = .training
  valid : (validateBody context (correlationOf (inputs 0) request)
    (saleBody request.body)).toOption.isSome = true
  free : (inputs 2).busy = false
  clock : (inputs 0).now 0 ≤ (inputs 2).now 0

/-- The call of a sale that the API has let through. -/
def callOf (options : PosServerOptions) (input : ServerInput) (context : AuthContext)
    (request : ApiRequest) (point : PostSalePoint) : PostSale :=
  { deps := options.toPosDeps, context, origin := .api (saleBody request.body)
    correlationId := correlationOf input request, point }

def saleWork (call : PostSale) : VisitPoint :=
  .working (.counter (.pin (.pos (.postSale call))))

theorem sale_step {call call' : PostSale} {pos' : PosDb} {visit : Visit}
    (moved : call.step input.toInput db.pos = (pos', call')) :
    (visit.at (saleWork call)).step options input db =
      (db.withPos pos', visit.at (saleWork call')) := by
  simp only [Visit.step, saleWork, Visit.at, Work.step, CounterRequest.step, PinRequest.step,
    PosRequest.step, moved]
  rfl

/-- A sale in training whose body will do goes on to record its attempt. -/
theorem begin_step {input : Input} {pos : PosDb} {call : PostSale} {sale : SaleRequest}
    (point : call.point = .begin) (training : call.deps.mode = .training)
    (valid : validateBody call.context call.correlationId call.origin.body = .ok sale) :
    call.step input pos = (pos, call.at (.recording sale)) := by
  simp only [PostSale.step, point, training, valid]
  rfl

theorem carryOn_sale {call : PostSale} {visit : Visit} (counting : (saleWork call).counting = true) :
    Visit.carryOn options input (db, visit.at (saleWork call)) =
      (visit.at (saleWork call)).step options input db :=
  if_pos counting

variable {inputs : Nat → ServerInput} {visit : Visit} {request : ApiRequest} {route : Route}
  {context : AuthContext}

/-- A sale that counts its attempt has it on record before it waits. -/
theorem counted_attempts (posted : visit.posted options = some request)
    (passed : salePassed options (inputs 0) db request = some (route, context))
    (counts : Counts options inputs request route context) :
    (visit.goOn options inputs db).1.authAttempts =
      db.authAttempts ++ [⟨.sale, context.sessionId, .success, (inputs 2).now 0⟩] := by
  obtain ⟨mid, params, checked, _, handled⟩ := salePassed_cases passed
  obtain ⟨sale, found⟩ := Option.isSome_iff_exists.mp counts.valid
  have valid : validateBody context (correlationOf (inputs 0) request) (saleBody request.body) =
      .ok sale := by
    cases validated : validateBody context (correlationOf (inputs 0) request)
        (saleBody request.body) with
    | error code =>
      rw [validated] at found
      cases found
    | ok other =>
      rw [validated] at found
      cases found
      rfl
  have first := posted_step posted handled
  have arrived : visit.step options (inputs 0) db =
      (mid, visit.at (saleWork (callOf options (inputs 0) context request .begin))) := by
    rw [first, counts.sale]
    rfl
  have validating : (callOf options (inputs 0) context request .begin).step
      (inputs 1).toInput mid.pos =
        (mid.pos, callOf options (inputs 0) context request (.recording sale)) :=
    begin_step rfl counts.training valid
  have recording : ((callOf options (inputs 0) context request (.recording sale)).step
      (inputs 2).toInput mid.pos).1 =
        recordAttempt mid.pos .sale context.sessionId .success ((inputs 2).now 0) := by
    simp only [PostSale.step, callOf, posUnit_certain counts.free]
  have next : (visit.at (saleWork (callOf options (inputs 0) context request .begin))).step
      options (inputs 1) mid =
        (mid, visit.at (saleWork (callOf options (inputs 0) context request
          (.recording sale)))) := by
    rw [sale_step validating, Visits.withPos_pos]
  have last : ((visit.at (saleWork (callOf options (inputs 0) context request
      (.recording sale)))).step options (inputs 2) mid).1.authAttempts =
        mid.authAttempts ++ [⟨.sale, context.sessionId, .success, (inputs 2).now 0⟩] := by
    rw [sale_step rfl]
    exact congrArg PosDb.authAttempts recording
  unfold Visit.goOn
  rw [arrived, carryOn_sale rfl, next, carryOn_sale rfl, last, checked_attempts checked]

end Server

abbrev SaleTaken := Taken Visits.ServerWorld (Event (Nat → ServerInput) Visit)

/-- A step of the requests to a server, each of which starts where it arrives. -/
abbrev SaleStep (options : PosServerOptions) :=
  Pool (saleServer options) (fun _ visit => visit.point = .arriving) fun _ _ _ => True

variable {options : PosServerOptions} {past : List SaleTaken} {w w' : Visits.ServerWorld}

/-- A request that is let past: what it meets, what it asks for, its route and its session. -/
structure PassedSale where
  inputs : Nat → ServerInput
  request : ApiRequest
  route : Route
  context : AuthContext

/-- The request that a step lets past the guard on a route of the scope, if it does. -/
def passing (options : PosServerOptions) (taken : SaleTaken) : Option PassedSale :=
  match taken.event with
  | .act slot inputs => do
    let visit ← taken.before.proc slot
    let request ← visit.posted options
    let (route, context) ← salePassed options (inputs 0) taken.before.store request
    return ⟨inputs, request, route, context⟩
  | _ => none

/-- Whose request it is, and when. -/
def passedAt (options : PosServerOptions) (taken : SaleTaken) : Option (String × Timestamp) :=
  (passing options taken).map fun passed => (passed.context.sessionId, (passed.inputs 0).now 0)

/-- When the requests of a session were let past, the latest first. -/
def passTimes (options : PosServerOptions) (session : String) (past : List SaleTaken) : List Int :=
  (past.filterMap (passedAt options)).filterMap fun passed =>
    if passed.1 = session then some passed.2 else none

/-- No window lets more requests of a session past than the limit. -/
def Limited (options : PosServerOptions) (past : List SaleTaken) : Prop :=
  ∀ session last, within options.saleRateWindowMs last (passTimes options session past) ≤
    options.maxSalesPerWindow

/-- Whatever a step lets past counts its attempt. -/
def Counting (options : PosServerOptions) (taken : SaleTaken) : Prop :=
  ∀ passed ∈ passing options taken,
    Counts options passed.inputs passed.request passed.route passed.context

instance (inputs : Nat → ServerInput) (request : ApiRequest) (route : Route)
    (context : AuthContext) : Decidable (Counts options inputs request route context) :=
  decidable_of_iff (route.handler = .postSale ∧ options.mode = .training ∧
      (validateBody context (correlationOf (inputs 0) request)
        (saleBody request.body)).toOption.isSome = true ∧
      (inputs 2).busy = false ∧ (inputs 0).now 0 ≤ (inputs 2).now 0)
    ⟨fun ⟨sale, training, valid, free, clock⟩ => ⟨sale, training, valid, free, clock⟩,
      fun ⟨sale, training, valid, free, clock⟩ => ⟨sale, training, valid, free, clock⟩⟩

instance (taken : SaleTaken) : Decidable (Counting options taken) :=
  inferInstanceAs (Decidable (∀ passed ∈ passing options taken, _))

/-- When attempts of a session at sales were recorded. -/
def saleTimes (db : PosServerDb) (session : String) : List Int :=
  (db.authAttempts.filter fun row => row.scope = .sale ∧ row.subject = session).map
    (·.createdAt)

theorem count_saleTimes (db : PosServerDb) (session : String) (since : Int) :
    countAttemptsSince db.pos .sale session since = (saleTimes db session).countP (since < ·) := by
  unfold countAttemptsSince saleTimes
  rw [List.countP_map, List.countP_filter, ← List.countP_eq_length_filter]
  refine List.countP_congr fun row _ => ?_
  simp only [Function.comp_apply, decide_eq_true_eq, Bool.and_eq_true]
  tauto

theorem saleTimes_append {db db' : PosServerDb} {session : String} {now : Int}
    (counted : db'.authAttempts = db.authAttempts ++ [⟨.sale, session, .success, now⟩])
    (other : String) :
    saleTimes db' other = saleTimes db other ++ if session = other then [now] else [] := by
  unfold saleTimes
  rw [counted, List.filter_append, List.map_append]
  by_cases same : session = other
  · simp [same]
  · simp [same]

theorem saleTimes_kept {db db' : PosServerDb} (kept : db.authAttempts <+: db'.authAttempts)
    (session : String) (since : Int) :
    (saleTimes db session).countP (since < ·) ≤ (saleTimes db' session).countP (since < ·) :=
  ((kept.sublist.filter _).map _).countP_le

/-- The attempts on record cover what was let past. -/
structure Covered (options : PosServerOptions) (past : List SaleTaken) (db : PosServerDb) :
    Prop where
  recorded : ∀ session since, (passTimes options session past).countP (since < ·) ≤
    (saleTimes db session).countP (since < ·)
  spaced : ∀ session,
    Spaced options.saleRateWindowMs options.maxSalesPerWindow (passTimes options session past)

theorem passTimes_none {taken : SaleTaken} (none : passedAt options taken = none)
    (session : String) :
    passTimes options session (taken :: past) = passTimes options session past := by
  unfold passTimes
  rw [List.filterMap_cons_none none]

theorem passTimes_some {taken : SaleTaken} {own : String} {now : Int}
    (passed : passedAt options taken = some (own, now)) (session : String) :
    passTimes options session (taken :: past) =
      if own = session then now :: passTimes options session past
      else passTimes options session past := by
  unfold passTimes
  rw [List.filterMap_cons_some passed]
  by_cases same : own = session
  · rw [if_pos same]
    exact List.filterMap_cons_some (if_pos same)
  · rw [if_neg same]
    exact List.filterMap_cons_none (if_neg same)

/-- A step that lets nothing past keeps what was let past covered. -/
theorem Covered.idle {taken : SaleTaken} {db db' : PosServerDb} (covered : Covered options past db)
    (none : passedAt options taken = none) (kept : db.authAttempts <+: db'.authAttempts) :
    Covered options (taken :: past) db' where
  recorded session since := by
    rw [passTimes_none none]
    exact (covered.recorded session since).trans (saleTimes_kept kept session since)
  spaced session := by
    rw [passTimes_none none]
    exact covered.spaced session

/-- A request that is let past found few of its session on record, and is on record itself. -/
theorem Covered.passed {taken : SaleTaken} {db db' : PosServerDb} {session : String}
    {now later : Int} (covered : Covered options past db)
    (passed : passedAt options taken = some (session, now))
    (room : (saleTimes db session).countP (now - options.saleRateWindowMs < ·) <
      options.maxSalesPerWindow) (clock : now ≤ later)
    (counted : db'.authAttempts = db.authAttempts ++ [⟨.sale, session, .success, later⟩]) :
    Covered options (taken :: past) db' where
  recorded other since := by
    have before := covered.recorded other since
    rw [passTimes_some passed, saleTimes_append counted, List.countP_append]
    by_cases same : session = other
    · rw [if_pos same, if_pos same, List.countP_cons, List.countP_singleton]
      by_cases inside : since < now
      · have later : since < later := by omega
        simp only [inside, later, decide_true, if_true]
        omega
      · simp only [inside, decide_false, Bool.false_eq_true, if_false]
        omega
    · rw [if_neg same, if_neg same]
      simpa using before
  spaced other := by
    rw [passTimes_some passed]
    by_cases same : session = other
    · rw [if_pos same]
      refine ⟨Nat.lt_of_le_of_lt (covered.recorded other _) ?_, covered.spaced other⟩
      rw [← same]
      exact room
    · rw [if_neg same]
      exact covered.spaced other

theorem step_covered {event : Event (Nat → ServerInput) Visit} (covered : Covered options past w.store)
    (step : SaleStep options w event w') (counting : Counting options ⟨w, event, w'⟩) :
    Covered options (⟨w, event, w'⟩ :: past) w'.store := by
  rcases Pool.acted step with ⟨same, idle⟩ | ⟨slot, inputs, visit, acted, here, _, left⟩
  · rw [same]
    refine covered.idle ?_ List.prefix_rfl
    unfold passedAt passing
    cases event with
    | act slot inputs => exact absurd rfl (idle slot inputs)
    | _ => rfl
  · rw [left]
    cases passed : passedAt options ⟨w, event, w'⟩ with
    | none =>
      rw [left] at passed
      exact covered.idle passed (goOn_kept visit)
    | some pair =>
      obtain ⟨session, now⟩ := pair
      obtain ⟨sale, found, same⟩ := Option.map_eq_some_iff.mp passed
      cases same
      have counts := counting sale found
      simp only [passing, acted, here, Option.bind_eq_bind, Option.bind_some] at found
      obtain ⟨request, posted, found⟩ := Option.bind_eq_some_iff.mp found
      obtain ⟨⟨route, context⟩, salePassed, found⟩ := Option.bind_eq_some_iff.mp found
      cases found
      obtain ⟨mid, params, checked, rate, _⟩ := salePassed_cases salePassed
      rw [count_saleTimes] at rate
      have same : saleTimes mid context.sessionId = saleTimes w.store context.sessionId := by
        unfold saleTimes
        rw [checked_attempts checked]
      rw [same] at rate
      rw [left] at passed
      exact covered.passed passed rate counts.clock (counted_attempts posted salePassed counts)

/-- A deposit order called off, though there is none. -/
def cancelling : HttpRequest where
  method := "POST"
  path := "/api/training/deposits/orders/cancel"
  session := some "cookie"
  csrfHeader := some "csrf"
  body := some { raw := "", form := fun _ => none, json := emptyBody }

/-- Some requests that arrive, and then come in and are decided one after another. -/
def oneByOne (requests : List HttpRequest) : List (Event (Nat → ServerInput) Visit) :=
  requests.map (fun request => .start ⟨request, .arriving⟩) ++
    ((List.range requests.length).flatMap fun slot => [slot, slot]).map fun slot =>
      .act slot fun _ => Visits.met "a" 0

/-- What a training shop's server makes of them. -/
def salesPlayed (requests : List HttpRequest) : List SaleTaken × Visits.ServerWorld :=
  played (World.next (saleServer (Visits.plainServer fun _ => true))) (oneByOne requests) []
    ⟨Visits.openShop, []⟩

theorem salesPlayed_run (requests : List HttpRequest) :
    Run Visits.JustStarted (SaleStep (Visits.plainServer fun _ => true)) (salesPlayed requests).1
      (salesPlayed requests).2 := by
  have opening : Run Visits.JustStarted (SaleStep (Visits.plainServer fun _ => true)) []
      ⟨Visits.openShop, []⟩ := .start ⟨rfl, rfl⟩
  have playable : Playable (World.May (fun _ _ => True) fun _ _ _ => True)
      (World.next (saleServer (Visits.plainServer fun _ => true))) (oneByOne requests)
      ⟨Visits.openShop, []⟩ := by
    have events : oneByOne requests =
        (requests.map fun request => (⟨request, .arriving⟩ : Visit)).map .start ++
          (((List.range requests.length).flatMap fun slot => [slot, slot]).map fun slot =>
            (slot, fun _ => Visits.met "a" 0)).map fun act => .act act.1 act.2 := by
      unfold oneByOne
      rw [List.map_map, List.map_map]
      rfl
    rw [events]
    apply Visits.playable_starts
    apply Visits.playable_acts
    · intro held mem
      rw [List.nil_append] at mem
      obtain ⟨_, _, rfl⟩ := List.mem_map.mp mem
      rintro ⟨⟩
    · intro act mem
      obtain ⟨slot, there, rfl⟩ := List.mem_map.mp mem
      obtain ⟨own, within, same⟩ := List.mem_flatMap.mp there
      have small := List.mem_range.mp within
      simp at same
      simp
      omega
  refine opening.play Pool.next (playable_admits ?_ playable)
  intro visit mem _
  rcases List.mem_append.mp mem with mem | mem
  · obtain ⟨_, _, same⟩ := List.mem_map.mp mem
    cases same
    rfl
  · obtain ⟨_, _, same⟩ := List.mem_map.mp mem
    cases same

end Telga.Proofs.SaleRates
