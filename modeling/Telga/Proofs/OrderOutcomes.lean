import Telga.Proofs.Recipients

namespace Telga.Proofs
open Domain Persistence Application Library

/-- The key one voucher of an order is sold under. The product, the amount and the recipient do
not enter into it. -/
def batchKey (order : PendingOrderRow) (index : Nat) : IdempotencyKey :=
  deriveIdempotencyKey
    { merchantId := order.merchantId, deviceId := order.deviceId, productId := order.productId,
      amount := ⟨0, by decide⟩, recipient := order.recipient.getD noRecipient,
      clientRequestId := batchRequestId order.clientRequestId index }

/-- A sale is that of one of the vouchers of an order. -/
def VoucherOf (order : PendingOrderRow) (row : TransactionRow) : Prop :=
  row.merchantId = order.merchantId ∧
  ∃ index : Nat, index < order.quantity ∧ row.idempotencyKey = batchKey order index

/-- A sale exists for one of the vouchers of an order. -/
def SoldFor (pos : PosDb) (order : PendingOrderRow) : Prop :=
  ∃ row ∈ pos.transactions, VoucherOf order row

def statusOf (pos : PosDb) (orderId : String) : Option OrderStatus :=
  (findPendingOrder pos orderId).map (·.status)

/-- The order was called off, by the operator or by the clock. -/
def CalledOff (pos : PosDb) (orderId : String) : Prop :=
  statusOf pos orderId = some .cancelled ∨ statusOf pos orderId = some .expired

/-- A request about one order and no other. -/
def Concerning (orderId : String) : PosRequest → Prop
  | .getOrder call => call.orderId = orderId
  | .cancelOrder call => call.orderId = orderId
  | .authorizeOrder call => call.orderId = orderId
  | _ => False

/-- Any number of reads, cancellations and authorizations of one order, interleaved. -/
abbrev Deciding (args : CliArgs) (orderId : String) :=
  Pool posServer (fun pos request => Serves args pos request ∧ Concerning orderId request) PosFresh

/-- The order is open, nothing has been sold for it and nobody is at work on it. -/
structure Undecided (args : CliArgs) (order : PendingOrderRow) (w : World PosDb PosRequest) :
    Prop where
  sound : PosSound args w.store
  stored : order ∈ w.store.pendingOrders
  opened : order.status = .opened
  unsold : ¬ SoldFor w.store order
  idle : w.procs = []

/-- No authorization is at work. -/
def Quiet (w : World PosDb PosRequest) : Prop :=
  ∀ call, some (.authorizeOrder call) ∈ w.procs →
    PosRequest.finished (.authorizeOrder call) = true

/-- An order that was called off has sold nothing, and one that sold anything is authorized once
no authorization is at work on it. -/
structure OneOutcome (order : PendingOrderRow) (w : World PosDb PosRequest) : Prop where
  calledOff : CalledOff w.store order.id → ¬ SoldFor w.store order
  sold : Quiet w → SoldFor w.store order → statusOf w.store order.id = some .authorized

/-- An authorization claims the open order for the sale its first voucher came to. -/
def ClaimsOrder (order : PendingOrderRow) (taken : PosHappened) : Prop :=
  ∃ input call found result results transactionId,
    Requested taken input (.authorizeOrder call) ∧
    call.point = .claiming found (result :: results) ∧ result.claimed = some transactionId ∧
    input.busy = false ∧ statusOf taken.before.store order.id = some .opened

/-- The step sells one of the vouchers of the order. -/
def Sells (taken : PosHappened) : Prop :=
  ∃ input call sale, Requested taken input (.authorizeOrder call) ∧
    PosRequest.process (.authorizeOrder call) = some (.createSale sale) ∧
    Accepted input taken.before.store.toDb sale

/-- The step does not call the order off when something was sold for it, does not sell for it when
it was called off, and if it ends the last authorization at work claims what was sold. -/
structure Orderly (order : PendingOrderRow) (taken : PosHappened) : Prop where
  callsOff : CalledOff taken.after.store order.id → ¬ CalledOff taken.before.store order.id →
    ¬ SoldFor taken.before.store order
  sells : Sells taken → ¬ CalledOff taken.before.store order.id
  ends : Quiet taken.after → SoldFor taken.before.store order →
    statusOf taken.before.store order.id = some .authorized ∨ ClaimsOrder order taken

theorem concerning_step (input : Input) (pos : PosDb) (concerning : Concerning orderId request) :
    Concerning orderId (request.step input pos).2 := by
  cases request with
  | getOrder call =>
    have same : (call.step input pos).2.orderId = call.orderId := by
      unfold GetOrder.step
      repeat' split
      all_goals rfl
    exact same.trans concerning
  | cancelOrder call =>
    have same : (call.step input pos).2.orderId = call.orderId := by
      unfold CancelOrder.step
      repeat' split
      all_goals rfl
    exact same.trans concerning
  | authorizeOrder call =>
    have same : (call.step input pos).2.orderId = call.orderId := by
      unfold AuthorizeOrder.step
      repeat' split
      all_goals first | rfl | (dsimp only; split <;> rfl)
    exact same.trans concerning
  | _ => cases concerning

/-- What a request of the order's knows. -/
def Engaged (args : CliArgs) (orderId : String) (pos : PosDb) (request : PosRequest) : Prop :=
  Aware args pos request ∧ Concerning orderId request

/-- The store is sound, each request knows what it knows, and the order is still the order. -/
structure Decided (args : CliArgs) (order : PendingOrderRow) (w : World PosDb PosRequest) :
    Prop where
  secure : Secure (PosSound args) (Engaged args order.id) w
  stored : ∃ row ∈ w.store.pendingOrders, SameOrder order row

theorem engaged_step (w : World PosDb PosRequest) (event : Event Input PosRequest)
    (w' : World PosDb PosRequest) (secure : Secure (PosSound args) (Engaged args orderId) w)
    (step : Deciding args orderId w event w') : Secure (PosSound args) (Engaged args orderId) w' := by
  have acts : ∀ input pos request, PosSound args pos → Engaged args orderId pos request →
      PosFresh input pos request →
      PosSound args (posServer.advance input pos request).1 ∧
      Engaged args orderId (posServer.advance input pos request).1
        (posServer.advance input pos request).2 ∧
      Beside pos (posServer.advance input pos request).1 :=
    fun _ _ _ sound engaged fresh =>
      ⟨pos_sound_step sound engaged.1 fresh,
        ⟨aware_step sound engaged.1 fresh, concerning_step _ _ engaged.2⟩,
        beside_step sound engaged.1 fresh⟩
  have enters : ∀ pos request, PosSound args pos →
      Serves args pos request ∧ Concerning orderId request → Engaged args orderId pos request :=
    fun _ _ _ admitted => ⟨aware_of_start admitted.1, admitted.2⟩
  exact Secure.step enters acts
    (fun _ _ _ _ engaged beside => ⟨engaged.1.beside beside, engaged.2⟩) w event w' secure step

theorem decided_step (w : World PosDb PosRequest) (event : Event Input PosRequest)
    (w' : World PosDb PosRequest) (decided : Decided args order w)
    (step : Deciding args order.id w event w') : Decided args order w' := by
  refine ⟨engaged_step w event w' decided.secure step, ?_⟩
  obtain ⟨row, mem, same⟩ := decided.stored
  cases step with
  | start _ | crash => exact ⟨row, mem, same⟩
  | act here fresh moved =>
    have after := congrArg Prod.fst moved
    simp only [posServer] at after
    rw [← after]
    obtain ⟨later, there, still⟩ := (pos_turn _ _ _).same_orders.1 row mem
    exact ⟨later, there, same.trans still⟩

theorem undecided_decided (w : World PosDb PosRequest) (undecided : Undecided args order w) :
    Decided args order w := by
  refine ⟨⟨undecided.sound, ?_⟩, order, undecided.stored, .refl order⟩
  simp [undecided.idle]

theorem SameOrder.batch (same : SameOrder old order) :
    order.merchantId = old.merchantId ∧ order.quantity = old.quantity ∧
    batchKey order = batchKey old := by
  obtain ⟨_, _, rfl⟩ := same
  exact ⟨rfl, rfl, rfl⟩

/-- The sale an authorization runs is one of the order's vouchers. -/
theorem Decided.voucher (decided : Decided args order w)
    (there : some (PosRequest.authorizeOrder call) ∈ w.procs)
    (running : PosRequest.process (.authorizeOrder call) = some (.createSale sale)) :
    sale.request.merchantId = order.merchantId ∧
    ∃ index : Nat, index < order.quantity ∧ sale.key = batchKey order index := by
  obtain ⟨row, mem, same⟩ := decided.stored
  obtain ⟨aware, concerning⟩ := decided.secure.2 _ there
  obtain ⟨deps, context, orderId, pin, correlationId, point⟩ := call
  cases point with
  | selling found results other =>
    cases running
    obtain ⟨_, ⟨id, copy, held, copies⟩, more, ⟨amount, _, sold⟩, _⟩ := aware
    have ids : copy.id = row.id := by
      rw [copies.keeps.1, same.keeps.1, id]
      exact concerning
    have one : copy = row := decided.secure.1.ids.eq held mem ids
    subst one
    obtain ⟨copyMerchant, copyQuantity, copyKey⟩ := copies.batch
    obtain ⟨sameMerchant, sameQuantity, sameKey⟩ := same.batch
    have request := congrArg SaleCall.request sold
    have key : sale.key = batchKey found results.length := by
      have derived := congrArg SaleCall.key sold
      rw [derived]
      exact deriveIdempotencyKey_congr rfl rfl rfl
    refine ⟨?_, results.length, ?_, ?_⟩
    · rw [request, ← sameMerchant, copyMerchant]
      rfl
    · rw [← sameQuantity, copyQuantity]
      exact more
    · rw [key, ← sameKey, copyKey]
  | _ => cases running

theorem SameSale.voucherOf (same : SameSale old row) : VoucherOf order row ↔ VoucherOf order old := by
  obtain ⟨_, _, _, rfl⟩ := same
  rfl

/-- An order sells a voucher exactly in the steps whose reservation is accepted. -/
theorem soldFor_step {call : AuthorizeOrder} (decided : Decided args order w)
    (there : some (PosRequest.authorizeOrder call) ∈ w.procs)
    (fresh : PosFresh input w.store (.authorizeOrder call)) :
    SoldFor (PosRequest.step input w.store (.authorizeOrder call)).1 order ↔
      SoldFor w.store order ∨ ∃ sale,
        PosRequest.process (.authorizeOrder call) = some (.createSale sale) ∧
        Accepted input w.store.toDb sale := by
  obtain ⟨aware, _⟩ := decided.secure.2 _ there
  obtain ⟨forth, back, opens⟩ := pos_sales decided.secure.1 aware fresh
  constructor
  · rintro ⟨row, mem, voucher⟩
    rcases back row mem with ⟨old, before, same⟩ | ⟨sale, running, accepted, _⟩
    · exact .inl ⟨old, before, same.voucherOf.mp voucher⟩
    · exact .inr ⟨sale, running, accepted⟩
  · rintro (⟨old, mem, voucher⟩ | ⟨sale, running, accepted⟩)
    · obtain ⟨row, later, same⟩ := forth old mem
      exact ⟨row, later, same.voucherOf.mpr voucher⟩
    · obtain ⟨row, mem, opened⟩ := opens sale running accepted
      obtain ⟨merchant, index, within, key⟩ := decided.voucher there running
      exact ⟨row, mem, opened.merchant.trans merchant, index, within, opened.key.trans key⟩

/-- No other request about the order sells anything. -/
theorem soldFor_other (input : Input) (pos : PosDb) (concerning : Concerning orderId request)
    (other : ∀ call, request ≠ .authorizeOrder call) :
    (request.step input pos).1.toDb = pos.toDb := by
  refine unserved input pos ?_
  cases request with
  | authorizeOrder call => exact absurd rfl (other call)
  | getOrder call | cancelOrder call => rfl
  | _ => cases concerning

/-- Changing the status of orders that are open changes the status of one that is. -/
theorem status_update (pos : PosDb) (orderId : String) (hit : PendingOrderRow → Bool)
    (change : PendingOrderRow → PendingOrderRow)
    (keeps : ∀ order, (change order).id = order.id)
    (opened : ∀ order, hit order = true → order.status = .opened)
    (given : ∀ order, (change order).status = status) :
    let pos' := { pos with pendingOrders := update hit change pos.pendingOrders }
    statusOf pos' orderId = statusOf pos orderId ∨
      statusOf pos orderId = some .opened ∧ statusOf pos' orderId = some status := by
  intro pos'
  have found : findPendingOrder pos' orderId =
      (findPendingOrder pos orderId).map fun order => if hit order then change order else order :=
    find?_update fun order => by rw [keeps]
  unfold statusOf
  rw [found]
  cases before : findPendingOrder pos orderId with
  | none => exact .inl rfl
  | some order =>
    by_cases struck : hit order = true
    · refine .inr ⟨?_, ?_⟩
      · simp [opened order struck]
      · simp [struck, given order]
    · exact .inl (by simp [struck])

theorem openOrder_opened (h : openOrder orderId order = true) : order.status = .opened := by
  simp only [openOrder, decide_eq_true_eq] at h
  exact h.2

/-- A step leaves the status of the order alone, or it was open and the step called it off or
claimed it. -/
theorem status_turn (turn : PosTurn input pos pos' request) (concerning : Concerning orderId request) :
    statusOf pos' orderId = statusOf pos orderId ∨
    statusOf pos orderId = some .opened ∧ (CalledOff pos' orderId ∨
      statusOf pos' orderId = some .authorized ∧
      ∃ call found result results transactionId, request = .authorizeOrder call ∧
        call.point = .claiming found (result :: results) ∧
        result.claimed = some transactionId ∧ input.busy = false) := by
  cases turn with
  | nothing same | attempted same | served _ same =>
    rw [same]
    exact .inl rfl
  | created => cases concerning
  | expired _ same =>
    subst same
    rcases status_update pos orderId _ (fun order => { order with status := .expired })
      (fun _ => rfl) (fun order struck => openOrder_opened (Bool.and_eq_true _ _ ▸ struck).1)
      (fun _ => rfl) with still | ⟨opened, closed⟩
    · exact .inl still
    · exact .inr ⟨opened, .inl (.inr closed)⟩
  | cancelled _ same =>
    subst same
    rcases status_update pos orderId _ (fun order => { order with status := .cancelled })
      (fun _ => rfl) (fun _ => openOrder_opened) (fun _ => rfl) with still | ⟨opened, closed⟩
    · exact .inl still
    · exact .inr ⟨opened, .inl (.inl closed)⟩
  | @authorized transactionId _ _ _ _ point claimed free same =>
    subst same
    rcases status_update pos orderId _
      (fun order => { order with status := .authorized, transactionId := some transactionId })
      (fun _ => rfl) (fun _ => openOrder_opened) (fun _ => rfl) with still | ⟨opened, claims⟩
    · exact .inl still
    · exact .inr ⟨opened, .inr ⟨claims, _, _, _, _, _, rfl, point, claimed, free⟩⟩

theorem calledOff_stays (turn : PosTurn input pos pos' request)
    (concerning : Concerning orderId request) (off : CalledOff pos orderId) :
    CalledOff pos' orderId := by
  rcases status_turn turn concerning with still | ⟨opened, _⟩
  · unfold CalledOff
    rw [still]
    exact off
  · unfold CalledOff at off
    rw [opened] at off
    simp at off

theorem authorized_stays (turn : PosTurn input pos pos' request)
    (concerning : Concerning orderId request)
    (authorized : statusOf pos orderId = some .authorized) :
    statusOf pos' orderId = some .authorized := by
  rcases status_turn turn concerning with still | ⟨opened, _⟩
  · exact still.trans authorized
  · rw [opened] at authorized
    cases authorized

/-- An authorization that claims the open order makes it authorized. -/
theorem claim_authorizes {call : AuthorizeOrder} (point : call.point = .claiming found (result :: results))
    (claimed : result.claimed = some transactionId) (free : input.busy = false)
    (opened : statusOf pos call.orderId = some .opened) :
    statusOf (PosRequest.step input pos (.authorizeOrder call)).1 call.orderId = some .authorized := by
  have worked : posUnit input (fun pos => .ok
      (authorizePendingOrder pos call.orderId transactionId)) pos =
      ((authorizePendingOrder pos call.orderId transactionId).1,
        .ok (authorizePendingOrder pos call.orderId transactionId).2) := posUnit_free free rfl
  simp only [PosRequest.step, AuthorizeOrder.step, point, claimed, worked, Prod.map, id]
  have found : findPendingOrder (authorizePendingOrder pos call.orderId transactionId).1
      call.orderId = (findPendingOrder pos call.orderId).map fun order =>
        if openOrder call.orderId order then
          { order with status := .authorized, transactionId := some transactionId }
        else order := find?_update fun _ => rfl
  obtain ⟨order, there, status⟩ := Option.map_eq_some_iff.mp opened
  have id : order.id = call.orderId := by simpa using List.find?_some there
  have struck : openOrder call.orderId order = true := by simp [openOrder, id, status]
  unfold statusOf
  rw [found, there, Option.map_some, Option.map_some, if_pos struck]

/-- A call whose reservation was accepted is still at work. -/
theorem accepted_unfinished {call : AuthorizeOrder}
    (running : PosRequest.process (.authorizeOrder call) = some (.createSale sale))
    (accepted : Accepted input pos.toDb sale) :
    ∃ later, (PosRequest.step input pos (.authorizeOrder call)).2 = .authorizeOrder later ∧
      PosRequest.finished (.authorizeOrder later) = false := by
  obtain ⟨deps, context, orderId, pin, correlationId, point⟩ := call
  cases point with
  | selling order results other =>
    cases running
    obtain ⟨reserving, db', reserved, opened⟩ := accepted
    refine ⟨_, rfl, ?_⟩
    simp only [reserving, opened, CreateSale.at, AuthorizeOrder.at, PosRequest.finished]
  | _ => cases running

theorem Requested.same (requested : Requested taken input' request')
    (acts : taken.event = .act slot input) (here : taken.before.proc slot = some request) :
    input' = input ∧ request' = request := by
  obtain ⟨other, same, there⟩ := requested
  rw [acts] at same
  cases same
  rw [here] at there
  cases there
  exact ⟨rfl, rfl⟩

/-- A voucher of the order is sold after a step if one was before or the step sells one. -/
theorem sold_step {w w' : World PosDb PosRequest} (decided : Decided args order w)
    (step : Deciding args order.id w event w') :
    SoldFor w'.store order ↔ SoldFor w.store order ∨ Sells ⟨w, event, w'⟩ := by
  rcases step.acted with ⟨same, other⟩ | ⟨slot, input, request, acts, here, fresh, rfl⟩
  · rw [same]
    refine ⟨.inl, ?_⟩
    rintro (sold | ⟨_, _, _, ⟨slot, acts, _⟩, _⟩)
    · exact sold
    · exact absurd acts (other _ _)
  · have there := World.proc_mem here
    by_cases authorizing : ∃ call, request = .authorizeOrder call
    · obtain ⟨call, rfl⟩ := authorizing
      refine (soldFor_step decided there fresh).trans (or_congr_right ?_)
      constructor
      · rintro ⟨sale, running, accepted⟩
        exact ⟨input, call, sale, ⟨slot, acts, here⟩, running, accepted⟩
      · rintro ⟨_, other, sale, requested, running, accepted⟩
        obtain ⟨rfl, same⟩ := requested.same acts here
        cases same
        exact ⟨sale, running, accepted⟩
    · have other : ∀ call, request ≠ .authorizeOrder call :=
        fun call same => authorizing ⟨call, same⟩
      have same := soldFor_other input w.store (decided.secure.2 _ there).2 other
      have sold : SoldFor (request.step input w.store).1 order ↔ SoldFor w.store order := by
        unfold SoldFor
        rw [same]
      refine sold.trans ⟨.inl, ?_⟩
      rintro (sold | ⟨_, call, _, requested, _⟩)
      · exact sold
      · exact absurd (requested.same acts here).2.symm (other call)

/-- What a step makes of the status of the order. -/
theorem status_step {w w' : World PosDb PosRequest} (decided : Decided args order w)
    (step : Deciding args order.id w event w') :
    (CalledOff w.store order.id → CalledOff w'.store order.id) ∧
    (statusOf w'.store order.id = some .authorized ↔
      statusOf w.store order.id = some .authorized ∨ ClaimsOrder order ⟨w, event, w'⟩) := by
  rcases step.acted with ⟨same, other⟩ | ⟨slot, input, request, acts, here, fresh, rfl⟩
  · rw [same]
    refine ⟨id, .inl, ?_⟩
    rintro (authorized | ⟨_, _, _, _, _, _, ⟨slot, acts, _⟩, _⟩)
    · exact authorized
    · exact absurd acts (other _ _)
  · have concerning := (decided.secure.2 _ (World.proc_mem here)).2
    have turn := pos_turn input w.store request
    refine ⟨calledOff_stays turn concerning, fun after => ?_, ?_⟩
    · rcases status_turn turn concerning with still | ⟨opened, off | ⟨_, claims⟩⟩
      · exact .inl (still.symm.trans after)
      · unfold CalledOff at off
        simp only [posServer] at after
        rw [after] at off
        simp at off
      · obtain ⟨call, found, result, results, transactionId, rfl, point, claimed, free⟩ := claims
        exact .inr ⟨input, call, found, result, results, transactionId, ⟨slot, acts, here⟩, point,
          claimed, free, opened⟩
    · rintro (authorized | ⟨_, call, found, result, results, transactionId, requested, point, claimed,
        free, opened⟩)
      · exact authorized_stays turn concerning authorized
      · obtain ⟨rfl, rfl⟩ := requested.same acts here
        have named : call.orderId = order.id := concerning
        rw [← named] at opened ⊢
        exact claim_authorizes point claimed free opened

/-- A step that sells a voucher leaves its authorization at work and calls nothing off. -/
theorem Sells.goes_on {w w' : World PosDb PosRequest} (decided : Decided args order w)
    (step : Deciding args order.id w event w') (sells : Sells ⟨w, event, w'⟩) :
    ¬ Quiet w' ∧ (CalledOff w'.store order.id → CalledOff w.store order.id) := by
  obtain ⟨input, call, sale, requested, running, accepted⟩ := sells
  rcases step.acted with ⟨_, other⟩ | ⟨slot, _, _, acts, here, fresh, rfl⟩
  · obtain ⟨slot, acts, _⟩ := requested
    exact absurd acts (other _ _)
  · obtain ⟨rfl, rfl⟩ := requested.same acts here
    obtain ⟨later, same, unfinished⟩ := accepted_unfinished running accepted
    constructor
    · intro quiet
      have there : some (PosRequest.step input w.store (.authorizeOrder call)).2 ∈
          w.procs.set slot (some (PosRequest.step input w.store (.authorizeOrder call)).2) :=
        World.mem_set here
      rw [same] at there
      have finished := quiet later (by simpa only [posServer, same] using there)
      rw [unfinished] at finished
      cases finished
    · intro off
      have served := process_served input w.store running
      simp only [posServer, served] at off
      exact off

/-- In a step out of a state with one outcome, the order keeps to one exactly when the step is
orderly. -/
theorem outcome_step (w : World PosDb PosRequest) (event : Event Input PosRequest)
    (w' : World PosDb PosRequest) (decided : Decided args order w) (one : OneOutcome order w)
    (step : Deciding args order.id w event w') :
    OneOutcome order w' ↔ Orderly order ⟨w, event, w'⟩ := by
  have sold := sold_step decided step
  obtain ⟨stays, authorized⟩ := status_step decided step
  constructor
  · intro after
    refine ⟨?_, ?_, ?_⟩
    · exact fun off _ before => after.calledOff off (sold.mpr (.inl before))
    · exact fun sells off => after.calledOff (stays off) (sold.mpr (.inr sells))
    · exact fun quiet before => authorized.mp (after.sold quiet (sold.mpr (.inl before)))
  · intro orderly
    refine ⟨fun off after => ?_, fun quiet after => ?_⟩
    · rcases sold.mp after with before | sells
      · by_cases already : CalledOff w.store order.id
        · exact one.calledOff already before
        · exact orderly.callsOff off already before
      · exact orderly.sells sells ((sells.goes_on decided step).2 off)
    · rcases sold.mp after with before | sells
      · exact authorized.mpr (orderly.ends quiet before)
      · exact absurd quiet (sells.goes_on decided step).1

/-- However reads, cancellations and authorizations of a voucher order interleave, the order keeps
to one outcome exactly when every step is orderly. -/
theorem orders_resolve {past : List PosHappened}
    (run : Run (Undecided args order) (Deciding args order.id) past w) :
    (∀ taken ∈ past, OneOutcome order taken.after) ↔ ∀ taken ∈ past, Orderly order taken := by
  refine run.always_iff undecided_decided decided_step ?_ outcome_step
  intro w undecided
  exact ⟨fun _ => undecided.unsold, fun _ sold => absurd sold undecided.unsold⟩

/-- The first two requests of the top-up: the deposit and the order. -/
def placed : World PosDb PosRequest :=
  (played (World.next posServer) (topup.take 5) [] ⟨counter, []⟩).2

theorem placed_undecided : Undecided training topupOrder ⟨placed.store, []⟩ where
  sound := by
    have run := serving_run (topup.take 5) (fun request mem => topup_serves request
      (List.mem_of_mem_take mem)) (by decide +kernel)
    exact (run.invariant opensShop_secure serving_step).1
  stored := by decide +kernel
  opened := rfl
  unsold := by
    rintro ⟨row, mem, _⟩
    have none : placed.store.transactions = [] := by decide +kernel
    simp only [none, List.not_mem_nil] at mem
  idle := rfl

/-- The order is cancelled while its voucher is being sold. -/
def crossed : List (Event Input PosRequest) :=
  let delivered := fun tag => drawing tag .confirmedSuccess .success 0
  [.start (.authorizeOrder
     { deps := optionsFrom training, context := cashier, orderId := "order0", pin := "1234",
       correlationId := "sale", point := .begin }),
   .act 0 (delivered "c"), .act 0 (delivered "d"), .act 0 (delivered "e"), .act 0 (delivered "f"),
   .act 0 (delivered "g"), .act 0 (delivered "h"), .act 0 (delivered "i"), .act 0 (delivered "j"),
   .act 0 (delivered "k"), .act 0 (delivered "l"), .act 0 (delivered "m"),
   .act 0 (delivered "sale"),
   .start (.cancelOrder { context := cashier, orderId := "order0", point := .begin }),
   .act 1 (delivered "n"), .act 1 (delivered "o"), .act 1 (delivered "p")]

def crossedRun : List PosHappened × World PosDb PosRequest :=
  played (World.next posServer) crossed [] ⟨placed.store, []⟩

theorem crossed_run :
    Run (Undecided training topupOrder) (Deciding training "order0") crossedRun.1 crossedRun.2 := by
  have opening : Run (Undecided training topupOrder) (Deciding training "order0") []
      ⟨placed.store, []⟩ := .start placed_undecided
  refine opening.play Pool.next (playable_admits ?_ (by decide +kernel))
  intro request mem pos
  simp only [crossed, List.mem_cons, Event.start.injEq, reduceCtorEq, List.not_mem_nil,
    false_or, or_false] at mem
  rcases mem with rfl | rfl
  · exact ⟨⟨rfl, rfl, by rintro _ ⟨⟩⟩, rfl⟩
  · exact ⟨⟨rfl, trivial, by rintro _ ⟨⟩⟩, rfl⟩

theorem crossed_sold : CalledOff crossedRun.2.store "order0" ∧
    SoldFor crossedRun.2.store topupOrder := by
  constructor
  · unfold CalledOff
    decide +kernel
  · refine ⟨_, List.mem_cons_self .., ?_⟩
    exact ⟨by decide +kernel, 0, by decide, by decide +kernel⟩

/-- The order ends cancelled and its voucher is sold. -/
theorem crossed_unresolved :
    Run (Undecided training topupOrder) (Deciding training "order0") crossedRun.1 crossedRun.2 ∧
    ¬ ∀ taken ∈ crossedRun.1, OneOutcome topupOrder taken.after := by
  refine ⟨crossed_run, fun one => ?_⟩
  obtain ⟨off, sold⟩ := crossed_sold
  exact (one _ (List.mem_cons_self ..)).calledOff off sold

/-- One step of it is not orderly. -/
theorem crossed_disorderly : ∃ taken ∈ crossedRun.1, ¬ Orderly topupOrder taken := by
  by_contra none
  have orderly : ∀ taken ∈ crossedRun.1, Orderly topupOrder taken :=
    fun taken mem => by_contra fun wrong => none ⟨taken, mem, wrong⟩
  have one := (orders_resolve crossed_run).mpr orderly
  obtain ⟨off, sold⟩ := crossed_sold
  exact (one _ (List.mem_cons_self ..)).calledOff off sold

end Telga.Proofs
