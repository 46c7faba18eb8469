import Telga.Proofs.PosTurns

namespace Telga.Proofs
open Domain Persistence Application Library

/-- An order as it was stored before: another status, perhaps, but the same order. -/
def SameOrder (old order : PendingOrderRow) : Prop :=
  ∃ status transactionId, order = { old with status, transactionId }

theorem SameOrder.refl (order : PendingOrderRow) : SameOrder order order :=
  ⟨order.status, order.transactionId, rfl⟩

theorem SameOrder.trans (first : SameOrder a b) (next : SameOrder b c) : SameOrder a c := by
  obtain ⟨_, _, rfl⟩ := first
  obtain ⟨status, transactionId, rfl⟩ := next
  exact ⟨status, transactionId, rfl⟩

/-- Orders whose status was changed are the same orders. -/
theorem update_same {hit : PendingOrderRow → Bool} {change : PendingOrderRow → PendingOrderRow}
    (keeps : ∀ order, SameOrder order (change order)) (orders : List PendingOrderRow) :
    (∀ old ∈ orders, ∃ order ∈ update hit change orders, SameOrder old order) ∧
    ∀ order ∈ update hit change orders, ∃ old ∈ orders, SameOrder old order := by
  have same : ∀ old, SameOrder old (if hit old then change old else old) := by
    intro old
    split
    · exact keeps old
    · exact .refl old
  refine ⟨fun old mem => ⟨_, update_mem hit change mem, same old⟩, fun order mem => ?_⟩
  obtain ⟨old, there, rfl⟩ := mem_update.mp mem
  exact ⟨old, there, same old⟩

theorem expire_same (order : PendingOrderRow) : SameOrder order { order with status := .expired } :=
  ⟨_, _, rfl⟩

theorem cancel_same (order : PendingOrderRow) :
    SameOrder order { order with status := .cancelled } :=
  ⟨_, _, rfl⟩

theorem authorize_same (transactionId : TransactionId) (order : PendingOrderRow) :
    SameOrder order { order with status := .authorized, transactionId := some transactionId } :=
  ⟨_, _, rfl⟩

/-- No step removes an order, and the only order one adds is the one it creates. -/
theorem PosTurn.same_orders (turn : PosTurn input pos pos' request) :
    (∀ old ∈ pos.pendingOrders, ∃ order ∈ pos'.pendingOrders, SameOrder old order) ∧
    ∀ order ∈ pos'.pendingOrders, (∃ old ∈ pos.pendingOrders, SameOrder old order) ∨
      ∃ call product amountMinor quantity supplied, request = .postOrder call ∧
        call.point = .creating product amountMinor quantity supplied ∧
        order = pendingOrderRow (call.order product amountMinor quantity supplied input) := by
  have kept : pos'.pendingOrders = pos.pendingOrders →
      (∀ old ∈ pos.pendingOrders, ∃ order ∈ pos'.pendingOrders, SameOrder old order) ∧
      ∀ order ∈ pos'.pendingOrders, (∃ old ∈ pos.pendingOrders, SameOrder old order) ∨
        ∃ call product amountMinor quantity supplied, request = .postOrder call ∧
          call.point = .creating product amountMinor quantity supplied ∧
          order = pendingOrderRow (call.order product amountMinor quantity supplied input) := by
    intro same
    rw [same]
    exact ⟨fun old mem => ⟨old, mem, .refl old⟩, fun order mem => .inl ⟨order, mem, .refl order⟩⟩
  cases turn with
  | nothing same | attempted same | served _ same => exact kept (same ▸ rfl)
  | created point made =>
    obtain ⟨rfl, _, rfl⟩ := createPendingOrder_ok made
    refine ⟨fun old mem => ⟨old, List.mem_append_left _ mem, .refl old⟩, fun order mem => ?_⟩
    rcases List.mem_append.mp mem with mem | mem
    · exact .inl ⟨order, mem, .refl order⟩
    · exact .inr ⟨_, _, _, _, _, rfl, point, List.mem_singleton.mp mem⟩
  | expired _ same =>
    subst same
    obtain ⟨forth, back⟩ := update_same expire_same pos.pendingOrders
    exact ⟨forth, fun order mem => .inl (back order mem)⟩
  | cancelled _ same =>
    subst same
    obtain ⟨forth, back⟩ := update_same cancel_same pos.pendingOrders
    exact ⟨forth, fun order mem => .inl (back order mem)⟩
  | authorized _ _ _ same =>
    subst same
    obtain ⟨forth, back⟩ := update_same (authorize_same _) pos.pendingOrders
    exact ⟨forth, fun order mem => .inl (back order mem)⟩

theorem PosTurn.unique_orders (turn : PosTurn input pos pos' request)
    (unique : Unique (·.id) pos.pendingOrders) : Unique (·.id) pos'.pendingOrders := by
  cases turn with
  | nothing same | attempted same | served _ same => exact same ▸ unique
  | created _ made =>
    obtain ⟨_, absent, rfl⟩ := createPendingOrder_ok made
    exact unique.append fun old mem same => absent ⟨old, mem, same⟩
  | expired _ same | cancelled _ same | authorized _ _ _ same =>
    exact same ▸ unique.update fun _ => rfl

/-- A request goes by an order as it is stored, whatever its status has become. -/
def Copied (pos : PosDb) (orderId : String) (order : PendingOrderRow) : Prop :=
  order.id = orderId ∧ ∃ stored ∈ pos.pendingOrders, SameOrder order stored

/-- The sale a request runs inside itself: known to it, and carried if it was opened. -/
def Embedded (pos : PosDb) (sale : CreateSale) : Prop :=
  KnownSale pos.toDb sale ∧ Carried pos.toDb sale

/-- What a request knows at each point. A service of its own is never a sale. -/
def Aware (args : CliArgs) (pos : PosDb) : PosRequest → Prop
  | .service process => process.service ≠ .createSale ∧ Known pos.toDb process
  | .postSale call => call.deps = optionsFrom args ∧
    match call.point with
    | .recording request =>
      validateBody call.context call.correlationId call.origin.body = .ok request
    | .selling sale =>
      validateBody call.context call.correlationId call.origin.body = .ok sale.request ∧
      Embedded pos sale
    | _ => True
  | .postOrder call => call.deps = optionsFrom args ∧
    match call.point with
    | .creating product amountMinor _ supplied =>
      (optionsFrom args).vouchers call.request.productId = some product ∧
      orderAmount product call.request.customAmountMinor = .ok amountMinor ∧
      supplied = call.supplied
    | _ => True
  | .authorizeOrder call => call.deps = optionsFrom args ∧
    match call.point with
    | .failures order _ => Copied pos call.orderId order
    | .attempts order _ => Copied pos call.orderId order
    | .user order _ => Copied pos call.orderId order
    | .verifying order _ _ => Copied pos call.orderId order
    | .accepting order _ => Copied pos call.orderId order
    | .selling order results sale => Copied pos call.orderId order ∧
      results.length < order.quantity ∧
      (∃ amount, amount.minor = order.amountMinor ∧
        sale.toSaleCall = (call.saleOf order results.length amount).toSaleCall) ∧
      Embedded pos sale
    | .claiming order _ => Copied pos call.orderId order
    | _ => True
  | _ => True

/-- What a request may count on another's step having done. -/
def Beside (pos pos' : PosDb) : Prop :=
  (pos'.toDb = pos.toDb ∨ Deeds pos.toDb pos'.toDb) ∧
  ∀ old ∈ pos.pendingOrders, ∃ order ∈ pos'.pendingOrders, SameOrder old order

theorem Copied.beside (copied : Copied pos orderId order) (beside : Beside pos pos') :
    Copied pos' orderId order := by
  obtain ⟨id, stored, mem, same⟩ := copied
  obtain ⟨later, there, after⟩ := beside.2 stored mem
  exact ⟨id, later, there, same.trans after⟩

theorem known_beside (known : Known pos.toDb process) (beside : Beside pos pos') :
    Known pos'.toDb process := by
  rcases beside.1 with same | ⟨other, deed, sound, turn, did⟩
  · exact same ▸ known
  · exact known.did sound turn did

theorem Embedded.beside (embedded : Embedded pos sale) (beside : Beside pos pos') :
    Embedded pos' sale := by
  have known : Known pos.toDb (.createSale sale) := embedded.1
  refine ⟨known_beside known beside, ?_⟩
  rcases beside.1 with same | ⟨other, deed, sound, turn, did⟩
  · exact same ▸ embedded.2
  · exact embedded.2.did did

theorem Aware.beside (aware : Aware args pos request) (beside : Beside pos pos') :
    Aware args pos' request := by
  cases request with
  | service process => exact ⟨aware.1, known_beside aware.2 beside⟩
  | postSale call =>
    refine ⟨aware.1, ?_⟩
    have knows := aware.2
    cases point : call.point with
    | selling sale =>
      simp only [point] at knows ⊢
      exact ⟨knows.1, knows.2.beside beside⟩
    | recording request =>
      simp only [point] at knows ⊢
      exact knows
    | _ => trivial
  | authorizeOrder call =>
    refine ⟨aware.1, ?_⟩
    have knows := aware.2
    cases point : call.point with
    | selling order results sale =>
      simp only [point] at knows ⊢
      obtain ⟨copied, more, request, embedded⟩ := knows
      exact ⟨copied.beside beside, more, request, embedded.beside beside⟩
    | failures | attempts | user | verifying | accepting | claiming =>
      simp only [point] at knows ⊢
      exact knows.beside beside
    | _ => trivial
  | postOrder call => exact aware
  | _ => trivial

theorem Aware.known (aware : Aware args pos request) :
    ∀ process ∈ request.process, Known pos.toDb process := by
  intro process running
  cases request with
  | service other =>
    cases running
    exact aware.2
  | postSale call =>
    obtain ⟨deps, context, origin, correlationId, point⟩ := call
    cases point with
    | selling sale =>
      cases running
      exact aware.2.2.1
    | _ => cases running
  | authorizeOrder call =>
    obtain ⟨deps, context, orderId, pin, correlationId, point⟩ := call
    cases point with
    | selling order results sale =>
      cases running
      exact aware.2.2.2.2.1
    | _ => cases running
  | _ => cases running

/-- What holds of the database of a point of sale: every order costs what its product may. -/
structure PosSound (args : CliArgs) (pos : PosDb) : Prop where
  sound : Sound pos.toDb
  ids : Unique (·.id) pos.pendingOrders
  priced : ∀ order ∈ pos.pendingOrders, ∃ product,
    (optionsFrom args).vouchers order.productId = some product ∧
    product.Priced order.amountMinor

theorem orderAmount_priced (h : orderAmount product supplied = .ok amountMinor) :
    product.Priced amountMinor := by
  unfold orderAmount at h
  unfold VoucherOrderProduct.Priced
  split at h
  · rename_i custom
    rw [if_pos custom]
    split at h
    · cases h
    · split at h
      · cases h
      · rename_i accepted
        cases h
        exact accepted
  · rename_i fixed
    rw [if_neg fixed]
    cases h
    rfl

/-- The catalog finds a product under its own id. -/
theorem vouchers_id (found : (optionsFrom args).vouchers productId = some product) :
    product.productId = productId := by
  have same := List.find?_some found
  simpa using same

section Steps

variable {args : CliArgs} {input : Input} {pos : PosDb} {request : PosRequest}

/-- What the service a request runs does is some deed. -/
theorem served_deed (sound : PosSound args pos) (aware : Aware args pos request)
    (fresh : PosFresh input pos request) (running : request.process = some process) :
    ∃ deed, Turn pos.toDb process deed ∧
      Did deed pos.toDb (process.step input pos.toDb).1 := by
  have known := aware.known process running
  obtain ⟨deed, turn, did, _⟩ := step_acts sound.sound known (fresh process running)
  exact ⟨deed, turn, did⟩

theorem pos_sound_step (sound : PosSound args pos) (aware : Aware args pos request)
    (fresh : PosFresh input pos request) : PosSound args (request.step input pos).1 := by
  have turn := pos_turn input pos request
  generalize (request.step input pos).1 = pos' at turn ⊢
  refine ⟨?_, turn.unique_orders sound.ids, ?_⟩
  · cases turn with
    | nothing same | attempted same => exact same ▸ sound.sound
    | created _ made =>
      obtain ⟨_, _, same⟩ := createPendingOrder_ok made
      exact same ▸ sound.sound
    | expired _ same | cancelled _ same | authorized _ _ _ same => exact same ▸ sound.sound
    | served running same =>
      obtain ⟨deed, turn, did⟩ := served_deed sound aware fresh running
      exact same ▸ sound.sound.did turn did
  · intro order mem
    rcases turn.same_orders.2 order mem with ⟨old, there, _, _, rfl⟩ |
      ⟨call, product, amountMinor, quantity, supplied, rfl, point, rfl⟩
    · exact sound.priced old there
    · obtain ⟨_, knows⟩ := aware
      simp only [point] at knows
      refine ⟨product, ?_, orderAmount_priced knows.2.1⟩
      have id := vouchers_id knows.1
      simp only [pendingOrderRow, CreatePendingOrder.order, id]
      exact knows.1

theorem beside_step (sound : PosSound args pos) (aware : Aware args pos request)
    (fresh : PosFresh input pos request) : Beside pos (request.step input pos).1 := by
  have turn := pos_turn input pos request
  generalize (request.step input pos).1 = pos' at turn ⊢
  refine ⟨?_, turn.same_orders.1⟩
  cases turn with
  | nothing same | attempted same => exact .inl (same ▸ rfl)
  | created _ made =>
    obtain ⟨_, _, same⟩ := createPendingOrder_ok made
    exact .inl (same ▸ rfl)
  | expired _ same | cancelled _ same | authorized _ _ _ same => exact .inl (same ▸ rfl)
  | served running same =>
    obtain ⟨deed, turn, did⟩ := served_deed sound aware fresh running
    rw [same]
    exact .inr ⟨_, deed, sound.sound, turn, did⟩

theorem embedded_start (start : sale.point = .begin) : Embedded pos sale :=
  ⟨by simp only [KnownSale, start], carried_starting start⟩

theorem embedded_step {sale : CreateSale} (sound : Sound pos.toDb) (embedded : Embedded pos sale)
    (fresh : Fresh input pos.toDb (.createSale sale))
    (moved : sale.step input pos.toDb = (db, sale')) :
    Embedded { pos with toDb := db } sale' ∧ sale'.toSaleCall = sale.toSaleCall := by
  have known : Known pos.toDb (.createSale sale) := embedded.1
  obtain ⟨deed, turn, did, knows⟩ := step_acts sound known fresh
  simp only [Process.step, moved, Prod.map] at knows
  exact ⟨⟨knows, carried_step sound embedded.1 fresh embedded.2 moved⟩, (createSale_came moved).1⟩

theorem posSale_aware {call : PostSale} (sound : PosSound args pos)
    (aware : Aware args pos (.postSale call)) (fresh : PosFresh input pos (.postSale call))
    (moved : call.step input pos = (pos', call')) : Aware args pos' (.postSale call') := by
  obtain ⟨given, knows⟩ := aware
  cases point : call.point with
  | begin =>
    simp only [PostSale.step, point] at moved
    split at moved
    · cases moved
      exact ⟨given, trivial⟩
    · split at moved
      · cases moved
        exact ⟨given, trivial⟩
      · rename_i request valid
        cases moved
        exact ⟨given, valid⟩
  | recording request =>
    simp only [point] at knows
    simp only [PostSale.step, point] at moved
    split at moved
    · cases moved
      exact ⟨given, knows, embedded_start rfl⟩
    · cases moved
      exact ⟨given, trivial⟩
  | selling sale =>
    simp only [point] at knows
    simp only [PostSale.step, point] at moved
    cases went : sale.step input pos.toDb with
    | mk db sale' =>
      have fresh := fresh (.createSale sale) (by
        obtain ⟨_, _, _, _, _⟩ := call
        cases point
        rfl)
      obtain ⟨embedded, same⟩ := embedded_step sound.sound knows.2 fresh went
      simp only [went] at moved
      split at moved
      · cases moved
        exact ⟨given, trivial⟩
      · cases moved
        exact ⟨given, trivial⟩
      · cases moved
        refine ⟨given, ?_, embedded⟩
        rw [congrArg SaleCall.request same]
        exact knows.1
  | refused code | returned result | threw fault =>
    simp only [PostSale.step, point] at moved
    cases moved
    exact ⟨given, by simp only [point]⟩

theorem check_creating {call : CreatePendingOrder}
    (h : call.check pos = .creating product amountMinor quantity supplied) :
    call.deps.vouchers call.request.productId = some product ∧
    orderAmount product call.request.customAmountMinor = .ok amountMinor ∧
    supplied = call.supplied ∧
    (0 < textLength supplied → recipientRejection supplied = none) := by
  unfold CreatePendingOrder.check at h
  split at h
  · cases h
  · split at h
    · cases h
    · rename_i found
      split at h
      · cases h
      · split at h
        · cases h
        · rename_i priced
          simp only at h
          split at h
          · cases h
          · split at h
            · cases h
            · split at h
              · cases h
              · split at h
                · cases h
                · split at h
                  · cases h
                  · rename_i accepted
                    cases h
                    refine ⟨found, priced, rfl, fun some => ?_⟩
                    exact not_not.mp fun refused => accepted ⟨some, refused⟩

theorem postOrder_aware {call : CreatePendingOrder}
    (aware : Aware args pos (.postOrder call)) (moved : call.step input pos = (pos', call')) :
    Aware args pos' (.postOrder call') := by
  obtain ⟨given, knows⟩ := aware
  cases point : call.point with
  | begin =>
    simp only [CreatePendingOrder.step, point] at moved
    cases moved
    refine ⟨given, ?_⟩
    cases checked : call.check pos with
    | creating product amountMinor quantity supplied =>
      obtain ⟨found, priced, same, _⟩ := check_creating checked
      simp only [CreatePendingOrder.at]
      exact ⟨given ▸ found, priced, same⟩
    | _ => trivial
  | creating product amountMinor quantity supplied =>
    simp only [CreatePendingOrder.step, point] at moved
    split at moved
    all_goals
      cases moved
      exact ⟨given, trivial⟩
  | _ =>
    simp only [CreatePendingOrder.step, point] at moved
    cases moved
    exact ⟨given, by simp only [point]⟩

theorem ownOrder_copied (found : ownOrder pos context orderId = some order) :
    Copied pos orderId order := by
  obtain ⟨found, _⟩ := Option.filter_eq_some_iff.mp found
  have id := List.find?_some found
  exact ⟨by simpa using id, order, List.mem_of_find?_eq_some found, .refl order⟩

/-- On from a voucher to the next one, or to the claim. -/
theorem onward_aware {call : AuthorizeOrder} (given : call.deps = optionsFrom args)
    (copied : Copied pos call.orderId order) (results : List SaleResult) :
    Aware args pos (.authorizeOrder (call.at (call.onward order results))) := by
  refine ⟨given, ?_⟩
  by_cases more : results.length < order.quantity
  · cases priced : money order.amountMinor with
    | ok amount =>
      simp only [AuthorizeOrder.at, AuthorizeOrder.onward, if_pos more, priced]
      exact ⟨copied, more, ⟨amount, money_ok.mp priced, rfl⟩, embedded_start rfl⟩
    | error fault => simp only [AuthorizeOrder.at, AuthorizeOrder.onward, if_pos more, priced]
  · simp only [AuthorizeOrder.at, AuthorizeOrder.onward, if_neg more]
    exact copied

theorem posUnit_ok (h : posUnit input work pos = (pos', .ok answer)) :
    work pos = .ok (pos', answer) := by
  rcases posUnit_cases input work pos with ⟨_, _, _, done, same⟩ | ⟨_, same⟩
  · rw [same] at h
    cases h
    exact done
  · rw [same] at h
    cases h

theorem attempted_copied (copied : Copied pos orderId order) :
    Copied (recordAttempt pos scope subject outcome now) orderId order :=
  copied

theorem authorizeOrder_aware {call : AuthorizeOrder} (sound : PosSound args pos)
    (aware : Aware args pos (.authorizeOrder call))
    (fresh : PosFresh input pos (.authorizeOrder call))
    (moved : call.step input pos = (pos', call')) : Aware args pos' (.authorizeOrder call') := by
  obtain ⟨given, knows⟩ := aware
  cases point : call.point with
  | begin =>
    simp only [AuthorizeOrder.step, point] at moved
    repeat' split at moved
    all_goals
      cases moved
      exact ⟨given, trivial⟩
  | finding =>
    simp only [AuthorizeOrder.step, point] at moved
    split at moved
    · cases moved
      exact ⟨given, trivial⟩
    · rename_i order found
      repeat' split at moved
      · cases moved
        exact ⟨given, trivial⟩
      · cases moved
        exact ⟨given, trivial⟩
      · cases moved
        exact ⟨given, ownOrder_copied found⟩
  | failures order now | attempts order now =>
    simp only [point] at knows
    simp only [AuthorizeOrder.step, point] at moved
    split at moved
    · cases moved
      exact ⟨given, trivial⟩
    · cases moved
      exact ⟨given, knows⟩
  | user order now =>
    simp only [point] at knows
    simp only [AuthorizeOrder.step, point] at moved
    cases moved
    exact ⟨given, knows⟩
  | verifying order now user =>
    simp only [point] at knows
    simp only [AuthorizeOrder.step, point] at moved
    split at moved
    · cases moved
      exact ⟨given, knows⟩
    · cases moved
      exact ⟨given, trivial⟩
  | refusing now =>
    simp only [AuthorizeOrder.step, point] at moved
    split at moved
    all_goals
      cases moved
      exact ⟨given, trivial⟩
  | accepting order now =>
    simp only [point] at knows
    simp only [AuthorizeOrder.step, point] at moved
    split at moved
    · rename_i worked
      cases moved
      cases posUnit_ok worked
      exact onward_aware given (attempted_copied knows) []
    · cases moved
      exact ⟨given, trivial⟩
  | selling order results sale =>
    simp only [point] at knows
    obtain ⟨copied, more, carries, embedded⟩ := knows
    simp only [AuthorizeOrder.step, point] at moved
    cases went : sale.step input pos.toDb with
    | mk db sale' =>
      have fresh := fresh (.createSale sale) (by
        obtain ⟨_, _, _, _, _, _⟩ := call
        cases point
        rfl)
      obtain ⟨embedded, same⟩ := embedded_step sound.sound embedded fresh went
      have later : Copied { pos with toDb := db } call.orderId order := copied
      simp only [went] at moved
      split at moved
      · cases moved
        exact onward_aware given later _
      · cases moved
        exact ⟨given, trivial⟩
      · cases moved
        refine ⟨given, copied, more, ?_, embedded⟩
        rw [same]
        exact carries
  | claiming order results =>
    simp only [AuthorizeOrder.step, point] at moved
    repeat' split at moved
    all_goals
      cases moved
      exact ⟨given, trivial⟩
  | returned result | threw fault =>
    simp only [AuthorizeOrder.step, point] at moved
    cases moved
    exact ⟨given, by simp only [point]⟩

/-- Every request goes on knowing what it knows. -/
theorem aware_step (sound : PosSound args pos) (aware : Aware args pos request)
    (fresh : PosFresh input pos request) :
    Aware args (request.step input pos).1 (request.step input pos).2 := by
  cases request with
  | service process =>
    obtain ⟨other, known⟩ := aware
    obtain ⟨_, _, _, knows⟩ := step_acts sound.sound known (fresh process rfl)
    have service := Process.step_service input pos.toDb process
    exact ⟨service ▸ other, knows⟩
  | postSale call => exact posSale_aware sound aware fresh rfl
  | postOrder call => exact postOrder_aware aware rfl
  | getOrder call | cancelOrder call => trivial
  | authorizeOrder call => exact authorizeOrder_aware sound aware fresh rfl

end Steps

/-- Requests to a server built with some options: each starts afresh, and a sale is only ever made
through a request. -/
def Serves (args : CliArgs) (_ : PosDb) (request : PosRequest) : Prop :=
  request.Starting ∧ request.given (optionsFrom args) ∧
  ∀ process, request = .service process → process.service ≠ .createSale

/-- Any number of requests to one server, interleaved. -/
abbrev Serving (args : CliArgs) :=
  Pool posServer (Serves args) PosFresh

/-- A database on which nothing has been sold or ordered yet. -/
def OpensShop (w : World PosDb PosRequest) : Prop :=
  Blank w.store.toDb ∧ w.store.pendingOrders = [] ∧ w.procs = []

theorem aware_of_start (serves : Serves args pos request) : Aware args pos request := by
  obtain ⟨starting, given, other⟩ := serves
  cases request with
  | service process =>
    have call : Calls [process.service] pos.toDb process := ⟨List.mem_singleton_self _, starting⟩
    exact ⟨other process rfl, known_of_start call⟩
  | postSale call =>
    refine ⟨given, ?_⟩
    obtain ⟨deps, context, origin, correlationId, point⟩ := call
    cases point with
    | begin => trivial
    | _ => simp [PosRequest.Starting] at starting
  | postOrder call =>
    refine ⟨given, ?_⟩
    simp only [PosRequest.Starting] at starting
    simp only [starting]
  | getOrder call | cancelOrder call => trivial
  | authorizeOrder call =>
    refine ⟨given, ?_⟩
    obtain ⟨deps, context, orderId, pin, correlationId, point⟩ := call
    cases point with
    | begin => trivial
    | _ => simp [PosRequest.Starting] at starting

theorem serving_step (w : World PosDb PosRequest) (event : Event Input PosRequest)
    (w' : World PosDb PosRequest) (secure : Secure (PosSound args) (Aware args) w)
    (step : Serving args w event w') : Secure (PosSound args) (Aware args) w' := by
  have acts : ∀ input pos request, PosSound args pos → Aware args pos request →
      PosFresh input pos request →
      PosSound args (posServer.advance input pos request).1 ∧
      Aware args (posServer.advance input pos request).1
        (posServer.advance input pos request).2 ∧
      Beside pos (posServer.advance input pos request).1 :=
    fun _ _ _ sound aware fresh =>
      ⟨pos_sound_step sound aware fresh, aware_step sound aware fresh,
        beside_step sound aware fresh⟩
  exact Secure.step (fun _ _ _ => aware_of_start) acts (fun _ _ _ _ aware => aware.beside)
    w event w' secure step

theorem opensShop_secure (w : World PosDb PosRequest) (opens : OpensShop w) :
    Secure (PosSound args) (Aware args) w := by
  obtain ⟨blank, orders, none⟩ := opens
  refine ⟨⟨blank.sound, ?_, ?_⟩, ?_⟩
  · rw [orders]
    exact List.nodup_nil
  · simp [orders]
  · simp [none]

/-- One step of the server, as it was taken. -/
abbrev PosHappened := Taken (World PosDb PosRequest) (Event Input PosRequest)

/-- The step was an atomic step of a request. -/
def Requested (taken : PosHappened) (input : Input) (request : PosRequest) : Prop :=
  ∃ slot, taken.event = .act slot input ∧ taken.before.proc slot = some request

/-- Options as a training server is built with. -/
def training : CliArgs :=
  { mode := .training, verifySecret := fun pin stored => pin == stored.hash,
    pinLockout := ⟨5, 900000, 10, 60000⟩ }

/-- Two shops, with a cashier who is signed in at the first one's till. -/
def counter : PosDb :=
  { twoShops with
    merchantUsers := [⟨"cashier", "shop", ⟨"1234", "", ""⟩⟩]
    sessions := [⟨"session", "shop", "till", "cashier"⟩]
    pendingOrders := []
    authAttempts := [] }

def cashier : AuthContext :=
  ⟨"session", "shop", "till", "cashier"⟩

/-- A hundred birr deposited for the first shop. -/
def float : PosRequest :=
  .service (.deposit
    { input := { merchantId := "shop", amount := ⟨10000, by decide⟩, now := 0,
                 correlationId := "deposit", postingId := "deposit" }
      point := .begin })

theorem float_serves (pos : PosDb) : Serves training pos float :=
  ⟨rfl, trivial, by rintro _ ⟨⟩; decide⟩

instance (input : Input) (pos : PosDb) (request : PosRequest) :
    Decidable (PosFresh input pos request) :=
  inferInstanceAs (Decidable (∀ process ∈ request.process, Fresh input pos.toDb process))

/-- Events that may happen one after another at the counter make a run of the server. -/
theorem serving_run (events : List (Event Input PosRequest))
    (serves : ∀ request, .start request ∈ events → ∀ pos, Serves training pos request)
    (playable : Playable (World.May (fun _ _ => True) PosFresh) (World.next posServer) events
      ⟨counter, []⟩) :
    Run OpensShop (Serving training) (played (World.next posServer) events [] ⟨counter, []⟩).1
      (played (World.next posServer) events [] ⟨counter, []⟩).2 := by
  have opening : Run OpensShop (Serving training) [] ⟨counter, []⟩ :=
    .start ⟨twoShops_blank, rfl, rfl⟩
  exact opening.play Pool.next (playable_admits serves playable)

end Telga.Proofs
