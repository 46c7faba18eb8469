import Telga.Proofs.OrderOutcomes
import Telga.Proofs.Retries

namespace Telga.Proofs
open Domain Persistence Application Library

/-- The text a request's key is hashed from. -/
def RequestIdentity.joined (identity : RequestIdentity) : String :=
  "|".intercalate [identity.merchantId, identity.deviceId, identity.clientRequestId]

/-- Two requests of one shop whose joined texts have one hash, the texts being one or not. -/
def Collide (a b : RequestIdentity) : Prop :=
  a.merchantId = b.merchantId ∧ fnv1a (utf16 a.joined) = fnv1a (utf16 b.joined)

/-- The request an intent is about. -/
def intended (intent : SaleIntent) : RequestIdentity :=
  ⟨intent.merchantId, intent.deviceId, intent.clientRequestId⟩

/-- The request a call is for. -/
def requestOf (call : SaleCall) : RequestIdentity :=
  ⟨call.request.merchantId, call.request.deviceId, call.request.clientRequestId⟩

/-- The request of one voucher of an order. -/
def voucherRequest (order : PendingOrderRow) (index : Nat) : RequestIdentity :=
  ⟨order.merchantId, order.deviceId, batchRequestId order.clientRequestId index⟩

/-- A step opened a sale for the call its request was running. -/
def OpensSale (taken : PosHappened) (request : PosRequest) (sale : CreateSale)
    (transactionId : TransactionId) : Prop :=
  ∃ input, Requested taken input request ∧ request.process = some (.createSale sale) ∧
    sale.point = .reserving ∧ ∃ db reserved,
      unit input (openSale sale input) taken.before.store.toDb = (db, .ok reserved) ∧
      reserved.id = transactionId

/-- The call is told that its request was heard before, or that it asks for something else than it
did then. -/
def ToldAsHeard (sale : CreateSale) : Prop :=
  (sale.point matches .original _ | .returned (.rejected .payloadMismatch _ _ _ _)) = true

instance (sale : CreateSale) : Decidable (ToldAsHeard sale) :=
  inferInstanceAs (Decidable (_ = true))

/-- No sale was opened for the request of a call. -/
def NewSale (past : List PosHappened) (sale : CreateSale) : Prop :=
  ∀ taken ∈ past, ∀ request first transactionId, OpensSale taken request first transactionId →
    requestOf first.toSaleCall ≠ requestOf sale.toSaleCall

/-- A record was written for a call, about the sale it opened. -/
structure RecordOf (record : IdempotencyRow) (sale : CreateSale)
    (transactionId : TransactionId) : Prop where
  merchant : record.merchantId = sale.request.merchantId
  key : record.key = sale.key
  transaction : record.transactionId = transactionId

/-- The records are those of the sales that were opened, each under its shop and its key. -/
structure Booked (past : List PosHappened) (pos : PosDb) : Prop where
  opened : ∀ record ∈ pos.idempotencyRecords, ∃ taken ∈ past, ∃ request sale,
    OpensSale taken request sale record.transactionId ∧ RecordOf record sale record.transactionId
  kept : ∀ taken ∈ past, ∀ request sale transactionId, OpensSale taken request sale transactionId →
    ∃ record ∈ pos.idempotencyRecords, RecordOf record sale transactionId
  keys : Unique (fun record => (record.merchantId, record.key)) pos.idempotencyRecords
  ids : Unique (·.transactionId) pos.idempotencyRecords
  sold : ∀ record ∈ pos.idempotencyRecords, Present (·.id) record.transactionId pos.transactions

theorem intended_key (intent : SaleIntent) :
    deriveIdempotencyKey intent = (intended intent).key :=
  deriveIdempotencyKey_congr rfl rfl rfl

theorem requestOf_key (call : SaleCall) : call.key = (requestOf call).key :=
  deriveIdempotencyKey_congr rfl rfl rfl

theorem collide_iff : Collide a b ↔ a.merchantId = b.merchantId ∧ a.key = b.key := by
  unfold Collide RequestIdentity.key
  rw [deriveIdempotencyKey_inj]
  rfl

theorem mem_answered (answered : Answered before after) :
    (∀ old ∈ before, ∃ row ∈ after, ∃ resultState updatedAt,
      row = { old with resultState, updatedAt }) ∧
    ∀ row ∈ after, ∃ old ∈ before, ∃ resultState updatedAt,
      row = { old with resultState, updatedAt } := by
  obtain ⟨change, keeps, rfl⟩ := answered
  refine ⟨fun old mem => ⟨change old, List.mem_map_of_mem mem, keeps old⟩, fun row mem => ?_⟩
  obtain ⟨old, there, rfl⟩ := List.mem_map.mp mem
  exact ⟨old, there, keeps old⟩

theorem unique_answered {key : IdempotencyRow → κ} (answered : Answered before after)
    (keeps : ∀ row : IdempotencyRow, ∀ resultState updatedAt,
      key { row with resultState, updatedAt } = key row)
    (unique : Unique key before) : Unique key after := by
  obtain ⟨change, changes, rfl⟩ := answered
  have same : key ∘ change = key := by
    funext row
    obtain ⟨resultState, updatedAt, eq⟩ := changes row
    simp only [Function.comp, eq, keeps]
  unfold Library.Unique
  rw [List.map_map, same]
  exact unique

/-- The record a step adds: that of the sale it opens. -/
structure Adds (input : Input) (pos pos' : PosDb) (request : PosRequest) (sale : CreateSale)
    (record : IdempotencyRow) : Prop where
  running : request.process = some (.createSale sale)
  point : sale.point = .reserving
  opened : ∃ db reserved, unit input (openSale sale input) pos.toDb = (db, .ok reserved) ∧
    RecordOf record sale reserved.id
  records : pos'.idempotencyRecords = pos.idempotencyRecords ++ [record]
  unrecorded : findIdempotencyRecord pos.toDb sale.request.merchantId sale.key = none
  absent : ¬ Present (·.id) record.transactionId pos.transactions
  stored : Present (·.id) record.transactionId pos'.transactions

theorem createSale_records {sale : CreateSale} (sound : Sound pos.toDb)
    (known : KnownSale pos.toDb sale) (fresh : Fresh input pos.toDb (.createSale sale))
    (running : request.process = some (.createSale sale)) :
    (¬ Accepted input pos.toDb sale ∧
      Answered pos.idempotencyRecords (sale.step input pos.toDb).1.idempotencyRecords) ∨
    ∃ record, Adds input pos { pos with toDb := (sale.step input pos.toDb).1 } request sale
      record := by
  by_cases accepted : Accepted input pos.toDb sale
  · obtain ⟨point, db', reserved, opened⟩ := accepted
    have worked : openSale sale input pos.toDb = .ok (db', reserved) := unit_ok opened
    obtain ⟨row, hold, record, context, opening, did, id, _⟩ := openSale_turn point fresh worked
    have same : (sale.step input pos.toDb).1 = db' := by simp only [CreateSale.step, point, opened]
    obtain ⟨key, merchant, _, about⟩ := opening.recorded
    have records := did.records
    have sales := did.sales
    simp only [Deed.Records, Deed.Sales] at records sales
    refine .inr ⟨record, running, point, ⟨db', reserved, opened, merchant, key, about.trans id⟩,
      ?_, opening.unrecorded, ?_, ?_⟩
    · rw [same]
      exact records
    · rw [about]
      exact opening.absent
    · rw [same, sales, about]
      exact ⟨row, List.mem_append_right _ (List.mem_singleton_self row), rfl⟩
  · refine .inl ⟨accepted, ?_⟩
    have known' : Known pos.toDb (.createSale sale) := known
    obtain ⟨deed, turn, did, _⟩ := step_acts sound known' fresh
    simp only [Process.step, Prod.map, id] at did
    have records := did.records
    cases deed with
    | opened row hold record context =>
      cases turn with
      | opens point opening =>
        refine absurd ⟨point, ?_⟩ accepted
        rcases unit_cases input (openSale sale input) pos.toDb with
          ⟨next, reserved, _, _, worked⟩ | ⟨fault, refused⟩
        · exact ⟨next, reserved, worked⟩
        · have rows := did.sales
          simp only [Deed.Sales, CreateSale.step, point, refused] at rows
          simp at rows
    | _ => exact records

/-- A step adds the record of the sale it opens, or no record. -/
theorem pos_records (sound : PosSound args pos) (aware : Aware args pos request)
    (fresh : PosFresh input pos request) :
    ((∀ sale, request.process = some (.createSale sale) → ¬ Accepted input pos.toDb sale) ∧
      Answered pos.idempotencyRecords (request.step input pos).1.idempotencyRecords) ∨
    ∃ sale record, Adds input pos (request.step input pos).1 request sale record := by
  cases running : request.process with
  | none =>
    rw [unserved input pos running]
    exact .inl ⟨by rintro _ ⟨⟩, answered_refl _⟩
  | some process =>
    have known := aware.known process running
    have fresh := fresh process running
    rw [process_served input pos running]
    by_cases selling : ∃ sale, process = .createSale sale
    · obtain ⟨sale, rfl⟩ := selling
      rcases createSale_records sound.sound known fresh running with
        ⟨refused, answered⟩ | ⟨record, adds⟩
      · refine .inl ⟨fun other same => ?_, answered⟩
        cases same
        exact refused
      · exact .inr ⟨sale, record, adds⟩
    · obtain ⟨deed, turn, did, _⟩ := step_acts sound.sound known fresh
      refine .inl ⟨fun sale same => ?_, ?_⟩
      · cases same
        exact absurd ⟨_, rfl⟩ selling
      · have records := did.records
        cases deed with
        | opened row hold record context =>
          cases turn with
          | opens => exact absurd ⟨_, rfl⟩ selling
        | _ => exact records

theorem RecordOf.request (recorded : RecordOf record sale transactionId) :
    record.merchantId = (requestOf sale.toSaleCall).merchantId ∧
      record.key = (requestOf sale.toSaleCall).key :=
  ⟨recorded.merchant, recorded.key.trans (requestOf_key _)⟩

theorem RecordOf.answered (recorded : RecordOf record sale transactionId)
    (same : ∃ resultState updatedAt, row = { record with resultState, updatedAt }) :
    RecordOf row sale transactionId := by
  obtain ⟨_, _, rfl⟩ := same
  exact ⟨recorded.merchant, recorded.key, recorded.transaction⟩

/-- A step that opens no sale leaves the records those of the sales that were opened. -/
theorem Booked.unopened (booked : Booked past pos)
    (answered : Answered pos.idempotencyRecords pos'.idempotencyRecords)
    (sales : ∀ old ∈ pos.transactions, ∃ row ∈ pos'.transactions, SameSale old row)
    (taken : PosHappened) (none : ∀ request sale id, ¬ OpensSale taken request sale id) :
    Booked (taken :: past) pos' := by
  obtain ⟨forth, back⟩ := mem_answered answered
  refine ⟨?_, ?_, ?_, ?_, ?_⟩
  · intro row mem
    obtain ⟨old, there, same⟩ := back row mem
    obtain ⟨first, earlier, request, sale, opens, recorded⟩ := booked.opened old there
    obtain ⟨_, _, rfl⟩ := same
    exact ⟨first, List.mem_cons_of_mem _ earlier, request, sale, opens,
      recorded.merchant, recorded.key, rfl⟩
  · intro other mem request sale transactionId opens
    rcases List.mem_cons.mp mem with rfl | mem
    · exact absurd opens (none _ _ _)
    · obtain ⟨old, there, recorded⟩ := booked.kept other mem request sale transactionId opens
      obtain ⟨row, now, same⟩ := forth old there
      exact ⟨row, now, recorded.answered same⟩
  · exact unique_answered answered (fun _ _ _ => rfl) booked.keys
  · exact unique_answered answered (fun _ _ _ => rfl) booked.ids
  · intro row mem
    obtain ⟨old, there, _, _, rfl⟩ := back row mem
    obtain ⟨sold, stored, id⟩ := booked.sold old there
    obtain ⟨_, now, _, _, _, rfl⟩ := sales sold stored
    exact ⟨_, now, id⟩

theorem find_none {db : Db} (absent : findIdempotencyRecord db merchantId key = none) :
    ∀ record ∈ db.idempotencyRecords, ¬ (record.merchantId = merchantId ∧ record.key = key) := by
  intro record mem same
  unfold findIdempotencyRecord at absent
  have missed := List.find?_eq_none.mp absent record mem
  exact missed (decide_eq_true same)

/-- A step that opens a sale adds the record of that sale. -/
theorem Booked.recorded (booked : Booked past pos) (adds : Adds input pos pos' request sale record)
    (sales : ∀ old ∈ pos.transactions, ∃ row ∈ pos'.transactions, SameSale old row)
    (taken : PosHappened) (store : taken.before.store = pos)
    (requested : Requested taken input request) : Booked (taken :: past) pos' := by
  obtain ⟨db, reserved, opened, recorded⟩ := adds.opened
  have id := recorded.transaction
  have opens : OpensSale taken request sale record.transactionId := by
    subst store
    exact ⟨input, requested, adds.running, adds.point, db, reserved, opened, id.symm⟩
  have about : RecordOf record sale record.transactionId :=
    ⟨recorded.merchant, recorded.key, rfl⟩
  have only : ∀ other first transactionId, OpensSale taken other first transactionId →
      first = sale ∧ transactionId = record.transactionId := by
    rintro other first transactionId ⟨input', requested', running, _, db', reserved', opened', rfl⟩
    obtain ⟨slot, acted, here⟩ := requested
    obtain ⟨rfl, rfl⟩ := requested'.same acted here
    cases running.symm.trans adds.running
    subst store
    cases opened.symm.trans opened'
    exact ⟨rfl, id.symm⟩
  refine ⟨?_, ?_, ?_, ?_, ?_⟩
  · intro row mem
    rw [adds.records] at mem
    rcases List.mem_append.mp mem with mem | mem
    · obtain ⟨first, earlier, other, call, opens, recorded⟩ := booked.opened row mem
      exact ⟨first, List.mem_cons_of_mem _ earlier, other, call, opens, recorded⟩
    · cases List.mem_singleton.mp mem
      exact ⟨taken, List.mem_cons_self .., request, sale, opens, about⟩
  · intro other mem call first transactionId opens'
    rw [adds.records]
    rcases List.mem_cons.mp mem with rfl | mem
    · obtain ⟨rfl, rfl⟩ := only _ _ _ opens'
      exact ⟨record, List.mem_append_right _ (List.mem_singleton_self _), about⟩
    · obtain ⟨row, there, recorded⟩ := booked.kept other mem call first transactionId opens'
      exact ⟨row, List.mem_append_left _ there, recorded⟩
  · rw [adds.records]
    refine booked.keys.append fun old mem same => ?_
    obtain ⟨merchant, key⟩ := Prod.mk.inj same
    exact find_none adds.unrecorded old mem
      ⟨merchant.trans about.merchant, key.trans about.key⟩
  · rw [adds.records]
    refine booked.ids.append fun old mem same => adds.absent ?_
    rw [← same]
    exact booked.sold old mem
  · intro row mem
    rw [adds.records] at mem
    rcases List.mem_append.mp mem with mem | mem
    · obtain ⟨sold, stored, id⟩ := booked.sold row mem
      obtain ⟨_, now, _, _, _, rfl⟩ := sales sold stored
      exact ⟨_, now, id⟩
    · cases List.mem_singleton.mp mem
      exact adds.stored

/-- Wherever a run arrives, the records are those of the sales opened in it. -/
theorem run_booked {past : List PosHappened} (run : Run OpensShop (Serving args) past w) :
    Secure (PosSound args) (Aware args) w ∧ Booked past w.store := by
  refine run.history (H := fun past w => Secure (PosSound args) (Aware args) w ∧
    Booked past w.store) (fun w opens => ⟨opensShop_secure w opens, ?_⟩) ?_
  · have none := opens.1.idempotencyRecords
    refine ⟨?_, ?_, ?_, ?_, ?_⟩
    · simp [none]
    · simp
    · rw [none]
      exact List.nodup_nil
    · rw [none]
      exact List.nodup_nil
    · simp [none]
  · intro past w event w' ⟨secure, booked⟩ step
    refine ⟨serving_step w event w' secure step, ?_⟩
    rcases step.acted with ⟨same, idle⟩ | ⟨slot, input, request, rfl, here, fresh, rfl⟩
    · refine booked.unopened (same ▸ answered_refl _) ?_ _ ?_
      · exact fun old mem => ⟨old, same ▸ mem, .refl old⟩
      · rintro request sale id ⟨input, ⟨slot, acted, _⟩, _⟩
        exact idle slot input acted
    · have sound := secure.1
      have aware := secure.2 _ (World.proc_mem here)
      have sales := (pos_sales sound aware fresh).1
      rcases pos_records sound aware fresh with ⟨refused, answered⟩ | ⟨sale, record, adds⟩
      · refine booked.unopened answered sales _ ?_
        rintro other sale id ⟨input', requested, running, point, db, reserved, opened, _⟩
        obtain ⟨rfl, rfl⟩ := requested.same rfl here
        exact refused sale running ⟨point, db, reserved, opened⟩
      · exact booked.recorded adds sales _ rfl ⟨slot, rfl, here⟩

/-- A call that looks its request up is told it was heard exactly when a sale was opened under its
key. -/
theorem lookUp_told {sale : CreateSale} (booked : Booked past pos) (point : sale.point = .lookUp) :
    ToldAsHeard (sale.step input pos.toDb).2 ↔
      ∃ taken ∈ past, ∃ request first transactionId, OpensSale taken request first transactionId ∧
        Collide (requestOf first.toSaleCall) (requestOf sale.toSaleCall) := by
  cases found : findIdempotencyRecord pos.toDb sale.request.merchantId sale.key with
  | none =>
    have absent := find_none found
    refine iff_of_false ?_ ?_
    · simp [CreateSale.step, point, found, CreateSale.at, ToldAsHeard]
    · rintro ⟨taken, mem, request, first, transactionId, opens, collide⟩
      obtain ⟨record, there, recorded⟩ := booked.kept taken mem request first transactionId opens
      obtain ⟨merchant, key⟩ := collide_iff.mp collide
      obtain ⟨merchant', key'⟩ := recorded.request
      exact absent record there
        ⟨merchant'.trans merchant, (key'.trans key).trans (requestOf_key _).symm⟩
  | some record =>
    have there := List.mem_of_find?_eq_some found
    have named := List.find?_some found
    simp only [decide_eq_true_eq] at named
    obtain ⟨taken, mem, request, first, opens, recorded⟩ := booked.opened record there
    refine iff_of_true ?_ ⟨taken, mem, request, first, _, opens, collide_iff.mpr ⟨?_, ?_⟩⟩
    · simp only [CreateSale.step, point, found]
      split
      · simp [CreateSale.at, CreateSale.reject, ToldAsHeard]
      · simp [CreateSale.at, ToldAsHeard]
    · exact recorded.request.1.symm.trans named.1
    · rw [← recorded.request.2, named.2, requestOf_key]

/-- Every product of the training catalog has a price an amount can be. -/
theorem catalog_safe : ∀ product ∈ trainingVoucherCatalog, SafeInteger product.amountMinor := by
  decide +kernel

theorem order_money (sound : PosSound args pos) (stored : order ∈ pos.pendingOrders) :
    ∃ amount, money order.amountMinor = .ok amount := by
  obtain ⟨product, found, priced⟩ := sound.priced order stored
  have safe : SafeInteger order.amountMinor := by
    unfold VoucherOrderProduct.Priced at priced
    split at priced
    · unfold customAmountRejection at priced
      split at priced
      · cases priced
      · rename_i safe
        exact not_not.mp safe
    · rw [priced]
      have listed := List.mem_of_find?_eq_some found
      exact catalog_safe product (List.mem_reverse.mp listed)
  exact ⟨⟨order.amountMinor, safe⟩, money_ok.mpr rfl⟩

/-- What an order is found to have produced: the sales recorded under the keys of its vouchers. -/
theorem mem_batch (sound : PosSound args pos) (stored : order ∈ pos.pendingOrders) :
    ∃ ids, batchTransactionIds pos order = .ok ids ∧ ∀ transactionId, transactionId ∈ ids ↔
      ∃ index : Nat, index < order.quantity ∧ ∃ record,
        findIdempotencyRecord pos.toDb order.merchantId (voucherRequest order index).key =
          some record ∧ record.transactionId = transactionId := by
  obtain ⟨amount, worth⟩ := order_money sound stored
  have keys : ∀ index, deriveIdempotencyKey
      { merchantId := order.merchantId, deviceId := order.deviceId, productId := order.productId,
        amount, recipient := order.recipient.getD noRecipient,
        clientRequestId := batchRequestId order.clientRequestId index } =
      (voucherRequest order index).key := fun index => intended_key _
  refine ⟨((List.range order.quantity.toNat).map fun index => findIdempotencyRecord pos.toDb
    order.merchantId (voucherRequest order index).key).filterMap
      fun record => record.map (·.transactionId), ?_, ?_⟩
  · have priced : ∀ f : Money → Except Fault (Option IdempotencyRow),
        (Except.ok amount >>= f) = f amount := fun _ => rfl
    simp only [batchTransactionIds, worth, priced, keys, List.mapM_pure]
    rfl
  · intro transactionId
    simp only [List.mem_filterMap, List.mem_map, List.mem_range, Option.map_eq_some_iff]
    constructor
    · rintro ⟨_, ⟨index, within, rfl⟩, record, found, id⟩
      exact ⟨index, by omega, record, found, id⟩
    · rintro ⟨index, within, record, found, id⟩
      exact ⟨_, ⟨index, by omega, rfl⟩, record, found, id⟩

/-- A sale is listed for an order exactly when the sale's request collides with one of the
order's vouchers. -/
theorem batch_lists (booked : Booked past pos) (mem : taken ∈ past)
    (opens : OpensSale taken request sale transactionId) (order : PendingOrderRow) (index : Nat) :
    (∃ record, findIdempotencyRecord pos.toDb order.merchantId (voucherRequest order index).key =
        some record ∧ record.transactionId = transactionId) ↔
      Collide (requestOf sale.toSaleCall) (voucherRequest order index) := by
  obtain ⟨written, there, about⟩ := booked.kept taken mem request sale transactionId opens
  rw [collide_iff, ← about.request.1, ← about.request.2]
  constructor
  · rintro ⟨record, found, id⟩
    have listed := List.mem_of_find?_eq_some found
    have named := List.find?_some found
    simp only [decide_eq_true_eq] at named
    have one : record = written := booked.ids.eq listed there (id.trans about.transaction.symm)
    subst one
    exact named
  · rintro ⟨merchant, key⟩
    have hit : (fun row : IdempotencyRow => decide (row.merchantId = order.merchantId ∧
        row.key = (voucherRequest order index).key)) written = true :=
      decide_eq_true ⟨merchant, key⟩
    cases found : findIdempotencyRecord pos.toDb order.merchantId
        (voucherRequest order index).key with
    | none => exact absurd ⟨merchant, key⟩ (find_none found written there)
    | some record =>
      have listed := List.mem_of_find?_eq_some found
      have named := List.find?_some found
      simp only [decide_eq_true_eq] at named
      have one : record = written := booked.keys.eq listed there
        (Prod.ext (named.1.trans merchant.symm) (named.2.trans key.symm))
      exact ⟨record, rfl, by rw [one, about.transaction]⟩

/-- Ten birr of airtime, asked for at the till under an id the client gives. -/
def tillSale (clientRequestId : String) : PosRequest :=
  .postSale
    { deps := optionsFrom training, context := cashier,
      origin := .screen ⟨some "AIRTIME_10", some "0911223344", some clientRequestId⟩
      correlationId := "sale", point := .begin }

/-- A sale is opened, and another whose id happens to hash alike is about to look itself up. -/
def alike : List (Event Input PosRequest) :=
  let delivered := fun tag => drawing tag .confirmedSuccess .success 0
  [.start float, .act 0 (delivered "a"), .start (tillSale "sale-139599"), .act 1 (delivered "b"),
   .act 1 (delivered "c"), .act 1 (delivered "d"), .act 1 (delivered "e"), .act 1 (delivered "f"),
   .act 1 (delivered "g"), .act 1 (delivered "sale"), .start (tillSale "sale-322382"),
   .act 2 (delivered "h"), .act 2 (delivered "i"), .act 2 (delivered "j"), .act 2 (delivered "k")]

def alikeRun : List PosHappened × World PosDb PosRequest :=
  played (World.next posServer) alike [] ⟨counter, []⟩

theorem alike_serves (request : PosRequest) (mem : .start request ∈ alike) (pos : PosDb) :
    Serves training pos request := by
  simp only [alike, List.mem_cons, Event.start.injEq, reduceCtorEq, List.not_mem_nil,
    false_or, or_false] at mem
  rcases mem with rfl | rfl | rfl
  · exact float_serves pos
  · exact ⟨rfl, rfl, by rintro _ ⟨⟩⟩
  · exact ⟨rfl, rfl, by rintro _ ⟨⟩⟩

theorem alike_run : Run OpensShop (Serving training) alikeRun.1 alikeRun.2 :=
  serving_run alike alike_serves (by decide +kernel)

/-- Whatever sale the step opens is for a request with the given id. -/
def opensOnly (clientRequestId : String) (taken : PosHappened) : Bool :=
  match taken.event with
  | .act slot _ =>
    match (taken.before.proc slot).bind PosRequest.process with
    | some (.createSale sale) =>
      !(sale.point matches .reserving) || sale.request.clientRequestId == clientRequestId
    | _ => true
  | _ => true

theorem OpensSale.only (opens : OpensSale taken request sale transactionId)
    (only : opensOnly clientRequestId taken = true) :
    sale.request.clientRequestId = clientRequestId := by
  obtain ⟨input, ⟨slot, acts, here⟩, running, point, _⟩ := opens
  simpa [opensOnly, acts, here, running, point] using only

/-- The second sale as it stands before it looks itself up. -/
def alikeSale : CreateSale :=
  { deps := (optionsFrom training).toSaleDeps
    request :=
      { merchantId := "shop", deviceId := "till", operatorId := "cashier",
        productId := "AIRTIME_10", amount := ⟨1000, safe_thousand⟩, recipient := "0911223344",
        clientRequestId := "sale-322382", correlationId := some "sale" }
    correlationId := "sale", point := .lookUp }

theorem alike_new : NewSale alikeRun.1 alikeSale := by
  intro taken mem request first transactionId opens same
  have all : alikeRun.1.all (opensOnly "sale-139599") = true := by decide +kernel
  have given := opens.only (List.all_eq_true.mp all taken mem)
  have asked := congrArg RequestIdentity.clientRequestId same
  simp only [requestOf, given] at asked
  exact absurd asked (by decide)

end Telga.Proofs
