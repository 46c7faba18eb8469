import Telga.Proofs.Denominations

namespace Telga.Proofs
open Domain Persistence Application Library

/-- Leaving out what a filter drops anyway changes nothing it keeps. -/
theorem filter_dropWhile {drop keep : α → Bool} (apart : ∀ a, drop a = true → keep a = false)
    (items : List α) : (items.dropWhile drop).filter keep = items.filter keep := by
  induction items with
  | nil => rfl
  | cons a rest ih =>
    by_cases dropped : drop a = true
    · rw [List.dropWhile_cons_of_pos dropped, ih, List.filter_cons_of_neg (by simp [apart a dropped])]
    · rw [List.dropWhile_cons_of_neg dropped]

/-- Trimming takes off nothing that is dialled. -/
theorem dialled_trim (text : String) : dialled (trim text) = dialled text := by
  have apart : ∀ c, isWhitespace c = true → decide (¬ (isWhitespace c || c == '-')) = false := by
    intro c white
    simp [white]
  simp only [dialled, trim, String.toList_ofList]
  rw [List.filter_reverse, filter_dropWhile apart, List.filter_reverse, List.reverse_reverse,
    filter_dropWhile apart]

/-- An accepted number dials nine characters or more, all of them digits but for a plus sign. -/
theorem accepted_dials (accepted : recipientRejection number = none) :
    9 ≤ (dialled number).length ∧ '*' ∉ dialled number := by
  have digits : ∀ text, allDigits text = true → 9 ≤ text.length ∧ '*' ∉ text := by
    intro text all
    simp only [allDigits, Bool.and_eq_true, decide_eq_true_eq, List.all_eq_true] at all
    refine ⟨all.1.2, fun star => ?_⟩
    have digit := all.1.1 _ star
    revert digit
    decide
  simp only [recipientRejection] at accepted
  split at accepted
  · rename_i rest plus
    rw [plus]
    split at accepted
    · rename_i all
      obtain ⟨long, free⟩ := digits rest all
      refine ⟨Nat.le_succ_of_le long, ?_⟩
      simp only [List.mem_cons, free, or_false]
      decide
    · cases accepted
  · split at accepted
    · rename_i all
      exact digits _ all
    · cases accepted

/-- The mask of an accepted number does not dial it. -/
theorem mask_undialled (accepted : recipientRejection number = none) :
    dialled (maskRecipient number) ≠ dialled number := by
  obtain ⟨long, free⟩ := accepted_dials accepted
  have shorter : (dialled number).length ≤ (trim number).toList.length := by
    rw [← dialled_trim]
    exact List.length_filter_le _ _
  intro same
  refine free (same ▸ ?_)
  simp only [maskRecipient, dialled]
  rw [if_neg (by omega), String.toList_ofList]
  refine List.mem_filter.mpr ⟨?_, by decide⟩
  refine List.mem_append_left _ (List.mem_append_right _ (List.mem_replicate.mpr ⟨?_, rfl⟩))
  omega

/-- The step stored an order for a number that was accepted. -/
structure OrderedFor (taken : PosHappened) (order : PendingOrderRow) (entered : String) : Prop where
  accepted : recipientRejection entered = none
  created : ∃ input call product amountMinor quantity supplied,
    Requested taken input (.postOrder call) ∧ call.request.recipient = some entered ∧
    call.point = .creating product amountMinor quantity supplied ∧
    (call.step input taken.before.store).2.point = .returned (.created order)

/-- What the provider is asked for in the name of an order is what was ordered, for the number that
was entered; and the database shows that number by its mask only. -/
structure Delivers (order : PendingOrderRow) (entered : String) (taken : PosHappened) : Prop where
  submitted : ∀ input call, Requested taken input (.authorizeOrder call) → call.orderId = order.id →
    ∀ submission ∈ PosRequest.submission (.authorizeOrder call),
      submission.productId = order.productId ∧ submission.amount.minor = order.amountMinor ∧
      dialled submission.recipient = dialled entered
  stored : ∀ input call sale, Requested taken input (.authorizeOrder call) →
    call.orderId = order.id → PosRequest.process (.authorizeOrder call) = some (.createSale sale) →
    ∀ transaction ∈ SalePoint.transaction sale.point,
      ∃ row ∈ taken.before.store.transactions, row.id = transaction.id ∧
        row.recipientMasked = maskRecipient (trim entered)

/-- The step asks the provider for something in the name of an order. -/
def SubmitsFor (orderId : String) (taken : PosHappened) : Prop :=
  ∃ input call, Requested taken input (.authorizeOrder call) ∧ call.orderId = orderId ∧
    (PosRequest.submission (.authorizeOrder call)).isSome = true

/-- Every order stays stored. -/
def OrdersKept (w w' : World PosDb PosRequest) : Prop :=
  ∀ old ∈ w.store.pendingOrders, ∃ order ∈ w'.store.pendingOrders, SameOrder old order

theorem orders_kept (w : World PosDb PosRequest) (event : Event Input PosRequest)
    (w' : World PosDb PosRequest) (step : Serving args w event w') : OrdersKept w w' := by
  cases step with
  | start _ | crash => exact fun old mem => ⟨old, mem, .refl old⟩
  | act here fresh moved =>
    have same := congrArg Prod.fst moved
    simp only [posServer] at same
    rw [← same]
    exact (pos_turn _ _ _).same_orders.1

theorem run_orders {past : List PosHappened} (run : Run OpensShop (Serving args) past w) :
    ∀ taken ∈ past, OrdersKept taken.before w ∧ OrdersKept taken.after w := by
  refine run.since (fun w old mem => ⟨old, mem, .refl old⟩) ?_ opensShop_secure serving_step
    (fun w event w' (_ : Secure (PosSound args) (Aware args) w) step => orders_kept w event w' step)
  intro a b c first next old mem
  obtain ⟨order, there, same⟩ := first old mem
  obtain ⟨later, stored, after⟩ := next order there
  exact ⟨later, stored, same.trans after⟩

theorem SameOrder.keeps (same : SameOrder old order) :
    order.id = old.id ∧ order.productId = old.productId ∧ order.amountMinor = old.amountMinor ∧
    order.recipient = old.recipient := by
  obtain ⟨_, _, rfl⟩ := same
  exact ⟨rfl, rfl, rfl, rfl⟩

/-- An accepted number is more than white space. -/
theorem accepted_supplied (accepted : recipientRejection number = none) :
    0 < textLength (trim number) := by
  obtain ⟨long, _⟩ := accepted_dials accepted
  have shorter : (dialled number).length ≤ (trim number).toList.length := by
    rw [← dialled_trim]
    exact List.length_filter_le _ _
  unfold textLength utf16
  cases characters : (trim number).toList with
  | nil =>
    rw [characters, List.length_nil] at shorter
    omega
  | cons c rest =>
    have units : 0 < (codeUnits c).length := by
      unfold codeUnits
      split <;> simp
    simp only [List.flatMap_cons, List.length_append]
    omega

/-- The order a step stored is in the database from then on, with the mask of the number. -/
theorem OrderedFor.stored (secure : Secure (PosSound args) (Aware args) taken.before)
    (ordered : OrderedFor taken order entered)
    (step : Serving args taken.before taken.event taken.after) :
    order ∈ taken.after.store.pendingOrders ∧
    order.recipient = some (maskRecipient (trim entered)) := by
  obtain ⟨accepted, input, call, product, amountMinor, quantity, supplied, ⟨slot, same, there⟩,
    number, point, answered⟩ := ordered
  obtain ⟨before, event, after⟩ := taken
  simp only at same there step answered secure ⊢
  subst same
  cases step with
  | act here fresh moved =>
    have one := there.symm.trans here
    cases one
    have knows := (secure.2 _ (World.proc_mem here)).2
    simp only [point] at knows
    obtain ⟨_, _, rfl⟩ := knows
    have same := congrArg Prod.fst moved
    simp only [posServer, PosRequest.step, Prod.map, id] at same
    simp only [CreatePendingOrder.step, point] at answered same
    rcases posUnit_cases input (fun pos => createPendingOrder pos
        (call.order product amountMinor quantity call.supplied input)) before.store with
      ⟨next, row, _, made, done⟩ | ⟨fault, refused⟩
    · rw [done] at same answered
      cases answered
      obtain ⟨rfl, _, rfl⟩ := createPendingOrder_ok made
      rw [← same]
      refine ⟨List.mem_append_right _ (List.mem_singleton_self _), ?_⟩
      have given : call.supplied = trim entered := by
        simp [CreatePendingOrder.supplied, number]
      simp only [pendingOrderRow, CreatePendingOrder.order, given]
      rw [if_pos (accepted_supplied accepted)]
    · rw [refused] at answered
      cases answered

/-- An order a request goes by is, but for its status, the one order stored under its id. -/
theorem copied_same {past : List PosHappened} (run : Run OpensShop (Serving args) past w)
    (mem : taken ∈ past) (copied : Copied taken.before.store order.id found)
    (stored : ∃ earlier ∈ past, order ∈ earlier.after.store.pendingOrders) :
    found.productId = order.productId ∧ found.amountMinor = order.amountMinor ∧
    found.recipient = order.recipient := by
  obtain ⟨earlier, before, stored⟩ := stored
  obtain ⟨row, last, same⟩ := (run_orders run earlier before).2 order stored
  obtain ⟨id, copy, held, copies⟩ := copied
  obtain ⟨other, final, after⟩ := (run_orders run taken mem).1 copy held
  obtain ⟨sameId, sameFacts⟩ := same.keeps
  obtain ⟨otherId, otherFacts⟩ := (copies.trans after).keeps
  have secure := run.invariant opensShop_secure serving_step
  have ids : other.id = row.id := by rw [otherId, sameId, id]
  have one : other = row := secure.1.ids.eq final last ids
  subst one
  exact ⟨otherFacts.1.symm.trans sameFacts.1, otherFacts.2.1.symm.trans sameFacts.2.1,
    otherFacts.2.2.symm.trans sameFacts.2.2⟩

/-- The sale an authorization runs is for what was ordered, to the mask the order holds. -/
theorem authorized_sale {past : List PosHappened} (run : Run OpensShop (Serving args) past w)
    (mem : taken ∈ past) (requested : Requested taken input (.authorizeOrder call))
    (named : call.orderId = order.id)
    (running : PosRequest.process (.authorizeOrder call) = some (.createSale sale))
    (stored : ∃ earlier ∈ past, order ∈ earlier.after.store.pendingOrders) :
    sale.request.productId = order.productId ∧ sale.request.amount.minor = order.amountMinor ∧
    sale.request.recipient = order.recipient.getD noRecipient ∧
    sale.recipientMasked = order.recipient.getD "" ∧ Carried taken.before.store.toDb sale := by
  obtain ⟨secure, _, _⟩ := run.taken opensShop_secure serving_step taken mem
  obtain ⟨slot, _, there⟩ := requested
  have aware := secure.2 _ (World.proc_mem there)
  obtain ⟨deps, context, orderId, pin, correlationId, point⟩ := call
  cases point with
  | selling found results other =>
    cases running
    obtain ⟨_, copied, _, ⟨amount, worth, same⟩, _, carried⟩ := aware
    simp only at named
    subst named
    obtain ⟨product, priced, masked⟩ := copied_same run mem copied stored
    have request := congrArg SaleCall.request same
    refine ⟨?_, ?_, ?_, ?_, carried⟩
    · rw [request]
      exact product
    · rw [request]
      exact worth.trans priced
    · rw [request, ← masked]
      rfl
    · rw [same, ← masked]
      rfl
  | _ => cases running

/-- Every voucher order with an accepted number is delivered to that number exactly when it is
never submitted: what is submitted in its name goes to the mask. -/
theorem recipients_delivered {past : List PosHappened}
    (run : Run OpensShop (Serving args) past w) (mem : created ∈ past)
    (ordered : OrderedFor created order entered) :
    (∀ taken ∈ past, Delivers order entered taken) ↔
      ∀ taken ∈ past, ¬ SubmitsFor order.id taken := by
  obtain ⟨secure, step, _⟩ := run.taken opensShop_secure serving_step created mem
  obtain ⟨there, masked⟩ := ordered.stored secure step
  have stored : ∃ earlier ∈ past, order ∈ earlier.after.store.pendingOrders := ⟨created, mem, there⟩
  constructor
  · rintro delivers taken mem ⟨input, call, requested, named, submits⟩
    obtain ⟨submission, asked⟩ := Option.isSome_iff_exists.mp submits
    obtain ⟨_, _, dials⟩ := (delivers taken mem).submitted input call requested named submission asked
    unfold PosRequest.submission at asked
    split at asked
    · rename_i sale running
      obtain ⟨_, _, recipient, _⟩ := authorized_sale run mem requested named running stored
      unfold CreateSale.submission at asked
      split at asked
      · cases asked
        simp only [recipient, masked, Option.getD_some] at dials
        have trimmed : recipientRejection (trim entered) = none := by
          have accepted := ordered.accepted
          unfold recipientRejection at accepted ⊢
          rw [dialled_trim]
          exact accepted
        rw [← dialled_trim entered] at dials
        exact mask_undialled trimmed dials
      · cases asked
    · cases asked
  · intro silent taken mem
    refine ⟨?_, ?_⟩
    · intro input call requested named submission asked
      exact absurd ⟨input, call, requested, named, Option.isSome_iff_exists.mpr ⟨_, asked⟩⟩
        (silent taken mem)
    · intro input call sale requested named running transaction opened
      obtain ⟨_, _, _, mask, carried⟩ := authorized_sale run mem requested named running stored
      obtain ⟨row, held, id, _, _, shows⟩ := carried transaction opened
      refine ⟨row, held, id, ?_⟩
      rw [shows, mask, masked, Option.getD_some]

/-- A ten birr top-up ordered for a phone and authorized with the right PIN. -/
def topup : List (Event Input PosRequest) :=
  let delivered := fun tag => drawing tag .confirmedSuccess .success 0
  [.start float, .act 0 (delivered "a"),
   .start (.postOrder
     { deps := optionsFrom training, context := cashier,
       request :=
         { network := "NETWORK_A", productType := "TOPUP", productId := "NETWORK_A_TOPUP_1000",
           clientRequestId := "request", recipient := some "0911223344" }
       point := .begin }),
   .act 1 (delivered "b"), .act 1 (delivered "order"),
   .start (.authorizeOrder
     { deps := optionsFrom training, context := cashier, orderId := "order0", pin := "1234",
       correlationId := "sale", point := .begin }),
   .act 2 (delivered "c"), .act 2 (delivered "d"), .act 2 (delivered "e"), .act 2 (delivered "f"),
   .act 2 (delivered "g"), .act 2 (delivered "h"), .act 2 (delivered "i"), .act 2 (delivered "j"),
   .act 2 (delivered "k"), .act 2 (delivered "l"), .act 2 (delivered "m"),
   .act 2 (delivered "sale"), .act 2 (delivered "n"), .act 2 (delivered "o")]

def topupRun : List PosHappened × World PosDb PosRequest :=
  played (World.next posServer) topup [] ⟨counter, []⟩

theorem topup_serves (request : PosRequest) (mem : .start request ∈ topup) (pos : PosDb) :
    Serves training pos request := by
  simp only [topup, List.mem_cons, Event.start.injEq, reduceCtorEq, List.not_mem_nil,
    false_or, or_false] at mem
  rcases mem with rfl | rfl | rfl
  · exact float_serves pos
  · exact ⟨rfl, rfl, by rintro _ ⟨⟩⟩
  · exact ⟨rfl, rfl, by rintro _ ⟨⟩⟩

theorem topup_run : Run OpensShop (Serving training) topupRun.1 topupRun.2 :=
  serving_run topup topup_serves (by decide +kernel)

/-- The order as the first request stored it. -/
def topupOrder : PendingOrderRow :=
  { id := "order0", merchantId := "shop", deviceId := "till", operatorId := "cashier",
    sessionId := "session", network := "NETWORK_A", productType := .topup,
    productId := "NETWORK_A_TOPUP_1000", amountMinor := 1000, quantity := 1, totalMinor := 1000,
    clientRequestId := "request", status := .opened, createdAt := 0, expiresAt := 600000,
    transactionId := none, recipient := some "09******44" }

/-- The step that stored it. -/
def topupCreated : PosHappened :=
  topupRun.1.get ⟨15, by decide⟩

theorem topup_ordered : OrderedFor topupCreated topupOrder "0911223344" :=
  ⟨by decide, _, _, _, _, _, _, ⟨1, rfl, rfl⟩, rfl, rfl, by decide +kernel⟩

theorem topup_submits : SubmitsFor "order0" (topupRun.1.get ⟨0, by decide⟩) :=
  ⟨_, _, ⟨2, rfl, rfl⟩, rfl, by decide +kernel⟩

/-- The provider is asked to top up the mask. -/
theorem topup_undelivered :
    Run OpensShop (Serving training) topupRun.1 topupRun.2 ∧
    topupCreated ∈ topupRun.1 ∧ OrderedFor topupCreated topupOrder "0911223344" ∧
    ¬ ∀ taken ∈ topupRun.1, Delivers topupOrder "0911223344" taken := by
  refine ⟨topup_run, List.get_mem _ _, topup_ordered, fun delivers => ?_⟩
  have delivered := delivers _ (List.get_mem topupRun.1 ⟨0, by decide⟩)
  obtain ⟨_, _, dials⟩ := delivered.submitted _ _ ⟨2, rfl, rfl⟩ rfl _ rfl
  revert dials
  decide +kernel

/-- It is asked at all, so the order is not delivered as it was entered. -/
theorem topup_misdelivered : ¬ ∀ taken ∈ topupRun.1, Delivers topupOrder "0911223344" taken := by
  rw [recipients_delivered topup_run (List.get_mem _ _) topup_ordered]
  exact fun silent => silent _ (List.get_mem _ _) topup_submits

end Telga.Proofs
