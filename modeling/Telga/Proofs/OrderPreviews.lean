import Telga.Proofs.PosRuns
import Telga.Proofs.Settlements

namespace Telga.Proofs.OrderPreviews
open Domain Persistence Application Library

/-- What a preview and a sale both read: the rates and the share. -/
structure SameRates (db db' : Db) : Prop where
  rates : db'.providerCommissionRates = db.providerCommissionRates
  fees : db'.platformFeeSettings = db.platformFeeSettings

theorem SameRates.refl (db : Db) : SameRates db db :=
  ⟨rfl, rfl⟩

theorem SameRates.trans (h : SameRates a b) (k : SameRates b c) : SameRates a c :=
  ⟨k.rates.trans h.rates, k.fees.trans h.fees⟩

theorem SameRates.commission (same : SameRates db db') (providerId : Option ProviderId)
    (productType : ProductId) :
    effectiveCommissionBps db' providerId productType =
      effectiveCommissionBps db providerId productType := by
  simp only [effectiveCommissionBps, same.rates, same.fees]

/-- What is fixed about an order once it is placed. -/
structure SameTerms (order order' : PendingOrderRow) : Prop where
  productType : order'.productType = order.productType
  productId : order'.productId = order.productId
  amountMinor : order'.amountMinor = order.amountMinor
  quantity : order'.quantity = order.quantity
  merchantId : order'.merchantId = order.merchantId

theorem SameTerms.refl (order : PendingOrderRow) : SameTerms order order :=
  ⟨rfl, rfl, rfl, rfl, rfl⟩

theorem SameTerms.trans (h : SameTerms a b) (k : SameTerms b c) : SameTerms a c :=
  ⟨k.productType.trans h.productType, k.productId.trans h.productId,
    k.amountMinor.trans h.amountMinor, k.quantity.trans h.quantity,
    k.merchantId.trans h.merchantId⟩

/-- An order is stored, on the terms it was placed for. -/
def Placed (order : PendingOrderRow) (orderId : String) (pos : PosDb) : Prop :=
  ∃ order', findPendingOrder pos orderId = some order' ∧ SameTerms order order'

/-- Other requests change neither the rates nor what an order was placed for. -/
structure Elsewhere (pos pos' : PosDb) : Prop where
  rates : SameRates pos.toDb pos'.toDb
  orders : ∀ id order, findPendingOrder pos id = some order → Placed order id pos'

/-- The commission entries a step added. -/
def entriesOf (db db' : Db) : List CommissionEntryRow :=
  db'.commissionEntries.drop db.commissionEntries.length

/-- An order shown and then authorized, other requests at work in between: the commission entries
the call's own steps recorded, and what they credited to the shop's profit. -/
inductive Authorizes (shop : MerchantId) (pos : PosDb) (call : AuthorizeOrder) :
    List CommissionEntryRow → Int → PosDb → AuthorizeOrder → Prop
  | shown : Authorizes shop pos call [] 0 pos call
  | own : Authorizes shop pos call earned credited pos' call' →
      call'.step input pos' = (pos'', call'') →
      Authorizes shop pos call (earned ++ entriesOf pos'.toDb pos''.toDb)
        (credited + (profitAvailableMinor pos''.toDb shop - profitAvailableMinor pos'.toDb shop))
        pos'' call''
  | elsewhere : Authorizes shop pos call earned credited pos' call' → Elsewhere pos' pos'' →
      Authorizes shop pos call earned credited pos'' call'

def Succeeded : SaleResult → Prop
  | .outcome told => told.state = .successful
  | _ => False

instance (result : SaleResult) : Decidable (Succeeded result) :=
  match result with
  | .outcome told => inferInstanceAs (Decidable (told.state = .successful))
  | .duplicateRequest .. => isFalse id
  | .rejected .. => isFalse id

def Running (sale : CreateSale) : Prop :=
  (∀ result, sale.point ≠ .returned result) ∧ ∀ fault, sale.point ≠ .threw fault

/-- A write that earns nothing. -/
structure Unpaid (shop : MerchantId) (db db' : Db) : Prop extends SameRates db db' where
  entries : db'.commissionEntries = db.commissionEntries
  profit : profitAvailableMinor db' shop = profitAvailableMinor db shop

theorem Unpaid.refl (shop : MerchantId) (db : Db) : Unpaid shop db db :=
  ⟨.refl db, rfl, rfl⟩

theorem Unpaid.trans (h : Unpaid shop a b) (k : Unpaid shop b c) : Unpaid shop a c :=
  ⟨h.toSameRates.trans k.toSameRates, k.entries.trans h.entries, k.profit.trans h.profit⟩

/-- The step that pays the shop its share of a sale. -/
structure Pays (sale : CreateSale) (entry : CommissionEntryRow) (db db' : Db) : Prop
    extends SameRates db db' where
  split : splitCommission sale.request.amount.minor (Settlements.CreateSale.rate sale db)
    db.platformFeeSettings.shopShareBps.value = .ok entry.split
  entries : db'.commissionEntries = db.commissionEntries ++ [entry]
  profit : profitAvailableMinor db' sale.request.merchantId =
    profitAvailableMinor db sale.request.merchantId + entry.split.shopShareMinor

section
variable {shop : MerchantId} {db db' : Db}

theorem saveTransaction_unpaid (h : saveTransaction db input = .ok db') : Unpaid shop db db' := by
  obtain ⟨_, ⟨_, rfl⟩ | ⟨_, _, _, _, rfl⟩⟩ := saveTransaction_ok h <;>
    exact ⟨⟨rfl, rfl⟩, rfl, rfl⟩

theorem saveAudit_unpaid (h : saveAuditEvent db input = .ok db') : Unpaid shop db db' := by
  obtain ⟨_, rfl⟩ := saveAuditEvent_ok h
  exact ⟨⟨rfl, rfl⟩, rfl, rfl⟩

theorem reserve_unpaid (h : reserve db context reservationId = .ok db') : Unpaid shop db db' := by
  obtain ⟨rows, _, _, _, _, _, _, _, rfl⟩ := reserve_ok h
  refine ⟨⟨rfl, rfl⟩, rfl, ?_⟩
  refine (netMinor_posting rfl ?_).trans ?_
  · simp [holdLegs, bucketTransfer, merchantLeg]
  · simp [holdLegs, bucketTransfer, merchantLeg, legNet, profitAvailableMinor]

theorem saveIdempotencyRecord_unpaid (h : saveIdempotencyRecord db input = .ok db') :
    Unpaid shop db db' := by
  rw [(saveIdempotencyRecord_ok h).2]
  exact ⟨⟨rfl, rfl⟩, rfl, rfl⟩

/-- Placing a sale earns nothing yet. -/
theorem openSale_unpaid (h : openSale sale input db = .ok (db', reserved)) : Unpaid shop db db' := by
  simp only [openSale, bind_ok, pure_ok] at h
  obtain ⟨_, _, _, _, first, created, second, noted, _, _, third, validated, fourth, held, _, _,
    fifth, stored, sixth, told, last, recorded, result⟩ := h
  cases result
  have opens : Unpaid shop db third :=
    ((saveTransaction_unpaid created).trans (saveAudit_unpaid noted)).trans
      (saveTransaction_unpaid validated)
  have holds : Unpaid shop third fifth := (reserve_unpaid held).trans (saveTransaction_unpaid stored)
  have records : Unpaid shop fifth db' :=
    (saveAudit_unpaid told).trans (saveIdempotencyRecord_unpaid recorded)
  exact (opens.trans holds).trans records

theorem markProcessing_unpaid (h : markProcessing sale reserved input db = .ok (db', processing)) :
    Unpaid shop db db' := by
  simp only [markProcessing, bind_ok, pure_ok] at h
  obtain ⟨_, _, next, saved, last, audited, result⟩ := h
  cases result
  exact (saveTransaction_unpaid saved).trans (saveAudit_unpaid audited)

/-- What settling a sale does to its shop's profit. -/
theorem finalizeSuccess_profit {profitMinor : Int}
    (h : finalizeSuccess db context profitMinor profitBps = .ok db') (nonneg : 0 ≤ profitMinor)
    (covered : profitMinor ≤ context.amount.minor) :
    SameRates db db' ∧ db'.commissionEntries = db.commissionEntries ∧
    profitAvailableMinor db' context.merchantId =
      profitAvailableMinor db context.merchantId + profitMinor := by
  have clamped : (clampProfit context.amount profitMinor).minor = profitMinor := by
    simp only [clampProfit]
    omega
  obtain ⟨_, _, _, _, _, _, _, _, _, rfl⟩ := moveValue_ok h
  refine ⟨⟨rfl, rfl⟩, rfl, (netMinor_posting rfl ?_).trans ?_⟩
  · intro entry mem revenue
    unfold settlementLegs at mem
    split at mem <;>
      simp [merchantLeg, platformLeg] at mem
    · rcases mem with rfl | rfl | rfl
      · cases revenue with | tail _ h => cases h
      · cases revenue with | tail _ h => cases h
      · rfl
    · rcases mem with rfl | rfl
      · cases revenue with | tail _ h => cases h
      · cases revenue with | tail _ h => cases h
  · unfold settlementLegs
    split
    · simp [merchantLeg, platformLeg, legNet, signedMinor, signed, clamped, profitAvailableMinor]
    · simp [merchantLeg, platformLeg, legNet, profitAvailableMinor]
      omega

theorem recordCommission_adds (h : recordCommission db input = .ok db') :
    ∃ row, row.split = input.split ∧
      db' = { db with commissionEntries := db.commissionEntries ++ [row] } :=
  ⟨commissionRow input, rfl, (recordCommission_ok h).2⟩

/-- What a settled sale credits the shop. -/
theorem settleSale_pays {sale : CreateSale} (positive : 0 < sale.request.amount.minor)
    (h : settleSale sale processing submitted input db = .ok (db', result)) :
    ∃ entry, Pays sale entry db db' := by
  rw [Settlements.settleSale_at] at h
  simp only [Settlements.settleAt, bind_ok, pure_ok] at h
  obtain ⟨_, _, first, saved, split, splits, second, settled, third, recorded, last, audited,
    result⟩ := h
  cases result
  obtain ⟨_, _, _, nonneg, _, covered⟩ := splitCommission_ok splits
  have opens : Unpaid sale.request.merchantId db first := saveTransaction_unpaid saved
  obtain ⟨rates, none, profit⟩ := finalizeSuccess_profit settled nonneg (covered positive.le)
  obtain ⟨row, its, rfl⟩ := recordCommission_adds recorded
  have closes : Unpaid sale.request.merchantId _ last := saveAudit_unpaid audited
  simp only at its
  rw [← its] at splits profit
  refine ⟨row, ⟨(opens.toSameRates.trans rates).trans ⟨closes.rates, closes.fees⟩, splits, ?_, ?_⟩⟩
  · exact closes.entries.trans (by rw [none, opens.entries])
  · exact closes.profit.trans (profit.trans (congrArg (· + _) opens.profit))

theorem failed_unsuccessful (sale : CreateSale)
    (h : failSale sale processing submitted input db = .ok (db', result)) : ¬ Succeeded result := by
  simp only [failSale, bind_ok, pure_ok] at h
  obtain ⟨failed, moved, _, _, _, _, _, _, told⟩ := h
  cases told
  simp [Succeeded, CreateSale.answer, (transitionTo_ok moved).2]

theorem held_unsuccessful (sale : CreateSale)
    (h : holdSale sale processing submitted input db = .ok (db', result)) : ¬ Succeeded result := by
  simp only [holdSale, bind_ok, pure_ok] at h
  obtain ⟨failed, moved, _, _, _, _, _, _, told⟩ := h
  cases told
  simp [Succeeded, CreateSale.answer, (transitionTo_ok moved).2]

theorem settled_successful (sale : CreateSale)
    (h : settleSale sale processing submitted input db = .ok (db', result)) : Succeeded result := by
  simp only [settleSale, bind_ok, pure_ok] at h
  obtain ⟨failed, moved, _, _, _, _, _, _, _, _, _, _, told⟩ := h
  cases told
  simp [Succeeded, CreateSale.answer, (transitionTo_ok moved).2]

/-- How a step may leave a sale: under way with nothing earned, delivered and paid for, or ended
otherwise. -/
inductive Left (sale : CreateSale) (db db' : Db) (sale' : CreateSale) : Prop
  | running (on : Running sale') (unpaid : Unpaid sale.request.merchantId db db')
  | paid (ended : sale'.point = .returned result) (succeeded : Succeeded result)
      (pays : Pays sale entry db db')
  | unsuccessful (ended : sale'.point = .returned result) (failed : ¬ Succeeded result)
  | threw (ended : sale'.point = .threw fault)

theorem left_rejected (sale : CreateSale) : Left sale db db' (sale.at (sale.reject kind code key t)) :=
  .unsuccessful rfl id

theorem left_refused (sale : CreateSale) (fault : Fault) :
    Left sale db db' (sale.at (sale.refusal fault)) := by
  unfold CreateSale.refusal
  split <;> exact left_rejected sale

theorem left_on {point : SalePoint} (sale : CreateSale)
    (going : (∀ result, point ≠ .returned result) ∧ ∀ fault, point ≠ .threw fault)
    (unpaid : Unpaid sale.request.merchantId db db') : Left sale db db' (sale.at point) :=
  .running going unpaid

theorem applyOutcome_left {sale : CreateSale} (positive : 0 < sale.request.amount.minor)
    (h : applyOutcome sale processing submitted input db = .ok (db', result)) :
    Left sale db db' (sale.at (.returned result)) := by
  unfold applyOutcome at h
  cases state : submitted.state with
  | successful =>
    simp only [state] at h
    obtain ⟨entry, pays⟩ := settleSale_pays positive h
    exact .paid rfl (settled_successful sale h) pays
  | failed =>
    simp only [state] at h
    exact .unsuccessful rfl (failed_unsuccessful sale h)
  | pending =>
    simp only [state] at h
    exact .unsuccessful rfl (held_unsuccessful sale h)

theorem sale_step {sale : CreateSale} (positive : 0 < sale.request.amount.minor)
    (running : Running sale) (input : Input) (db : Db) :
    (sale.step input db).2.toSaleCall = sale.toSaleCall ∧
    Left sale db (sale.step input db).1 (sale.step input db).2 := by
  have calm := Unpaid.refl sale.request.merchantId db
  unfold CreateSale.step
  cases point : sale.point with
  | begin =>
    simp only
    split
    · exact ⟨rfl, .unsuccessful rfl id⟩
    · split
      · exact ⟨rfl, .running (by simp [Running, CreateSale.at]) calm⟩
      · exact ⟨rfl, .unsuccessful rfl id⟩
  | device =>
    simp only
    split
    · exact ⟨rfl, left_rejected sale⟩
    · split
      · exact ⟨rfl, left_rejected sale⟩
      · split
        · exact ⟨rfl, left_rejected sale⟩
        · exact ⟨rfl, left_on sale (by simp) calm⟩
  | lookUp =>
    simp only
    split
    · exact ⟨rfl, left_on sale (by simp) calm⟩
    · split
      · exact ⟨rfl, left_rejected sale⟩
      · exact ⟨rfl, left_on sale (by simp) calm⟩
  | original record => exact ⟨rfl, .unsuccessful rfl id⟩
  | health =>
    simp only
    split
    · exact ⟨rfl, left_on sale (by simp) calm⟩
    · exact ⟨rfl, left_rejected sale⟩
    · exact ⟨rfl, .threw rfl⟩
  | reserving =>
    simp only
    cases done : unit input (openSale sale input) db with
    | mk next answer =>
      cases answer with
      | ok reserved => exact ⟨rfl, left_on sale (by simp) (openSale_unpaid (unit_ok done))⟩
      | error fault => exact ⟨rfl, left_refused sale fault⟩
  | submitting reserved =>
    simp only
    cases done : unit input (markProcessing sale reserved input) db with
    | mk next answer =>
      cases answer with
      | ok processing => exact ⟨rfl, left_on sale (by simp) (markProcessing_unpaid (unit_ok done))⟩
      | error fault => exact ⟨rfl, .threw rfl⟩
  | awaiting processing =>
    simp only
    split <;> exact ⟨rfl, left_on sale (by simp) calm⟩
  | applying processing submitted =>
    simp only
    cases done : unit input (applyOutcome sale processing submitted input) db with
    | mk next answer =>
      cases answer with
      | ok result => exact ⟨rfl, applyOutcome_left positive (unit_ok done)⟩
      | error fault => exact ⟨rfl, .threw rfl⟩
  | releasing processing =>
    simp only
    cases done : unit input (releaseQuietly sale processing input) db with
    | mk next answer =>
      cases answer with
      | ok _ => exact ⟨rfl, left_rejected sale⟩
      | error fault => exact ⟨rfl, .threw rfl⟩
  | returned result => exact absurd point (running.1 result)
  | threw fault => exact absurd point (running.2 fault)

end

/-- What has been earned when the results so far were all deliveries: one entry each, all split
alike, and the share of each credited. -/
structure Accrued (pos : PosDb) (split : CommissionSplit) (results : List SaleResult)
    (earned : List CommissionEntryRow) (credited : Int) (pos' : PosDb) : Prop where
  rates : SameRates pos.toDb pos'.toDb
  count : earned.length = results.length
  splits : ∀ entry ∈ earned, entry.split = split
  credit : credited = split.shopShareMinor * results.length

/-- The sale a call makes of a voucher of its order. -/
structure VoucherSale (call : AuthorizeOrder) (placed : PendingOrderRow) (sale : CreateSale) :
    Prop where
  amount : sale.request.amount.minor = placed.amountMinor
  shop : sale.request.merchantId = placed.merchantId
  product : sale.request.productId = placed.productId
  provider : sale.deps.providerId = call.deps.providerId

/-- Where a call stands, and what it has earned by then. -/
def Authorizing (order : PendingOrderRow) (call : AuthorizeOrder) (pos' : PosDb)
    (accrued : List SaleResult → Prop) : Prop :=
  match call.point with
  | .begin | .finding => Placed order call.orderId pos' ∧ accrued []
  | .failures placed _ | .attempts placed _ | .user placed _ | .verifying placed _ _
  | .accepting placed _ => SameTerms order placed ∧ accrued []
  | .selling placed results sale =>
    SameTerms order placed ∧ results.length < order.quantity ∧ Running sale ∧
      VoucherSale call placed sale ∧ ((∀ result ∈ results, Succeeded result) → accrued results)
  | .claiming _ results | .returned (.sale _ results) =>
    results.length = order.quantity ∧ ((∀ result ∈ results, Succeeded result) → accrued results)
  | _ => True

section
variable {pos pos' pos'' : PosDb} {call : AuthorizeOrder} {order : PendingOrderRow}

theorem Accrued.still {shop : MerchantId} (accrued : Accrued pos split results earned credited pos')
    (unpaid : Unpaid shop pos'.toDb pos''.toDb) :
    Accrued pos split results (earned ++ entriesOf pos'.toDb pos''.toDb)
      (credited + (profitAvailableMinor pos''.toDb shop - profitAvailableMinor pos'.toDb shop))
      pos'' := by
  obtain ⟨rates, count, splits, credit⟩ := accrued
  have none : entriesOf pos'.toDb pos''.toDb = [] := by
    simp [entriesOf, unpaid.entries]
  rw [none, List.append_nil, unpaid.profit]
  exact ⟨rates.trans unpaid.toSameRates, count, splits, by rw [credit]; ring⟩

theorem Accrued.more {sale : CreateSale}
    (accrued : Accrued pos split results earned credited pos')
    (pays : Pays sale entry pos'.toDb pos''.toDb) (its : entry.split = split) :
    Accrued pos split (results ++ [result]) (earned ++ entriesOf pos'.toDb pos''.toDb)
      (credited + (profitAvailableMinor pos''.toDb sale.request.merchantId -
        profitAvailableMinor pos'.toDb sale.request.merchantId)) pos'' := by
  obtain ⟨rates, count, splits, credit⟩ := accrued
  have one : entriesOf pos'.toDb pos''.toDb = [entry] := by
    simp [entriesOf, pays.entries]
  rw [one, pays.profit, its]
  refine ⟨rates.trans pays.toSameRates, by simp [count], ?_, ?_⟩
  · intro other mem
    rcases List.mem_append.mp mem with mem | mem
    · exact splits other mem
    · rw [List.mem_singleton.mp mem]
      exact its
  · rw [credit]
    simp only [List.length_append, List.length_singleton]
    push_cast
    ring

/-- On to the next voucher, or to the claim. -/
theorem onward_authorizing {placed : PendingOrderRow} (terms : SameTerms order placed)
    (few : results.length ≤ order.quantity)
    (accrued : (∀ result ∈ results, Succeeded result) → accrues results) :
    Authorizing order (call.at (call.onward placed results)) pos' accrues := by
  unfold AuthorizeOrder.onward
  rw [terms.quantity]
  split
  · rename_i less
    cases amount : money placed.amountMinor with
    | ok amount_ =>
      exact ⟨terms, less, by simp [Running, AuthorizeOrder.saleOf],
        ⟨money_ok.mp amount, rfl, rfl, rfl⟩, accrued⟩
    | error fault => trivial
  · exact ⟨by omega, accrued⟩

theorem placed_expired (placed : Placed order orderId pos') :
    Placed order orderId (expireIfDue pos' dueId now) := by
  obtain ⟨order', found, terms⟩ := placed
  have after : findPendingOrder (expireIfDue pos' dueId now) orderId =
      (findPendingOrder pos' orderId).map fun order =>
        if openOrder dueId order && decide (order.expiresAt ≤ now) then
          { order with status := .expired }
        else order :=
    find?_update fun _ => rfl
  rw [found] at after
  refine ⟨_, after, ?_⟩
  simp only
  split
  · exact ⟨terms.productType, terms.productId, terms.amountMinor, terms.quantity, terms.merchantId⟩
  · exact terms

/-- What a call has accrued after a step, of the sums before it. -/
def accruing (pos : PosDb) (split : CommissionSplit) (shop : MerchantId)
    (earned : List CommissionEntryRow) (credited : Int) (pos' pos'' : PosDb)
    (results : List SaleResult) : Prop :=
  Accrued pos split results (earned ++ entriesOf pos'.toDb pos''.toDb)
    (credited + (profitAvailableMinor pos''.toDb shop - profitAvailableMinor pos'.toDb shop)) pos''

theorem accruing_calm (same : pos''.toDb = pos'.toDb)
    (accrued : Accrued pos split results earned credited pos') :
    accruing pos split shop earned credited pos' pos'' results :=
  accrued.still (by rw [same]; exact .refl shop _)

/-- One step of a voucher's sale keeps the count. -/
theorem selling_authorizing {placed : PendingOrderRow} {results : List SaleResult}
    {sale : CreateSale} (positive : 0 < order.amountMinor)
    (splits : splitCommission order.amountMinor
      (effectiveCommissionBps pos.toDb (some call.deps.providerId) order.productId)
      pos.platformFeeSettings.shopShareBps.value = .ok split)
    (point : call.point = .selling placed results sale)
    (standing : Authorizing order call pos'
      fun results => Accrued pos split results earned credited pos') (input : Input) :
    Authorizing order (call.step input pos').2 (call.step input pos').1
      (accruing pos split order.merchantId earned credited pos' (call.step input pos').1) := by
  unfold Authorizing at standing
  rw [point] at standing
  obtain ⟨terms, less, running, its, accrued⟩ := standing
  have worth : sale.request.amount.minor = order.amountMinor := its.amount.trans terms.amountMinor
  have shop : sale.request.merchantId = order.merchantId := its.shop.trans terms.merchantId
  obtain ⟨same, left⟩ := sale_step (worth ▸ positive) running input pos'.toDb
  unfold AuthorizeOrder.step
  simp only [point]
  generalize sale.step input pos'.toDb = next at same left
  obtain ⟨db, sale'⟩ := next
  simp only at same left ⊢
  cases left with
  | running on unpaid =>
    have kept : VoucherSale call placed sale' := by
      unfold CreateSale.toSaleCall at same
      have request : sale'.request = sale.request := congrArg (·.request) same
      have deps : sale'.deps = sale.deps := congrArg (·.deps) same
      exact ⟨request ▸ its.amount, request ▸ its.shop, request ▸ its.product, deps ▸ its.provider⟩
    rw [shop] at unpaid
    cases ended : sale'.point with
    | returned result => exact absurd ended (on.1 result)
    | threw fault => exact absurd ended (on.2 fault)
    | _ =>
      exact ⟨terms, less, on, ⟨kept.amount, kept.shop, kept.product, kept.provider⟩,
        fun succeeded => (accrued succeeded).still unpaid⟩
  | @paid result entry ended succeeded pays =>
    rw [ended]
    refine onward_authorizing terms (by simp only [List.length_append, List.length_singleton]; omega)
      fun all => ?_
    have earlier := accrued fun result mem => all result (List.mem_append_left _ mem)
    have alike : entry.split = split := by
      have mine := pays.split
      simp only [Settlements.CreateSale.rate, worth, its.provider, its.product, terms.productId,
        earlier.rates.commission, earlier.rates.fees] at mine
      exact Except.ok.inj (mine.symm.trans splits)
    unfold accruing
    rw [← shop]
    exact earlier.more pays alike
  | @unsuccessful result ended failed =>
    rw [ended]
    exact onward_authorizing terms (by simp only [List.length_append, List.length_singleton]; omega)
      fun all => absurd (all result (by simp)) failed
  | threw ended =>
    rw [ended]
    trivial

/-- One step of a call keeps the count. -/
theorem step_authorizing (positive : 0 < order.amountMinor) (counted : 0 ≤ order.quantity)
    (splits : splitCommission order.amountMinor
      (effectiveCommissionBps pos.toDb (some call.deps.providerId) order.productId)
      pos.platformFeeSettings.shopShareBps.value = .ok split)
    (standing : Authorizing order call pos'
      fun results => Accrued pos split results earned credited pos') (input : Input) :
    Authorizing order (call.step input pos').2 (call.step input pos').1
      (accruing pos split order.merchantId earned credited pos' (call.step input pos').1) := by
  cases point : call.point with
  | selling placed results sale => exact selling_authorizing positive splits point standing input
  | begin =>
    unfold Authorizing at standing
    rw [point] at standing
    obtain ⟨placed, accrued⟩ := standing
    unfold AuthorizeOrder.step
    simp only [point]
    split
    · trivial
    · cases done : expiring input call.orderId pos' with
      | mk next answer =>
        cases answer with
        | ok _ =>
          cases posUnit_ok done
          exact ⟨placed_expired placed, accruing_calm rfl accrued⟩
        | error fault => trivial
  | finding =>
    unfold Authorizing at standing
    rw [point] at standing
    obtain ⟨⟨order', found, terms⟩, accrued⟩ := standing
    unfold AuthorizeOrder.step
    simp only [point]
    cases own : ownOrder pos' call.context call.orderId with
    | none => trivial
    | some placed =>
      obtain ⟨there, _⟩ := Option.filter_eq_some_iff.mp own
      cases found.symm.trans there
      simp only
      split
      · trivial
      · split
        · trivial
        · exact ⟨terms, accruing_calm rfl accrued⟩
  | failures placed now | attempts placed now =>
    unfold Authorizing at standing
    rw [point] at standing
    unfold AuthorizeOrder.step
    simp only [point]
    split
    · trivial
    · exact ⟨standing.1, accruing_calm rfl standing.2⟩
  | user placed now =>
    unfold Authorizing at standing
    rw [point] at standing
    unfold AuthorizeOrder.step
    simp only [point]
    exact ⟨standing.1, accruing_calm rfl standing.2⟩
  | verifying placed now user =>
    unfold Authorizing at standing
    rw [point] at standing
    unfold AuthorizeOrder.step
    simp only [point]
    split
    · exact ⟨standing.1, accruing_calm rfl standing.2⟩
    · trivial
  | refusing now =>
    unfold AuthorizeOrder.step
    simp only [point]
    split <;> trivial
  | accepting placed now =>
    unfold Authorizing at standing
    rw [point] at standing
    unfold AuthorizeOrder.step
    simp only [point]
    cases done : posUnit input (fun pos =>
        .ok (recordAttempt pos .pinAuth call.context.userId .success now, ())) pos' with
    | mk next answer =>
      cases answer with
      | ok _ =>
        cases posUnit_ok done
        exact onward_authorizing standing.1 counted fun _ => accruing_calm rfl standing.2
      | error fault => trivial
  | claiming placed results =>
    unfold Authorizing at standing
    rw [point] at standing
    obtain ⟨all, accrued⟩ := standing
    unfold AuthorizeOrder.step
    simp only [point]
    cases results with
    | nil => trivial
    | cons result rest =>
      simp only
      split
      · exact ⟨all, fun succeeded => accruing_calm rfl (accrued succeeded)⟩
      · rename_i transactionId _
        cases done : posUnit input (fun pos =>
            .ok (authorizePendingOrder pos call.orderId transactionId)) pos' with
        | mk next answer =>
          cases answer with
          | ok _ =>
            cases posUnit_ok done
            exact ⟨all, fun succeeded => accruing_calm rfl (accrued succeeded)⟩
          | error fault => trivial
  | returned answer =>
    have still : call.step input pos' = (pos', call) := by
      unfold AuthorizeOrder.step
      simp only [point]
    rw [still]
    unfold Authorizing at standing ⊢
    simp only [point] at standing ⊢
    cases answer with
    | sale result results =>
      exact ⟨standing.1, fun succeeded => accruing_calm rfl (standing.2 succeeded)⟩
    | _ => trivial
  | threw fault =>
    unfold AuthorizeOrder.step Authorizing
    simp only [point]

theorem step_given (call : AuthorizeOrder) (input : Input) (pos' : PosDb) :
    (call.step input pos').2.deps = call.deps := by
  unfold AuthorizeOrder.step
  split <;> (try simp only) <;> (repeat' split) <;> rfl

theorem elsewhere_authorizing (elsewhere : Elsewhere pos' pos'')
    (standing : Authorizing order call pos'
      fun results => Accrued pos split results earned credited pos') :
    Authorizing order call pos'' fun results => Accrued pos split results earned credited pos'' := by
  have kept : ∀ {results}, Accrued pos split results earned credited pos' →
      Accrued pos split results earned credited pos'' := by
    intro results ⟨rates, count, splits, credit⟩
    exact ⟨rates.trans elsewhere.rates, count, splits, credit⟩
  have there : ∀ {orderId}, Placed order orderId pos' → Placed order orderId pos'' := by
    intro orderId ⟨order', found, terms⟩
    obtain ⟨order'', found', terms'⟩ := elsewhere.orders _ _ found
    exact ⟨order'', found', terms.trans terms'⟩
  unfold Authorizing at standing ⊢
  cases point : call.point with
  | begin | finding => rw [point] at standing; exact ⟨there standing.1, kept standing.2⟩
  | failures | attempts | user | verifying | accepting =>
    rw [point] at standing; exact ⟨standing.1, kept standing.2⟩
  | selling =>
    rw [point] at standing
    obtain ⟨terms, less, running, its, accrued⟩ := standing
    exact ⟨terms, less, running, its, fun succeeded => kept (accrued succeeded)⟩
  | claiming => rw [point] at standing; exact ⟨standing.1, fun all => kept (standing.2 all)⟩
  | returned answer =>
    rw [point] at standing
    cases answer with
    | sale => exact ⟨standing.1, fun all => kept (standing.2 all)⟩
    | _ => trivial
  | _ => trivial

/-- Along a whole run. -/
theorem authorizes_standing (start : call.point = .begin)
    (stored : findPendingOrder pos call.orderId = some order) (positive : 0 < order.amountMinor)
    (counted : 0 ≤ order.quantity)
    (splits : splitCommission order.amountMinor
      (effectiveCommissionBps pos.toDb (some call.deps.providerId) order.productId)
      pos.platformFeeSettings.shopShareBps.value = .ok split)
    (run : Authorizes order.merchantId pos call earned credited pos' call') :
    call'.deps = call.deps ∧
    Authorizing order call' pos' fun results => Accrued pos split results earned credited pos' := by
  induction run with
  | shown =>
    refine ⟨rfl, ?_⟩
    unfold Authorizing
    rw [start]
    exact ⟨⟨order, stored, .refl order⟩, .refl _, rfl, by simp, by simp⟩
  | own run step ih =>
    obtain ⟨given, standing⟩ := ih
    obtain ⟨rfl, rfl⟩ := Prod.mk.inj step
    exact ⟨(step_given ..).trans given,
      step_authorizing positive counted (given ▸ splits) standing _⟩
  | elsewhere run elsewhere ih =>
    exact ⟨ih.1, elsewhere_authorizing elsewhere ih.2⟩

end

/-- A provider's own rate for a product, if it has one. -/
def ownRate (db : Db) (providerId : ProviderId) (productType : ProductId) : Option Bps :=
  (db.providerCommissionRates.find? fun rate =>
    rate.providerId = providerId ∧ rate.productType = some productType).map (·.commissionBps)

/-- The rate a provider's products have when they have none of their own. -/
def generalRate (db : Db) (providerId : ProviderId) : Int :=
  match db.providerCommissionRates.find? fun rate =>
    rate.providerId = providerId ∧ rate.productType = none with
  | some rate => rate.commissionBps.value
  | none => db.platformFeeSettings.defaultCommissionBps.value

/-- No rate is stored that tells an order's product type from its product: neither has a rate of
its own, or what is stored says the same of both. -/
def RatesAlike (db : Db) (providerId : ProviderId) (order : PendingOrderRow) : Prop :=
  match ownRate db providerId order.productType.code, ownRate db providerId order.productId with
  | none, none => True
  | some typed, some own => typed.value = own.value
  | some rate, none | none, some rate => rate.value = generalRate db providerId

/-- What a preview promises: each voucher's entry carries the rate shown, and together they credit
the profit shown. -/
def AsShown (dto : CreateOrderDto) (earned : List CommissionEntryRow) (credited : Int) : Prop :=
  earned.length = dto.quantity ∧
  total (fun entry => entry.split.shopShareMinor) earned = dto.profitMinor ∧
  credited = dto.profitMinor ∧
  ∀ entry ∈ earned, entry.split.providerCommissionBps = dto.profitBps

theorem effectiveCommissionBps_eq (db : Db) (providerId : ProviderId) (productType : ProductId) :
    effectiveCommissionBps db (some providerId) productType =
      ((ownRate db providerId productType).map (·.value)).getD (generalRate db providerId) := by
  unfold effectiveCommissionBps ownRate generalRate
  simp only [Option.bind_some]
  cases db.providerCommissionRates.find? fun rate =>
    rate.providerId = providerId ∧ rate.productType = some productType with
  | some rate => rfl
  | none =>
    cases db.providerCommissionRates.find? fun rate =>
      rate.providerId = providerId ∧ rate.productType = none <;> rfl

theorem ratesAlike_iff (db : Db) (providerId : ProviderId) (order : PendingOrderRow) :
    RatesAlike db providerId order ↔
      effectiveCommissionBps db (some providerId) order.productId =
        effectiveCommissionBps db (some providerId) order.productType.code := by
  rw [effectiveCommissionBps_eq, effectiveCommissionBps_eq]
  unfold RatesAlike
  cases ownRate db providerId order.productType.code with
  | none =>
    cases ownRate db providerId order.productId with
    | none => simp
    | some own => simp
  | some typed =>
    cases ownRate db providerId order.productId with
    | none => simp [eq_comm]
    | some own => simp [eq_comm]

/-- What an order is shown to earn. -/
theorem toCreateOrderDto_ok (h : toCreateOrderDto deps pos order = .ok dto) :
    ∃ split, splitCommission order.amountMinor
        (effectiveCommissionBps pos.toDb (some deps.providerId) order.productType.code)
        pos.platformFeeSettings.shopShareBps.value = .ok split ∧
      dto.quantity = order.quantity ∧ dto.profitMinor = split.shopShareMinor * order.quantity ∧
      dto.profitBps = split.providerCommissionBps := by
  simp only [toCreateOrderDto, bind_ok, pure_ok] at h
  obtain ⟨split, splits, _, _, rfl⟩ := h
  exact ⟨split, splits, rfl, rfl, (splitCommission_ok splits).1.symm⟩

/-- An order that was shown, and whose vouchers all succeeded, earned what was shown just when no
stored rate tells its product type from its product. -/
theorem shown_iff {pos pos' : PosDb} {call call' : AuthorizeOrder} {order : PendingOrderRow}
    (start : call.point = .begin) (stored : findPendingOrder pos call.orderId = some order)
    (positive : 0 < order.amountMinor) (some : 1 ≤ order.quantity)
    (shown : toCreateOrderDto call.deps pos order = .ok dto)
    (run : Authorizes order.merchantId pos call earned credited pos' call')
    (ended : call'.point = .returned (.sale result results))
    (succeeded : ∀ result ∈ results, Succeeded result) :
    AsShown dto earned credited ↔ RatesAlike pos.toDb call.deps.providerId order := by
  obtain ⟨preview, previews, quantity, profit, bps⟩ := toCreateOrderDto_ok shown
  have rate : ValidBps (effectiveCommissionBps pos.toDb (.some call.deps.providerId)
    order.productId) := effectiveCommissionBps_valid ..
  obtain ⟨split, splits⟩ : ∃ split, splitCommission order.amountMinor _ _ = .ok split :=
    ⟨_, Settlements.splitCommission_goes rate pos.platformFeeSettings.shopShareBps.valid positive⟩
  obtain ⟨_, standing⟩ := authorizes_standing start stored positive (by omega) splits run
  unfold Authorizing at standing
  rw [ended] at standing
  obtain ⟨all, accrued⟩ := standing
  obtain ⟨_, count, alike, credit⟩ := accrued succeeded
  have paid := (splitCommission_ok splits).1
  have offered := (splitCommission_ok previews).1
  rw [ratesAlike_iff]
  constructor
  · rintro ⟨_, _, _, rates⟩
    cases earned with
    | nil => simp only [List.length_nil] at count; omega
    | cons entry rest =>
      have first := rates entry (List.mem_cons_self ..)
      rw [alike entry (List.mem_cons_self ..), bps, offered] at first
      exact paid.symm.trans first
  · intro same
    rw [← same] at previews
    have one : preview = split := Except.ok.inj (previews.symm.trans splits)
    subst one
    have sum : total (fun entry => entry.split.shopShareMinor) earned =
        preview.shopShareMinor * earned.length :=
      total_const fun entry mem => by rw [alike entry mem]
    refine ⟨by rw [quantity, ← all, count], ?_, ?_, fun entry mem => ?_⟩
    · rw [sum, profit, count, all]
    · rw [credit, profit, all]
    · rw [alike entry mem, bps]

/-- A call taken through its steps, nothing else happening in between. -/
def worked (shop : MerchantId) : List Input → List CommissionEntryRow → Int → PosDb →
    AuthorizeOrder → List CommissionEntryRow × Int × PosDb × AuthorizeOrder
  | [], earned, credited, pos, call => (earned, credited, pos, call)
  | input :: rest, earned, credited, pos, call =>
    let next := call.step input pos
    worked shop rest (earned ++ entriesOf pos.toDb next.1.toDb)
      (credited + (profitAvailableMinor next.1.toDb shop - profitAvailableMinor pos.toDb shop))
      next.1 next.2

theorem worked_authorizes {pos pos' : PosDb} (inputs : List Input)
    (run : Authorizes shop pos call earned credited pos' call') :
    Authorizes shop pos call (worked shop inputs earned credited pos' call').1
      (worked shop inputs earned credited pos' call').2.1
      (worked shop inputs earned credited pos' call').2.2.1
      (worked shop inputs earned credited pos' call').2.2.2 := by
  induction inputs generalizing earned credited pos' call' with
  | nil => exact run
  | cons input rest ih => exact ih (run.own rfl)

/-- Two vouchers of a hundred birr, ordered at the counter. -/
def twoVouchers : PendingOrderRow :=
  { id := "order", merchantId := "shop", deviceId := "till", operatorId := "cashier",
    sessionId := "session", network := "ethio", productType := .airtime, productId := "voucher",
    amountMinor := 10000, quantity := 2, totalMinor := 20000, clientRequestId := "request",
    status := .opened, createdAt := 0, expiresAt := 600000, transactionId := none,
    recipient := none }

/-- The order at a counter with the money for it, under given provider rates. -/
def ordered (rates : List ProviderCommissionRate) : PosDb :=
  { counter with
    toDb :=
      { (fundMerchant twoShops
          { merchantId := "shop", amount := ⟨100000, by decide⟩, now := 0,
            correlationId := "deposit", postingId := "deposit" }).toOption.getD twoShops with
        providerCommissionRates := rates }
    pendingOrders := [twoVouchers] }

def confirming : AuthorizeOrder :=
  { deps :=
      { providerId := "provider", catalog := fun _ => some true, mode := .training
        vouchers := fun _ => none, verifySecret := fun pin stored => pin == stored.hash
        pinLockout := ⟨5, 900000, 10, 60000⟩ }
    context := cashier, orderId := "order", pin := "1234", correlationId := "correlation"
    point := .begin }

/-- Its steps, every id drawn new and every voucher delivered. -/
def confirmedOrder (rates : List ProviderCommissionRate) :
    List CommissionEntryRow × Int × PosDb × AuthorizeOrder :=
  worked "shop"
    (["a", "b", "c", "d", "e", "f", "g", "h", "i", "j", "k", "l", "m", "n", "o", "p", "q", "r", "s",
      "t", "u", "v", "w", "x"].map fun tag => drawing tag .confirmedSuccess .stillPending 1)
    [] 0 (ordered rates) confirming

/-- What an order that ended came to. -/
def soldAs (call : AuthorizeOrder) : Option (SaleResult × List SaleResult) :=
  match call.point with
  | .returned (.sale result results) => some (result, results)
  | _ => none

theorem soldAs_some (h : soldAs call = some (result, results)) :
    call.point = .returned (.sale result results) := by
  unfold soldAs at h
  split at h
  · rename_i point
    cases h
    exact point
  · cases h

/-- Every voucher of the order was delivered. -/
theorem confirmedOrder_sold {rates : List ProviderCommissionRate}
    (delivered : (soldAs (confirmedOrder rates).2.2.2).any
      (fun sold => decide (∀ result ∈ sold.2, Succeeded result)) = true) :
    ∃ result results, (confirmedOrder rates).2.2.2.point = .returned (.sale result results) ∧
      ∀ result ∈ results, Succeeded result := by
  obtain ⟨⟨result, results⟩, sold, succeeded⟩ := (Option.any_eq_true ..).mp delivered
  exact ⟨result, results, soldAs_some sold, of_decide_eq_true succeeded⟩

theorem shown_ordinary : ∃ dto, toCreateOrderDto confirming.deps (ordered []) twoVouchers = .ok dto ∧
    AsShown dto (confirmedOrder []).1 (confirmedOrder []).2.1 := by
  obtain ⟨result, results, ended, succeeded⟩ := @confirmedOrder_sold [] (by decide +kernel)
  obtain ⟨dto, shown⟩ : ∃ dto, toCreateOrderDto confirming.deps (ordered []) twoVouchers = .ok dto :=
    ⟨_, rfl⟩
  refine ⟨dto, shown, ?_⟩
  exact (shown_iff rfl rfl (by decide) (by decide) shown (worked_authorizes _ .shown) ended
    succeeded).mpr trivial

/-- A provider that pays more for airtime than for the rest. -/
def airtimeRate : ProviderCommissionRate :=
  { id := "rate", providerId := "provider", productType := some "AIRTIME",
    commissionBps := ⟨500, by decide⟩ }

/-- The preview finds the rate under the order's product type; the sale looks for it under the
product. -/
theorem airtime_rate_misleads : ∃ dto,
    toCreateOrderDto confirming.deps (ordered [airtimeRate]) twoVouchers = .ok dto ∧
    (∃ result results, (confirmedOrder [airtimeRate]).2.2.2.point = .returned (.sale result results) ∧
      ∀ result ∈ results, Succeeded result) ∧
    dto.profitMinor = 700 ∧ (confirmedOrder [airtimeRate]).2.1 = 420 ∧
    ¬ AsShown dto (confirmedOrder [airtimeRate]).1 (confirmedOrder [airtimeRate]).2.1 := by
  obtain ⟨dto, shown⟩ : ∃ dto,
      toCreateOrderDto confirming.deps (ordered [airtimeRate]) twoVouchers = .ok dto := ⟨_, rfl⟩
  have profit : dto.profitMinor = 700 := by
    cases shown
    decide
  have credited : (confirmedOrder [airtimeRate]).2.1 = 420 := by
    decide +kernel
  refine ⟨dto, shown, confirmedOrder_sold (by decide +kernel), profit, credited, fun same => ?_⟩
  have equal := same.2.2.1
  rw [credited, profit] at equal
  cases equal

end Telga.Proofs.OrderPreviews
