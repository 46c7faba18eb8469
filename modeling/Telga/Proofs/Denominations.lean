import Telga.Proofs.PosSales

namespace Telga.Proofs
open Domain Persistence Application Library

/-- A voucher product is sold at what it costs. Other products cost what they are sold at. -/
def Denominated (productId : ProductId) (amountMinor : Int) : Prop :=
  ∀ product ∈ simulatedVoucherCatalog trainingVoucherCatalog productId, product.Priced amountMinor

instance (productId : ProductId) (amountMinor : Int) : Decidable (Denominated productId amountMinor) :=
  inferInstanceAs (Decidable (∀ product ∈ simulatedVoucherCatalog trainingVoucherCatalog productId,
    product.Priced amountMinor))

/-- A body that asks for a voucher product at another price. -/
def Misprices (body : SaleBody) : Prop :=
  ∃ productId ∈ body.productId, ∃ amountMinor ∈ body.amountMinor,
    ¬ Denominated productId amountMinor

/-- What is stored after a step, and what the step asks the provider for, costs what it may. -/
structure AtItsPrice (taken : PosHappened) : Prop where
  stored : ∀ row ∈ taken.after.store.transactions, Denominated row.productType row.amount.minor
  submitted : ∀ input request, Requested taken input request →
    ∀ submission ∈ request.submission, Denominated submission.productId submission.amount.minor

/-- The step makes the reservation of a JSON sale whose body has another price in it. -/
def Undercuts (taken : PosHappened) : Prop :=
  ∃ input call body sale, Requested taken input (.postSale call) ∧ call.origin = .api body ∧
    Misprices body ∧ call.point = .selling sale ∧ Accepted input taken.before.store.toDb sale

theorem requiredText_ok (h : requiredText code value = .ok text) : value = some text := by
  unfold requiredText at h
  split at h
  · cases h
  · split at h
    · cases h
    · cases h
      rfl

/-- A sale that passes validation asks for the product and the amount of its body. -/
theorem validateBody_ok (h : validateBody context correlationId body = .ok request) :
    body.productId = some request.productId ∧
    body.amountMinor = some request.amount.minor ∧ 0 < request.amount.minor := by
  simp only [validateBody, bind_ok] at h
  obtain ⟨productId, product, recipient, _, clientRequestId, _, amountMinor, amount, h⟩ := h
  split at h
  · rename_i safe
    cases h
    exact ⟨requiredText_ok product, expect_ok.mp amount, safe.2⟩
  · cases h

/-- No product of the sell screen is a voucher product. -/
theorem trainingCatalog_apart : ∀ entry ∈ trainingCatalog,
    simulatedVoucherCatalog trainingVoucherCatalog entry.productId = none := by
  decide +kernel

/-- What the sell screen posts never has another price in it. -/
theorem sellBody_denominated
    (h : validateBody context correlationId (sellBody form) = .ok request) :
    Denominated request.productId request.amount.minor := by
  obtain ⟨product, amount, positive⟩ := validateBody_ok h
  simp only [sellBody, Option.some.injEq] at product amount
  cases found : trainingCatalog.find? fun entry => some entry.productId = form.productId with
  | none =>
    simp only [found, Option.map_none, Option.getD_none] at amount
    omega
  | some entry =>
    have same := List.find?_some found
    simp only [product, Option.some.injEq, decide_eq_true_eq] at same
    have apart := trainingCatalog_apart entry (List.mem_of_find?_eq_some found)
    intro voucher sold
    rw [← same, apart] at sold
    cases sold

/-- An order costs what its product may. -/
theorem order_denominated (sound : PosSound args pos) (copied : Copied pos orderId order) :
    Denominated order.productId order.amountMinor := by
  obtain ⟨_, stored, mem, _, _, rfl⟩ := copied
  obtain ⟨product, found, priced⟩ := sound.priced _ mem
  intro voucher sold
  have one : some voucher = some product := sold.symm.trans found
  cases one
  exact priced

/-- The sale a request runs inside itself is carried by the database. -/
theorem Aware.carried (aware : Aware args pos request)
    (running : request.process = some (.createSale sale)) : Carried pos.toDb sale := by
  cases request with
  | service process =>
    cases running
    exact absurd rfl aware.1
  | postSale call =>
    obtain ⟨deps, context, origin, correlationId, point⟩ := call
    cases point with
    | selling other =>
      cases running
      exact aware.2.2.2
    | _ => cases running
  | authorizeOrder call =>
    obtain ⟨deps, context, orderId, pin, correlationId, point⟩ := call
    cases point with
    | selling order results other =>
      cases running
      exact aware.2.2.2.2.2
    | _ => cases running
  | _ => cases running

/-- The sale a request runs costs what it may, or the request is a JSON one with another price. -/
theorem Aware.denominated (sound : PosSound args pos) (aware : Aware args pos request)
    (running : request.process = some (.createSale sale)) :
    Denominated sale.request.productId sale.request.amount.minor ∨
    ∃ call body, request = .postSale call ∧ call.origin = .api body ∧ Misprices body ∧
      call.point = .selling sale := by
  cases request with
  | service process =>
    cases running
    exact absurd rfl aware.1
  | postSale call =>
    obtain ⟨deps, context, origin, correlationId, point⟩ := call
    cases point with
    | selling other =>
      cases running
      have valid := aware.2.1
      cases origin with
      | screen form => exact .inl (sellBody_denominated valid)
      | api body =>
        by_cases priced : Denominated sale.request.productId sale.request.amount.minor
        · exact .inl priced
        · obtain ⟨product, amount, _⟩ := validateBody_ok valid
          exact .inr ⟨_, body, rfl, rfl, ⟨_, product, _, amount, priced⟩, rfl⟩
    | _ => cases running
  | authorizeOrder call =>
    obtain ⟨deps, context, orderId, pin, correlationId, point⟩ := call
    cases point with
    | selling order results other =>
      cases running
      obtain ⟨_, copied, _, ⟨amount, worth, same⟩, _⟩ := aware
      have request := congrArg SaleCall.request same
      refine .inl ?_
      rw [request]
      simp only [AuthorizeOrder.saleOf, worth]
      exact order_denominated sound copied
    | _ => cases running
  | _ => cases running

/-- Every sale in the database costs what it may. -/
def AllDenominated (w : World PosDb PosRequest) : Prop :=
  ∀ row ∈ w.store.transactions, Denominated row.productType row.amount.minor

theorem denominated_of_same (same : SameSale old row)
    (priced : Denominated old.productType old.amount.minor) :
    Denominated row.productType row.amount.minor := by
  obtain ⟨_, _, _, rfl⟩ := same
  exact priced

theorem denominated_step (w : World PosDb PosRequest) (event : Event Input PosRequest)
    (w' : World PosDb PosRequest) (secure : Secure (PosSound args) (Aware args) w)
    (all : AllDenominated w) (step : Serving args w event w') :
    AllDenominated w' ↔ ¬ Undercuts ⟨w, event, w'⟩ := by
  cases step with
  | start _ | crash =>
    refine iff_of_true all ?_
    rintro ⟨_, _, _, _, ⟨_, same, _⟩, _⟩
    cases same
  | act here fresh moved =>
    have aware := secure.2 _ (World.proc_mem here)
    obtain ⟨_, back, opens⟩ := pos_sales secure.1 aware fresh
    simp only [posServer] at moved
    rw [moved] at back opens
    constructor
    · rintro priced ⟨input, call, body, sale, ⟨slot, same, there⟩, origin, misprices, point, accepted⟩
      cases same
      have one := there.symm.trans here
      cases one
      obtain ⟨deps, context, _, correlationId, _⟩ := call
      cases origin
      cases point
      obtain ⟨row, mem, opened⟩ := opens sale rfl accepted
      obtain ⟨product, amount, _⟩ := validateBody_ok aware.2.1
      obtain ⟨productId, named, amountMinor, offered, wrong⟩ := misprices
      have one : some productId = some sale.request.productId := named.symm.trans product
      cases one
      have two : some amountMinor = some sale.request.amount.minor := offered.symm.trans amount
      cases two
      have stored := priced row mem
      rw [opened.product, opened.amount] at stored
      exact wrong stored
    · intro fair row mem
      rcases back row mem with ⟨old, there, same⟩ | ⟨sale, running, accepted, opened⟩
      · exact denominated_of_same same (all old there)
      · rw [opened.product, opened.amount]
        rcases aware.denominated secure.1 running with priced | ⟨call, body, rfl, origin, wrong, point⟩
        · exact priced
        · exact absurd ⟨_, call, body, sale, ⟨_, rfl, here⟩, origin, wrong, point, accepted⟩ fair

/-- What a step asks the provider for is stored as a sale. -/
theorem submission_stored (secure : Secure (PosSound args) (Aware args) taken.before)
    (step : Serving args taken.before taken.event taken.after)
    (requested : Requested taken input request) (asked : submission ∈ request.submission) :
    ∃ row ∈ taken.after.store.transactions, row.id = submission.transactionId ∧
      row.productType = submission.productId ∧ row.amount = submission.amount := by
  obtain ⟨slot, same, there⟩ := requested
  obtain ⟨before, event, after⟩ := taken
  simp only at same there step secure ⊢
  subst same
  cases step with
  | act here fresh moved =>
    have one := there.symm.trans here
    cases one
    have aware := secure.2 _ (World.proc_mem here)
    obtain ⟨forth, _⟩ := pos_sales secure.1 aware fresh
    simp only [posServer] at moved
    rw [moved] at forth
    unfold PosRequest.submission at asked
    split at asked
    · rename_i sale running
      unfold CreateSale.submission at asked
      split at asked
      · rename_i processing point
        cases asked
        have opened : processing ∈ SalePoint.transaction sale.point := by
          simp [point, SalePoint.transaction]
        obtain ⟨old, mem, id, product, amount, _⟩ := aware.carried running processing opened
        obtain ⟨row, there, _, _, _, rfl⟩ := forth old mem
        exact ⟨_, there, id, product, amount⟩
      · cases asked
    · cases asked

/-- Every sale ever reserved or submitted costs what its product may exactly when no JSON sale
with another price in its body is reserved. -/
theorem denominations_hold {past : List PosHappened}
    (run : Run OpensShop (Serving args) past w) :
    (∀ taken ∈ past, AtItsPrice taken) ↔ ∀ taken ∈ past, ¬ Undercuts taken := by
  have opening : ∀ w, OpensShop w → AllDenominated w := by
    intro w opens row mem
    rw [opens.1.transactions] at mem
    cases mem
  have always : (∀ taken ∈ past, AllDenominated taken.after) ↔
      ∀ taken ∈ past, ¬ Undercuts taken :=
    run.always_iff opensShop_secure serving_step opening denominated_step
  rw [← always]
  constructor
  · exact fun priced taken mem => (priced taken mem).stored
  · intro priced taken mem
    refine ⟨priced taken mem, ?_⟩
    intro input request requested submission asked
    obtain ⟨secure, step, _⟩ := run.taken opensShop_secure serving_step taken mem
    obtain ⟨row, there, _, product, amount⟩ := submission_stored secure step requested asked
    rw [← product, ← amount]
    exact priced taken mem row there

/-- A JSON sale of a ten birr voucher for ten santim, over money just deposited. -/
def undercut : List (Event Input PosRequest) :=
  let delivered := fun tag => drawing tag .confirmedSuccess .success 0
  [.start (.service (funds "shop")), .act 0 (delivered "a"),
   .start (.postSale
     { deps := optionsFrom training, context := cashier,
       origin := .api ⟨some "NETWORK_A_AIRTIME_1000", some "0911223344", some "request", some 10⟩
       correlationId := "sale", point := .begin }),
   .act 1 (delivered "b"), .act 1 (delivered "c"), .act 1 (delivered "d"), .act 1 (delivered "e"),
   .act 1 (delivered "f"), .act 1 (delivered "g"), .act 1 (delivered "h")]

def undercutRun : List PosHappened × World PosDb PosRequest :=
  played (World.next posServer) undercut [] ⟨counter, []⟩

theorem undercut_run : Run OpensShop (Serving training) undercutRun.1 undercutRun.2 := by
  refine serving_run undercut ?_ (by decide)
  intro request mem pos
  simp only [undercut, List.mem_cons, Event.start.injEq, reduceCtorEq, List.not_mem_nil,
    false_or, or_false] at mem
  rcases mem with rfl | rfl
  · exact ⟨rfl, trivial, by rintro _ ⟨⟩; decide⟩
  · exact ⟨rfl, rfl, by rintro _ ⟨⟩⟩

theorem undercut_stored : ¬ AllDenominated undercutRun.2 := by
  unfold AllDenominated
  decide

/-- The voucher is reserved at the price in the body. -/
theorem undercut_misprices :
    Run OpensShop (Serving training) undercutRun.1 undercutRun.2 ∧
    ¬ ∀ taken ∈ undercutRun.1, AtItsPrice taken :=
  ⟨undercut_run, fun priced => undercut_stored (priced _ (List.mem_cons_self ..)).stored⟩

/-- One step of it reserved a JSON sale with another price. -/
theorem undercut_undercuts : ∃ taken ∈ undercutRun.1, Undercuts taken := by
  by_contra fair
  have priced := (denominations_hold undercut_run).mpr fun taken mem under => fair ⟨taken, mem, under⟩
  exact undercut_stored (priced _ (List.mem_cons_self ..)).stored

end Telga.Proofs
