import Telga.Proofs.CounterTurns
import Telga.Proofs.RequestKeys

namespace Telga.Proofs
open Domain Persistence Application Library

variable {deriveSecret : String → String → StoredSecret}

/-- Submissions of rendered pages, and requests that come from none. -/
def PageServes (pages : Nat → Page) (args : CliArgs)
    (deriveSecret : String → String → StoredSecret) (submission : Submission) : Prop :=
  CounterServes args deriveSecret submission.request ∧
  ∀ rendering ∈ submission.rendering, submission.request.page = some (pages rendering)

def PageFresh (input : PinInput) (pos : PosDb) (submission : Submission) : Prop :=
  CounterFresh input pos submission.request

instance (input : PinInput) (pos : PosDb) (submission : Submission) :
    Decidable (PageFresh input pos submission) :=
  inferInstanceAs (Decidable (CounterFresh input pos submission.request))

/-- Any number of submissions to one counter, interleaved. -/
abbrev PageServing (pages : Nat → Page) (args : CliArgs)
    (deriveSecret : String → String → StoredSecret) :=
  Pool pageServer (fun _ => PageServes pages args deriveSecret) PageFresh

/-- A credit on its way goes to the posting its request names. -/
def Titled : CounterRequest → Prop
  | .postDeposit { body, point := .funding deposit, .. } =>
    deposit.input.postingId = depositPosting body
  | _ => True

/-- What a submission goes on knowing: it was made by submitting its page. -/
def PageAware (pages : Nat → Page) (args : CliArgs) (pos : PosDb) (submission : Submission) :
    Prop :=
  CounterAware args pos submission.request ∧ Titled submission.request ∧
  ∀ rendering ∈ submission.rendering, submission.request.page = some (pages rendering)

abbrev PageSecure (pages : Nat → Page) (args : CliArgs) (w : World PosDb Submission) :=
  Secure (PosSound args) (PageAware pages args) w

section Steps

variable {pages : Nat → Page} {args : CliArgs} {input : PinInput} {pos : PosDb}
  {request : CounterRequest} {page : Page}

/-- Whatever step a request takes, it stays a submission of its page. -/
theorem page_step (input : PinInput) (pos : PosDb) (request : CounterRequest) :
    (request.step input pos).2.page = request.page := by
  cases request with
  | pin request =>
    cases request with
    | pos request =>
      cases request with
      | postSale call =>
        obtain ⟨deps, context, origin, correlationId, point⟩ := call
        cases point with
        | selling sale =>
          simp only [CounterRequest.step, PinRequest.step, PosRequest.step, PostSale.step, Prod.map,
            id]
          split <;> rfl
        | _ =>
          simp only [CounterRequest.step, PinRequest.step, PosRequest.step, PostSale.step, Prod.map,
            id]
          repeat' split
          all_goals rfl
      | authorizeOrder call =>
        obtain ⟨deps, context, orderId, pin, correlationId, point⟩ := call
        cases point with
        | selling order results sale =>
          simp only [CounterRequest.step, PinRequest.step, PosRequest.step, AuthorizeOrder.step,
            Prod.map, id]
          split <;> rfl
        | _ =>
          simp only [CounterRequest.step, PinRequest.step, PosRequest.step, AuthorizeOrder.step,
            Prod.map, id]
          repeat' split
          all_goals rfl
      | _ => rfl
    | changePin call => rfl
    | unlockWithPin call => rfl
  | postDeposit call =>
    obtain ⟨deps, context, body, point⟩ := call
    cases point with
    | funding deposit =>
      simp only [CounterRequest.step, PostDeposit.step, Prod.map, id]
      split <;> rfl
    | _ =>
      simp only [CounterRequest.step, PostDeposit.step, Prod.map, id]
      repeat' split
      all_goals rfl
  | postProfitTransfer call =>
    obtain ⟨deps, context, amountMinor, correlationId, point⟩ := call
    cases point with
    | transferring transfer =>
      simp only [CounterRequest.step, PostProfitTransfer.step, Prod.map, id]
      split <;> rfl
    | _ =>
      simp only [CounterRequest.step, PostProfitTransfer.step, Prod.map, id]
      repeat' split
      all_goals rfl
  | postShopTransfer call =>
    obtain ⟨deps, context, body, point⟩ := call
    cases point with
    | settling transfer =>
      simp only [CounterRequest.step, PostShopTransfer.step, Prod.map, id]
      split <;> rfl
    | _ =>
      simp only [CounterRequest.step, PostShopTransfer.step, Prod.map, id]
      repeat' split
      all_goals rfl

theorem deposit_input (input : Input) (db : Db) (deposit : Deposit) :
    (deposit.step input db).2.input = deposit.input := by
  cases point : deposit.point with
  | begin =>
    simp only [Deposit.step, point]
    split <;> rfl
  | _ => simp only [Deposit.step, point]

theorem postDeposit_titled {call : PostDeposit} {input : Input}
    (titled : Titled (.postDeposit call)) (moved : call.step input pos = (pos', call')) :
    Titled (.postDeposit call') := by
  obtain ⟨deps, context, body, point⟩ := call
  cases point with
  | funding deposit =>
    have titled : deposit.input.postingId = depositPosting body := titled
    simp only [PostDeposit.step] at moved
    split at moved
    · cases moved
      exact (congrArg MovementInput.postingId (deposit_input ..)).trans titled
    · cases moved
      trivial
    · cases moved
      trivial
  | checking amount now =>
    simp only [PostDeposit.step] at moved
    split at moved
    · cases moved
      trivial
    · cases moved
      rfl
  | _ =>
    simp only [PostDeposit.step] at moved
    repeat' split at moved
    all_goals
      cases moved
      trivial

/-- A credit stays on its way to the posting its request names. -/
theorem titled_step (titled : Titled request) : Titled (request.step input pos).2 := by
  cases request with
  | pin request => cases request <;> trivial
  | postDeposit call => exact postDeposit_titled titled rfl
  | postProfitTransfer call | postShopTransfer call => trivial

/-- The sale a request is making, if it is making one. -/
def saleOf (request : CounterRequest) : Option CreateSale :=
  (CounterRequest.asPos request).bind fun own =>
    match own.process with
    | some (.createSale sale) => some sale
    | _ => none

theorem saleOf_some (making : saleOf request = some sale) :
    ∃ own, CounterRequest.asPos request = some own ∧ own.process = some (.createSale sale) := by
  obtain ⟨own, stands, making⟩ := Option.bind_eq_some_iff.mp making
  refine ⟨own, stands, ?_⟩
  split at making
  · rename_i running
    cases making
    exact running
  · cases making

theorem saleOf_running (stands : CounterRequest.asPos request = some own)
    (running : own.process = some (.createSale sale)) : saleOf request = some sale := by
  simp only [saleOf, stands, Option.bind_some, running]

theorem deposit_sells (call : PostDeposit) : saleOf (.postDeposit call) = none := by
  obtain ⟨deps, context, body, point⟩ := call
  cases point <;> rfl

theorem profit_sells (call : PostProfitTransfer) : saleOf (.postProfitTransfer call) = none := by
  obtain ⟨deps, context, amountMinor, correlationId, point⟩ := call
  cases point <;> rfl

theorem transfer_sells (call : PostShopTransfer) : saleOf (.postShopTransfer call) = none := by
  obtain ⟨deps, context, body, point⟩ := call
  cases point <;> rfl

/-- The sale an authorization is on to after a voucher has not been begun. -/
theorem onward_begins {call : AuthorizeOrder}
    (running : PosRequest.process (.authorizeOrder (call.at (call.onward order results))) =
      some (.createSale sale)) : sale.point = .begin := by
  by_cases more : results.length < order.quantity
  · cases priced : money order.amountMinor with
    | ok amount =>
      simp only [AuthorizeOrder.at, AuthorizeOrder.onward, if_pos more, priced] at running
      cases running
      rfl
    | error fault =>
      simp only [AuthorizeOrder.at, AuthorizeOrder.onward, if_pos more, priced] at running
      cases running
  · simp only [AuthorizeOrder.at, AuthorizeOrder.onward, if_neg more] at running
    cases running

theorem postSale_came {call : PostSale} {input : Input}
    (moved : call.step input pos = (pos', call'))
    (running : PosRequest.process (.postSale call') = some (.createSale sale')) :
    sale'.point = .begin ∨
    ∃ sale, PosRequest.process (.postSale call) = some (.createSale sale) ∧
      (sale.step input pos.toDb).2 = sale' := by
  obtain ⟨deps, context, origin, correlationId, point⟩ := call
  cases point with
  | selling sale =>
    simp only [PostSale.step] at moved
    split at moved
    · cases moved
      cases running
    · cases moved
      cases running
    · cases moved
      cases running
      exact .inr ⟨sale, rfl, rfl⟩
  | recording request =>
    simp only [PostSale.step] at moved
    split at moved
    · cases moved
      cases running
      exact .inl rfl
    · cases moved
      cases running
  | _ =>
    simp only [PostSale.step] at moved
    repeat' split at moved
    all_goals
      cases moved
      cases running

theorem authorizeOrder_came {call : AuthorizeOrder} {input : Input}
    (moved : call.step input pos = (pos', call'))
    (running : PosRequest.process (.authorizeOrder call') = some (.createSale sale')) :
    sale'.point = .begin ∨
    ∃ sale, PosRequest.process (.authorizeOrder call) = some (.createSale sale) ∧
      (sale.step input pos.toDb).2 = sale' := by
  obtain ⟨deps, context, orderId, pin, correlationId, point⟩ := call
  cases point with
  | selling order results sale =>
    simp only [AuthorizeOrder.step] at moved
    split at moved
    · cases moved
      exact .inl (onward_begins running)
    · cases moved
      cases running
    · cases moved
      cases running
      exact .inr ⟨sale, rfl, rfl⟩
  | accepting order now =>
    simp only [AuthorizeOrder.step] at moved
    split at moved
    · cases moved
      exact .inl (onward_begins running)
    · cases moved
      cases running
  | _ =>
    simp only [AuthorizeOrder.step] at moved
    repeat' split at moved
    all_goals
      cases moved
      cases running

/-- The sale a request is making has not begun, or the step before was one of its steps. -/
theorem sale_came (aware : CounterAware args pos request)
    (making : saleOf (request.step input pos).2 = some sale') :
    sale'.point = .begin ∨
    ∃ sale, saleOf request = some sale ∧ (sale.step input.toInput pos.toDb).2 = sale' := by
  obtain ⟨own', stands, running⟩ := saleOf_some making
  cases request with
  | pin request =>
    cases request with
    | pos request =>
      cases stands
      cases request with
      | service process =>
        have same : (process.step input.toInput pos.toDb).2 = .createSale sale' :=
          Option.some.inj running
        have service := Process.step_service input.toInput pos.toDb process
        rw [same] at service
        exact absurd service.symm (aware _ rfl).1
      | postSale call =>
        have came := postSale_came (rfl : call.step input.toInput pos = _) running
        rcases came with begins | ⟨sale, before, same⟩
        · exact .inl begins
        · exact .inr ⟨sale, saleOf_running rfl before, same⟩
      | authorizeOrder call =>
        have came := authorizeOrder_came (rfl : call.step input.toInput pos = _) running
        rcases came with begins | ⟨sale, before, same⟩
        · exact .inl begins
        · exact .inr ⟨sale, saleOf_running rfl before, same⟩
      | _ => cases running
    | changePin call => cases stands
    | unlockWithPin call => cases stands
  | postDeposit call => cases (deposit_sells _).symm.trans making
  | postProfitTransfer call => cases (profit_sells _).symm.trans making
  | postShopTransfer call => cases (transfer_sells _).symm.trans making

/-- Nothing is taken out of the ledger. -/
theorem counter_ledger (sound : PosSound args pos) (aware : CounterAware args pos request)
    (fresh : CounterFresh input pos request) :
    ∃ rows, (request.step input pos).1.ledgerEntries = pos.ledgerEntries ++ rows := by
  cases stands : CounterRequest.asPos request with
  | none =>
    obtain ⟨shops, _⟩ := Prod.mk.inj (counter_idle input pos stands)
    rw [shops]
    exact ⟨[], (List.append_nil _).symm⟩
  | some own =>
    rw [counter_store stands]
    cases running : own.process with
    | none =>
      rw [unserved input.toInput pos running]
      exact ⟨[], (List.append_nil _).symm⟩
    | some process =>
      obtain ⟨deed, _, did⟩ := served_deed sound (aware own stands) (fresh own stands) running
      obtain ⟨posting, accounts, _, entries⟩ := did.ledger
      rw [process_served input.toInput pos running]
      exact ⟨_, entries⟩

/-- A step adds the record of the sale it opens, or no record. -/
theorem counter_records (sound : PosSound args pos) (aware : CounterAware args pos request)
    (fresh : CounterFresh input pos request) :
    ((∀ sale, saleOf request = some sale → ¬ Accepted input.toInput pos.toDb sale) ∧
      Answered pos.idempotencyRecords (request.step input pos).1.idempotencyRecords) ∨
    ∃ own sale record, saleOf request = some sale ∧
      Adds input.toInput pos (request.step input pos).1 own sale record := by
  cases stands : CounterRequest.asPos request with
  | none =>
    obtain ⟨shops, _⟩ := Prod.mk.inj (counter_idle input pos stands)
    refine .inl ⟨fun sale making => ?_, ?_⟩
    · obtain ⟨own, standing, _⟩ := saleOf_some making
      rw [stands] at standing
      cases standing
    · rw [shops]
      exact answered_refl _
  | some own =>
    rw [counter_store stands]
    rcases pos_records sound (aware own stands) (fresh own stands) with
      ⟨refused, answered⟩ | ⟨sale, record, adds⟩
    · refine .inl ⟨fun sale making => ?_, answered⟩
      obtain ⟨other, standing, running⟩ := saleOf_some making
      cases stands.symm.trans standing
      exact refused sale running
    · exact .inr ⟨own, sale, record, saleOf_running stands adds.running, adds⟩

end Steps

/-- Before anything was sold or submitted. -/
abbrev PageRun (pages : Nat → Page) (args : CliArgs)
    (deriveSecret : String → String → StoredSecret) :=
  Run OpensCounter (PageServing pages args deriveSecret)

theorem page_secure_step (w : World PosDb Submission) (event : Event PinInput Submission)
    (w' : World PosDb Submission) (secure : PageSecure pages args w)
    (step : PageServing pages args deriveSecret w event w') : PageSecure pages args w' := by
  have enter : ∀ pos submission, PosSound args pos → PageServes pages args deriveSecret submission →
      PageAware pages args pos submission := by
    intro pos submission _ serves
    refine ⟨counter_aware_start serves.1, ?_, serves.2⟩
    obtain ⟨rendering, request⟩ := submission
    cases request with
    | postDeposit call =>
      obtain ⟨deps, context, body, point⟩ := call
      cases point with
      | begin => trivial
      | _ => cases serves.1.1
    | _ => trivial
  have acts : ∀ input pos submission, PosSound args pos → PageAware pages args pos submission →
      PageFresh input pos submission →
      PosSound args (pageServer.advance input pos submission).1 ∧
      PageAware pages args (pageServer.advance input pos submission).1
        (pageServer.advance input pos submission).2 ∧
      Beside pos (pageServer.advance input pos submission).1 := by
    intro input pos submission sound aware fresh
    obtain ⟨aware, titled, submits⟩ := aware
    refine ⟨counter_sound_step sound aware fresh,
      ⟨counter_aware_step sound aware fresh, titled_step titled, fun rendering mem => ?_⟩,
      counter_beside_step sound aware fresh⟩
    exact (page_step input pos submission.request).trans (submits rendering mem)
  have beside : ∀ pos pos' submission, PosSound args pos → PageAware pages args pos submission →
      Beside pos pos' → PageAware pages args pos' submission := by
    intro pos pos' submission _ aware beside
    exact ⟨aware.1.beside beside, aware.2⟩
  exact Secure.step enter acts beside w event w' secure step

theorem opensPage_secure (w : World PosDb Submission) (opens : OpensCounter w) :
    PageSecure pages args w := by
  refine ⟨opensCounter_sound opens, fun submission mem => ?_⟩
  rw [opens.2.2] at mem
  cases mem

end Telga.Proofs
