import Telga.Application.PosRequests
import Telga.Proofs.Arrivals

namespace Telga.Proofs
open Domain Persistence Application Library

/-- A sale as it was stored before: another state, perhaps, but the same sale. -/
def SameSale (old row : TransactionRow) : Prop :=
  ∃ state providerReference updatedAt, row = { old with state, providerReference, updatedAt }

theorem SameSale.refl (row : TransactionRow) : SameSale row row :=
  ⟨row.state, row.providerReference, row.updatedAt, rfl⟩

theorem Restated.same_sale (restated : Restated t state rows after) :
    (∀ old ∈ rows, ∃ row ∈ after, SameSale old row) ∧
    ∀ row ∈ after, ∃ old ∈ rows, SameSale old row := by
  obtain ⟨change, restates, rfl⟩ := restated
  have same : ∀ old : TransactionRow,
      SameSale old (if decide (old.id = t) then change old else old) := by
    intro old
    obtain ⟨reference, now, eq⟩ := restates old
    split
    · rw [eq]
      exact ⟨state, reference, now, rfl⟩
    · exact .refl old
  refine ⟨fun old mem => ⟨_, update_mem _ change mem, same old⟩, fun row mem => ?_⟩
  obtain ⟨old, there, rfl⟩ := mem_update.mp mem
  exact ⟨old, there, same old⟩

/-- No deed removes a sale, and the only sale one adds is the one it opens. -/
theorem Did.same_sales (did : Did deed db db') :
    (∀ old ∈ db.transactions, ∃ row ∈ db'.transactions, SameSale old row) ∧
    ∀ row ∈ db'.transactions, (∃ old ∈ db.transactions, SameSale old row) ∨
      ∃ hold record context, deed = .opened row hold record context := by
  have restates : ∀ {t state}, Restated t state db.transactions db'.transactions →
      (∀ old ∈ db.transactions, ∃ row ∈ db'.transactions, SameSale old row) ∧
      ∀ row ∈ db'.transactions, (∃ old ∈ db.transactions, SameSale old row) ∨
        ∃ hold record context, deed = .opened row hold record context :=
    fun restated => ⟨restated.same_sale.1, fun row mem => .inl (restated.same_sale.2 row mem)⟩
  have sales := did.sales
  cases deed with
  | opened row hold record context =>
    simp only [Deed.Sales] at sales
    rw [sales]
    refine ⟨fun old mem => ⟨old, List.mem_append_left _ mem, .refl old⟩, fun other mem => ?_⟩
    rcases List.mem_append.mp mem with mem | mem
    · exact .inl ⟨other, mem, .refl other⟩
    · cases List.mem_singleton.mp mem
      exact .inr ⟨hold, record, context, rfl⟩
  | marked given state | moved state disposal context commission | reversed id movement given =>
    exact restates sales
  | _ =>
    simp only [Deed.Sales] at sales
    rw [sales]
    exact ⟨fun old mem => ⟨old, mem, .refl old⟩, fun row mem => .inl ⟨row, mem, .refl row⟩⟩

/-- The sale a call opened is stored with what the call's request says. -/
def Carried (db : Db) (sale : CreateSale) : Prop :=
  ∀ transaction ∈ SalePoint.transaction sale.point, ∃ row ∈ db.transactions,
    row.id = transaction.id ∧ row.productType = sale.request.productId ∧
    row.amount = sale.request.amount ∧ row.recipientMasked = sale.recipientMasked

theorem Carried.did (carried : Carried db sale) (did : Did deed db db') : Carried db' sale := by
  intro transaction opened
  obtain ⟨old, mem, facts⟩ := carried transaction opened
  obtain ⟨row, there, _, _, _, rfl⟩ := did.same_sales.1 old mem
  exact ⟨_, there, facts⟩

theorem carried_starting (start : sale.point = .begin) : Carried db sale := by
  intro transaction opened
  simp [start, SalePoint.transaction] at opened

/-- A call of `createSale` goes on carrying the sale it opens. -/
theorem carried_step (sound : Sound db) (known : Known db (.createSale sale))
    (fresh : Fresh input db (.createSale sale)) (carried : Carried db sale)
    (moved : sale.step input db = (db', sale')) : Carried db' sale' := by
  obtain ⟨same, came⟩ := createSale_came moved
  obtain ⟨deed, turn, did, _⟩ := step_acts sound known fresh
  have did : Did deed db db' := by
    simpa only [Process.step, moved, Prod.map, id] using did
  have later := carried.did did
  have request : sale'.request = sale.request := congrArg SaleCall.request same
  have masked : sale'.recipientMasked = sale.recipientMasked := by rw [same]
  intro transaction opened
  rw [request, masked]
  cases point : sale'.point with
  | submitting reserved =>
    simp only [point, SaleCame] at came
    simp only [point, SalePoint.transaction, Option.mem_def, Option.some.injEq] at opened
    subst opened
    obtain ⟨here, went⟩ := came
    obtain ⟨row, hold, record, context, opening, did, id, _⟩ := openSale_turn here fresh went
    refine ⟨row, ?_, id, opening.product, opening.amount, opening.masked⟩
    rw [did.sales]
    exact List.mem_append_right _ (List.mem_singleton_self row)
  | awaiting processing =>
    simp only [point, SaleCame] at came
    simp only [point, SalePoint.transaction, Option.mem_def, Option.some.injEq] at opened
    subst opened
    obtain ⟨reserved, here, marked⟩ := came
    simp only [Known, KnownSale, here] at known
    obtain ⟨_, _, id, _⟩ := markProcessing_turn here known.1 marked
    obtain ⟨row, mem, facts⟩ := later reserved (by simp [here, SalePoint.transaction])
    exact ⟨row, mem, facts.1.trans id.symm, facts.2⟩
  | applying processing submitted | releasing processing =>
    simp only [point, SaleCame] at came
    simp only [point, SalePoint.transaction, Option.mem_def, Option.some.injEq] at opened
    subst opened
    exact later processing (by simp [came.1, SalePoint.transaction])
  | _ => simp [point, SalePoint.transaction] at opened

/-- A unit of work that went through did its work; one that threw left everything. -/
theorem posUnit_cases (input : Input) (work : PosDb → Except Fault (PosDb × α)) (pos : PosDb) :
    (∃ next answer, input.busy = false ∧ work pos = .ok (next, answer) ∧
      posUnit input work pos = (next, .ok answer)) ∨
    (∃ fault, posUnit input work pos = (pos, .error fault)) := by
  unfold posUnit
  rcases commit_cases (fun pos => do
      demand (input.busy = false) .busy
      work pos) pos with ⟨next, answer, done, same⟩ | ⟨fault, _, same⟩
  · simp only [bind_ok, demand_ok] at done
    obtain ⟨_, free, done⟩ := done
    exact .inl ⟨next, answer, free, done, same⟩
  · exact .inr ⟨fault, same⟩

/-- Nothing in a unit of work whose work goes through throws unless the database is busy. -/
theorem posUnit_free (free : input.busy = false) (worked : work pos = .ok (pos', answer)) :
    posUnit input work pos = (pos', .ok answer) := by
  rcases posUnit_cases input work pos with ⟨next, told, _, done, same⟩ | ⟨fault, same⟩
  · rw [worked] at done
    cases done
    exact same
  · simp [posUnit, commit, demand, free, worked, bind, Except.bind] at same

theorem expiring_cases (input : Input) (orderId : String) (pos : PosDb) :
    expiring input orderId pos = (expireIfDue pos orderId (input.now 0), .ok ()) ∨
    ∃ fault, expiring input orderId pos = (pos, .error fault) := by
  unfold expiring
  rcases posUnit_cases input (fun pos => .ok (expireIfDue pos orderId (input.now 0), ())) pos with
    ⟨next, answer, _, done, same⟩ | ⟨fault, same⟩
  · cases done
    exact .inl same
  · exact .inr ⟨fault, same⟩

/-- The order a request expires first, if it is due. -/
def PosRequest.expires : PosRequest → Option String
  | .getOrder { point := .begin, orderId, .. } => some orderId
  | .cancelOrder { point := .begin, orderId, .. } => some orderId
  | .authorizeOrder { point := .begin, orderId, .. } => some orderId
  | _ => none

/-- What a step of a request writes, and which request at which point writes it: nothing of the
ledger's, or what the service running inside it writes, which is nothing of the orders'. -/
inductive PosTurn (input : Input) (pos pos' : PosDb) : PosRequest → Prop
  | nothing : pos' = pos → PosTurn input pos pos' request
  | attempted : pos' = { pos with authAttempts } → PosTurn input pos pos' request
  | created : call.point = .creating product amountMinor quantity supplied →
      createPendingOrder pos (call.order product amountMinor quantity supplied input) =
        .ok (pos', order) →
      PosTurn input pos pos' (.postOrder call)
  | expired : PosRequest.expires request = some orderId →
      pos' = expireIfDue pos orderId (input.now 0) → PosTurn input pos pos' request
  | cancelled : call.point = .cancelling → pos' = (cancelPendingOrder pos call.orderId).1 →
      PosTurn input pos pos' (.cancelOrder call)
  | authorized : call.point = .claiming order (result :: results) →
      result.claimed = some transactionId → input.busy = false →
      pos' = (authorizePendingOrder pos call.orderId transactionId).1 →
      PosTurn input pos pos' (.authorizeOrder call)
  | served : request.process = some process →
      pos' = { pos with toDb := (process.step input pos.toDb).1 } →
      PosTurn input pos pos' request

section Turns

variable {input : Input} {pos pos' : PosDb}

theorem postSale_turn {call : PostSale} (moved : call.step input pos = (pos', call')) :
    PosTurn input pos pos' (.postSale call) := by
  cases point : call.point with
  | begin =>
    simp only [PostSale.step, point] at moved
    repeat' split at moved
    all_goals
      cases moved
      exact .nothing rfl
  | recording request =>
    simp only [PostSale.step, point] at moved
    rcases posUnit_cases input (fun pos => .ok
        (recordAttempt pos .sale call.context.sessionId .success (input.now 0), ())) pos with
      ⟨next, answer, _, done, same⟩ | ⟨fault, same⟩
    all_goals
      rw [same] at moved
      cases moved
    · cases done
      exact .attempted rfl
    · exact .nothing rfl
  | selling sale =>
    simp only [PostSale.step, point] at moved
    cases went : sale.step input pos.toDb with
    | mk db sale' =>
      simp only [went] at moved
      have written : pos' = { pos with toDb := db } := by
        split at moved
        all_goals
          cases moved
          rfl
      obtain ⟨deps, context, origin, correlationId, _⟩ := call
      cases point
      exact .served (rfl : _ = some (Process.createSale sale))
        (by simpa only [Process.step, went, Prod.map, id] using written)
  | refused code | returned result | threw fault =>
    simp only [PostSale.step, point] at moved
    cases moved
    exact .nothing rfl

theorem postOrder_turn {call : CreatePendingOrder} (moved : call.step input pos = (pos', call')) :
    PosTurn input pos pos' (.postOrder call) := by
  cases point : call.point with
  | creating product amountMinor quantity supplied =>
    simp only [CreatePendingOrder.step, point] at moved
    rcases posUnit_cases input (fun pos => createPendingOrder pos
        (call.order product amountMinor quantity supplied input)) pos with
      ⟨next, order, _, done, same⟩ | ⟨fault, same⟩
    all_goals
      rw [same] at moved
      cases moved
    · exact .created point done
    · exact .nothing rfl
  | _ =>
    simp only [CreatePendingOrder.step, point] at moved
    cases moved
    exact .nothing rfl

theorem getOrder_turn {call : GetOrder} (moved : call.step input pos = (pos', call')) :
    PosTurn input pos pos' (.getOrder call) := by
  obtain ⟨context, orderId, point⟩ := call
  cases point with
  | begin =>
    simp only [GetOrder.step] at moved
    rcases expiring_cases input orderId pos with same | ⟨fault, same⟩
    all_goals
      rw [same] at moved
      cases moved
    · exact .expired rfl rfl
    · exact .nothing rfl
  | _ =>
    simp only [GetOrder.step] at moved
    cases moved
    exact .nothing rfl

theorem cancelOrder_turn {call : CancelOrder} (moved : call.step input pos = (pos', call')) :
    PosTurn input pos pos' (.cancelOrder call) := by
  obtain ⟨context, orderId, point⟩ := call
  cases point with
  | begin =>
    simp only [CancelOrder.step] at moved
    rcases expiring_cases input orderId pos with same | ⟨fault, same⟩
    all_goals
      rw [same] at moved
      cases moved
    · exact .expired rfl rfl
    · exact .nothing rfl
  | finding =>
    simp only [CancelOrder.step] at moved
    split at moved
    all_goals
      cases moved
      exact .nothing rfl
  | cancelling =>
    simp only [CancelOrder.step] at moved
    rcases posUnit_cases input (fun pos => .ok (cancelPendingOrder pos orderId)) pos with
      ⟨next, changed, _, done, same⟩ | ⟨fault, same⟩
    all_goals
      rw [same] at moved
      cases moved
    · cases done
      exact .cancelled rfl rfl
    · exact .nothing rfl
  | _ =>
    simp only [CancelOrder.step] at moved
    cases moved
    exact .nothing rfl

theorem authorizeOrder_turn {call : AuthorizeOrder} (moved : call.step input pos = (pos', call')) :
    PosTurn input pos pos' (.authorizeOrder call) := by
  obtain ⟨deps, context, orderId, pin, correlationId, point⟩ := call
  cases point with
  | begin =>
    simp only [AuthorizeOrder.step] at moved
    split at moved
    · cases moved
      exact .nothing rfl
    · rcases expiring_cases input orderId pos with same | ⟨fault, same⟩
      all_goals
        rw [same] at moved
        cases moved
      · exact .expired rfl rfl
      · exact .nothing rfl
  | refusing now =>
    simp only [AuthorizeOrder.step] at moved
    rcases posUnit_cases input (fun pos => .ok
        (recordAttempt pos .pinAuth context.userId .failure now, ())) pos with
      ⟨next, answer, _, done, same⟩ | ⟨fault, same⟩
    all_goals
      rw [same] at moved
      cases moved
    · cases done
      exact .attempted rfl
    · exact .nothing rfl
  | accepting order now =>
    simp only [AuthorizeOrder.step] at moved
    rcases posUnit_cases input (fun pos => .ok
        (recordAttempt pos .pinAuth context.userId .success now, ())) pos with
      ⟨next, answer, _, done, same⟩ | ⟨fault, same⟩
    all_goals
      rw [same] at moved
      cases moved
    · cases done
      exact .attempted rfl
    · exact .nothing rfl
  | selling order results sale =>
    simp only [AuthorizeOrder.step] at moved
    cases went : sale.step input pos.toDb with
    | mk db sale' =>
      simp only [went] at moved
      have written : pos' = { pos with toDb := db } := by
        split at moved
        all_goals
          cases moved
          rfl
      exact .served (rfl : _ = some (Process.createSale sale))
        (by simpa only [Process.step, went, Prod.map, id] using written)
  | claiming order results =>
    cases results with
    | nil =>
      simp only [AuthorizeOrder.step] at moved
      cases moved
      exact .nothing rfl
    | cons result results =>
      simp only [AuthorizeOrder.step] at moved
      split at moved
      · cases moved
        exact .nothing rfl
      · rename_i transactionId claimed
        rcases posUnit_cases input (fun pos => .ok
            (authorizePendingOrder pos orderId transactionId)) pos with
          ⟨next, changed, free, done, same⟩ | ⟨fault, same⟩
        all_goals
          rw [same] at moved
          cases moved
        · cases done
          exact .authorized rfl claimed free rfl
        · exact .nothing rfl
  | _ =>
    simp only [AuthorizeOrder.step] at moved
    repeat' split at moved
    all_goals
      cases moved
      exact .nothing rfl

theorem pos_turn (input : Input) (pos : PosDb) (request : PosRequest) :
    PosTurn input pos (request.step input pos).1 request := by
  cases request with
  | service process => exact .served rfl rfl
  | postSale call => exact postSale_turn rfl
  | postOrder call => exact postOrder_turn rfl
  | getOrder call => exact getOrder_turn rfl
  | cancelOrder call => exact cancelOrder_turn rfl
  | authorizeOrder call => exact authorizeOrder_turn rfl

end Turns

end Telga.Proofs
