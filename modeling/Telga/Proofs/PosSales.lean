import Telga.Proofs.PosRuns

namespace Telga.Proofs
open Domain Persistence Application Library

/-- A sale is stored as its call asked for it. -/
structure OpenedBy (sale : CreateSale) (row : TransactionRow) : Prop where
  merchant : row.merchantId = sale.request.merchantId
  product : row.productType = sale.request.productId
  amount : row.amount = sale.request.amount
  masked : row.recipientMasked = sale.recipientMasked
  key : row.idempotencyKey = sale.key

/-- The sales a step leaves are those it found, perhaps in another state, and the one it opens. -/
def Sales (accepted : Prop) (opened : TransactionRow → Prop) (db db' : Db) : Prop :=
  (∀ old ∈ db.transactions, ∃ row ∈ db'.transactions, SameSale old row) ∧
  (∀ row ∈ db'.transactions,
    (∃ old ∈ db.transactions, SameSale old row) ∨ accepted ∧ opened row) ∧
  (accepted → ∃ row ∈ db'.transactions, opened row)

theorem Sales.unopened {opened : TransactionRow → Prop} {db db' : Db}
    (same : db'.transactions = db.transactions)
    (refused : ¬ accepted) : Sales accepted opened db db' := by
  unfold Sales
  rw [same]
  exact ⟨fun old mem => ⟨old, mem, .refl old⟩, fun row mem => .inl ⟨row, mem, .refl row⟩,
    fun accepted => absurd accepted refused⟩

/-- A call of `createSale` opens a sale exactly where its reservation is accepted. -/
theorem createSale_opens {sale : CreateSale} (sound : Sound db) (known : KnownSale db sale)
    (fresh : Fresh input db (.createSale sale)) :
    Sales (Accepted input db sale) (OpenedBy sale) db (sale.step input db).1 := by
  by_cases accepted : Accepted input db sale
  · obtain ⟨point, db', reserved, opened⟩ := accepted
    have worked : openSale sale input db = .ok (db', reserved) := unit_ok opened
    obtain ⟨row, hold, record, context, opening, did, _⟩ := openSale_turn point fresh worked
    have same : (sale.step input db).1 = db' := by simp only [CreateSale.step, point, opened]
    have by' : OpenedBy sale row :=
      ⟨opening.merchant, opening.product, opening.amount, opening.masked, opening.key⟩
    have rows := did.sales
    simp only [Deed.Sales] at rows
    rw [same]
    refine ⟨did.same_sales.1, fun other mem => ?_, fun _ => ⟨row, ?_, by'⟩⟩
    · rw [rows] at mem
      rcases List.mem_append.mp mem with mem | mem
      · exact .inl ⟨other, mem, .refl other⟩
      · cases List.mem_singleton.mp mem
        exact .inr ⟨⟨point, db', reserved, opened⟩, by'⟩
    · rw [rows]
      exact List.mem_append_right _ (List.mem_singleton_self row)
  · have known' : Known db (.createSale sale) := known
    obtain ⟨deed, turn, did, _⟩ := step_acts sound known' fresh
    simp only [Process.step, Prod.map, id] at did
    refine ⟨did.same_sales.1, fun row mem => ?_, fun yes => absurd yes accepted⟩
    rcases did.same_sales.2 row mem with old | ⟨hold, record, context, rfl⟩
    · exact .inl old
    · refine absurd ?_ accepted
      cases turn with
      | opens point opening =>
        refine ⟨point, ?_⟩
        rcases unit_cases input (openSale sale input) db with
          ⟨next, reserved, _, _, worked⟩ | ⟨fault, refused⟩
        · exact ⟨next, reserved, worked⟩
        · have rows := did.sales
          simp only [Deed.Sales, CreateSale.step, point, refused] at rows
          simp at rows

/-- A request that runs a service inside itself does what that service does. -/
theorem process_served (input : Input) (pos : PosDb) {request : PosRequest}
    (running : request.process = some process) :
    (request.step input pos).1 = { pos with toDb := (process.step input pos.toDb).1 } := by
  cases request with
  | service other =>
    cases running
    rfl
  | postSale call =>
    obtain ⟨deps, context, origin, correlationId, point⟩ := call
    cases point with
    | selling sale =>
      cases running
      simp only [PosRequest.step, PostSale.step, Process.step, Prod.map, id]
      split <;> rfl
    | _ => cases running
  | authorizeOrder call =>
    obtain ⟨deps, context, orderId, pin, correlationId, point⟩ := call
    cases point with
    | selling order results sale =>
      cases running
      simp only [PosRequest.step, AuthorizeOrder.step, Process.step, Prod.map, id]
      split <;> rfl
    | _ => cases running
  | _ => cases running

/-- A request that runs no service leaves the sales alone. -/
theorem unserved (input : Input) (pos : PosDb) {request : PosRequest}
    (idle : request.process = none) : (request.step input pos).1.toDb = pos.toDb := by
  have turn := pos_turn input pos request
  generalize (request.step input pos).1 = pos' at turn ⊢
  cases turn with
  | nothing same | attempted same => rw [same]
  | created _ made =>
    obtain ⟨_, _, same⟩ := createPendingOrder_ok made
    rw [same]
  | expired _ same | cancelled _ same | authorized _ _ _ same =>
    rw [same]
    rfl
  | served running same =>
    rw [idle] at running
    cases running

/-- Every sale in the database was there before a step, or the step opened it for the sale its
request runs. -/
theorem pos_sales (sound : PosSound args pos) (aware : Aware args pos request)
    (fresh : PosFresh input pos request) :
    (∀ old ∈ pos.transactions, ∃ row ∈ (request.step input pos).1.transactions,
      SameSale old row) ∧
    (∀ row ∈ (request.step input pos).1.transactions,
      (∃ old ∈ pos.transactions, SameSale old row) ∨
      ∃ sale, request.process = some (.createSale sale) ∧ Accepted input pos.toDb sale ∧
        OpenedBy sale row) ∧
    ∀ sale, request.process = some (.createSale sale) → Accepted input pos.toDb sale →
      ∃ row ∈ (request.step input pos).1.transactions, OpenedBy sale row := by
  cases running : request.process with
  | none =>
    rw [unserved input pos running]
    refine ⟨fun old mem => ⟨old, mem, .refl old⟩, fun row mem => .inl ⟨row, mem, .refl row⟩, ?_⟩
    intro sale other
    cases other
  | some process =>
    have known := aware.known process running
    have fresh := fresh process running
    rw [process_served input pos running]
    by_cases selling : ∃ sale, process = .createSale sale
    · obtain ⟨sale, rfl⟩ := selling
      obtain ⟨forth, back, opens⟩ := createSale_opens sound.sound known fresh
      refine ⟨forth, fun row mem => ?_, ?_⟩
      · rcases back row mem with old | ⟨accepted, opened⟩
        · exact .inl old
        · exact .inr ⟨sale, rfl, accepted, opened⟩
      · intro other same accepted
        cases same
        exact opens accepted
    · obtain ⟨deed, turn, did, _⟩ := step_acts sound.sound known fresh
      refine ⟨did.same_sales.1, fun row mem => ?_, fun sale same => ?_⟩
      · rcases did.same_sales.2 row mem with old | ⟨hold, record, context, rfl⟩
        · exact .inl old
        · cases turn with
          | opens => exact absurd ⟨_, rfl⟩ selling
      · cases same
        exact absurd ⟨_, rfl⟩ selling

end Telga.Proofs
