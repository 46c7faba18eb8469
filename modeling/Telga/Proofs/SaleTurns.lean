import Telga.Proofs.Turns

namespace Telga.Proofs
open Domain Persistence Application Library

/-- Whatever is done, a sale that is stored stays stored, for the same merchant and amount. -/
theorem Did.sold (did : Did deed db db') (sold : Sold db transactionId merchantId amount) :
    Sold db' transactionId merchantId amount := by
  have same : db'.transactions = db.transactions → Sold db' transactionId merchantId amount := by
    intro eq
    unfold Sold
    rw [eq]
    exact sold
  have sales := did.sales
  cases deed with
  | opened row hold record context =>
    obtain ⟨old, mem, facts⟩ := sold
    refine ⟨old, ?_, facts⟩
    rw [sales]
    exact List.mem_append_left _ mem
  | marked | moved | reversed => exact sold_of_restated sales sold
  | _ => exact same sales

/-- Saving a sale that is stored restates it. -/
theorem saveTransaction_restates (h : saveTransaction db input = .ok db')
    (present : Present (·.id) input.transaction.id db.transactions) :
    db' = { db with
      transactions := update (fun row => row.id = input.transaction.id)
        (overwrite input.transaction) db.transactions } := by
  rcases (saveTransaction_ok h).2 with ⟨_, eq⟩ | ⟨absent, _⟩
  · exact eq
  · exact absurd present absent

theorem named_append {accounts rows : List LedgerAccountRow} (named : ∀ row ∈ rows, Named row) :
    ∀ account ∈ accounts ++ rows, account ∈ accounts ∨ Named account := by
  intro account mem
  rcases List.mem_append.mp mem with mem | mem
  · exact .inl mem
  · exact .inr (named account mem)

/-- Moving a sale's value on moves its one reservation and posts its legs. -/
theorem moveValue_moved (disposal : Disposal)
    (h : moveValue disposal.origin disposal.target (disposal.legs context) action entityType db
      context = .ok db')
    (unique : Unique (·.id) db.balanceReservations) :
    ∃ reservations audits, Moved disposal context db.balanceReservations reservations ∧
      (∀ leg ∈ disposal.legs context, 0 < leg.amount.minor) ∧
      db' = { db with
        balanceReservations := reservations
        ledgerEntries := db.ledgerEntries ++
          entryRows (postingFor context (disposal.legs context)) db.ledgerAccounts 0
            (disposal.legs context)
        auditEvents := audits } := by
  obtain ⟨row, hit, audits, found, _, mem, same, status, positive, eq⟩ := moveValue_ok h
  obtain ⟨stored, sale, merchant⟩ := findReservation_ok found
  have one : hit = row := unique.eq mem stored same
  refine ⟨_, audits, ⟨row, context.now, stored, sale, merchant, ?_, rfl⟩, positive, eq⟩
  rw [← one]
  exact status

/-- Saving a sale again right after it was added overwrites that one row. -/
theorem saveTransaction_last (h : saveTransaction db input = .ok db')
    (rows : db.transactions = old ++ [row]) (same : row.id = input.transaction.id)
    (absent : ¬ Present (·.id) input.transaction.id old) :
    db' = { db with transactions := old ++ [overwrite input.transaction row] } := by
  have stored : row ∈ db.transactions := by simp [rows]
  have eq := saveTransaction_restates h ⟨row, stored, same⟩
  rw [eq, rows, update_last]
  · intro other mem
    exact decide_eq_false fun hit => absent ⟨other, mem, hit⟩
  · exact decide_eq_true same

/-- The first unit of work opens the sale with rows that are all new. -/
theorem openSale_turn (point : sale.point = .reserving)
    (fresh : Fresh input db (.createSale sale)) (h : openSale sale input db = .ok (db', reserved)) :
    ∃ row hold record context, Opening db sale row hold record context ∧
      Did (.opened row hold record context) db db' ∧ row.id = reserved.id ∧
      Remembered db' sale.toSaleCall reserved ∧ reserved.state = .reserved := by
  obtain ⟨absent, holdAbsent⟩ := fresh point
  simp only [openSale, createTransaction, assertSimulated, bind_ok, demand_ok, pure_ok,
    Prod.mk.injEq] at h
  obtain ⟨created, ⟨_, _, _, _, made⟩, _, _, first, saved, second, audited, validated, validates,
    third, rewritten, fourth, held, known, reserves, fifth, again, sixth, audited', last, recorded,
    rfl, rfl⟩ := h
  have id : created.id = input.newId 0 := by rw [← made]
  have merchant : created.merchantId = sale.request.merchantId := by rw [← made]
  have amount : created.amount = sale.request.amount := by rw [← made]
  have product : created.productId = sale.request.productId := by rw [← made]
  have key : created.idempotencyKey = sale.key := by rw [← made]
  have reference : created.providerReference = none := by rw [← made]
  obtain ⟨_, validatedEq⟩ := transitionTo_ok validates
  obtain ⟨_, reservedEq⟩ := transitionTo_ok reserves
  have validatedId : validated.id = created.id := by rw [validatedEq]
  have knownId : known.id = created.id := by rw [reservedEq, validatedId]
  have knownReference : known.providerReference = none := by
    rw [reservedEq, validatedEq]
    simp [reference]
  have fresh : ¬ Present (·.id) created.id db.transactions := id ▸ absent
  rcases (saveTransaction_ok saved).2 with ⟨stored, _⟩ | ⟨_, unused, _, _, firstEq⟩
  · exact absurd stored fresh
  obtain ⟨audits, secondEq⟩ := saveAudit_ok audited
  have thirdEq := saveTransaction_last rewritten (by rw [secondEq, firstEq]) validatedId.symm
    (validatedId ▸ fresh)
  obtain ⟨rows, reservations, audits', named, positive, covered, _, saves, fourthEq⟩ :=
    reserve_ok held
  have fifthEq := saveTransaction_last again (by rw [fourthEq, thirdEq]) knownId.symm
    (knownId ▸ fresh)
  obtain ⟨audits'', sixthEq⟩ := saveAudit_ok audited'
  obtain ⟨unrecorded, lastEq⟩ := saveIdempotencyRecord_ok recorded
  subst firstEq secondEq thirdEq fourthEq fifthEq sixthEq lastEq
  rcases saves with ⟨found, _⟩ | ⟨holdFresh, unheld, rfl⟩
  · exact absurd found holdAbsent
  let row := overwrite known (overwrite validated
    (transactionRow ⟨created, created.productId, sale.recipientMasked, sale.fingerprint⟩))
  let context := sale.operation (input.newId 0) (input.now 3) (input.newId 2) (input.newId 3)
  have opening : Opening db sale row
      (reservationRow (holdFor context (some (input.newId 4))) sale.correlationId)
      { key := sale.key, merchantId := sale.request.merchantId,
        requestIdentity := canonicalKeySource sale.intent,
        payloadFingerprint := sale.fingerprint, transactionId := input.newId 0,
        resultState := none, updatedAt := input.now 6 } context :=
    { absent := fresh
      unused := unused
      state := by simp [row, overwrite, reservedEq]
      reference := knownReference
      merchant := merchant
      amount := amount
      product := product
      masked := rfl
      key := key
      fingerprint := rfl
      operation := ⟨id.symm, merchant.symm, amount.symm⟩
      holding := ⟨id.symm, merchant.symm, amount.symm, rfl⟩
      holdAbsent := holdAbsent
      unheld := by
        rw [show row.id = input.newId 0 from id]
        exact unheld
      covered := by
        rw [show row.merchantId = sale.request.merchantId from merchant,
          show row.amount = sale.request.amount from amount]
        exact covered
      recorded := ⟨rfl, rfl, rfl, id.symm⟩
      unrecorded := unrecorded }
  refine ⟨row, _, _, context, opening, ?_, knownId.symm, ?_, ?_⟩
  · exact
      { sales := rfl
        holds := rfl
        ledger := ⟨postingFor context (holdLegs context), db.ledgerAccounts ++ rows,
          named_append named, rfl⟩
        accounts := named_append named
        positive := by
          intro leg mem
          rcases List.mem_cons.mp mem with rfl | mem
          · exact positive
          · rw [List.mem_singleton.mp mem]
            exact positive
        commissions := (List.append_nil _).symm
        records := rfl
        requests := rfl
        transfers := rfl
        shops := ⟨rfl, rfl⟩ }
  · refine ⟨⟨row, List.mem_append_right _ (List.mem_singleton_self _), ?_, merchant, amount⟩, ?_, ?_⟩
    · exact knownId.symm
    · rw [reservedEq, validatedEq]
      exact merchant
    · rw [reservedEq, validatedEq]
      exact key
  · rw [reservedEq]

/-- Saving a sale in the state it was moved to restates the stored row. -/
theorem save_restates (moves : transitionTo transaction target now reference = .ok next)
    (saved : saveTransaction db ⟨next, productType, masked, payload⟩ = .ok db')
    (present : Present (·.id) transaction.id db.transactions) :
    ∃ rows, Restated transaction.id target db.transactions rows ∧
      db' = { db with transactions := rows } := by
  obtain ⟨_, eq⟩ := transitionTo_ok moves
  have id : next.id = transaction.id := by rw [eq]
  have state : next.state = target := by rw [eq]
  have restates : Restates target (overwrite next) := state ▸ restates_overwrite next
  refine ⟨_, ⟨overwrite next, restates, rfl⟩, ?_⟩
  have written := saveTransaction_restates saved (id ▸ present)
  simp only [id] at written
  exact written

theorem markProcessing_turn (point : sale.point = .submitting reserved)
    (known : Remembered db sale.toSaleCall reserved)
    (h : markProcessing sale reserved input db = .ok (db', processing)) :
    Turn db (.createSale sale) (.marked reserved.id .processing) ∧
      Did (.marked reserved.id .processing) db db' ∧
      processing.id = reserved.id ∧ Remembered db' sale.toSaleCall processing ∧
      processing.state = .processing := by
  simp only [markProcessing, bind_ok, pure_ok, Prod.mk.injEq] at h
  obtain ⟨next, moves, first, saved, second, audited, rfl, rfl⟩ := h
  obtain ⟨_, eq⟩ := transitionTo_ok moves
  obtain ⟨rows, restated, firstEq⟩ := save_restates moves saved known.sold.present
  obtain ⟨audits, secondEq⟩ := saveAudit_ok audited
  subst firstEq secondEq
  have did : Did (.marked reserved.id .processing) db
      { db with transactions := rows, auditEvents := audits } :=
    .marked restated rfl rfl rfl rfl (answered_refl _) rfl rfl ⟨rfl, rfl⟩
  refine ⟨.submits point known.sold, did, ?_, ⟨?_, ?_, ?_⟩, ?_⟩
  · rw [eq]
  · rw [eq]
    exact did.sold known.sold
  · rw [eq]
    exact known.merchant
  · rw [eq]
    exact known.key
  · rw [eq]

/-- The provider delivered: the sale is settled at its split, which is recorded. -/
theorem settleSale_turn (unique : Unique (·.id) db.balanceReservations)
    (point : sale.point = .applying processing submitted) (success : submitted.state = .successful)
    (known : Remembered db sale.toSaleCall processing)
    (h : settleSale sale processing submitted input db = .ok (db', result)) :
    ∃ deed, Turn db (.createSale sale) deed ∧ Did deed db db' := by
  simp only [settleSale, bind_ok, pure_ok, Prod.mk.injEq] at h
  obtain ⟨next, moves, first, saved, split, splits, second, settled, third, recorded, fourth,
    audited, rfl, _⟩ := h
  obtain ⟨providerBps, shopBps, _⟩ := splitCommission_ok splits
  rw [← providerBps, ← shopBps] at splits
  rw [← providerBps] at settled
  obtain ⟨rows, restated, firstEq⟩ := save_restates moves saved known.sold.present
  subst firstEq
  obtain ⟨reservations, audits, moved, positive, secondEq⟩ :=
    moveValue_moved (.settle _ _) settled unique
  obtain ⟨_, thirdEq⟩ := recordCommission_ok recorded
  obtain ⟨audits', fourthEq⟩ := saveAudit_ok audited
  subst secondEq thirdEq fourthEq
  have earned : Earned sale processing.id (commissionRow
      { id := input.newId 2, transactionId := processing.id, merchantId := sale.request.merchantId,
        providerId := some sale.deps.providerId, productType := sale.request.productId,
        transactionAmount := sale.request.amount, split, now := input.now 0 }) :=
    ⟨rfl, rfl, rfl, rfl, splits⟩
  let context := sale.operation processing.id (input.now 0) (input.newId 0) (input.newId 1)
  have concerns : Concerns db context processing.id sale.request.merchantId :=
    ⟨rfl, rfl, known.sold⟩
  refine ⟨_, .settles point success concerns rfl earned, ?_⟩
  exact .moved restated moved positive rfl rfl rfl (answered_update _ _ _) rfl rfl ⟨rfl, rfl⟩

/-- The provider failed or refused it: the value is released. -/
theorem failSale_turn (unique : Unique (·.id) db.balanceReservations)
    (point : sale.point = .applying processing submitted) (failure : submitted.state = .failed)
    (known : Remembered db sale.toSaleCall processing)
    (h : failSale sale processing submitted input db = .ok (db', result)) :
    ∃ deed, Turn db (.createSale sale) deed ∧ Did deed db db' := by
  simp only [failSale, bind_ok, pure_ok, Prod.mk.injEq] at h
  obtain ⟨next, moves, first, saved, second, released, third, audited, rfl, _⟩ := h
  obtain ⟨rows, restated, firstEq⟩ := save_restates moves saved known.sold.present
  subst firstEq
  obtain ⟨reservations, audits, moved, positive, secondEq⟩ :=
    moveValue_moved .release released unique
  obtain ⟨audits', thirdEq⟩ := saveAudit_ok audited
  subst secondEq thirdEq
  exact ⟨_, .fails point failure ⟨rfl, rfl, known.sold⟩,
    .moved restated moved positive rfl rfl (List.append_nil _).symm (answered_update _ _ _) rfl rfl ⟨rfl, rfl⟩⟩

theorem holdSale_turn (point : sale.point = .applying processing submitted)
    (unknown : submitted.state = .pending) (known : Remembered db sale.toSaleCall processing)
    (h : holdSale sale processing submitted input db = .ok (db', result)) :
    Turn db (.createSale sale) (.marked processing.id .pending) ∧
      Did (.marked processing.id .pending) db db' := by
  simp only [holdSale, bind_ok, pure_ok, Prod.mk.injEq] at h
  obtain ⟨next, moves, first, saved, second, job, third, audited, rfl, _⟩ := h
  obtain ⟨rows, restated, firstEq⟩ := save_restates moves saved known.sold.present
  obtain ⟨jobs, secondEq⟩ := upsertPendingResolution_ok job
  obtain ⟨audits, thirdEq⟩ := saveAudit_ok audited
  subst firstEq secondEq thirdEq
  exact ⟨.holds point unknown known.sold,
    .marked restated rfl rfl rfl rfl (answered_refl _) rfl rfl ⟨rfl, rfl⟩⟩

theorem releaseQuietly_turn (unique : Unique (·.id) db.balanceReservations)
    (point : sale.point = .releasing processing) (known : Remembered db sale.toSaleCall processing)
    (h : releaseQuietly sale processing input db = .ok (db', result)) :
    ∃ deed, Turn db (.createSale sale) deed ∧ Did deed db db' := by
  simp only [releaseQuietly, bind_ok, pure_ok, Prod.mk.injEq] at h
  obtain ⟨next, moves, first, saved, second, released, rfl, _⟩ := h
  obtain ⟨rows, restated, firstEq⟩ := save_restates moves saved known.sold.present
  subst firstEq
  obtain ⟨reservations, audits, moved, positive, secondEq⟩ :=
    moveValue_moved .release released unique
  subst secondEq
  exact ⟨_, .releases point ⟨rfl, rfl, known.sold⟩,
    .moved restated moved positive rfl rfl (List.append_nil _).symm (answered_refl _) rfl rfl ⟨rfl, rfl⟩⟩

/-- One step of a call, as a deed it may do, and what the call knows afterwards. -/
def Acts (db : Db) (process : Process) (after : Db × Process) : Prop :=
  ∃ deed, Turn db process deed ∧ Did deed db after.1 ∧ Known after.1 after.2

/-- A step that leaves the database alone. -/
theorem acts_quiet (known : Known db process') : Acts db process (db, process') :=
  ⟨.quiet, .quiet, .refl db, known⟩

/-- A step that ends a call, or leaves it knowing nothing. -/
theorem acts_of_turn (turn : ∃ deed, Turn db process deed ∧ Did deed db db')
    (known : Known db' process') : Acts db process (db', process') := by
  obtain ⟨deed, turn, did⟩ := turn
  exact ⟨deed, turn, did, known⟩

theorem applyOutcome_turn (unique : Unique (·.id) db.balanceReservations)
    (point : sale.point = .applying processing submitted) (known : Remembered db sale.toSaleCall processing)
    (h : applyOutcome sale processing submitted input db = .ok (db', result)) :
    ∃ deed, Turn db (.createSale sale) deed ∧ Did deed db db' := by
  unfold applyOutcome at h
  cases state : submitted.state with
  | successful =>
    rw [state] at h
    exact settleSale_turn unique point state known h
  | failed =>
    rw [state] at h
    exact failSale_turn unique point state known h
  | pending =>
    rw [state] at h
    exact ⟨_, holdSale_turn point state known h⟩

theorem known_refusal (sale : CreateSale) (fault : Fault) :
    Known db (.createSale (sale.at (sale.refusal fault))) := by
  cases fault <;> trivial

theorem createSale_acts (unique : Unique (·.id) db.balanceReservations)
    (known : KnownSale db sale) (fresh : Fresh input db (.createSale sale)) :
    Acts db (.createSale sale) ((Process.createSale sale).step input db) := by
  unfold KnownSale at known
  cases point : sale.point with
  | begin | device | lookUp =>
    simp only [Process.step, CreateSale.step, point]
    repeat' split
    all_goals exact acts_quiet trivial
  | original record =>
    simp only [Process.step, CreateSale.step, point]
    exact acts_quiet trivial
  | health =>
    simp only [Process.step, CreateSale.step, point]
    repeat' split
    all_goals exact acts_quiet trivial
  | reserving =>
    simp only [Process.step, CreateSale.step, point]
    rcases unit_cases input (openSale sale input) db with
      ⟨next, reserved, _, done, same⟩ | ⟨fault, same⟩
    · rw [same]
      obtain ⟨row, hold, record, context, opening, did, _, remembered, state⟩ :=
        openSale_turn point fresh done
      exact ⟨_, .opens point opening, did, remembered, state⟩
    · rw [same]
      exact acts_quiet (known_refusal sale fault)
  | submitting reserved =>
    rw [point] at known
    simp only [Process.step, CreateSale.step, point]
    rcases unit_cases input (markProcessing sale reserved input) db with
      ⟨next, processing, _, done, same⟩ | ⟨fault, same⟩
    · rw [same]
      obtain ⟨turn, did, _, remembered, state⟩ := markProcessing_turn point known.1 done
      exact ⟨_, turn, did, remembered, state⟩
    · rw [same]
      exact acts_quiet trivial
  | awaiting processing =>
    rw [point] at known
    simp only [Process.step, CreateSale.step, point]
    repeat' split
    all_goals exact acts_quiet known
  | applying processing submitted =>
    rw [point] at known
    simp only [Process.step, CreateSale.step, point]
    rcases unit_cases input (applyOutcome sale processing submitted input) db with
      ⟨next, result, _, done, same⟩ | ⟨fault, same⟩
    · rw [same]
      exact acts_of_turn (applyOutcome_turn unique point known.1 done) trivial
    · rw [same]
      exact acts_quiet trivial
  | releasing processing =>
    rw [point] at known
    simp only [Process.step, CreateSale.step, point]
    rcases unit_cases input (releaseQuietly sale processing input) db with
      ⟨next, result, _, done, same⟩ | ⟨fault, same⟩
    · rw [same]
      exact acts_of_turn (releaseQuietly_turn unique point known.1 done) trivial
    · rw [same]
      exact acts_quiet trivial
  | returned result | threw fault =>
    simp only [Process.step, CreateSale.step, point]
    exact acts_quiet (by simp only [Known, KnownSale, point])

end Telga.Proofs
