import Telga.Proofs.ServiceTurns

namespace Telga.Proofs
open Domain Persistence Application Library

/-- What holds of the database after every step, whoever takes it: keys are unique, every sale
has its reservation and every reservation its sale, and a sale in a terminal state has had its
value released or settled. -/
structure Sound (db : Db) : Prop where
  ids : Unique (·.id) db.transactions
  holdIds : Unique (·.id) db.balanceReservations
  holds : Unique (·.transactionId) db.balanceReservations
  named : ∀ account ∈ db.ledgerAccounts, Named account
  backed : ∀ hold ∈ db.balanceReservations,
    Sold db hold.transactionId hold.merchantId hold.amount
  held : ∀ row ∈ db.transactions, Present (·.transactionId) row.id db.balanceReservations
  unreferenced : ∀ row ∈ db.transactions, row.state = .reserved → row.providerReference = none
  ended : ∀ row ∈ db.transactions, isTerminal row.state = true → Ended db row.id
  asked : ∀ row ∈ db.reversalRequests, Sold db row.transactionId row.merchantId row.amount
  transferable : ∀ row ∈ db.shopTransfers, Transferable row

/-- One step of any call is a deed that call may do, and leaves it knowing what it must. -/
theorem step_acts (sound : Sound db) (known : Known db process) (fresh : Fresh input db process) :
    Acts db process (process.step input db) := by
  cases process with
  | createSale sale => exact createSale_acts sound.holdIds known fresh
  | resolvePending call => exact resolvePending_acts sound.holdIds
  | recoverInFlight sweep => exact recoverInFlight_acts sound.holdIds sound.unreferenced known
  | requireReversal call => exact requireReversal_acts known
  | completeReversal call => exact completeReversal_acts sound.holdIds
  | transferProfit call => exact transferProfit_acts
  | runDueSoftwareFees run => exact runDueSoftwareFees_acts
  | settleShopTransfer call => exact settleShopTransfer_acts
  | decideTransfer call => exact decideTransfer_acts sound.transferable known
  | fileReversal call => exact fileReversal_acts known
  | decideReversal call => exact decideReversal_acts sound.asked sound.ended known
  | deposit call => exact deposit_acts
  | configure call => exact configure_acts

/-- A state given without moving the value is one a sale can still leave. -/
theorem Turn.marked_state (turn : Turn db process (.marked transactionId state)) :
    state = .processing ∨ state = .pending ∨ state = .reversalRequired := by
  cases turn with
  | submits => exact .inl rfl
  | holds | holdRecovery => exact .inr (.inl rfl)
  | requires => exact .inr (.inr rfl)

/-- Which states go with which movement of the value. -/
inductive Fits : TransactionState → Disposal → Prop
  | settled : Fits .successful (.settle profitMinor profitBps)
  | failed : Fits .failed .release
  | review : Fits .underReview .review
  | reversed : disposal = .release ∨ disposal = .reviewRelease → Fits .reversed disposal

theorem Turn.moved_fits (turn : Turn db process (.moved state disposal context commission)) :
    Fits state disposal := by
  cases turn with
  | settles => exact .settled
  | fails | releases => exact .failed
  | resolveSuccess => exact .settled
  | resolveFailure => exact .failed
  | escalatePending => exact .review
  | neverSubmitted => exact .failed
  | recoverSuccess => exact .settled
  | recoverFailure => exact .failed
  | escalateRecovery => exact .review
  | completes _ _ either => exact .reversed either

theorem Concerns.sold (concerns : Concerns db context transactionId merchantId) :
    Sold db context.transactionId context.merchantId context.amount := by
  obtain ⟨rfl, rfl, sold⟩ := concerns
  exact sold

theorem Found.sold (found : Found db context transactionId merchantId state) :
    Sold db context.transactionId context.merchantId context.amount := by
  obtain ⟨rfl, rfl, row, mem, id, merchant, amount, _⟩ := found
  exact ⟨row, mem, id, merchant, amount⟩

theorem Found.stateOf {stored : TransactionState}
    (found : Found db context transactionId merchantId stored) (sound : Sound db) :
    Proofs.stateOf db context.transactionId = some stored := by
  obtain ⟨same, _, row, mem, id, _, _, stated⟩ := found
  rw [same, ← id, ← stated]
  exact stateOf_of_mem sound.ids mem

/-- Value is only ever moved for a stored sale, on behalf of its merchant, at its amount. -/
theorem Turn.moved_sold (turn : Turn db process (.moved state disposal context commission)) :
    Sold db context.transactionId context.merchantId context.amount := by
  cases turn with
  | settles _ _ concerns | fails _ _ concerns | releases _ concerns => exact concerns.sold
  | resolveSuccess _ _ found | resolveFailure _ _ found | escalatePending _ _ _ found =>
    exact found.sold
  | neverSubmitted _ concerns => exact concerns.sold
  | recoverSuccess _ found | recoverFailure _ found | escalateRecovery _ _ _ found
  | completes _ found => exact found.sold

/-- Whatever a deed states, it states of a stored sale. -/
theorem Turn.marked_sold (turn : Turn db process (.marked transactionId state)) :
    Present (·.id) transactionId db.transactions := by
  cases turn with
  | submits _ sold | holds _ _ sold => exact sold.present
  | holdRecovery _ _ _ found => exact found.sold.present
  | requires _ _ sold => exact sold.present

/-- After a deed a sale is in the state the deed gives it, or else in the one it was in. -/
theorem Did.states (did : Did deed db db') (turn : Turn db process deed) (t : TransactionId) :
    stateOf db' t = (deed.state t).or (stateOf db t) := by
  have sales := did.sales
  have restates : ∀ {given state}, Restated given state db.transactions db'.transactions →
      Present (·.id) given db.transactions →
      stateOf db' t = (if t = given then some state else none).or (stateOf db t) := by
    intro given state restated present
    rw [stateOf_restated restated present]
    split <;> rfl
  cases deed with
  | opened row hold record context =>
    cases turn with
    | opens _ opening =>
      rw [stateOf_append sales opening.absent, Deed.state]
      split <;> rfl
  | marked given state => exact restates sales turn.marked_sold
  | moved state disposal context commission => exact restates sales turn.moved_sold.present
  | reversed id movement given =>
    cases turn with
    | undoes _ asked => exact restates sales asked.2.1.present
  | _ =>
    unfold stateOf
    rw [show db'.transactions = db.transactions from sales]
    rfl

/-- After a deed a sale's value is where the deed puts it, or else where it was. -/
theorem Did.values (did : Did deed db db') (sound : Sound db) (turn : Turn db process deed)
    (t : TransactionId) : valueOf db' t = (deed.value t).or (valueOf db t) := by
  have holds := did.holds
  cases deed with
  | opened row hold record context =>
    cases turn with
    | opens _ opening =>
      obtain ⟨sale, _⟩ := opening.holding
      rw [valueOf_append holds (sale ▸ opening.unheld), Deed.value]
      split <;> rfl
  | moved state disposal context commission =>
    rw [(valueOf_moved holds sound.holdIds sound.holds).2, Deed.value]
    split <;> rfl
  | _ =>
    unfold valueOf
    rw [show db'.balanceReservations = db.balanceReservations from holds]
    rfl

/-- A deed that moves a sale's value on found it where that movement starts. -/
theorem Did.origin {disposal : Disposal} (did : Did (.moved state disposal context commission) db db')
    (sound : Sound db) : valueOf db context.transactionId = some disposal.origin :=
  (valueOf_moved did.holds sound.holdIds sound.holds).1

theorem Disposal.origin_open (disposal : Disposal) :
    disposal.origin ≠ .released ∧ disposal.origin ≠ .settled := by
  cases disposal <;> exact ⟨by simp [Disposal.origin], by simp [Disposal.origin]⟩

/-- No deed touches value that was released or settled. -/
theorem Did.untouched (did : Did deed db db') (sound : Sound db) (turn : Turn db process deed)
    (ended : Ended db t) : deed.value t = none := by
  cases deed with
  | opened row hold record context =>
    cases turn with
    | opens _ opening =>
      refine if_neg fun here => ?_
      obtain ⟨sale, _⟩ := opening.holding
      rcases ended with ended | ended
      all_goals
        obtain ⟨old, mem, same, _⟩ := mem_of_valueOf ended
        exact opening.unheld ⟨old, mem, same.trans (here.trans sale)⟩
  | moved state disposal context commission =>
    refine if_neg fun here => ?_
    unfold Ended at ended
    rw [here, did.origin sound] at ended
    rcases ended with ended | ended
    · exact disposal.origin_open.1 (Option.some.inj ended)
    · exact disposal.origin_open.2 (Option.some.inj ended)
  | _ => rfl

/-- Value that was released or settled stays where it is. -/
theorem Did.settled (did : Did deed db db') (sound : Sound db) (turn : Turn db process deed)
    (ended : Ended db t) : valueOf db' t = valueOf db t := by
  rw [did.values sound turn, did.untouched sound turn ended, Option.none_or]

theorem Did.ended (did : Did deed db db') (sound : Sound db) (turn : Turn db process deed)
    (ended : Ended db t) : Ended db' t := by
  unfold Ended
  rw [did.settled sound turn ended]
  exact ended

theorem Did.named (did : Did deed db db') (sound : Sound db) :
    ∀ account ∈ db'.ledgerAccounts, Named account := by
  intro account mem
  rcases did.accounts account mem with old | named
  · exact sound.named account old
  · exact named

/-- The sales a deed leaves are the ones it found, or the one it opened. -/
theorem Did.mem_sales (did : Did deed db db') (mem : row ∈ db'.transactions) :
    (∃ old ∈ db.transactions, old.id = row.id ∧
      (row = old ∨ deed.state row.id = some row.state)) ∨
    ∃ hold record context, deed = .opened row hold record context := by
  have sales := did.sales
  have restated : ∀ {given state}, Restated given state db.transactions db'.transactions →
      ∃ old ∈ db.transactions, old.id = row.id ∧ (row = old ∨ row.id = given ∧ row.state = state) := by
    intro given state ⟨change, restates, after⟩
    rw [after] at mem
    obtain ⟨old, found, rfl⟩ := mem_update.mp mem
    obtain ⟨sameId, _, _, _, _, stated⟩ := restates.keeps old
    by_cases hit : old.id = given
    · refine ⟨old, found, ?_, .inr ?_⟩
      · simp [hit, sameId]
      · simp [hit, sameId, stated]
    · exact ⟨old, found, by simp [hit], .inl (by simp [hit])⟩
  cases deed with
  | opened opened hold record context =>
    rw [show db'.transactions = db.transactions ++ [opened] from sales] at mem
    rcases List.mem_append.mp mem with mem | mem
    · exact .inl ⟨row, mem, rfl, .inl rfl⟩
    · rw [List.mem_singleton.mp mem]
      exact .inr ⟨hold, record, context, rfl⟩
  | marked given state | moved state disposal context commission | reversed id movement given =>
    obtain ⟨old, found, same, how⟩ := restated sales
    refine .inl ⟨old, found, same, how.imp_right fun ⟨hit, stated⟩ => ?_⟩
    simp [Deed.state, hit, stated]
  | _ =>
    rw [show db'.transactions = db.transactions from sales] at mem
    exact .inl ⟨row, mem, rfl, .inl rfl⟩

/-- A state a deed gives is terminal only where the value is, or comes to be, out of the merchant's
hands or back in them. -/
theorem Turn.terminal_ended (turn : Turn db process deed) (did : Did deed db db') (sound : Sound db)
    (given : deed.state t = some state) (terminal : isTerminal state = true) : Ended db' t := by
  have values := did.values sound turn t
  cases deed with
  | opened row hold record context =>
    cases turn with
    | opens _ opening =>
      simp only [Deed.state, opening.state, Option.ite_none_right_eq_some,
        Option.some.injEq] at given
      rw [← given.2] at terminal
      cases terminal
  | marked marked stated =>
    simp only [Deed.state, Option.ite_none_right_eq_some, Option.some.injEq] at given
    rw [← given.2] at terminal
    rcases turn.marked_state with rfl | rfl | rfl <;> cases terminal
  | moved stated disposal context commission =>
    simp only [Deed.state, Option.ite_none_right_eq_some, Option.some.injEq] at given
    obtain ⟨here, rfl⟩ := given
    simp only [Deed.value, here, if_true, Option.some_or] at values
    rw [← here] at values
    unfold Ended
    rw [values]
    cases turn.moved_fits with
    | settled => exact .inr rfl
    | failed => exact .inl rfl
    | review => cases terminal
    | reversed either => rcases either with rfl | rfl <;> exact .inl rfl
  | reversed id movement undone =>
    simp only [Deed.state, Option.ite_none_right_eq_some] at given
    cases turn with
    | undoes _ asked =>
      rw [given.1]
      exact did.ended sound (.undoes ‹_› asked ‹_› ‹_› ‹_›) asked.2.2
  | _ => cases given

/-- The reservations a deed leaves are the ones it found, their status aside, or the one it
opened. -/
theorem Did.mem_holds (did : Did deed db db') (mem : hold ∈ db'.balanceReservations) :
    (∃ old ∈ db.balanceReservations, old.transactionId = hold.transactionId ∧
      old.merchantId = hold.merchantId ∧ old.amount = hold.amount) ∨
    ∃ row record context, deed = .opened row hold record context := by
  have holds := did.holds
  cases deed with
  | opened row opened record context =>
    rw [show db'.balanceReservations = db.balanceReservations ++ [opened] from holds] at mem
    rcases List.mem_append.mp mem with mem | mem
    · exact .inl ⟨hold, mem, rfl, rfl, rfl⟩
    · rw [List.mem_singleton.mp mem]
      exact .inr ⟨row, record, context, rfl⟩
  | moved state disposal context commission =>
    obtain ⟨_, _, _, _, _, _, after⟩ := holds
    rw [after] at mem
    obtain ⟨old, found, rfl⟩ := mem_update.mp mem
    refine .inl ⟨old, found, ?_⟩
    split <;> exact ⟨rfl, rfl, rfl⟩
  | _ =>
    rw [show db'.balanceReservations = db.balanceReservations from holds] at mem
    exact .inl ⟨hold, mem, rfl, rfl, rfl⟩

/-- A reservation that is stored stays stored. -/
theorem Did.held (did : Did deed db db')
    (held : Present (·.transactionId) t db.balanceReservations) :
    Present (·.transactionId) t db'.balanceReservations := by
  obtain ⟨hold, mem, same⟩ := held
  have holds := did.holds
  cases deed with
  | opened row opened record context =>
    refine ⟨hold, ?_, same⟩
    rw [show db'.balanceReservations = db.balanceReservations ++ [opened] from holds]
    exact List.mem_append_left _ mem
  | moved state disposal context commission =>
    obtain ⟨row, now, _, _, _, _, after⟩ := holds
    have kept := update_mem (guarded row.id disposal.origin) (setStatus disposal.target now) mem
    rw [← after] at kept
    refine ⟨_, kept, ?_⟩
    split <;> exact same
  | _ =>
    refine ⟨hold, ?_, same⟩
    rw [show db'.balanceReservations = db.balanceReservations from holds]
    exact mem

/-- A request keeps naming its sale, its shop and its amount. -/
theorem Did.mem_requests (did : Did deed db db') (mem : request ∈ db'.reversalRequests) :
    (∃ old ∈ db.reversalRequests, old.id = request.id ∧
      old.transactionId = request.transactionId ∧ old.merchantId = request.merchantId ∧
      old.amount = request.amount) ∨
    deed = .filed request := by
  have requests := did.requests
  cases deed with
  | filed filed =>
    rw [show db'.reversalRequests = db.reversalRequests ++ [filed] from requests] at mem
    rcases List.mem_append.mp mem with mem | mem
    · exact .inl ⟨request, mem, rfl, rfl, rfl, rfl⟩
    · rw [List.mem_singleton.mp mem]
      exact .inr rfl
  | decided input =>
    rw [show db'.reversalRequests = (decideReversalRequest db input).1.reversalRequests from
      requests] at mem
    obtain ⟨old, found, rfl⟩ := mem_update.mp mem
    refine .inl ⟨old, found, ?_⟩
    split <;> exact ⟨rfl, rfl, rfl, rfl⟩
  | reversed id movement t =>
    rw [show db'.reversalRequests = _ from requests] at mem
    obtain ⟨old, found, rfl⟩ := mem_update.mp mem
    refine .inl ⟨old, found, ?_⟩
    split <;> exact ⟨rfl, rfl, rfl, rfl⟩
  | _ =>
    rw [show db'.reversalRequests = db.reversalRequests from requests] at mem
    exact .inl ⟨request, mem, rfl, rfl, rfl, rfl⟩

/-- Requests are never removed. -/
theorem Did.requested_stays (did : Did deed db db') (mem : old ∈ db.reversalRequests) :
    ∃ request ∈ db'.reversalRequests, request.id = old.id ∧
      request.transactionId = old.transactionId ∧ request.merchantId = old.merchantId ∧
      request.amount = old.amount := by
  have requests := did.requests
  cases deed with
  | filed filed =>
    refine ⟨old, ?_, rfl, rfl, rfl, rfl⟩
    rw [show db'.reversalRequests = db.reversalRequests ++ [filed] from requests]
    exact List.mem_append_left _ mem
  | decided input =>
    unfold Deed.Requests decideReversalRequest at requests
    rw [requests]
    refine ⟨_, update_mem _ _ mem, ?_⟩
    split <;> exact ⟨rfl, rfl, rfl, rfl⟩
  | reversed id movement t =>
    unfold Deed.Requests at requests
    rw [requests]
    refine ⟨_, update_mem _ _ mem, ?_⟩
    split <;> exact ⟨rfl, rfl, rfl, rfl⟩
  | _ =>
    refine ⟨old, ?_, rfl, rfl, rfl, rfl⟩
    rw [show db'.reversalRequests = db.reversalRequests from requests]
    exact mem

theorem Did.transferable (did : Did deed db db') (sound : Sound db) (turn : Turn db process deed) :
    ∀ row ∈ db'.shopTransfers, Transferable row := by
  intro row mem
  have transfers := did.transfers
  cases deed with
  | sent sent legs =>
    rw [show db'.shopTransfers = db.shopTransfers ++ [sent] from transfers] at mem
    rcases List.mem_append.mp mem with mem | mem
    · exact sound.transferable row mem
    · rw [List.mem_singleton.mp mem]
      cases turn with
      | records able => exact able
      | sends _ _ able => exact able
  | approved id legs | dismissed id =>
    obtain ⟨_, _, _, after⟩ := transfers
    rw [after] at mem
    obtain ⟨old, found, rfl⟩ := mem_update.mp mem
    split <;> exact sound.transferable old found
  | _ =>
    rw [show db'.shopTransfers = db.shopTransfers from transfers] at mem
    exact sound.transferable row mem

/-- Only opening a sale gives it the state reserved. -/
theorem Turn.reserved_opens (turn : Turn db process deed)
    (given : deed.state t = some .reserved) :
    ∃ row hold record context, deed = .opened row hold record context ∧ row.id = t := by
  cases deed with
  | opened row hold record context =>
    simp only [Deed.state, Option.ite_none_right_eq_some] at given
    exact ⟨row, hold, record, context, rfl, given.1.symm⟩
  | marked marked state =>
    simp only [Deed.state, Option.ite_none_right_eq_some, Option.some.injEq] at given
    have stated := turn.marked_state
    rw [given.2] at stated
    rcases stated with h | h | h <;> cases h
  | moved state disposal context commission =>
    simp only [Deed.state, Option.ite_none_right_eq_some, Option.some.injEq] at given
    have fits := turn.moved_fits
    rw [given.2] at fits
    cases fits
  | reversed id movement undone =>
    simp only [Deed.state, Option.ite_none_right_eq_some, Option.some.injEq] at given
    cases given.2
  | _ => cases given

theorem Did.ids (did : Did deed db db') (sound : Sound db) (turn : Turn db process deed) :
    Unique (·.id) db'.transactions := by
  have sales := did.sales
  cases deed with
  | opened row hold record context =>
    cases turn with
    | opens _ opening =>
      rw [show db'.transactions = db.transactions ++ [row] from sales]
      exact sound.ids.append fun old mem same => opening.absent ⟨old, mem, same⟩
  | marked t state | moved state disposal context commission | reversed id movement t =>
    exact Restated.unique sales sound.ids
  | _ =>
    rw [show db'.transactions = db.transactions from sales]
    exact sound.ids

theorem Did.uniqueHolds {key : ReservationRow → κ} (did : Did deed db db')
    (keeps : ∀ status now row, key (setStatus status now row) = key row)
    (unique : Unique key db.balanceReservations)
    (fresh : ∀ row hold record context, deed = .opened row hold record context →
      ∀ old ∈ db.balanceReservations, key old ≠ key hold) :
    Unique key db'.balanceReservations := by
  have holds := did.holds
  cases deed with
  | opened row hold record context =>
    rw [show db'.balanceReservations = db.balanceReservations ++ [hold] from holds]
    exact unique.append (fresh _ _ _ _ rfl)
  | moved state disposal context commission => exact Moved.unique holds keeps unique
  | _ =>
    rw [show db'.balanceReservations = db.balanceReservations from holds]
    exact unique

/-- Every deed that a call may do keeps the database sound. -/
theorem Sound.did (sound : Sound db) (turn : Turn db process deed) (did : Did deed db db') :
    Sound db' where
  ids := did.ids sound turn
  holdIds := did.uniqueHolds (fun _ _ _ => rfl) sound.holdIds fun row hold record context opened => by
    subst opened
    cases turn with
    | opens _ opening => exact fun old mem same => opening.holdAbsent ⟨old, mem, same⟩
  holds := did.uniqueHolds (fun _ _ _ => rfl) sound.holds fun row hold record context opened => by
    subst opened
    cases turn with
    | opens _ opening =>
      obtain ⟨sale, _⟩ := opening.holding
      exact fun old mem same => opening.unheld ⟨old, mem, same.trans sale⟩
  named := did.named sound
  backed := by
    intro hold mem
    rcases did.mem_holds mem with ⟨old, found, sale, merchant, amount⟩ | ⟨row, record, context, rfl⟩
    · rw [← sale, ← merchant, ← amount]
      exact did.sold (sound.backed old found)
    · cases turn with
      | opens _ opening =>
        obtain ⟨sale, merchant, amount, _⟩ := opening.holding
        refine ⟨row, ?_, sale.symm, merchant.symm, amount.symm⟩
        rw [show db'.transactions = db.transactions ++ [row] from did.sales]
        simp
  held := by
    intro row mem
    rcases did.mem_sales mem with ⟨old, found, same, _⟩ | ⟨hold, record, context, rfl⟩
    · rw [← same]
      exact did.held (sound.held old found)
    · cases turn with
      | opens _ opening =>
        obtain ⟨sale, _⟩ := opening.holding
        refine ⟨hold, ?_, sale⟩
        rw [show db'.balanceReservations = db.balanceReservations ++ [hold] from did.holds]
        simp
  unreferenced := by
    intro row mem reserved
    rcases did.mem_sales mem with ⟨old, found, same, rfl | given⟩ | ⟨hold, record, context, rfl⟩
    · exact sound.unreferenced row found reserved
    · rw [reserved] at given
      obtain ⟨opened, hold, record, context, rfl, here⟩ := turn.reserved_opens given
      cases turn with
      | opens _ opening => exact absurd ⟨old, found, same.trans here.symm⟩ opening.absent
    · cases turn with
      | opens _ opening => exact opening.reference
  ended := by
    intro row mem terminal
    rcases did.mem_sales mem with ⟨old, found, same, rfl | given⟩ | ⟨hold, record, context, rfl⟩
    · exact did.ended sound turn (sound.ended row found terminal)
    · exact turn.terminal_ended did sound given terminal
    · cases turn with
      | opens _ opening =>
        rw [opening.state] at terminal
        cases terminal
  asked := by
    intro request mem
    rcases did.mem_requests mem with ⟨old, found, _, sale, merchant, amount⟩ | rfl
    · rw [← sale, ← merchant, ← amount]
      exact did.sold (sound.asked old found)
    · cases turn with
      | files _ sold => exact did.sold sold
  transferable := did.transferable sound turn

/-- What a call knows survives whatever another call does. -/
theorem Known.did (known : Known db other) (sound : Sound db) (turn : Turn db process deed)
    (did : Did deed db db') : Known db' other := by
  have remembered : ∀ {call transaction}, Remembered db call transaction →
      Remembered db' call transaction :=
    fun knows => ⟨did.sold knows.sold, knows.merchant, knows.key⟩
  cases other with
  | createSale sale =>
    cases point : sale.point with
    | submitting | awaiting | applying | releasing =>
      simp only [Known, KnownSale, point] at known ⊢
      exact ⟨remembered known.1, known.2⟩
    | _ => simp only [Known, KnownSale, point]
  | recoverInFlight sweep =>
    cases point : sweep.point with
    | job row policy current =>
      simp only [Known, KnownSweep, point] at known ⊢
      exact ⟨did.sold known.sold, known.unreferenced⟩
    | neverSubmitted work =>
      simp only [Known, KnownSweep, point] at known ⊢
      exact ⟨⟨did.sold known.1.sold, known.1.unreferenced⟩, known.2⟩
    | uncertain work => simp only [Known, KnownSweep, point] at known
    | _ => simp only [Known, KnownSweep, point]
  | requireReversal call =>
    cases point : call.point with
    | requiring row =>
      simp only [Known, KnownRequire, point] at known ⊢
      exact ⟨known.1, known.2.1, did.sold known.2.2.1, known.2.2.2⟩
    | _ => simp only [Known, KnownRequire, point]
  | fileReversal call =>
    cases point : call.point with
    | looking | filing =>
      simp only [Known, KnownFiling, point] at known ⊢
      exact did.sold known
    | _ => simp only [Known, KnownFiling, point]
  | decideReversal call =>
    cases point : call.point with
    | posting request =>
      simp only [Known, KnownDecision, point] at known ⊢
      obtain ⟨⟨row, mem, id, sale, merchant, amount⟩, sold, ended⟩ := known
      obtain ⟨kept, found, sameId, sameSale, sameMerchant, sameAmount⟩ := did.requested_stays mem
      exact ⟨⟨kept, found, sameId.trans id, sameSale.trans sale, sameMerchant.trans merchant,
        sameAmount.trans amount⟩, did.sold sold, did.ended sound turn ended⟩
    | _ => simp only [Known, KnownDecision, point]
  | _ => exact known

end Telga.Proofs
