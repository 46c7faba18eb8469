import Telga.Proofs.Deeds

namespace Telga.Proofs
open Domain Persistence Application Library

/-- The state a sale is stored in. -/
def stateOf (db : Db) (transactionId : TransactionId) : Option TransactionState :=
  (db.transactions.find? fun row => row.id = transactionId).map (·.state)

/-- Where the value reserved for a sale is. -/
def valueOf (db : Db) (transactionId : TransactionId) : Option ReservationState :=
  (db.balanceReservations.find? fun row => row.transactionId = transactionId).map (·.status)

/-- The value reserved for a sale was released or settled. Nothing undoes this. -/
def Ended (db : Db) (transactionId : TransactionId) : Prop :=
  valueOf db transactionId = some .released ∨ valueOf db transactionId = some .settled

/-- A sale is stored under an id, for a merchant and an amount. These never change. -/
def Sold (db : Db) (transactionId : TransactionId) (merchantId : MerchantId) (amount : Money) :
    Prop :=
  ∃ row ∈ db.transactions,
    row.id = transactionId ∧ row.merchantId = merchantId ∧ row.amount = amount

theorem Sold.present (sold : Sold db transactionId merchantId amount) :
    Present (·.id) transactionId db.transactions := by
  obtain ⟨row, mem, same, _⟩ := sold
  exact ⟨row, mem, same⟩

theorem stateOf_of_mem (unique : Unique (·.id) db.transactions) (mem : row ∈ db.transactions) :
    stateOf db row.id = some row.state := by
  unfold stateOf
  rw [unique.find? mem]
  rfl

theorem valueOf_of_mem (unique : Unique (·.transactionId) db.balanceReservations)
    (mem : hold ∈ db.balanceReservations) : valueOf db hold.transactionId = some hold.status := by
  unfold valueOf
  rw [unique.find? mem]
  rfl

theorem mem_of_stateOf (h : stateOf db transactionId = some state) :
    ∃ row ∈ db.transactions, row.id = transactionId ∧ row.state = state := by
  obtain ⟨row, found, same⟩ := Option.map_eq_some_iff.mp h
  exact ⟨row, List.mem_of_find?_eq_some found, by simpa using List.find?_some found, same⟩

theorem mem_of_valueOf (h : valueOf db transactionId = some status) :
    ∃ hold ∈ db.balanceReservations, hold.transactionId = transactionId ∧ hold.status = status := by
  obtain ⟨hold, found, same⟩ := Option.map_eq_some_iff.mp h
  exact ⟨hold, List.mem_of_find?_eq_some found, by simpa using List.find?_some found, same⟩

/-- A change of state leaves what the sale is alone. -/
theorem Restates.keeps (restates : Restates state change) (row : TransactionRow) :
    (change row).id = row.id ∧ (change row).merchantId = row.merchantId ∧
    (change row).amount = row.amount ∧ (change row).idempotencyKey = row.idempotencyKey ∧
    (change row).payloadFingerprint = row.payloadFingerprint ∧ (change row).state = state := by
  obtain ⟨reference, now, eq⟩ := restates row
  rw [eq]
  exact ⟨rfl, rfl, rfl, rfl, rfl, rfl⟩

/-- Restating a sale keeps every sale that is stored. -/
theorem sold_of_restated (restated : Restated t state db.transactions db'.transactions)
    (sold : Sold db transactionId merchantId amount) :
    Sold db' transactionId merchantId amount := by
  obtain ⟨change, restates, after⟩ := restated
  obtain ⟨row, mem, id, merchant, worth⟩ := sold
  obtain ⟨sameId, sameMerchant, sameAmount, _⟩ := restates.keeps row
  refine ⟨if row.id = t then change row else row, ?_, ?_⟩
  · rw [after]
    exact mem_update.mpr ⟨row, mem, by simp⟩
  · split
    · exact ⟨sameId.trans id, sameMerchant.trans merchant, sameAmount.trans worth⟩
    · exact ⟨id, merchant, worth⟩

theorem Restated.unique (restated : Restated t state rows after) (unique : Unique (·.id) rows) :
    Unique (·.id) after := by
  obtain ⟨change, restates, rfl⟩ := restated
  exact unique.update fun row => (restates.keeps row).1

/-- Restating a sale gives it that state and no other sale another. -/
theorem stateOf_restated (restated : Restated t state db.transactions db'.transactions)
    (present : Present (·.id) t db.transactions) (transactionId : TransactionId) :
    stateOf db' transactionId =
      if transactionId = t then some state else stateOf db transactionId := by
  obtain ⟨change, restates, after⟩ := restated
  unfold stateOf
  rw [after, find?_update fun row => by rw [(restates.keeps row).1]]
  cases found : db.transactions.find? (fun row => row.id = transactionId) with
  | none =>
    have absent : transactionId ≠ t := by
      intro same
      obtain ⟨row, mem, id⟩ := present
      have missed := List.find?_eq_none.mp found row mem
      exact missed (by simp [id, same])
    simp [absent]
  | some row =>
    have id : row.id = transactionId := by simpa using List.find?_some found
    by_cases same : transactionId = t
    · have hit : row.id = t := id.trans same
      simp [hit, same, (restates.keeps row).2.2.2.2.2]
    · have apart : row.id ≠ t := fun hit => same (id.symm.trans hit)
      simp [apart, same]

theorem stateOf_append (sales : db'.transactions = db.transactions ++ [row])
    (absent : ¬ Present (·.id) row.id db.transactions) (transactionId : TransactionId) :
    stateOf db' transactionId =
      if transactionId = row.id then some row.state else stateOf db transactionId := by
  unfold stateOf
  rw [sales, find?_added _ fun old mem same => absent ⟨old, mem, same⟩]
  split <;> rfl

theorem valueOf_append (holds : db'.balanceReservations = db.balanceReservations ++ [hold])
    (absent : ¬ Present (·.transactionId) hold.transactionId db.balanceReservations)
    (transactionId : TransactionId) :
    valueOf db' transactionId =
      if transactionId = hold.transactionId then some hold.status
      else valueOf db transactionId := by
  unfold valueOf
  rw [holds, find?_added _ fun old mem same => absent ⟨old, mem, same⟩]
  split <;> rfl

theorem Moved.unique {key : ReservationRow → κ} (moved : Moved disposal context rows after)
    (keeps : ∀ status now row, key (setStatus status now row) = key row)
    (unique : Unique key rows) : Unique key after := by
  obtain ⟨row, now, _, _, _, _, rfl⟩ := moved
  exact unique.update (keeps _ _)

/-- Moving a sale's value on found it where it had to be, and moved no other sale's value. -/
theorem valueOf_moved {disposal : Disposal}
    (moved : Moved disposal context db.balanceReservations db'.balanceReservations)
    (ids : Unique (·.id) db.balanceReservations)
    (sales : Unique (·.transactionId) db.balanceReservations) :
    valueOf db context.transactionId = some disposal.origin ∧
    ∀ transactionId, valueOf db' transactionId =
      if transactionId = context.transactionId then some disposal.target
      else valueOf db transactionId := by
  obtain ⟨row, now, mem, sale, _, status, after⟩ := moved
  refine ⟨?_, fun transactionId => ?_⟩
  · rw [← sale, ← status]
    exact valueOf_of_mem sales mem
  · unfold valueOf
    have kept : ∀ r : ReservationRow,
        decide ((setStatus disposal.target now r).transactionId = transactionId) =
          decide (r.transactionId = transactionId) := fun _ => rfl
    rw [after, find?_update kept]
    by_cases same : transactionId = context.transactionId
    · have found := sales.find? mem
      simp only [sale, ← same] at found
      rw [found]
      simp [guarded, status, same, setStatus]
    · cases found : db.balanceReservations.find? (fun r => r.transactionId = transactionId) with
      | none => simp [same]
      | some other =>
        have wanted : other.transactionId = transactionId := by simpa using List.find?_some found
        have apart : other.id ≠ row.id := by
          intro hit
          have one : other = row := ids.eq (List.mem_of_find?_eq_some found) mem hit
          exact same (wanted.symm.trans ((congrArg _ one).trans sale))
        simp [guarded, apart, same]

end Telga.Proofs
