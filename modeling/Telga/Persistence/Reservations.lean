import Telga.Persistence.Transactions

namespace Telga.Persistence
open Domain Library

/-- When a status ends a reservation, the time it ended. -/
def releasedAt (status : ReservationState) (now : Timestamp) : Option Timestamp :=
  if status = .released ∨ status = .settled then some now else none

def reservationRow (reservation : BalanceReservation) (correlationId : CorrelationId) :
    ReservationRow :=
  { id := reservation.id, merchantId := reservation.merchantId,
    transactionId := reservation.transactionId, amount := reservation.amount,
    status := reservation.state, correlationId, createdAt := reservation.createdAt,
    updatedAt := reservation.updatedAt,
    releasedAt := releasedAt reservation.state reservation.updatedAt }

/-- The columns a status change writes. -/
def setStatus (status : ReservationState) (now : Timestamp) (row : ReservationRow) :
    ReservationRow :=
  { row with status, updatedAt := now, releasedAt := releasedAt status now }

/-- Insert the row, or rewrite the status of the one already stored under the id, whatever
status that one had and whichever transaction it was for. -/
def saveReservation (db : Db) (reservation : BalanceReservation) (correlationId : CorrelationId) :
    Except Fault Db := do
  demand (0 < reservation.amount.minor) .constraint
  if Present (·.id) reservation.id db.balanceReservations then
    return { db with
      balanceReservations := update (fun row => row.id = reservation.id)
        (setStatus reservation.state reservation.updatedAt) db.balanceReservations }
  else
    demand (¬ Present (·.transactionId) reservation.transactionId db.balanceReservations)
      .constraint
    demand (Present (·.id) reservation.merchantId db.merchants) .constraint
    demand (Present (·.id) reservation.transactionId db.transactions) .constraint
    return { db with
      balanceReservations := db.balanceReservations ++
        [reservationRow reservation correlationId] }

/-- Scoped in the query: another merchant's reservation is not found. -/
def findReservation (db : Db) (transactionId : TransactionId) (merchantId : MerchantId) :
    Option ReservationRow :=
  db.balanceReservations.find? fun row =>
    row.transactionId = transactionId ∧ row.merchantId = merchantId

/-- The rows a guarded transition hits: the one reservation, if it is still in that status. -/
def guarded (id : ReservationId) (origin : ReservationState) (row : ReservationRow) : Bool :=
  row.id = id ∧ row.status = origin

/-- Move a reservation to a new status only if it is currently in the one it is moved from.
`HELD` and `UNDER_REVIEW` are the two entry points. The second component says whether exactly
one row changed. -/
def transitionReservation (db : Db) (id : ReservationId) (origin target : ReservationState)
    (now : Timestamp) : Db × Bool :=
  ({ db with
      balanceReservations := update (guarded id origin) (setStatus target now)
        db.balanceReservations },
    decide (changes (guarded id origin) db.balanceReservations = 1))

/-- Refuse unless the reservation was still in the status it is moved from. -/
def guardedTransition (db : Db) (id : ReservationId) (origin target : ReservationState)
    (now : Timestamp) : Except Fault Db := do
  let (db, moved) := transitionReservation db id origin target now
  demand (moved = true) .merchantScopeViolation
  return db

theorem saveReservation_ok (h : saveReservation db reservation correlationId = .ok db') :
    (Present (·.id) reservation.id db.balanceReservations ∧
      db' = { db with
        balanceReservations := update (fun row => row.id = reservation.id)
          (setStatus reservation.state reservation.updatedAt) db.balanceReservations }) ∨
    (¬ Present (·.id) reservation.id db.balanceReservations ∧
      ¬ Present (·.transactionId) reservation.transactionId db.balanceReservations ∧
      Present (·.id) reservation.transactionId db.transactions ∧
      db' = { db with
        balanceReservations := db.balanceReservations ++
          [reservationRow reservation correlationId] }) := by
  simp only [saveReservation, bind_ok, demand_ok] at h
  obtain ⟨_, _, h⟩ := h
  split at h
  · rename_i stored
    simp only [pure_ok] at h
    exact .inl ⟨stored, h.symm⟩
  · rename_i absent
    simp only [bind_ok, demand_ok, pure_ok] at h
    obtain ⟨_, apart, _, _, _, stored, rfl⟩ := h
    exact .inr ⟨absent, apart, stored, rfl⟩

theorem findReservation_ok (h : findReservation db transactionId merchantId = some row) :
    row ∈ db.balanceReservations ∧ row.transactionId = transactionId ∧
    row.merchantId = merchantId := by
  have fits := List.find?_some h
  simp only [decide_eq_true_eq] at fits
  exact ⟨List.mem_of_find?_eq_some h, fits.1, fits.2⟩

/-- A guarded transition that went through hit exactly one row, which was still in the status it
was moved from. -/
theorem guardedTransition_ok (h : guardedTransition db rowId origin target now = .ok db') :
    (∃ row, db.balanceReservations.filter (guarded rowId origin) = [row] ∧
      row ∈ db.balanceReservations ∧ row.id = rowId ∧ row.status = origin) ∧
    db' = { db with
      balanceReservations := update (guarded rowId origin) (setStatus target now)
        db.balanceReservations } := by
  simp only [guardedTransition, transitionReservation, bind_ok, demand_ok, decide_eq_true_eq,
    pure_ok] at h
  obtain ⟨_, one, rfl⟩ := h
  refine ⟨?_, rfl⟩
  obtain ⟨row, only⟩ := List.length_eq_one_iff.mp one
  have struck : row ∈ db.balanceReservations.filter (guarded rowId origin) := by simp [only]
  obtain ⟨mem, fits⟩ := List.mem_filter.mp struck
  simp only [guarded, decide_eq_true_eq] at fits
  exact ⟨row, only, mem, fits.1, fits.2⟩

end Telga.Persistence
