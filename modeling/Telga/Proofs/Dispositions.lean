import Telga.Proofs.Alone

namespace Telga.Proofs
open Domain Persistence Application Library

/-- The status a reservation has when its value is disposed of so. -/
def reservationFor : ValueDisposition → Option ReservationState
  | .none => none
  | .reserved => some .held
  | .underReview => some .underReview
  | .debited => some .settled
  | .released => some .released

/-- Every stored sale's reservation has the status its state assigns. -/
def Disposed (db : Db) : Prop :=
  ∀ row ∈ db.transactions, valueOf db row.id = reservationFor (valueDisposition row.state)

/-- A reversal required of a sale that is still pending: its value has not been put under
review. -/
def Unreviewed (input : Input) (db : Db) : Process → Prop
  | .requireReversal call => ∃ row, call.point = .requiring row ∧ row.state = .pending ∧
    Commits input (markReversalRequired call row input) db
  | _ => False

/-- The step does not require the reversal of a pending sale. -/
def ReviewsFirst (taken : Proceeded) : Prop :=
  ∀ input process, Worked taken input process → ¬ Unreviewed input taken.before.store process

theorem Disposed.value (disposed : Disposed db) {state : TransactionState}
    (stored : stateOf db t = some state) :
    valueOf db t = reservationFor (valueDisposition state) := by
  obtain ⟨row, mem, rfl, rfl⟩ := mem_of_stateOf stored
  exact disposed row mem

/-- It is enough that the deed puts the value where the state it gives assigns it. -/
theorem disposed_of_deed (disposed : Disposed db) (act : Act db db' input process deed)
    (given : ∀ t state, deed.state t = some state →
      (deed.value t).or (valueOf db t) = reservationFor (valueDisposition state))
    (kept : ∀ t, deed.state t = none → deed.value t = none) : Disposed db' := by
  intro row mem
  have sound := act.sound.did act.turn act.did
  have stored := stateOf_of_mem sound.ids mem
  rw [act.did.states act.turn] at stored
  rw [act.did.values act.sound act.turn]
  cases stated : deed.state row.id with
  | none =>
    rw [stated, Option.none_or] at stored
    rw [kept row.id stated, Option.none_or]
    exact disposed.value stored
  | some state =>
    rw [stated, Option.some_or] at stored
    cases stored
    exact given row.id _ stated

/-- Moving a sale's value goes with giving it the state that assigns it there. -/
theorem Fits.disposes (fits : Fits state disposal) :
    some disposal.target = reservationFor (valueDisposition state) := by
  cases fits with
  | settled | failed | review => rfl
  | reversed either => rcases either with rfl | rfl <;> rfl

/-- Every step but one keeps the values where the states assign them. -/
theorem disposed_step (disposed : Disposed db) (act : Act db db' input process deed)
    (current : Current db process) (console : process.service ≠ .decideReversal)
    (reviews : ¬ Unreviewed input db process) : Disposed db' := by
  have marked : ∀ {t given}, deed = .marked t given →
      valueOf db t = reservationFor (valueDisposition given) → Disposed db' := by
    intro t given same value
    subst same
    refine disposed_of_deed disposed act ?_ fun _ _ => rfl
    intro t' state stated
    simp only [Deed.state, Option.ite_none_right_eq_some, Option.some.injEq] at stated
    obtain ⟨rfl, rfl⟩ := stated
    exact value
  have turn := act.turn
  cases deed with
  | opened row hold record context =>
    cases turn with
    | opens _ opening =>
      obtain ⟨sale, _, _, held⟩ := opening.holding
      refine disposed_of_deed disposed act ?_ ?_
      · intro t state stated
        simp only [Deed.state, Option.ite_none_right_eq_some, Option.some.injEq] at stated
        obtain ⟨rfl, rfl⟩ := stated
        simp [Deed.value, sale, held, opening.state, valueDisposition, reservationFor]
      · intro t stated
        simpa [Deed.state, Deed.value, sale] using stated
  | marked t given =>
    cases turn with
    | submits point _ =>
      simp only [Current, point] at current
      have held := disposed.value current
      exact marked rfl held
    | holds point _ _ =>
      simp only [Current, point] at current
      have held := disposed.value current
      exact marked rfl held
    | holdRecovery _ _ _ found =>
      have held := disposed.value (found.stateOf act.sound)
      exact marked rfl held
    | @requires call row point same sold =>
      simp only [Current, point] at current
      have known := act.known
      simp only [Known, KnownRequire, point] at known
      rcases known.2.2.2 with pending | underReview
      · have moved := act.moved
        simp only [Process.step, RequireReversal.step, point] at moved
        rcases unit_cases input (markReversalRequired call row input) db with
          ⟨next, result, _, _, went⟩ | ⟨fault, went⟩
        · exact absurd ⟨row, point, pending, next, result, went⟩ reviews
        · simp only [went, Prod.map] at moved
          rw [← moved]
          exact disposed
      · rw [underReview] at current
        have reviewed := disposed.value current
        exact marked rfl reviewed
  | moved state disposal context commission =>
    refine disposed_of_deed disposed act ?_ ?_
    · intro t given stated
      simp only [Deed.state, Option.ite_none_right_eq_some, Option.some.injEq] at stated
      obtain ⟨rfl, rfl⟩ := stated
      simpa [Deed.value] using turn.moved_fits.disposes
    · intro t stated
      simpa [Deed.state, Deed.value] using stated
  | reversed id movement t =>
    cases turn with
    | undoes => exact absurd rfl console
  | _ => exact disposed_of_deed disposed act (by simp [Deed.state]) fun _ _ => rfl

/-- Requiring the reversal of a pending sale leaves its value held, where it should be under
review. -/
theorem unreviewed_misplaces (disposed : Disposed db) (act : Act db db' input process deed)
    (current : Current db process) (unreviewed : Unreviewed input db process) :
    ¬ Disposed db' := by
  cases process with
  | requireReversal call =>
    obtain ⟨row, point, pending, next, result, went⟩ := unreviewed
    have known := act.known
    have moved := act.moved
    simp only [Known, KnownRequire, point] at known
    simp only [Current, point, pending] at current
    simp only [Process.step, RequireReversal.step, point, went, Prod.map] at moved
    subst moved
    obtain ⟨turn, did⟩ := markReversalRequired_turn point known.1 known.2.2.1 (unit_ok went)
    intro after
    have held := disposed.value current
    have states := did.states turn row.id
    have values := did.values act.sound turn row.id
    simp only [Deed.state, if_true, Option.some_or] at states
    simp only [Deed.value, Option.none_or] at values
    have wanted := after.value states
    rw [id, values, held] at wanted
    cases wanted
  | _ => exact unreviewed.elim

/-- One call after another, each free to die after any of its units of work, every reservation
has the status its sale's state assigns exactly as long as nobody requires the reversal of a sale
that is still pending. -/
theorem disposed_iff {past : List Proceeded} (console : .decideReversal ∉ allowed)
    (run : Run Opens (Sequential allowed) past d) :
    (∀ taken ∈ past, Disposed taken.after.store) ↔ ∀ taken ∈ past, ReviewsFirst taken := by
  refine run.always_iff (I := fun d => Disposed d.store) opens_alone alone_step ?_ ?_
  · intro d opens row mem
    rw [opens.1.transactions] at mem
    cases mem
  · intro d event d' settled disposed step
    constructor
    · intro after input process worked unreviewed
      obtain ⟨_, current, deed, act⟩ := worked_act settled step worked
      exact unreviewed_misplaces disposed act current unreviewed after
    · intro reviews
      rcases alone_act step with aside | ⟨input, process, worked⟩
      · rw [aside]
        exact disposed
      · obtain ⟨service, current, deed, act⟩ := worked_act settled step worked
        refine disposed_step disposed act current ?_ (reviews _ _ worked)
        intro same
        exact console (same ▸ service)

/-- The services whose runs may leave a sale anywhere on its way, and deposits. -/
def valueServices : List Service :=
  [.deposit, .createSale, .resolvePending, .recoverInFlight, .requireReversal, .completeReversal]

/-- A sale the provider says nothing about is left pending, and its reversal is required. -/
def reversalOfPending : List (Event Input Process) :=
  let unanswered := fun tag => drawing tag .indeterminate .success 0
  [.start (funds "shop"), .act 0 (unanswered "a"),
   .start (airtime "request"), .act 0 (unanswered "b"), .act 0 (unanswered "c"),
   .act 0 (unanswered "d"), .act 0 (unanswered "e"), .act 0 (unanswered "sale"),
   .act 0 (unanswered "f"), .act 0 (unanswered "g"), .act 0 (unanswered "h"),
   .start (.requireReversal ⟨"sale0", "shop", .begin⟩), .act 0 (unanswered "i"),
   .act 0 (unanswered "j")]

def reversalOfPendingRun : List Proceeded × Desk Db Process :=
  played (Desk.next services) reversalOfPending [] ⟨twoShops, none⟩

theorem reversalOfPending_runs : Run Opens (Sequential valueServices) reversalOfPendingRun.1
    reversalOfPendingRun.2 :=
  sequential_run _ reversalOfPending (by decide)

theorem reversalOfPending_misplaces : ∃ taken ∈ reversalOfPendingRun.1,
    ¬ Disposed taken.after.store :=
  ⟨_, List.mem_cons_self .., by unfold Disposed; decide⟩

/-- A sale can require reversal while its value is still held, not under review. -/
theorem reversal_required_while_held : ¬ ∀ past d,
    Run Opens (Sequential valueServices) past d → ∀ taken ∈ past, Disposed taken.after.store := by
  intro always
  obtain ⟨taken, mem, misplaced⟩ := reversalOfPending_misplaces
  exact misplaced (always _ _ reversalOfPending_runs taken mem)

theorem reversalOfPending_unreviewed : ¬ ∀ taken ∈ reversalOfPendingRun.1, ReviewsFirst taken := by
  intro reviews
  obtain ⟨taken, mem, misplaced⟩ := reversalOfPending_misplaces
  exact misplaced ((disposed_iff (by decide) reversalOfPending_runs).mpr reviews taken mem)

end Telga.Proofs
