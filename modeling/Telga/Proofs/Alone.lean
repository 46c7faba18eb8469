import Telga.Proofs.Arrivals

namespace Telga.Proofs
open Domain Persistence Application Library

/-- What a call remembers of a sale's state is how the sale is stored. -/
def Current (db : Db) : Process → Prop
  | .createSale sale =>
    match sale.point with
    | .submitting reserved => stateOf db reserved.id = some .reserved
    | .awaiting processing => stateOf db processing.id = some .processing
    | .applying processing _ => stateOf db processing.id = some .processing
    | .releasing processing => stateOf db processing.id = some .processing
    | _ => True
  | .recoverInFlight sweep =>
    match sweep.point with
    | .job _ _ current => stateOf db current.id = some current.state
    | .neverSubmitted work => stateOf db work.current.id = some .reserved
    | _ => True
  | .requireReversal call =>
    match call.point with
    | .requiring row => stateOf db row.id = some row.state
    | _ => True
  | _ => True

theorem current_of_start (call : Calls allowed db process) : Current db process := by
  obtain ⟨_, starting⟩ := call
  cases process with
  | createSale sale | recoverInFlight sweep | requireReversal call =>
    simp only [Process.Starting] at starting
    simp only [Current, starting]
  | _ => trivial

theorem stateOf_found (sound : Sound db) (found : findTransaction db t merchantId = some row) :
    stateOf db row.id = some row.state :=
  stateOf_of_mem sound.ids (findTransaction_ok found).1

/-- A call of `createSale` stores the state it goes on with. -/
theorem createSale_current (known : KnownSale db sale) (fresh : Fresh input db (.createSale sale))
    (current : Current db (.createSale sale)) (moved : sale.step input db = (db', sale')) :
    Current db' (.createSale sale') := by
  obtain ⟨_, came⟩ := createSale_came moved
  simp only [Current]
  cases point : sale'.point with
  | submitting reserved =>
    simp only [point, SaleCame] at came
    obtain ⟨here, opened⟩ := came
    obtain ⟨row, hold, record, context, opening, did, same, _⟩ := openSale_turn here fresh opened
    have states := did.states (.opens here opening) reserved.id
    simp only [Deed.state, same, if_true, Option.some_or, opening.state] at states
    exact states
  | awaiting processing =>
    simp only [point, SaleCame] at came
    obtain ⟨reserved, here, marked⟩ := came
    simp only [KnownSale, here] at known
    obtain ⟨turn, did, same, _⟩ := markProcessing_turn here known.1 marked
    have states := did.states turn reserved.id
    simp only [Deed.state, if_true, Option.some_or] at states
    rw [← same] at states
    exact states
  | applying processing submitted | releasing processing =>
    simp only [point, SaleCame] at came
    obtain ⟨here, rfl, _⟩ := came
    simpa only [Current, here] using current
  | _ => trivial

/-- A sweep goes on with the row as it read it. -/
theorem recoverInFlight_current (sound : Sound db) (current : Current db (.recoverInFlight sweep))
    (moved : sweep.step input db = (db', sweep')) : Current db' (.recoverInFlight sweep') := by
  have came := recoverInFlight_came moved
  simp only [Current]
  cases point : sweep'.point with
  | job row policy stored =>
    simp only [point, SweepCame] at came
    obtain ⟨_, rfl, found⟩ := came
    exact stateOf_found sound found
  | neverSubmitted work =>
    simp only [point, SweepCame] at came
    obtain ⟨here, rfl, reserved, _⟩ := came
    simp only [Current, here] at current
    exact reserved ▸ current
  | _ => trivial

theorem requireReversal_current {call : RequireReversal} (sound : Sound db)
    (moved : call.step input db = (db', call')) : Current db' (.requireReversal call') := by
  obtain ⟨_, _, came⟩ := requireReversal_came moved
  simp only [Current]
  cases point : call'.point with
  | requiring row =>
    simp only [point, RequireCame] at came
    obtain ⟨_, rfl, found, _⟩ := came
    exact stateOf_found sound found
  | _ => trivial

/-- With no other call at work in between, what a call remembers stays how the sale is stored. -/
theorem current_step (sound : Sound db) (known : Known db process)
    (fresh : Fresh input db process) (current : Current db process) :
    Current (process.step input db).1 (process.step input db).2 := by
  cases process with
  | createSale sale => exact createSale_current known fresh current rfl
  | recoverInFlight sweep => exact recoverInFlight_current sound current rfl
  | requireReversal call => exact requireReversal_current sound rfl
  | _ => trivial

/-- What a call knows of the database when it is the only one at work. -/
def EnlistedAlone (allowed : List Service) (db : Db) (process : Process) : Prop :=
  Enlisted allowed db process ∧ Current db process

theorem opens_alone (d : Desk Db Process) (opens : Opens d) :
    Settled Sound (EnlistedAlone allowed) d := by
  obtain ⟨blank, none⟩ := opens
  refine ⟨blank.sound, ?_⟩
  simp [none]

/-- One call after another, the database stays sound and every call knows how its sale is
stored. -/
theorem alone_step (d : Desk Db Process) (event : Event Input Process) (d' : Desk Db Process)
    (settled : Settled Sound (EnlistedAlone allowed) d) (step : Sequential allowed d event d') :
    Settled Sound (EnlistedAlone allowed) d' := by
  refine Settled.step ?_ ?_ d event d' settled step
  · intro db process _ call
    exact ⟨enlisted_of_start call, current_of_start call⟩
  · intro input db process sound known fresh
    obtain ⟨kept, knows, _⟩ := step_deeds input db process sound known.1 fresh
    exact ⟨kept, knows, current_step sound known.1.2 fresh known.2⟩

/-- An atomic step of the call at work. -/
theorem worked_act (settled : Settled Sound (EnlistedAlone allowed) d)
    (step : Sequential allowed d event d') (worked : Worked ⟨d, event, d'⟩ input process) :
    process.service ∈ allowed ∧ Current d.store process ∧
    ∃ deed, Act d.store d'.store input process deed := by
  obtain ⟨slot, same, there⟩ := worked
  dsimp only at same there
  subst same
  cases step with
  | act here fresh moved =>
    rw [here] at there
    cases there
    obtain ⟨known, current⟩ := settled.2 _ here
    exact ⟨known.1, current, act_of_step settled.1 known.2 fresh moved⟩

/-- A step either leaves the database alone, or is an atomic step of the call at work. -/
theorem alone_act (step : Sequential allowed d event d') :
    d'.store = d.store ∨ ∃ input process, Worked ⟨d, event, d'⟩ input process := by
  cases step with
  | start _ _ | crash => exact .inl rfl
  | act here _ _ => exact .inr ⟨_, _, _, rfl, here⟩

end Telga.Proofs
