import Telga.Proofs.Runs

namespace Telga.Proofs
open Domain Persistence Application Library

/-- The services that decide what state a sale is in. -/
def stateServices : List Service :=
  [.createSale, .resolvePending, .recoverInFlight, .requireReversal]

/-- A step of one of these services gives no other state to a sale it found in a terminal one. -/
def KeepsTerminal (taken : Happened) : Prop :=
  ∀ input process, Acted taken input process → process.service ∈ stateServices →
    ∀ transactionId state, stateOf taken.before.store transactionId = some state →
      isTerminal state = true → stateOf taken.after.store transactionId = some state

/-- A unit of work that goes through and stores a state for a sale which it decided from a copy
of the sale read before it, without looking at the stored row again. -/
inductive Blind (input : Input) (db : Db) : Process → TransactionId → Prop
  | submits : sale.point = .submitting reserved →
      Commits input (markProcessing sale reserved input) db →
      Blind input db (.createSale sale) reserved.id
  | holds : sale.point = .applying processing submitted → submitted.state = .pending →
      Commits input (holdSale sale processing submitted input) db →
      Blind input db (.createSale sale) processing.id
  | requires : call.point = .requiring row →
      Commits input (markReversalRequired call row input) db →
      Blind input db (.requireReversal call) row.id

/-- A step that stores a state without looking finds the sale in a state it can still leave. -/
def FindsOpen (taken : Happened) : Prop :=
  ∀ input process, Acted taken input process →
    ∀ transactionId, Blind input taken.before.store process transactionId →
      ∀ state, stateOf taken.before.store transactionId = some state → isTerminal state = false

theorem applyOutcome_pending (unknown : submitted.state = .pending) :
    applyOutcome sale processing submitted input = holdSale sale processing submitted input := by
  funext db
  simp only [applyOutcome, unknown]

/-- What a blind unit of work stores is a state that is not terminal. -/
theorem Blind.marks (blind : Blind input db process t) (known : Known db process)
    (moved : (process.step input db).1 = db') :
    ∃ state, isTerminal state = false ∧
      Turn db process (.marked t state) ∧ Did (.marked t state) db db' := by
  cases blind with
  | submits point commits =>
    obtain ⟨next, processing, went⟩ := commits
    simp only [Known, KnownSale, point] at known
    simp only [Process.step, CreateSale.step, point, went, Prod.map] at moved
    subst moved
    obtain ⟨turn, did, _⟩ := markProcessing_turn point known.1 (unit_ok went)
    exact ⟨.processing, rfl, turn, did⟩
  | holds point unknown commits =>
    obtain ⟨next, result, went⟩ := commits
    simp only [Known, KnownSale, point] at known
    simp only [Process.step, CreateSale.step, point, applyOutcome_pending unknown, went,
      Prod.map] at moved
    subst moved
    obtain ⟨turn, did⟩ := holdSale_turn point unknown known.1 (unit_ok went)
    exact ⟨.pending, rfl, turn, did⟩
  | requires point commits =>
    obtain ⟨next, result, went⟩ := commits
    simp only [Known, KnownRequire, point] at known
    simp only [Process.step, RequireReversal.step, point, went, Prod.map] at moved
    subst moved
    obtain ⟨same, _, sold, _⟩ := known
    obtain ⟨turn, did⟩ := markReversalRequired_turn point same sold (unit_ok went)
    exact ⟨.reversalRequired, rfl, turn, did⟩

/-- A state given without moving the value was given blindly, or to a sale that was still
processing, unless the unit of work was rolled back. -/
theorem Turn.marked_blind (turn : Turn db process (.marked t state)) (sound : Sound db)
    (moved : (process.step input db).1 = db') :
    db' = db ∨ Blind input db process t ∨ stateOf db t = some .processing := by
  cases turn with
  | @submits sale reserved point _ =>
    simp only [Process.step, CreateSale.step, point] at moved
    cases went : unit input (markProcessing sale reserved input) db with
    | mk next answer =>
      cases answer with
      | ok processing => exact .inr (.inl (.submits point ⟨_, _, went⟩))
      | error fault =>
        simp only [went, Prod.map] at moved
        exact .inl (moved ▸ unit_error went)
  | @holds sale processing submitted point unknown _ =>
    simp only [Process.step, CreateSale.step, point, applyOutcome_pending unknown] at moved
    cases went : unit input (holdSale sale processing submitted input) db with
    | mk next answer =>
      cases answer with
      | ok result => exact .inr (.inl (.holds point unknown ⟨_, _, went⟩))
      | error fault =>
        simp only [went, Prod.map] at moved
        exact .inl (moved ▸ unit_error went)
  | holdRecovery _ _ _ found => exact .inr (.inr (found.stateOf sound))
  | @requires call row point _ _ =>
    simp only [Process.step, RequireReversal.step, point] at moved
    cases went : unit input (markReversalRequired call row input) db with
    | mk next answer =>
      cases answer with
      | ok result => exact .inr (.inl (.requires point ⟨_, _, went⟩))
      | error fault =>
        simp only [went, Prod.map] at moved
        exact .inl (moved ▸ unit_error went)

/-- A step of these services keeps the terminal states when no blind unit of work finds one. -/
theorem keeps_of_open (act : Act db db' input process deed)
    (service : process.service ∈ stateServices)
    (stored : stateOf db t = some state) (terminal : isTerminal state = true)
    (sees : Blind input db process t → isTerminal state = false) :
    stateOf db' t = some state := by
  obtain ⟨sound, _, _, moved, turn, did⟩ := act
  obtain ⟨row, mem, id, stated⟩ := mem_of_stateOf stored
  have ended : Ended db t := id ▸ sound.ended row mem (stated ▸ terminal)
  have states := did.states turn t
  rw [stored] at states
  cases deed with
  | opened opened hold record context =>
    cases turn with
    | opens _ opening =>
      have apart : t ≠ opened.id := fun same => opening.absent ⟨row, mem, id.trans same⟩
      simpa [Deed.state, apart] using states
  | marked given given' =>
    by_cases same : t = given
    · subst same
      rcases turn.marked_blind sound moved with rolledBack | blind | processing
      · rw [rolledBack]
        exact stored
      · rw [sees blind] at terminal
        cases terminal
      · rw [stored] at processing
        cases processing
        cases terminal
    · simpa [Deed.state, same] using states
  | moved given disposal context commission =>
    have apart : t ≠ context.transactionId := by
      intro same
      have origin := did.origin sound
      rw [same] at ended
      rcases ended with ended | ended
      · rw [origin] at ended
        exact disposal.origin_open.1 (Option.some.inj ended)
      · rw [origin] at ended
        exact disposal.origin_open.2 (Option.some.inj ended)
    simpa [Deed.state, apart] using states
  | reversed id movement given =>
    cases turn with
    | undoes => simp [stateServices, Process.service] at service
  | _ => simpa [Deed.state] using states

/-- A terminal state stays exactly as long as no unit of work that stores a state without looking
at the row finds it terminal: `createSale` marking its sale as processing or pending, and
`requireReversal`. -/
theorem terminal_stays_iff {past : List Happened} (run : Run Begins (Interleaved allowed) past w) :
    (∀ taken ∈ past, KeepsTerminal taken) ↔ ∀ taken ∈ past, FindsOpen taken := by
  refine forall₂_congr fun taken mem => ?_
  constructor
  · intro keeps input process acted t blind state stored
    obtain ⟨_, act⟩ := acted_deed run mem acted
    obtain ⟨given, still, turn, did⟩ := blind.marks act.known act.moved
    cases terminal : isTerminal state with
    | false => rfl
    | true =>
      have service : process.service ∈ stateServices := by
        cases blind <;> simp [stateServices, Process.service]
      have kept := keeps _ _ acted service t state stored terminal
      have states := did.states turn t
      simp only [Deed.state, if_true, Option.some_or] at states
      rw [states] at kept
      cases kept
      rw [still] at terminal
      cases terminal
  · intro finds input process acted service t state stored terminal
    obtain ⟨_, act⟩ := acted_deed run mem acted
    exact keeps_of_open act service stored terminal
      fun blind => finds _ _ acted t blind state stored

/-- A supervisor's call reads a pending sale; a status lookup settles it; then the call stores
its own state. -/
def lateReversal : List (Event Input Process) :=
  let unanswered := fun tag => drawing tag .indeterminate .success 0
  [.start (funds "shop"), .act 0 (unanswered "a"),
   .start (airtime "request"), .act 1 (unanswered "b"), .act 1 (unanswered "c"),
   .act 1 (unanswered "d"), .act 1 (unanswered "e"), .act 1 (unanswered "sale"),
   .act 1 (unanswered "f"), .act 1 (unanswered "g"), .act 1 (unanswered "h"),
   .start (.requireReversal ⟨"sale0", "shop", .begin⟩), .act 2 (unanswered "i"),
   .start (.resolvePending ⟨"sale0", "shop", .begin⟩), .act 3 (unanswered "j"),
   .act 3 (unanswered "k"), .act 3 (unanswered "l"), .act 3 (unanswered "m"),
   .act 3 (unanswered "n"), .act 2 (unanswered "o")]

/-- Those events, played out at the two shops. -/
def lateReversalRun : List Happened × World Db Process :=
  played (World.next services) lateReversal [] ⟨twoShops, []⟩

theorem lateReversal_runs : Run Begins (Interleaved (.deposit :: stateServices)) lateReversalRun.1
    lateReversalRun.2 :=
  interleaved_run _ lateReversal (by decide)

theorem lateReversal_restates : ∃ taken ∈ lateReversalRun.1, ¬ KeepsTerminal taken := by
  refine ⟨_, List.mem_cons_self .., fun keeps => ?_⟩
  have kept := keeps _ _ ⟨2, rfl, rfl⟩ (by decide) "sale0" .successful (by decide) rfl
  revert kept
  decide

/-- The four services and deposits are enough for a settled sale to be given another state. -/
theorem settled_sale_restated : ¬ ∀ past w,
    Run Begins (Interleaved (.deposit :: stateServices)) past w →
    ∀ taken ∈ past, KeepsTerminal taken := by
  intro always
  obtain ⟨taken, mem, broken⟩ := lateReversal_restates
  exact broken (always _ _ lateReversal_runs taken mem)

theorem lateReversal_blind : ¬ ∀ taken ∈ lateReversalRun.1, FindsOpen taken := by
  intro finds
  obtain ⟨taken, mem, broken⟩ := lateReversal_restates
  exact broken ((terminal_stays_iff lateReversal_runs).mpr finds taken mem)

end Telga.Proofs
