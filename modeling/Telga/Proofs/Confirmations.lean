import Telga.Proofs.Alone

namespace Telga.Proofs
open Domain Persistence Application Library

/-- What the provider can say for certain about a sale: it delivered, it did not, or its gate
refused to be asked. -/
inductive Word
  | delivered
  | refused
  | gated

/-- A call to the provider about a sale ends, and says so. -/
inductive Says (transactionId : TransactionId) (input : Input) : Process → Word → Prop
  | sold : sale.point = .awaiting processing → processing.id = transactionId →
      input.submission = .answered result → result.outcome = .confirmedSuccess →
      Says transactionId input (.createSale sale) .delivered
  | unsold : sale.point = .awaiting processing → processing.id = transactionId →
      input.submission = .answered result →
      result.outcome = .confirmedFailure ∨ result.outcome = .rejected →
      Says transactionId input (.createSale sale) .refused
  | gated : sale.point = .awaiting processing → processing.id = transactionId →
      input.submission = .threw true token → Says transactionId input (.createSale sale) .gated
  | resolved : call.point = .awaiting row job correlationId →
      call.transactionId = transactionId → input.status = .answered status →
      status.outcome = .success → Says transactionId input (.resolvePending call) .delivered
  | unresolved : call.point = .awaiting row job correlationId →
      call.transactionId = transactionId → input.status = .answered status →
      status.outcome = .failure → Says transactionId input (.resolvePending call) .refused
  | recovered : sweep.point = .lookingUp work lookupStart → work.current.id = transactionId →
      input.status = .answered status → status.outcome = .success →
      Says transactionId input (.recoverInFlight sweep) .delivered
  | unrecovered : sweep.point = .lookingUp work lookupStart → work.current.id = transactionId →
      input.status = .answered status → status.outcome = .failure →
      Says transactionId input (.recoverInFlight sweep) .refused

/-- The provider said so at some step. -/
def Heard (past : List Proceeded) (transactionId : TransactionId) (word : Word) : Prop :=
  ∃ taken ∈ past, ∃ input process, Worked taken input process ∧
    Says transactionId input process word

/-- The sale was handed to the provider at some step. -/
def Submitted (past : List Proceeded) (transactionId : TransactionId) : Prop :=
  ∃ taken ∈ past, ∃ input sale processing, Worked taken input (.createSale sale) ∧
    sale.point = .awaiting processing ∧ processing.id = transactionId

/-- The step settles the value reserved for a sale. -/
def Settles (transactionId : TransactionId) (taken : Proceeded) : Prop :=
  valueOf taken.before.store transactionId ≠ some .settled ∧
  valueOf taken.after.store transactionId = some .settled

/-- The step releases the value reserved for a sale. -/
def Releases (transactionId : TransactionId) (taken : Proceeded) : Prop :=
  valueOf taken.before.store transactionId ≠ some .released ∧
  valueOf taken.after.store transactionId = some .released

/-- A status lookup that settles nothing: still pending, unknown, or an exception. -/
def Indefinite : Answer ProviderStatus → Prop
  | .answered status => status.outcome ≠ .success ∧ status.outcome ≠ .failure
  | .threw _ _ => True

/-- A submission that settles nothing: indeterminate, a duplicate, or an exception other than the
gate's. -/
def Indeterminate : Answer ProviderSubmissionResult → Prop
  | .answered result => result.outcome = .indeterminate ∨ result.outcome = .duplicate
  | .threw liveMoneyDisabled _ => liveMoneyDisabled = false

/-- A call is being given an answer that settles nothing, or acts on one it was given. -/
inductive Vague (input : Input) : Process → Prop
  | submission : sale.point = .awaiting processing → Indeterminate input.submission →
      Vague input (.createSale sale)
  | holding : sale.point = .applying processing submitted → submitted.state = .pending →
      Vague input (.createSale sale)
  | status : call.point = .awaiting row job correlationId → Indefinite input.status →
      Vague input (.resolvePending call)
  | resolving : call.point = .applying row job correlationId status →
      status.outcome ≠ .success → status.outcome ≠ .failure → Vague input (.resolvePending call)
  | lookup : sweep.point = .lookingUp work lookupStart → Indefinite input.status →
      Vague input (.recoverInFlight sweep)
  | noting : sweep.point = .noting work lookupMs outcome reference →
      outcome ≠ .confirmedSuccess → outcome ≠ .confirmedFailure →
      Vague input (.recoverInFlight sweep)
  | recovering : sweep.point = .applying work lookupMs outcome reference →
      outcome ≠ .confirmedSuccess → outcome ≠ .confirmedFailure →
      Vague input (.recoverInFlight sweep)

/-- A submission ends in the gate's exception, or a call acts on that. -/
inductive Gated (input : Input) : Process → Prop
  | submission : sale.point = .awaiting processing → input.submission = .threw true token →
      Gated input (.createSale sale)
  | releasing : sale.point = .releasing processing → Gated input (.createSale sale)

/-- What a merchant can spend, what is held or under review, and the two together. -/
def availableMinor (db : Db) (merchantId : MerchantId) : Int :=
  netMinor db merchantId [.merchantAvailable, .merchantFunds]

def heldMinor (db : Db) (merchantId : MerchantId) : Int :=
  netMinor db merchantId [.merchantReserved] + netMinor db merchantId [.merchantUnderReview]

/-- No merchant's balances differ. -/
def Steady (db db' : Db) : Prop :=
  ∀ merchantId, availableMinor db' merchantId = availableMinor db merchantId ∧
    heldMinor db' merchantId = heldMinor db merchantId ∧
    availableMinor db' merchantId + heldMinor db' merchantId =
      availableMinor db merchantId + heldMinor db merchantId

/-- What a call was told is what the provider said. -/
def Informed (past : List Proceeded) : Process → Prop
  | .createSale sale =>
    match sale.point with
    | .applying processing submitted =>
      (submitted.state = .successful → Heard past processing.id .delivered) ∧
      (submitted.state = .failed → Heard past processing.id .refused)
    | .releasing processing => Heard past processing.id .gated
    | _ => True
  | .resolvePending call =>
    match call.point with
    | .applying _ _ _ status =>
      (status.outcome = .success → Heard past call.transactionId .delivered) ∧
      (status.outcome = .failure → Heard past call.transactionId .refused)
    | _ => True
  | .recoverInFlight sweep =>
    match sweep.point with
    | .noting work _ outcome _ =>
      (outcome = .confirmedSuccess → Heard past work.current.id .delivered) ∧
      (outcome = .confirmedFailure → Heard past work.current.id .refused)
    | .applying work _ outcome _ =>
      (outcome = .confirmedSuccess → Heard past work.current.id .delivered) ∧
      (outcome = .confirmedFailure → Heard past work.current.id .refused)
    | _ => True
  | _ => True

theorem Heard.cons (heard : Heard past t word) : Heard (taken :: past) t word := by
  obtain ⟨earlier, mem, said⟩ := heard
  exact ⟨earlier, List.mem_cons_of_mem _ mem, said⟩

theorem heard_now (worked : Worked taken input process) (said : Says t input process word) :
    Heard (taken :: past) t word :=
  ⟨taken, List.mem_cons_self .., input, process, worked, said⟩

theorem informed_of_start (call : Calls allowed db process) : Informed past process := by
  obtain ⟨_, starting⟩ := call
  cases process with
  | createSale sale | resolvePending call | recoverInFlight sweep =>
    simp only [Process.Starting] at starting
    simp only [Informed, starting]
  | _ => trivial

/-- The submission's answer decides what a call of `createSale` goes on with. -/
theorem createSale_informed (worked : Worked taken input (.createSale sale))
    (moved : sale.step input db = (db', sale')) :
    Informed (taken :: past) (.createSale sale') := by
  obtain ⟨_, came⟩ := createSale_came moved
  simp only [Informed]
  cases point : sale'.point with
  | applying processing submitted =>
    simp only [point, SaleCame] at came
    obtain ⟨here, _, ⟨result, answered, rfl⟩ | ⟨token, _, rfl⟩⟩ := came
    · constructor
      · intro successful
        refine heard_now worked (.sold here rfl answered ?_)
        cases outcome : result.outcome <;>
          simp_all [submittedAs, stateForSubmission]
      · intro failed
        refine heard_now worked (.unsold here rfl answered ?_)
        cases outcome : result.outcome <;>
          simp_all [submittedAs, stateForSubmission]
    · exact ⟨fun told => (by cases told), fun told => (by cases told)⟩
  | releasing processing =>
    simp only [point, SaleCame] at came
    obtain ⟨here, _, token, threw⟩ := came
    exact heard_now worked (.gated here rfl threw)
  | _ => trivial

theorem resolvePending_informed {call : ResolvePending}
    (worked : Worked taken input (.resolvePending call))
    (moved : call.step input db = (db', call')) :
    Informed (taken :: past) (.resolvePending call') := by
  obtain ⟨same, _, came⟩ := resolvePending_came moved
  simp only [Informed]
  cases point : call'.point with
  | applying row job correlationId status =>
    simp only [point, ResolveCame] at came
    obtain ⟨here, _, answered⟩ := came
    rw [same]
    constructor
    · exact fun success => heard_now worked (.resolved here rfl answered success)
    · exact fun failure => heard_now worked (.unresolved here rfl answered failure)
  | _ => trivial

theorem recoverInFlight_informed (worked : Worked taken input (.recoverInFlight sweep))
    (informed : Informed past (.recoverInFlight sweep))
    (moved : sweep.step input db = (db', sweep')) :
    Informed (taken :: past) (.recoverInFlight sweep') := by
  have came := recoverInFlight_came moved
  simp only [Informed]
  cases point : sweep'.point with
  | noting work lookupMs outcome reference =>
    simp only [point, SweepCame] at came
    obtain ⟨start, here, _, ⟨status, answered, rfl⟩ | ⟨live, token, _, rfl⟩⟩ := came
    · constructor
      · intro success
        exact heard_now worked (.recovered here rfl answered (classifyStatus_success.mp success))
      · intro failure
        exact heard_now worked (.unrecovered here rfl answered (classifyStatus_failure.mp failure))
    · obtain ⟨notSuccess, notFailure⟩ := classifyLookupFailure_indeterminate live token
      exact ⟨fun success => absurd success notSuccess, fun failure => absurd failure notFailure⟩
  | applying work lookupMs outcome reference =>
    simp only [point, SweepCame] at came
    simp only [Informed, came] at informed
    exact ⟨fun success => (informed.1 success).cons, fun failure => (informed.2 failure).cons⟩
  | _ => trivial

theorem informed_step (worked : Worked taken input process) (informed : Informed past process) :
    Informed (taken :: past) (process.step input db).2 := by
  cases process with
  | createSale sale => exact createSale_informed worked rfl
  | resolvePending call => exact resolvePending_informed worked rfl
  | recoverInFlight sweep => exact recoverInFlight_informed worked informed rfl
  | _ => trivial

/-- The history of a run of calls one after another: each knows what it was told, and what was
handed to the provider is stored and no longer reserved. -/
structure Traced (allowed : List Service) (past : List Proceeded) (d : Desk Db Process) : Prop where
  settled : Settled Sound (EnlistedAlone allowed) d
  informed : ∀ process, d.current = some process → Informed past process
  sent : ∀ t, Submitted past t → ∃ state, stateOf d.store t = some state ∧ state ≠ .reserved

/-- A sale that has left the reserved state never comes back to it. -/
theorem left_reserved (act : Act db db' input process deed) (stored : stateOf db t = some state)
    (left : state ≠ .reserved) : ∃ now, stateOf db' t = some now ∧ now ≠ .reserved := by
  rw [act.did.states act.turn]
  cases given : deed.state t with
  | none => exact ⟨state, stored, left⟩
  | some now =>
    refine ⟨now, rfl, ?_⟩
    intro reserved
    rw [reserved] at given
    obtain ⟨row, hold, record, context, rfl, same⟩ := act.turn.reserved_opens given
    have turn := act.turn
    cases turn with
    | opens _ opening =>
      obtain ⟨old, mem, id, _⟩ := mem_of_stateOf stored
      exact opening.absent ⟨old, mem, id.trans same.symm⟩

theorem traced_step (past : List Proceeded) (d : Desk Db Process) (event : Event Input Process)
    (d' : Desk Db Process) (traced : Traced allowed past d)
    (step : Sequential allowed d event d') : Traced allowed (⟨d, event, d'⟩ :: past) d' := by
  have settled := alone_step d event d' traced.settled step
  have sent : ∀ t, Submitted (⟨d, event, d'⟩ :: past) t →
      ∃ state, stateOf d.store t = some state ∧ state ≠ .reserved := by
    intro t ⟨taken, mem, input, sale, processing, worked, point, same⟩
    rcases List.mem_cons.mp mem with rfl | mem
    · obtain ⟨_, current, _⟩ := worked_act traced.settled step worked
      simp only [Current, point] at current
      exact ⟨.processing, same ▸ current, by simp⟩
    · exact traced.sent t ⟨taken, mem, input, sale, processing, worked, point, same⟩
  refine ⟨settled, ?_, ?_⟩
  · intro process here
    cases step with
    | start _ admitted =>
      cases here
      exact informed_of_start admitted
    | crash => cases here
    | act there fresh moved =>
      cases here
      have stepped : (Process.step _ _ _).2 = process := congrArg Prod.snd moved
      rw [← stepped]
      exact informed_step ⟨_, rfl, there⟩ (traced.informed _ there)
  · intro t submitted
    obtain ⟨state, stored, left⟩ := sent t submitted
    rcases alone_act step with aside | ⟨input, process, worked⟩
    · rw [aside]
      exact ⟨state, stored, left⟩
    · obtain ⟨_, _, deed, act⟩ := worked_act traced.settled step worked
      exact left_reserved act stored left

theorem traced (run : Run Opens (Sequential allowed) past d) : Traced allowed past d := by
  refine run.history ?_ traced_step
  intro d opens
  refine ⟨opens_alone d opens, ?_, ?_⟩
  · simp [opens.2]
  · rintro t ⟨taken, mem, _⟩
    cases mem

/-- A sale's value comes to be where it was not by being moved there. -/
theorem moves_there (act : Act db db' input process deed) (before : valueOf db t ≠ some status)
    (after : valueOf db' t = some status) (ended : status ≠ .held) :
    ∃ state disposal context commission, deed = .moved state disposal context commission ∧
      disposal.target = status ∧ context.transactionId = t := by
  rw [act.did.values act.sound act.turn] at after
  have turn := act.turn
  cases deed with
  | moved state disposal context commission =>
    by_cases same : t = context.transactionId
    · simp only [Deed.value, same, if_true, Option.some_or, Option.some.injEq] at after
      exact ⟨_, _, _, _, rfl, after, same.symm⟩
    · simp only [Deed.value, same, if_false, Option.none_or] at after
      exact absurd after before
  | opened row hold record context =>
    cases turn with
    | opens _ opening =>
      obtain ⟨_, _, _, held⟩ := opening.holding
      by_cases same : t = hold.transactionId
      · simp only [Deed.value, same, if_true, Option.some_or, held, Option.some.injEq] at after
        exact absurd after.symm ended
      · simp only [Deed.value, same, if_false, Option.none_or] at after
        exact absurd after before
  | _ =>
    simp only [Deed.value, Option.none_or] at after
    exact absurd after before

theorem settles_moves (act : Act taken.before.store taken.after.store input process deed)
    (settles : Settles t taken) :
    ∃ state profitMinor profitBps context commission,
      deed = .moved state (.settle profitMinor profitBps) context commission ∧
        context.transactionId = t := by
  obtain ⟨state, disposal, context, commission, same, target, here⟩ :=
    moves_there act settles.1 settles.2 (by simp)
  cases disposal with
  | settle profitMinor profitBps => exact ⟨_, _, _, _, _, same, here⟩
  | _ => cases target

theorem releases_moves (act : Act taken.before.store taken.after.store input process deed)
    (releases : Releases t taken) :
    ∃ state disposal context commission, deed = .moved state disposal context commission ∧
      (disposal = .release ∨ disposal = .reviewRelease) ∧ context.transactionId = t := by
  obtain ⟨state, disposal, context, commission, same, target, here⟩ :=
    moves_there act releases.1 releases.2 (by simp)
  refine ⟨_, _, _, _, same, ?_, here⟩
  cases disposal with
  | release => exact .inl rfl
  | reviewRelease => exact .inr rfl
  | _ => cases target

/-- A call settles only what it was told was delivered. -/
theorem settles_on_word (turn : Turn db process
      (.moved state (.settle profitMinor profitBps) context commission))
    (informed : Informed past process) : Heard past context.transactionId .delivered := by
  cases turn with
  | settles point successful concerns =>
    simp only [Informed, point] at informed
    exact concerns.1 ▸ informed.1 successful
  | resolveSuccess point success found =>
    simp only [Informed, point] at informed
    exact found.1 ▸ informed.1 success
  | recoverSuccess point found =>
    simp only [Informed, point] at informed
    exact found.1 ▸ informed.1 trivial
  | completes _ _ either => rcases either with either | either <;> cases either

/-- A call releases only what it was told was refused, or gated, or what is still reserved. -/
theorem releases_on_word (turn : Turn db process (.moved state disposal context commission))
    (release : disposal = .release ∨ disposal = .reviewRelease)
    (informed : Informed past process) (current : Current db process)
    (supervisor : process.service ≠ .completeReversal) :
    Heard past context.transactionId .refused ∨ Heard past context.transactionId .gated ∨
    stateOf db context.transactionId = some .reserved := by
  cases turn with
  | fails point failed concerns =>
    simp only [Informed, point] at informed
    exact .inl (concerns.1 ▸ informed.2 failed)
  | releases point concerns =>
    simp only [Informed, point] at informed
    exact .inr (.inl (concerns.1 ▸ informed))
  | resolveFailure point failure found =>
    simp only [Informed, point] at informed
    exact .inl (found.1 ▸ informed.2 failure)
  | neverSubmitted point concerns =>
    simp only [Current, point] at current
    exact .inr (.inr (concerns.1 ▸ current))
  | recoverFailure point found =>
    simp only [Informed, point] at informed
    exact .inl (found.1 ▸ informed.2 trivial)
  | completes => exact absurd rfl supervisor
  | settles | resolveSuccess | recoverSuccess | escalatePending | escalateRecovery =>
    rcases release with release | release <;> cases release

/-- Legs whose amounts cancel on a merchant's available account and on its two held ones. -/
theorem steady_of_legs (did : Did deed db db')
    (attributed : ∀ leg ∈ deed.legs, leg.merchantId ≠ none)
    (available : ∀ merchantId,
      total (legNet merchantId [.merchantAvailable, .merchantFunds]) deed.legs = 0)
    (held : ∀ merchantId, total (legNet merchantId [.merchantReserved]) deed.legs +
      total (legNet merchantId [.merchantUnderReview]) deed.legs = 0) : Steady db db' := by
  obtain ⟨posting, accounts, _, grown⟩ := did.ledger
  have own : ∀ leg ∈ deed.legs, owner accounts leg = leg.merchantId := by
    intro leg mem
    obtain ⟨merchantId, named⟩ := Option.ne_none_iff_exists'.mp (attributed leg mem)
    exact owner_some named
  intro merchantId
  have grows : ∀ kinds, netMinor db' merchantId kinds =
      netMinor db merchantId kinds + total (legNet merchantId kinds) deed.legs :=
    fun kinds => netMinor_posting grown fun leg mem _ => own leg mem
  have := available merchantId
  have := held merchantId
  simp only [availableMinor, heldMinor, grows]
  omega

theorem steady_of_none (did : Did deed db db') (none : deed.legs = []) : Steady db db' :=
  steady_of_legs did (by simp [none]) (by simp [none]) (by simp [none])

/-- Putting held value under review changes neither what can be spent nor what is held. -/
theorem steady_of_review (did : Did (.moved state .review context commission) db db') :
    Steady db db' := by
  refine steady_of_legs did ?_ ?_ ?_
  · simp [Deed.legs, Disposal.legs, reviewLegs, bucketTransfer, merchantLeg]
  · intro merchantId
    simp [Deed.legs, Disposal.legs, reviewLegs, bucketTransfer, merchantLeg, legNet]
  · intro merchantId
    by_cases own : context.merchantId = merchantId
    · simp [Deed.legs, Disposal.legs, reviewLegs, bucketTransfer, merchantLeg, legNet, own,
        signedMinor, signed]
    · simp [Deed.legs, Disposal.legs, reviewLegs, bucketTransfer, merchantLeg, legNet, own]

/-- A call that is given an answer that settles nothing, or acts on one, moves no balance. -/
theorem Vague.steady (vague : Vague input process) (act : Act db db' input process deed) :
    Steady db db' := by
  obtain ⟨_, _, _, _, turn, did⟩ := act
  cases vague with
  | submission point _ =>
    cases turn with
    | quiet => exact steady_of_none did rfl
    | opens here | submits here | settles here | fails here | holds here | releases here =>
      simp [point] at here
  | holding point unknown =>
    cases turn with
    | quiet => exact steady_of_none did rfl
    | holds => exact steady_of_none did rfl
    | settles here successful =>
      rw [point] at here
      cases here
      simp [unknown] at successful
    | fails here failed =>
      rw [point] at here
      cases here
      simp [unknown] at failed
    | opens here | submits here | releases here => simp [point] at here
  | status point _ =>
    cases turn with
    | quiet => exact steady_of_none did rfl
    | resolveSuccess here | resolveFailure here | escalatePending here => simp [point] at here
  | resolving point notSuccess notFailure =>
    cases turn with
    | quiet => exact steady_of_none did rfl
    | resolveSuccess here success =>
      rw [point] at here
      cases here
      exact absurd success notSuccess
    | resolveFailure here failure =>
      rw [point] at here
      cases here
      exact absurd failure notFailure
    | escalatePending => exact steady_of_review did
  | lookup point _ | noting point _ _ =>
    cases turn with
    | quiet => exact steady_of_none did rfl
    | neverSubmitted here | recoverSuccess here | recoverFailure here | holdRecovery here
    | escalateRecovery here => simp [point] at here
  | recovering point notSuccess notFailure =>
    cases turn with
    | quiet => exact steady_of_none did rfl
    | neverSubmitted here => simp [point] at here
    | recoverSuccess here =>
      rw [point] at here
      cases here
      exact absurd rfl notSuccess
    | recoverFailure here =>
      rw [point] at here
      cases here
      exact absurd rfl notFailure
    | holdRecovery => exact steady_of_none did rfl
    | escalateRecovery => exact steady_of_review did

/-- With calls made one after another, each free to die after any of its units of work, a sale's
value is settled only once the provider said it delivered, and released only once it said it did
not, or its gate refused the submission, or nothing was submitted; and nothing else the provider
says or throws moves a balance. -/
theorem value_moves_on_word {later earlier : List Proceeded} {taken : Proceeded}
    (supervisor : .completeReversal ∉ allowed)
    (run : Run Opens (Sequential allowed) (later ++ taken :: earlier) d)
    (transactionId : TransactionId) :
    (Settles transactionId taken → Heard earlier transactionId .delivered) ∧
    (Releases transactionId taken → Heard earlier transactionId .refused ∨
      Heard earlier transactionId .gated ∨ ¬ Submitted earlier transactionId) ∧
    ∀ input process, Worked taken input process → Vague input process →
      Steady taken.before.store taken.after.store := by
  obtain ⟨before, step⟩ := run.earlier
  have traced := traced before
  have acts : ∀ input process, Worked taken input process → _ :=
    fun input process worked => worked_act traced.settled step worked
  refine ⟨?_, ?_, ?_⟩
  · intro settles
    rcases alone_act step with aside | ⟨input, process, worked⟩
    · exact absurd (aside ▸ settles.2) settles.1
    · obtain ⟨_, _, deed, act⟩ := acts input process worked
      obtain ⟨slot, event, here⟩ := worked
      obtain ⟨_, _, _, _, _, rfl, rfl⟩ := settles_moves act settles
      exact settles_on_word act.turn (traced.informed process here)
  · intro releases
    rcases alone_act step with aside | ⟨input, process, worked⟩
    · exact absurd (aside ▸ releases.2) releases.1
    · obtain ⟨service, current, deed, act⟩ := acts input process worked
      obtain ⟨slot, event, here⟩ := worked
      obtain ⟨_, _, _, _, rfl, release, rfl⟩ := releases_moves act releases
      have other : process.service ≠ .completeReversal := fun same => supervisor (same ▸ service)
      rcases releases_on_word act.turn release (traced.informed process here) current other with
        refused | gated | reserved
      · exact .inl refused
      · exact .inr (.inl gated)
      · refine .inr (.inr fun submitted => ?_)
        obtain ⟨state, stored, left⟩ := traced.sent _ submitted
        rw [reserved] at stored
        exact left (Option.some.inj stored).symm
  · intro input process worked vague
    obtain ⟨_, _, deed, act⟩ := acts input process worked
    exact vague.steady act

/-- The services that sell, look up and sweep, and deposits. -/
def saleServices : List Service :=
  [.deposit, .createSale, .resolvePending, .recoverInFlight]

/-- A sale the provider says nothing about, then a lookup that finds it delivered. -/
def confirmedLate : List (Event Input Process) :=
  let unanswered := fun tag => drawing tag .indeterminate .success 0
  [.start (funds "shop"), .act 0 (unanswered "a"),
   .start (airtime "request"), .act 0 (unanswered "b"), .act 0 (unanswered "c"),
   .act 0 (unanswered "d"), .act 0 (unanswered "e"), .act 0 (unanswered "sale"),
   .act 0 (unanswered "f"), .act 0 (unanswered "g"), .act 0 (unanswered "h"),
   .start (.resolvePending ⟨"sale0", "shop", .begin⟩), .act 0 (unanswered "i"),
   .act 0 (unanswered "j"), .act 0 (unanswered "k"), .act 0 (unanswered "l"),
   .act 0 (unanswered "m")]

theorem confirmedLate_settles : ∃ taken earlier,
    (played (Desk.next services) confirmedLate [] ⟨twoShops, none⟩).1 = taken :: earlier ∧
    Settles "sale0" taken ∧ Heard earlier "sale0" .delivered := by
  have run : Run Opens (Sequential saleServices) ([] ++ _ :: _) _ :=
    sequential_run saleServices confirmedLate (by decide)
  refine ⟨_, _, rfl, ⟨?_, ?_⟩, ?_⟩
  · decide
  · decide
  · exact (value_moves_on_word (by decide) run "sale0").1 ⟨by decide, by decide⟩

/-- A sale whose submission ends in the gate's exception. -/
def gatedSubmission : List (Event Input Process) :=
  let answered := fun tag => drawing tag .confirmedSuccess .success 0
  let threw := fun tag => { answered tag with submission := .threw true "" }
  [.start (funds "shop"), .act 0 (answered "a"),
   .start (airtime "request"), .act 0 (answered "b"), .act 0 (answered "c"),
   .act 0 (answered "d"), .act 0 (answered "e"), .act 0 (answered "sale"),
   .act 0 (answered "f"), .act 0 (threw "g"), .act 0 (answered "h")]

/-- The gate's exception is one the sale is released on. -/
theorem gate_moves_balances : ¬ ∀ later taken earlier d,
    Run Opens (Sequential saleServices) (later ++ taken :: earlier) d → ∀ transactionId,
    (Settles transactionId taken → Heard earlier transactionId .delivered) ∧
    (Releases transactionId taken → Heard earlier transactionId .refused ∨
      ¬ Submitted earlier transactionId) ∧
    ∀ input process, Worked taken input process → Vague input process ∨ Gated input process →
      Steady taken.before.store taken.after.store := by
  intro claimed
  have run := sequential_run saleServices gatedSubmission (by decide)
  have steady := (claimed [] _ _ _ run "sale0").2.2 _ _ ⟨0, rfl, rfl⟩ (.inr (.releasing rfl))
  have available := (steady "shop").1
  revert available
  decide

end Telga.Proofs
