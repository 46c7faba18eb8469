import Telga.Proofs.Arrivals
import Telga.Proofs.ValueLeavesOnce

namespace Telga.Proofs
open Domain Persistence Application Library

/-- What makes calls the same request: the shop, the till, and the id the client gave it. -/
structure RequestIdentity where
  merchantId : MerchantId
  deviceId : DeviceId
  clientRequestId : String

/-- The key of a request. The product, the amount and the recipient do not enter into it. -/
def RequestIdentity.key (identity : RequestIdentity) : IdempotencyKey :=
  deriveIdempotencyKey
    { merchantId := identity.merchantId, deviceId := identity.deviceId, productId := "",
      amount := ⟨0, safe_zero⟩, recipient := "", clientRequestId := identity.clientRequestId }

structure Carries (identity : RequestIdentity) (call : SaleCall) : Prop where
  merchant : call.request.merchantId = identity.merchantId
  device : call.request.deviceId = identity.deviceId
  request : call.request.clientRequestId = identity.clientRequestId

def SamePayload (a b : SaleCall) : Prop :=
  a.request.productId = b.request.productId ∧ a.request.amount = b.request.amount ∧
  a.request.recipient = b.request.recipient

theorem Carries.key (carries : Carries identity call) : call.key = identity.key :=
  deriveIdempotencyKey_congr carries.merchant carries.device carries.request

/-- Calls of one request for the same sale have one fingerprint. -/
theorem SamePayload.fingerprint (same : SamePayload a b) (carriesA : Carries identity a)
    (carriesB : Carries identity b) : a.fingerprint = b.fingerprint := by
  obtain ⟨product, amount, recipient⟩ := same
  unfold SaleCall.fingerprint payloadFingerprint canonicalPayload SaleCall.intent
  rw [carriesA.merchant, carriesA.device, carriesA.request, carriesB.merchant, carriesB.device,
    carriesB.request, product, amount, recipient]

/-- The record the database keeps of a request. -/
def recordOf (identity : RequestIdentity) (db : Db) : Option IdempotencyRow :=
  findIdempotencyRecord db identity.merchantId identity.key

theorem Carries.recordOf (carries : Carries identity call) (db : Db) :
    findIdempotencyRecord db call.request.merchantId call.key = recordOf identity db := by
  rw [carries.merchant, carries.key]
  rfl

/-- Answering a request changes nothing its record is found by or compared by. -/
theorem recordOf_answered (answered : Answered db.idempotencyRecords db'.idempotencyRecords) :
    recordOf identity db' = none ∧ recordOf identity db = none ∨
    ∃ record record', recordOf identity db = some record ∧ recordOf identity db' = some record' ∧
      record'.transactionId = record.transactionId ∧
      record'.payloadFingerprint = record.payloadFingerprint := by
  obtain ⟨change, keeps, after⟩ := answered
  have same : (fun row : IdempotencyRow =>
      decide (row.merchantId = identity.merchantId ∧ row.key = identity.key)) ∘ change =
      fun row => decide (row.merchantId = identity.merchantId ∧ row.key = identity.key) := by
    funext row
    obtain ⟨state, now, eq⟩ := keeps row
    simp only [Function.comp, eq]
  unfold recordOf findIdempotencyRecord
  rw [after, List.find?_map, same]
  cases db.idempotencyRecords.find? fun row =>
      decide (row.merchantId = identity.merchantId ∧ row.key = identity.key) with
  | none => exact .inl ⟨rfl, rfl⟩
  | some record =>
    obtain ⟨state, now, eq⟩ := keeps record
    exact .inr ⟨record, _, rfl, rfl, by rw [eq], by rw [eq]⟩

/-- A call that has opened no sale and whose reservation is not accepted writes nothing. -/
theorem aside_step {sale sale' : CreateSale} (aside : SalePoint.transaction sale.point = none)
    (refused : ¬ Accepted input db sale) (moved : sale.step input db = (db', sale')) :
    db' = db ∧ SalePoint.transaction sale'.point = none := by
  cases point : sale.point with
  | submitting reserved | awaiting processing | applying processing submitted
  | releasing processing => simp [point, SalePoint.transaction] at aside
  | reserving =>
    simp only [CreateSale.step, point] at moved
    rcases unit_cases input (openSale sale input) db with
      ⟨next, reserved, _, _, worked⟩ | ⟨fault, threw⟩
    · exact absurd ⟨point, next, reserved, worked⟩ refused
    · rw [threw] at moved
      cases moved
      obtain ⟨kind, reasonCode, rejects⟩ := refusal_rejects sale fault
      refine ⟨rfl, ?_⟩
      simp only [CreateSale.at, rejects, CreateSale.reject, SalePoint.transaction]
  | returned result | threw fault =>
    simp only [CreateSale.step, point] at moved
    cases moved
    exact ⟨rfl, aside⟩
  | _ =>
    simp only [CreateSale.step, point] at moved
    repeat' split at moved
    all_goals
      cases moved
      exact ⟨rfl, rfl⟩

/-- The checks a call makes before it looks its request up. -/
structure Passes (db : Db) (call : SaleCall) : Prop where
  mode : call.deps.mode = .training
  merchant : (findMerchant db call.request.merchantId).any (fun row => row.status = .active) = true
  device : ∃ device, findDeviceOf db call.request.deviceId call.request.merchantId = some device ∧
    device.status = .active
  valid : validationFailure call = none

/-- What a call answers when its request has been answered before. -/
def Retold (first : SaleCall) (transactionId : TransactionId) (sale : CreateSale)
    (result : SaleResult) : Prop :=
  (sale.fingerprint = first.fingerprint ∧ ∃ state,
    result = .duplicateRequest transactionId state sale.correlationId sale.key) ∨
  (sale.fingerprint ≠ first.fingerprint ∧
    result = .rejected .payloadMismatch "IDEMPOTENCY_PAYLOAD_MISMATCH" sale.correlationId
      (some sale.key) none)

/-- The points a call that comes after the first one's reservation passes through. -/
def LatePoint (first : SaleCall) (transactionId : TransactionId) (sale : CreateSale) : Prop :=
  match sale.point with
  | .begin => True
  | .device => True
  | .lookUp => True
  | .original record =>
    record.transactionId = transactionId ∧ sale.fingerprint = first.fingerprint
  | .returned result => Retold first transactionId sale result
  | _ => False

/-- How many steps a call that comes late has taken. -/
def stage : SalePoint → Nat
  | .begin => 0
  | .device => 1
  | .lookUp => 2
  | .original _ => 3
  | _ => 4

/-- A late call that passes the checks goes on towards its answer, a stage with every step. -/
theorem late_step {sale sale' : CreateSale} (passes : Passes db sale.toSaleCall)
    (carries : Carries identity sale.toSaleCall) (found : recordOf identity db = some record)
    (given : record.transactionId = transactionId)
    (asked : record.payloadFingerprint = first.fingerprint)
    (late : LatePoint first transactionId sale) (moved : sale.step input db = (db', sale')) :
    LatePoint first transactionId sale' ∧ min (stage sale.point + 1) 4 ≤ stage sale'.point := by
  unfold LatePoint at late
  cases point : sale.point with
  | begin =>
    simp only [CreateSale.step, point] at moved
    rw [if_neg (not_not.mpr passes.mode), if_pos passes.merchant] at moved
    cases moved
    exact ⟨trivial, by simp [stage, CreateSale.at]⟩
  | device =>
    obtain ⟨device, owned, active⟩ := passes.device
    simp only [CreateSale.step, point, owned] at moved
    rw [if_neg (not_not.mpr active), passes.valid] at moved
    cases moved
    exact ⟨trivial, by simp [stage, CreateSale.at]⟩
  | lookUp =>
    simp only [CreateSale.step, point, carries.recordOf, found] at moved
    split at moved
    · rename_i other
      cases moved
      refine ⟨.inr ⟨fun same => other (asked.trans same.symm), rfl⟩, ?_⟩
      simp [stage, CreateSale.at, CreateSale.reject]
    · rename_i same
      cases moved
      refine ⟨⟨given, ?_⟩, by simp [stage, CreateSale.at]⟩
      exact (not_not.mp same).symm.trans asked
  | original kept =>
    simp only [point] at late
    obtain ⟨rfl, same⟩ := late
    simp only [CreateSale.step, point] at moved
    cases moved
    exact ⟨.inl ⟨same, _, rfl⟩, by simp [stage, CreateSale.at]⟩
  | returned result =>
    simp only [CreateSale.step, point] at moved
    cases moved
    simp only [LatePoint, point] at late ⊢
    exact ⟨late, by simp [stage]⟩
  | _ => simp [point] at late

/-- The ledger has grown by the legs that hold a sale's value, and once its reservation has ended
by those that took the value out. -/
def OnePosting (db₀ db : Db) (transactionId : TransactionId) : Prop :=
  ∃ held, (∃ posting accounts context, context.transactionId = transactionId ∧
      held = entryRows posting accounts 0 (holdLegs context)) ∧
    ((valueOf db transactionId = some .held ∧
        db.ledgerEntries = db₀.ledgerEntries ++ held) ∨
      (Ended db transactionId ∧ ∃ posting accounts, ∃ disposal : Disposal,
        ∃ context : OperationContext, disposal.ends = true ∧ context.transactionId = transactionId ∧
        db.ledgerEntries = db₀.ledgerEntries ++ held ++
          entryRows posting accounts 0 (disposal.legs context)))

/-- All a request has added is one sale, one reservation and one set of postings. -/
structure OneSale (db₀ db : Db) (transactionId : TransactionId) : Prop where
  sale : ∃ row, row.id = transactionId ∧ db.transactions = db₀.transactions ++ [row]
  hold : ∃ hold, hold.transactionId = transactionId ∧
    db.balanceReservations = db₀.balanceReservations ++ [hold]
  posting : OnePosting db₀ db transactionId

/-- A point after the reservation, about the sale that was reserved. -/
def OpenerPoint (transactionId : TransactionId) : SalePoint → Prop
  | .submitting transaction => transaction.id = transactionId
  | .awaiting transaction => transaction.id = transactionId
  | .applying transaction _ => transaction.id = transactionId
  | .releasing transaction => transaction.id = transactionId
  | .returned _ => True
  | .threw _ => True
  | _ => False

/-- The deeds of a call after its reservation. -/
theorem Turn.after_opening {sale : CreateSale} (turn : Turn db (.createSale sale) deed)
    (after : OpenerPoint transactionId sale.point) :
    deed = .quiet ∨ (∃ state, deed = .marked transactionId state) ∨
    ∃ state disposal context commission, deed = .moved state disposal context commission ∧
      context.transactionId = transactionId ∧ disposal.ends = true ∧
      disposal.origin = .held := by
  cases turn with
  | quiet => exact .inl rfl
  | opens point => simp [point, OpenerPoint] at after
  | submits point | holds point =>
    simp only [point, OpenerPoint] at after
    exact .inr (.inl ⟨_, by rw [after]⟩)
  | settles point _ concerns | fails point _ concerns | releases point concerns =>
    simp only [point, OpenerPoint] at after
    exact .inr (.inr ⟨_, _, _, _, rfl, concerns.1.trans after, rfl, rfl⟩)

theorem OneSale.restated {db db' : Db} (one : OneSale db₀ db transactionId) (sound : Sound db)
    (restated : Restated transactionId state db.transactions db'.transactions) :
    ∃ row, row.id = transactionId ∧ db'.transactions = db₀.transactions ++ [row] := by
  obtain ⟨row, id, rows⟩ := one.sale
  obtain ⟨change, restates, after⟩ := restated
  refine ⟨change row, (restates.keeps row).1.trans id, ?_⟩
  rw [after, rows, update_last]
  · intro old mem
    refine decide_eq_false fun same => ?_
    have unique := sound.ids
    rw [rows] at unique
    exact unique.apart old mem (same.trans id.symm)
  · exact decide_eq_true id

theorem OneSale.moved {db db' : Db} {disposal : Disposal} (one : OneSale db₀ db transactionId)
    (sound : Sound db)
    (moved : Moved disposal context db.balanceReservations db'.balanceReservations)
    (same : context.transactionId = transactionId) :
    ∃ hold, hold.transactionId = transactionId ∧
      db'.balanceReservations = db₀.balanceReservations ++ [hold] := by
  obtain ⟨hold, sale, rows⟩ := one.hold
  obtain ⟨row, now, mem, about, _, status, after⟩ := moved
  have stored : hold ∈ db.balanceReservations := by
    rw [rows]
    exact List.mem_append_right _ (List.mem_singleton_self hold)
  have one : row = hold := sound.holds.eq mem stored (about.trans (same.trans sale.symm))
  subst one
  refine ⟨setStatus disposal.target now row, sale, ?_⟩
  rw [after, rows, update_last]
  · intro old before
    have unique := sound.holdIds
    rw [rows] at unique
    have apart := unique.apart old before
    simp [guarded, apart]
  · simp [guarded, status]

/-- What a call does after its reservation leaves one sale, one reservation and one set of
postings. -/
theorem OneSale.step {db db' : Db} {sale : CreateSale} (one : OneSale db₀ db transactionId)
    (sound : Sound db) (turn : Turn db (.createSale sale) deed) (did : Did deed db db')
    (after : OpenerPoint transactionId sale.point) : OneSale db₀ db' transactionId := by
  have values := did.values sound turn transactionId
  obtain ⟨posting', accounts', _, grown⟩ := did.ledger
  obtain ⟨held, holds, posting⟩ := one.posting
  have unposted : deed.legs = [] → deed.value transactionId = none →
      OnePosting db₀ db' transactionId := by
    intro none still
    rw [still, Option.none_or] at values
    rw [none, entryRows, List.append_nil] at grown
    refine ⟨held, holds, ?_⟩
    unfold Ended
    rw [values, grown]
    exact posting
  rcases turn.after_opening after with rfl | ⟨state, rfl⟩ | ⟨state, disposal, context, commission,
    rfl, same, ends, origin⟩
  · refine ⟨?_, ?_, unposted rfl rfl⟩
    · rw [did.sales]
      exact one.sale
    · rw [did.holds]
      exact one.hold
  · refine ⟨one.restated sound did.sales, ?_, unposted rfl rfl⟩
    rw [did.holds]
    exact one.hold
  · subst same
    refine ⟨one.restated sound did.sales, one.moved sound did.holds rfl, held, holds, .inr ?_⟩
    have found := did.origin sound
    rw [origin] at found
    rcases posting with ⟨_, ledger⟩ | ⟨ended, _⟩
    · refine ⟨?_, posting', accounts', disposal, context, ends, rfl, ?_⟩
      · rw [Deed.value, if_pos rfl, Option.some_or] at values
        unfold Ended
        rw [values]
        rcases disposal.ends_target ends with target | target
        · exact .inl (congrArg some target)
        · exact .inr (congrArg some target)
      · rw [grown, ledger]
        rfl
    · unfold Ended at ended
      rw [found] at ended
      simp at ended

/-- The reservation that is accepted adds one of each. -/
theorem oneSale_opened {db db' : Db} {sale : CreateSale} (sound : Sound db)
    (turn : Turn db (.createSale sale) (.opened row hold record context))
    (did : Did (.opened row hold record context) db db') : OneSale db db' row.id := by
  have values := did.values sound turn row.id
  cases turn with
  | opens _ opening =>
    obtain ⟨about, _, _, status⟩ := opening.holding
    obtain ⟨posting, accounts, _, grown⟩ := did.ledger
    rw [Deed.value, if_pos about.symm, Option.some_or, status] at values
    exact ⟨⟨row, rfl, did.sales⟩, ⟨hold, about, did.holds⟩, _,
      ⟨posting, accounts, context, opening.operation.1, rfl⟩, .inl ⟨values, grown⟩⟩

/-- A call of `createSale` that starts for one request. -/
def Retries (identity : RequestIdentity) (_ : Db) (process : Process) : Prop :=
  ∃ sale, process = .createSale sale ∧ sale.point = .begin ∧ Carries identity sale.toSaleCall

/-- Any number of calls for one request, interleaved. -/
abbrev Retrying (identity : RequestIdentity) :=
  Pool services (Retries identity) Fresh

/-- A request nobody has made yet. -/
structure Unheard (identity : RequestIdentity) (db₀ : Db) (w : World Db Process) : Prop where
  store : w.store = db₀
  sound : Sound db₀
  unrecorded : recordOf identity db₀ = none
  idle : w.procs = []

/-- The step changed the database or asked the provider for something. -/
def Writes (taken : Happened) : Prop :=
  taken.after.store ≠ taken.before.store ∨
  ∃ input sale, Acted taken input (.createSale sale) ∧ sale.submission.isSome = true

/-- The call in a slot, as it was started. -/
def StartedAs (past : List Happened) (slot : Nat) (call : SaleCall) : Prop :=
  ∃ taken ∈ past, ∃ sale, taken.event = .start (.createSale sale) ∧ sale.toSaleCall = call ∧
    taken.before.procs.length = slot

/-- The step was one of the call in a slot. -/
def actsIn (slot : Nat) (taken : Happened) : Bool :=
  match taken.event with
  | .act other _ => other == slot
  | _ => false

/-- How many steps the call in a slot has taken. -/
def turns (slot : Nat) (past : List Happened) : Nat :=
  past.countP (actsIn slot)

/-- A call that started after the reservation, wherever it has come to. -/
def ToldAgain (first : SaleCall) (transactionId : TransactionId) (call : SaleCall)
    (past : List Happened) (w : World Db Process) (slot : Nat) : Prop :=
  ∀ sale, w.proc slot = some (.createSale sale) → sale.toSaleCall = call ∧
    LatePoint first transactionId sale ∧ min (turns slot past) 4 ≤ stage sale.point

/-- Nothing has been reserved for the request. -/
structure Unreserved (identity : RequestIdentity) (db₀ : Db) (past : List Happened)
    (w : World Db Process) : Prop where
  store : w.store = db₀
  aside : ∀ slot sale, w.proc slot = some (.createSale sale) →
    SalePoint.transaction sale.point = none
  silent : ∀ taken ∈ past, ¬ Writes taken
  unrecorded : ∀ taken ∈ past, recordOf identity taken.before.store = none

/-- The call in one slot reserved the sale; the others write nothing, and those that started later
are told so. -/
structure ReservedBy (identity : RequestIdentity) (db₀ : Db) (past : List Happened)
    (w : World Db Process) (slot : Nat) (first : SaleCall) (transactionId : TransactionId) :
    Prop where
  handed : slot < w.procs.length
  started : StartedAs past slot first
  recorded : ∃ record, recordOf identity w.store = some record ∧
    record.transactionId = transactionId ∧ record.payloadFingerprint = first.fingerprint
  one : OneSale db₀ w.store transactionId
  opener : ∀ sale, w.proc slot = some (.createSale sale) → OpenerPoint transactionId sale.point
  aside : ∀ other sale, other ≠ slot → w.proc other = some (.createSale sale) →
    SalePoint.transaction sale.point = none
  writer : ∀ taken ∈ past, Writes taken → ∃ input, taken.event = .act slot input
  late : ∀ taken ∈ past, ∀ sale, taken.event = .start (.createSale sale) →
    recordOf identity taken.before.store ≠ none → Passes db₀ sale.toSaleCall →
    slot < taken.before.procs.length ∧
    ToldAgain first transactionId sale.toSaleCall past w taken.before.procs.length

/-- What holds of the calls of one request after the steps taken so far. -/
structure Tracked (identity : RequestIdentity) (db₀ : Db) (past : List Happened)
    (w : World Db Process) : Prop where
  secure : Secure Sound (Enlisted [.createSale]) w
  unrecorded : recordOf identity db₀ = none
  shops : w.store.merchants = db₀.merchants ∧ w.store.devices = db₀.devices
  calls : ∀ slot process, w.proc slot = some process → ∃ sale, process = .createSale sale ∧
    Carries identity sale.toSaleCall ∧ StartedAs past slot sale.toSaleCall
  within : ∀ taken ∈ past, ∀ slot input, taken.event = .act slot input → slot < w.procs.length
  begun : ∀ taken ∈ past, ∀ process, taken.event = .start process →
    taken.before.procs.length < w.procs.length
  came : Unreserved identity db₀ past w ∨
    ∃ slot first transactionId, ReservedBy identity db₀ past w slot first transactionId

theorem StartedAs.later (started : StartedAs past slot call) (taken : Happened) :
    StartedAs (taken :: past) slot call := by
  obtain ⟨earlier, mem, facts⟩ := started
  exact ⟨earlier, List.mem_cons_of_mem _ mem, facts⟩

theorem Passes.shops (passes : Passes db₀ call)
    (same : db.merchants = db₀.merchants ∧ db.devices = db₀.devices) : Passes db call := by
  obtain ⟨mode, merchant, device, valid⟩ := passes
  unfold findMerchant at merchant
  unfold findDeviceOf at device
  rw [← same.1] at merchant
  rw [← same.2] at device
  exact ⟨mode, merchant, device, valid⟩

/-- Nothing a call does before its sale is opened asks the provider for anything. -/
theorem aside_unsubmitted {sale : CreateSale} (aside : SalePoint.transaction sale.point = none) :
    sale.submission = none := by
  unfold CreateSale.submission
  split
  · rename_i processing point
    simp [point, SalePoint.transaction] at aside
  · rfl

theorem turns_zero (none : ∀ taken ∈ past, ∀ input, taken.event ≠ .act slot input) :
    turns slot past = 0 := by
  refine List.countP_eq_zero.mpr fun taken mem acts => ?_
  unfold actsIn at acts
  split at acts
  · rename_i other input same
    simp only [beq_iff_eq] at acts
    exact none taken mem input (by rw [same, acts])
  · cases acts

theorem turns_still (still : actsIn slot taken = false) :
    turns slot (taken :: past) = turns slot past := by
  unfold turns
  rw [List.countP_cons_of_neg (by simp [still])]

/-- A call that has not been asked to take a step is still told again. -/
theorem ToldAgain.still (told : ToldAgain first transactionId call past w slot)
    (still : actsIn slot taken = false)
    (same : ∀ sale, w'.proc slot = some (.createSale sale) → w.proc slot = some (.createSale sale)) :
    ToldAgain first transactionId call (taken :: past) w' slot := by
  intro sale here
  rw [turns_still still]
  exact told sale (same sale here)

/-- A call that starts or dies writes nothing. -/
theorem unacted_silent {event : Event Input Process} (same : w'.store = w.store)
    (other : ∀ slot input, event ≠ .act slot input) : ¬ Writes ⟨w, event, w'⟩ := by
  rintro (changed | ⟨_, _, ⟨_, acts, _⟩, _⟩)
  · exact changed same
  · exact other _ _ acts

section Steps

variable {identity : RequestIdentity} {db₀ : Db} {past : List Happened} {w : World Db Process}

theorem tracked_start (tracked : Tracked identity db₀ past w) (admitted : Retries identity w.store process) :
    Tracked identity db₀ (⟨w, .start process, { w with procs := w.procs ++ [some process] }⟩ :: past)
      { w with procs := w.procs ++ [some process] } := by
  obtain ⟨sale, rfl, begin', carries⟩ := admitted
  have step : Interleaved [.createSale] w (.start (.createSale sale))
      { w with procs := w.procs ++ [some (.createSale sale)] } :=
    .start ⟨List.mem_singleton_self _, begin'⟩
  have aside : SalePoint.transaction sale.point = none := by simp [begin', SalePoint.transaction]
  refine ⟨secure_step _ _ _ tracked.secure step, tracked.unrecorded, tracked.shops, ?_, ?_, ?_, ?_⟩
  · intro slot other here
    rw [World.proc_start] at here
    split at here
    · rename_i last
      cases here
      exact ⟨sale, rfl, carries, _, List.mem_cons_self .., sale, rfl, rfl, last.symm⟩
    · obtain ⟨call, same, carried, started⟩ := tracked.calls slot other here
      exact ⟨call, same, carried, started.later _⟩
  · intro taken mem slot input acts
    rcases List.mem_cons.mp mem with rfl | mem
    · cases acts
    · have within := tracked.within taken mem slot input acts
      simp only [List.length_append, List.length_singleton]
      omega
  · intro taken mem other starts
    simp only [List.length_append, List.length_singleton]
    rcases List.mem_cons.mp mem with rfl | mem
    · exact Nat.lt_succ_self _
    · exact Nat.lt_succ_of_lt (tracked.begun taken mem other starts)
  · rcases tracked.came with unreserved | ⟨slot, first, transactionId, reserved⟩
    · refine .inl ⟨unreserved.store, ?_, ?_, ?_⟩
      · intro slot other here
        rw [World.proc_start] at here
        split at here
        · cases here
          exact aside
        · exact unreserved.aside slot other here
      · intro taken mem
        rcases List.mem_cons.mp mem with rfl | mem
        · exact unacted_silent rfl (by rintro _ _ ⟨⟩)
        · exact unreserved.silent taken mem
      · intro taken mem
        rcases List.mem_cons.mp mem with rfl | mem
        · rw [unreserved.store]
          exact tracked.unrecorded
        · exact unreserved.unrecorded taken mem
    · refine .inr ⟨slot, first, transactionId, ?_, reserved.started.later _, reserved.recorded,
        reserved.one, ?_, ?_, ?_, ?_⟩
      · simp only [List.length_append, List.length_singleton]
        exact Nat.lt_succ_of_lt reserved.handed
      · intro call here
        rw [World.proc_start, if_neg (Nat.ne_of_lt reserved.handed)] at here
        exact reserved.opener call here
      · intro other call apart here
        rw [World.proc_start] at here
        split at here
        · cases here
          exact aside
        · exact reserved.aside other call apart here
      · intro taken mem writes
        rcases List.mem_cons.mp mem with rfl | mem
        · exact absurd writes (unacted_silent rfl (by rintro _ _ ⟨⟩))
        · exact reserved.writer taken mem writes
      · intro taken mem call started known passes
        rcases List.mem_cons.mp mem with rfl | mem
        · cases started
          refine ⟨reserved.handed, fun call here => ?_⟩
          rw [World.proc_start, if_pos rfl] at here
          cases here
          have none : turns w.procs.length past = 0 :=
            turns_zero fun taken mem input acts =>
              absurd (tracked.within taken mem _ input acts) (Nat.lt_irrefl _)
          rw [turns_still rfl, none]
          exact ⟨rfl, by simp [LatePoint, begin'], by simp⟩
        · obtain ⟨after, told⟩ := reserved.late taken mem call started known passes
          have last := Nat.ne_of_lt (tracked.begun taken mem _ started)
          refine ⟨after, told.still rfl fun other here => ?_⟩
          rw [World.proc_start, if_neg last] at here
          exact here

theorem tracked_crash (tracked : Tracked identity db₀ past w) (slot : Nat) :
    Tracked identity db₀ (⟨w, .crash slot, { w with procs := w.procs.set slot none }⟩ :: past)
      { w with procs := w.procs.set slot none } := by
  have alive : ∀ other process,
      World.proc { w with procs := w.procs.set slot none } other = some process →
      w.proc other = some process := by
    intro other process here
    rw [World.proc_crash] at here
    split at here
    · cases here
    · exact here
  refine ⟨secure_step _ _ _ tracked.secure .crash, tracked.unrecorded, tracked.shops, ?_, ?_, ?_, ?_⟩
  · intro other process here
    obtain ⟨call, same, carried, started⟩ := tracked.calls other process (alive _ _ here)
    exact ⟨call, same, carried, started.later _⟩
  · intro taken mem other input acts
    rw [List.length_set]
    rcases List.mem_cons.mp mem with rfl | mem
    · cases acts
    · exact tracked.within taken mem other input acts
  · intro taken mem process starts
    rw [List.length_set]
    rcases List.mem_cons.mp mem with rfl | mem
    · cases starts
    · exact tracked.begun taken mem process starts
  · rcases tracked.came with unreserved | ⟨opener, first, transactionId, reserved⟩
    · refine .inl ⟨unreserved.store, fun other call here =>
        unreserved.aside other call (alive _ _ here), ?_, ?_⟩
      · intro taken mem
        rcases List.mem_cons.mp mem with rfl | mem
        · exact unacted_silent rfl (by rintro _ _ ⟨⟩)
        · exact unreserved.silent taken mem
      · intro taken mem
        rcases List.mem_cons.mp mem with rfl | mem
        · rw [unreserved.store]
          exact tracked.unrecorded
        · exact unreserved.unrecorded taken mem
    · refine .inr ⟨opener, first, transactionId, ?_, reserved.started.later _, reserved.recorded,
        reserved.one, fun call here => reserved.opener call (alive _ _ here),
        fun other call apart here => reserved.aside other call apart (alive _ _ here), ?_, ?_⟩
      · rw [List.length_set]
        exact reserved.handed
      · intro taken mem writes
        rcases List.mem_cons.mp mem with rfl | mem
        · exact absurd writes (unacted_silent rfl (by rintro _ _ ⟨⟩))
        · exact reserved.writer taken mem writes
      · intro taken mem call started known passes
        rcases List.mem_cons.mp mem with rfl | mem
        · cases started
        · obtain ⟨after, told⟩ := reserved.late taken mem call started known passes
          exact ⟨after, told.still rfl fun other here => alive _ _ here⟩

/-- A call goes on about the sale it opened. -/
theorem opener_step {sale sale' : CreateSale} (known : KnownSale db sale)
    (opener : OpenerPoint transactionId sale.point) (moved : sale.step input db = (db', sale')) :
    OpenerPoint transactionId sale'.point := by
  cases point : sale.point with
  | submitting reserved =>
    simp only [KnownSale, point] at known
    simp only [point, OpenerPoint] at opener
    simp only [CreateSale.step, point] at moved
    split at moved
    · rename_i marked
      cases moved
      obtain ⟨_, _, id, _⟩ := markProcessing_turn point known.1 (unit_ok marked)
      exact id.trans opener
    · cases moved
      trivial
  | awaiting processing =>
    simp only [point, OpenerPoint] at opener
    simp only [CreateSale.step, point] at moved
    split at moved
    all_goals
      cases moved
      exact opener
  | applying processing submitted | releasing processing =>
    simp only [CreateSale.step, point] at moved
    split at moved
    all_goals
      cases moved
      trivial
  | returned result | threw fault =>
    simp only [CreateSale.step, point] at moved
    cases moved
    exact opener
  | _ => simp [point, OpenerPoint] at opener

/-- The first call whose reservation is accepted opens the one sale. -/
theorem reserved_accepted (tracked : Tracked identity db₀ past w)
    (unreserved : Unreserved identity db₀ past w) (here : w.proc slot = some (.createSale sale))
    (carries : Carries identity sale.toSaleCall) (started : StartedAs past slot sale.toSaleCall)
    (fresh : Fresh input w.store (.createSale sale)) (accepted : Accepted input w.store sale)
    (moved : sale.step input w.store = (db', sale')) :
    ∃ transactionId, ReservedBy identity db₀
      (⟨w, .act slot input, ⟨db', w.procs.set slot (some (.createSale sale'))⟩⟩ :: past)
      ⟨db', w.procs.set slot (some (.createSale sale'))⟩ slot sale.toSaleCall transactionId := by
  obtain ⟨point, next, reserved, opened⟩ := accepted
  simp only [CreateSale.step, point, opened] at moved
  cases moved
  obtain ⟨row, hold, record, context, opening, did, id, _⟩ :=
    openSale_turn point fresh (unit_ok opened)
  have store := unreserved.store
  refine ⟨row.id, ?_, started.later _, ?_, ?_, ?_, ?_, ?_, ?_⟩
  · rw [List.length_set]
    exact World.proc_lt here
  · obtain ⟨key, merchant, fingerprint, transaction⟩ := opening.recorded
    have none : recordOf identity w.store = none := by
      rw [store]
      exact tracked.unrecorded
    refine ⟨record, ?_, transaction, fingerprint⟩
    unfold recordOf findIdempotencyRecord at none ⊢
    rw [did.records, List.find?_append, none, Option.none_or]
    simp [merchant.trans carries.merchant, key.trans carries.key]
  · rw [← store]
    exact oneSale_opened tracked.secure.1 (.opens point opening) did
  · intro call there
    rw [World.proc_act here, if_pos rfl] at there
    cases there
    exact id.symm
  · intro other call apart there
    rw [World.proc_act here, if_neg apart] at there
    exact unreserved.aside other call there
  · intro taken mem writes
    rcases List.mem_cons.mp mem with rfl | mem
    · exact ⟨input, rfl⟩
    · exact absurd writes (unreserved.silent taken mem)
  · intro taken mem call starts known
    rcases List.mem_cons.mp mem with rfl | mem
    · cases starts
    · exact absurd (unreserved.unrecorded taken mem) known

/-- A step of a call that has opened no sale, and opens none, writes nothing. -/
theorem aside_silent {sale : CreateSale} (here : w.proc slot = some (.createSale sale))
    (aside : SalePoint.transaction sale.point = none) (same : w'.store = w.store) :
    ¬ Writes ⟨w, .act slot input, w'⟩ := by
  rintro (changed | ⟨_, call, ⟨_, acts, there⟩, submits⟩)
  · exact changed same
  · cases acts
    rw [here] at there
    cases there
    rw [aside_unsubmitted aside] at submits
    cases submits

/-- While nothing is reserved, a call that does not reserve leaves it so. -/
theorem unreserved_act (tracked : Tracked identity db₀ past w)
    (unreserved : Unreserved identity db₀ past w) (here : w.proc slot = some (.createSale sale))
    (refused : ¬ Accepted input w.store sale)
    (moved : sale.step input w.store = (db', sale')) :
    Unreserved identity db₀
      (⟨w, .act slot input, ⟨db', w.procs.set slot (some (.createSale sale'))⟩⟩ :: past)
      ⟨db', w.procs.set slot (some (.createSale sale'))⟩ := by
  have idle := unreserved.aside slot sale here
  obtain ⟨rfl, aside⟩ := aside_step idle refused moved
  refine ⟨unreserved.store, ?_, ?_, ?_⟩
  · intro other call there
    rw [World.proc_act here] at there
    split at there
    · cases there
      exact aside
    · exact unreserved.aside other call there
  · intro taken mem
    rcases List.mem_cons.mp mem with rfl | mem
    · exact aside_silent here idle rfl
    · exact unreserved.silent taken mem
  · intro taken mem
    rcases List.mem_cons.mp mem with rfl | mem
    · rw [unreserved.store]
      exact tracked.unrecorded
    · exact unreserved.unrecorded taken mem

/-- The call that reserved the sale goes on with it. -/
theorem opener_act (tracked : Tracked identity db₀ past w)
    (reserved : ReservedBy identity db₀ past w slot first transactionId)
    (here : w.proc slot = some (.createSale sale))
    (fresh : Fresh input w.store (.createSale sale))
    (moved : sale.step input w.store = (db', sale')) :
    ReservedBy identity db₀
      (⟨w, .act slot input, ⟨db', w.procs.set slot (some (.createSale sale'))⟩⟩ :: past)
      ⟨db', w.procs.set slot (some (.createSale sale'))⟩ slot first transactionId := by
  have known : Known w.store (.createSale sale) := (tracked.secure.2 _ (World.proc_mem here)).2
  have opener := reserved.opener sale here
  obtain ⟨deed, turn, did, _⟩ := step_acts tracked.secure.1 known fresh
  simp only [Process.step, moved, Prod.map, id] at did
  obtain ⟨record, found, given, asked⟩ := reserved.recorded
  refine ⟨?_, reserved.started.later _, ?_, reserved.one.step tracked.secure.1 turn did opener,
    ?_, ?_, ?_, ?_⟩
  · rw [List.length_set]
    exact reserved.handed
  · have answered : Answered w.store.idempotencyRecords db'.idempotencyRecords := by
      have records := did.records
      rcases turn.after_opening opener with rfl | ⟨_, rfl⟩ | ⟨_, _, _, _, rfl, _⟩
      all_goals exact records
    rcases recordOf_answered answered with ⟨_, none⟩ | ⟨old, kept, before, after, sameId, samePrint⟩
    · rw [found] at none
      cases none
    · rw [found] at before
      cases before
      exact ⟨kept, after, sameId.trans given, samePrint.trans asked⟩
  · intro call there
    rw [World.proc_act here, if_pos rfl] at there
    cases there
    exact opener_step known opener moved
  · intro other call apart there
    rw [World.proc_act here, if_neg apart] at there
    exact reserved.aside other call apart there
  · intro taken mem writes
    rcases List.mem_cons.mp mem with rfl | mem
    · exact ⟨input, rfl⟩
    · exact reserved.writer taken mem writes
  · intro taken mem call starts recorded passes
    rcases List.mem_cons.mp mem with rfl | mem
    · cases starts
    · obtain ⟨after, told⟩ := reserved.late taken mem call starts recorded passes
      have apart : taken.before.procs.length ≠ slot := Nat.ne_of_gt after
      refine ⟨after, told.still (by simp [actsIn, Ne.symm apart]) fun other there => ?_⟩
      rw [World.proc_act here, if_neg apart] at there
      exact there

/-- Any other call writes nothing, and one that came later goes on towards its answer. -/
theorem other_act (tracked : Tracked identity db₀ past w)
    (reserved : ReservedBy identity db₀ past w opener first transactionId)
    (apart : slot ≠ opener) (here : w.proc slot = some (.createSale sale))
    (carries : Carries identity sale.toSaleCall)
    (fresh : Fresh input w.store (.createSale sale))
    (moved : sale.step input w.store = (db', sale')) :
    ReservedBy identity db₀
      (⟨w, .act slot input, ⟨db', w.procs.set slot (some (.createSale sale'))⟩⟩ :: past)
      ⟨db', w.procs.set slot (some (.createSale sale'))⟩ opener first transactionId := by
  obtain ⟨record, found, given, asked⟩ := reserved.recorded
  have refused : ¬ Accepted input w.store sale := by
    rintro ⟨point, next, held, opened⟩
    obtain ⟨_, _, _, _, opening, _⟩ := openSale_turn point fresh (unit_ok opened)
    have none := opening.unrecorded
    rw [carries.recordOf, found] at none
    cases none
  have idle := reserved.aside slot sale apart here
  obtain ⟨rfl, aside⟩ := aside_step idle refused moved
  refine ⟨?_, reserved.started.later _, reserved.recorded, reserved.one, ?_, ?_, ?_, ?_⟩
  · rw [List.length_set]
    exact reserved.handed
  · intro call there
    rw [World.proc_act here, if_neg apart.symm] at there
    exact reserved.opener call there
  · intro other call elsewhere there
    rw [World.proc_act here] at there
    split at there
    · cases there
      exact aside
    · exact reserved.aside other call elsewhere there
  · intro taken mem writes
    rcases List.mem_cons.mp mem with rfl | mem
    · exact absurd writes (aside_silent here idle rfl)
    · exact reserved.writer taken mem writes
  · intro taken mem call starts recorded passes
    rcases List.mem_cons.mp mem with rfl | mem
    · cases starts
    · obtain ⟨after, told⟩ := reserved.late taken mem call starts recorded passes
      refine ⟨after, ?_⟩
      by_cases mine : taken.before.procs.length = slot
      · intro other there
        rw [mine, World.proc_act here, if_pos rfl] at there
        cases there
        rw [mine] at told ⊢
        obtain ⟨same, late, far⟩ := told sale here
        have passes : Passes w.store sale.toSaleCall := (same ▸ passes).shops tracked.shops
        obtain ⟨later, further⟩ := late_step passes carries found given asked late moved
        refine ⟨(createSale_came moved).1.trans same, later, ?_⟩
        unfold turns at far ⊢
        rw [List.countP_cons_of_pos (by simp [actsIn])]
        omega
      · refine told.still (by simp [actsIn, Ne.symm mine]) fun other there => ?_
        rw [World.proc_act here, if_neg mine] at there
        exact there

theorem tracked_act (tracked : Tracked identity db₀ past w) (here : w.proc slot = some process)
    (fresh : Fresh input w.store process)
    (moved : process.step input w.store = (db', process')) :
    Tracked identity db₀ (⟨w, .act slot input, ⟨db', w.procs.set slot (some process')⟩⟩ :: past)
      ⟨db', w.procs.set slot (some process')⟩ := by
  have step : Interleaved [.createSale] w (.act slot input) ⟨db', w.procs.set slot (some process')⟩ :=
    .act here fresh moved
  obtain ⟨sale, rfl, carries, started⟩ := tracked.calls slot process here
  cases went : sale.step input w.store with
  | mk after sale' =>
    simp only [Process.step, went, Prod.map, id, Prod.mk.injEq] at moved
    obtain ⟨rfl, rfl⟩ := moved
    have same := (createSale_came went).1
    refine ⟨secure_step _ _ _ tracked.secure step, tracked.unrecorded, ?_, ?_, ?_, ?_, ?_⟩
    · have known := (tracked.secure.2 _ (World.proc_mem here)).2
      obtain ⟨_, _, did, _⟩ := step_acts tracked.secure.1 known fresh
      simp only [Process.step, went, Prod.map, id] at did
      exact ⟨did.shops.1.trans tracked.shops.1, did.shops.2.trans tracked.shops.2⟩
    · intro other call there
      rw [World.proc_act here] at there
      split at there
      · rename_i mine
        cases there
        rw [mine]
        exact ⟨sale', rfl, same ▸ carries, same ▸ started.later _⟩
      · obtain ⟨call, is, carried, begun⟩ := tracked.calls other call there
        exact ⟨call, is, carried, begun.later _⟩
    · intro taken mem other input acts
      rw [List.length_set]
      rcases List.mem_cons.mp mem with rfl | mem
      · cases acts
        exact World.proc_lt here
      · exact tracked.within taken mem other input acts
    · intro taken mem process starts
      rw [List.length_set]
      rcases List.mem_cons.mp mem with rfl | mem
      · cases starts
      · exact tracked.begun taken mem process starts
    · rcases tracked.came with unreserved | ⟨opener, first, transactionId, reserved⟩
      · by_cases accepted : Accepted input w.store sale
        · obtain ⟨transactionId, reserved⟩ :=
            reserved_accepted tracked unreserved here carries started fresh accepted went
          exact .inr ⟨slot, _, transactionId, reserved⟩
        · exact .inl (unreserved_act tracked unreserved here accepted went)
      · by_cases mine : slot = opener
        · subst mine
          exact .inr ⟨slot, first, transactionId, opener_act tracked reserved here fresh went⟩
        · exact .inr ⟨opener, first, transactionId,
            other_act tracked reserved mine here carries fresh went⟩

end Steps

theorem unheard_tracked (unheard : Unheard identity db₀ w) : Tracked identity db₀ [] w := by
  obtain ⟨rfl, sound, unrecorded, idle⟩ := unheard
  have empty : ∀ slot process, w.proc slot ≠ some process := by
    intro slot process here
    have within := World.proc_lt here
    rw [idle] at within
    exact absurd within (Nat.not_lt_zero _)
  refine ⟨⟨sound, ?_⟩, unrecorded, ⟨rfl, rfl⟩, ?_, ?_, ?_, .inl ⟨rfl, ?_, ?_, ?_⟩⟩
  · simp [idle]
  · exact fun slot process here => absurd here (empty _ _)
  · simp
  · simp
  · exact fun slot sale here => absurd here (empty _ _)
  · simp
  · simp

theorem retries_tracked {past : List Happened} (run : Run (Unheard identity db₀) (Retrying identity) past w) :
    Tracked identity db₀ past w := by
  refine run.history (fun _ => unheard_tracked) ?_
  intro past w event w' tracked step
  cases step with
  | start admitted => exact tracked_start tracked admitted
  | act here fresh moved => exact tracked_act tracked here fresh moved
  | crash => exact tracked_crash tracked _

/-- Every call of a run is one of the request's. -/
theorem started_carries {past : List Happened}
    (run : Run (Unheard identity db₀) (Retrying identity) past w)
    (started : StartedAs past slot call) : Carries identity call := by
  obtain ⟨taken, mem, sale, event, rfl, _⟩ := started
  obtain ⟨_, step, _⟩ := run.taken (I := fun _ => True) (fun _ _ => trivial)
    (fun _ _ _ _ _ => trivial) taken mem
  obtain ⟨before, _, after⟩ := taken
  simp only at event step
  subst event
  cases step with
  | start admitted =>
    obtain ⟨other, same, _, carries⟩ := admitted
    cases same
    exact carries

/-- The fingerprint tells the payloads of the calls made apart. -/
def Distinguishes (past : List Happened) : Prop :=
  ∀ a b slotA slotB, StartedAs past slotA a → StartedAs past slotB b →
    a.fingerprint = b.fingerprint → SamePayload a b

/-- What a repeated call answers: the first call's sale, or that it asks for something else. -/
def AnsweredAgain (first : SaleCall) (transactionId : TransactionId) (sale : CreateSale)
    (result : SaleResult) : Prop :=
  (SamePayload sale.toSaleCall first ∧ ∃ state,
    result = .duplicateRequest transactionId state sale.correlationId sale.key) ∨
  (¬ SamePayload sale.toSaleCall first ∧
    result = .rejected .payloadMismatch "IDEMPOTENCY_PAYLOAD_MISMATCH" sale.correlationId
      (some sale.key) none)

/-- Of any number of calls for one request, interleaved in any way, either none writes anything, or
one of them makes the one sale there is and none of the others writes anything; and each that
starts once that sale is reserved, and passes the checks, is told of it within four steps or
refused because it asks for something else. -/
theorem one_sale_per_request {past : List Happened}
    (run : Run (Unheard identity db₀) (Retrying identity) past w)
    (distinguishes : Distinguishes past) :
    (w.store = db₀ ∧ ∀ taken ∈ past, ¬ Writes taken) ∨
    ∃ slot first transactionId, StartedAs past slot first ∧ OneSale db₀ w.store transactionId ∧
      (∀ taken ∈ past, Writes taken → ∃ input, taken.event = .act slot input) ∧
      ∀ taken ∈ past, ∀ call, taken.event = .start (.createSale call) →
        recordOf identity taken.before.store ≠ none → Passes db₀ call.toSaleCall →
        ∀ sale, w.proc taken.before.procs.length = some (.createSale sale) →
          (∀ fault, sale.point ≠ .threw fault) ∧
          (∀ result, sale.point = .returned result →
            AnsweredAgain first transactionId sale result) ∧
          (4 ≤ turns taken.before.procs.length past → ∃ result, sale.point = .returned result) := by
  rcases (retries_tracked run).came with unreserved | ⟨slot, first, transactionId, reserved⟩
  · exact .inl ⟨unreserved.store, unreserved.silent⟩
  · refine .inr ⟨slot, first, transactionId, reserved.started, reserved.one, reserved.writer, ?_⟩
    intro taken mem call starts recorded passes sale here
    obtain ⟨same, late, far⟩ := (reserved.late taken mem call starts recorded passes).2 sale here
    have started : StartedAs past taken.before.procs.length sale.toSaleCall :=
      ⟨taken, mem, call, starts, same.symm, rfl⟩
    refine ⟨?_, ?_, ?_⟩
    · intro fault point
      simp [LatePoint, point] at late
    · intro result point
      simp only [LatePoint, point] at late
      rcases late with ⟨print, state, told⟩ | ⟨print, refused⟩
      · exact .inl ⟨distinguishes _ _ _ _ started reserved.started print, state, told⟩
      · refine .inr ⟨fun payload => print ?_, refused⟩
        exact payload.fingerprint (started_carries run started)
          (started_carries run reserved.started)
    · intro enough
      rw [Nat.min_eq_right enough] at far
      cases point : sale.point with
      | returned result => exact ⟨result, rfl⟩
      | begin | device | lookUp | original record => simp [point, stage] at far
      | _ => simp [LatePoint, point] at late

/-- The two shops with a deposit made for the first. -/
def funded : World Db Process :=
  let delivered := fun tag => drawing tag .confirmedSuccess .success 0
  (played (World.next services) [.start (funds "shop"), .act 0 (delivered "a")] []
    ⟨twoShops, []⟩).2

/-- The same request for another product. -/
def bundle : Process :=
  .createSale
    { deps := { providerId := "provider", catalog := fun _ => some true, mode := .training }
      request :=
        { merchantId := "shop", deviceId := "till", operatorId := "operator",
          productId := "bundle", amount := ⟨10, safe_ten⟩, recipient := "0911223344",
          clientRequestId := "request" }
      correlationId := "", point := .begin }

/-- A sale, a retry that overlaps it, a retry after it, and a request for something else. -/
def retried : List (Event Input Process) :=
  let delivered := fun tag => drawing tag .confirmedSuccess .success 0
  [.start (airtime "request"), .start (airtime "request"), .act 0 (delivered "b"),
   .act 0 (delivered "c"), .act 0 (delivered "d"), .act 1 (delivered "e"), .act 1 (delivered "f"),
   .act 1 (delivered "g"), .act 0 (delivered "h"), .act 0 (delivered "sale"),
   .act 1 (delivered "i"), .act 1 (delivered "j"), .start (airtime "request"), .start bundle,
   .act 2 (delivered "k"), .act 2 (delivered "l"), .act 2 (delivered "m"), .act 2 (delivered "n"),
   .act 3 (delivered "o"), .act 3 (delivered "p"), .act 3 (delivered "q"), .act 0 (delivered "r"),
   .act 0 (delivered "s"), .act 0 (delivered "t")]

def retriedRun : List Happened × World Db Process :=
  played (World.next services) retried [] ⟨funded.store, []⟩

def onceOnly : RequestIdentity := ⟨"shop", "till", "request"⟩

theorem retried_run : Run (Unheard onceOnly funded.store) (Retrying onceOnly) retriedRun.1
    retriedRun.2 := by
  have deposited := interleaved_run [.deposit]
    [.start (funds "shop"), .act 0 (drawing "a" .confirmedSuccess .success 0)] (by decide)
  have sound := (deposited.invariant begins_secure secure_step).1
  have opening : Run (Unheard onceOnly funded.store) (Retrying onceOnly) [] ⟨funded.store, []⟩ :=
    .start ⟨rfl, sound, by decide, rfl⟩
  refine opening.play Pool.next (playable_admits ?_ (by decide +kernel))
  intro process mem db
  simp only [retried, List.mem_cons, Event.start.injEq, reduceCtorEq, List.not_mem_nil,
    false_or, or_false] at mem
  rcases mem with rfl | rfl | rfl | rfl
  all_goals exact ⟨_, rfl, rfl, rfl, rfl, rfl⟩

/-- One sale is made, by one of the calls. -/
theorem retried_once : ∃ slot first transactionId, StartedAs retriedRun.1 slot first ∧
    OneSale funded.store retriedRun.2.store transactionId ∧
    ∀ taken ∈ retriedRun.1, Writes taken → ∃ input, taken.event = .act slot input := by
  have distinguishes : Distinguishes retriedRun.1 := by
    rintro a b slotA slotB ⟨takenA, memA, saleA, startA, rfl, _⟩ ⟨takenB, memB, saleB, startB, rfl, _⟩
    have eventA := (played_event memA).resolve_left List.not_mem_nil
    have eventB := (played_event memB).resolve_left List.not_mem_nil
    rw [startA] at eventA
    rw [startB] at eventB
    simp only [retried, airtime, bundle, List.mem_cons, Event.start.injEq, Process.createSale.injEq,
      reduceCtorEq, List.not_mem_nil, false_or, or_false, or_self] at eventA eventB
    rcases eventA with rfl | rfl | rfl | rfl <;> rcases eventB with rfl | rfl | rfl | rfl
    all_goals first
      | exact fun _ => ⟨rfl, rfl, rfl⟩
      | exact fun same => absurd same (by decide)
  rcases one_sale_per_request retried_run distinguishes with
    ⟨same, _⟩ | ⟨slot, first, transactionId, started, one, writer, _⟩
  · have changed : retriedRun.2.store.transactions ≠ funded.store.transactions := by
      decide +kernel
    exact absurd (congrArg Db.transactions same) changed
  · exact ⟨slot, first, transactionId, started, one, writer⟩

end Telga.Proofs
