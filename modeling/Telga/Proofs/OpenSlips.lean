import Telga.Proofs.ChapaSettlements

namespace Telga.Proofs.OpenSlips
open Domain Persistence Application Library

/-- An order of a shop and method that is open and not past its expiry. -/
def live (merchantId : MerchantId) (method : DepositMethod) (now : Timestamp)
    (row : TopupOrderRow) : Bool :=
  row.merchantId = merchantId ∧ row.method = method ∧ row.status = .opened ∧ now < row.expiresAt

/-- At any time after all orders were made, each shop has at most one order of each method that is
open and not past its expiry. -/
def OneAtATime (db : DepositDb) : Prop :=
  ∀ merchantId method now, (∀ row ∈ db.topupOrders, row.createdAt ≤ now) →
    (db.topupOrders.filter (live merchantId method now)).length ≤ 1

/-- What a request that cancels the bank slip does in a step, it does to no order of another
method. -/
def SparesOthers (taken : DepositTaken) : Prop :=
  ∀ slot input call, taken.event = .act slot input →
    taken.before.proc slot = some (.cancelBankDeposit call) →
    ∀ row ∈ taken.before.store.topupOrders, row.method ≠ .bankCounter →
      row ∈ taken.after.store.topupOrders

/-- What is promised of the slips. -/
structure Promised (past : List DepositTaken) (w : DepositWorld) : Prop where
  one : OneAtATime w.store
  spared : ∀ taken ∈ past, SparesOthers taken

/-- The order a request is about to insert: whose, of which method, and when it was decided. -/
def inserting : DepositProcess → Option (MerchantId × DepositMethod × Timestamp)
  | .startChapaDeposit { context, point := .saving now, .. } =>
    some (context.merchantId, .chapa, now)
  | .orderBankDeposit { context, point := .saving now, .. } =>
    some (context.merchantId, .bankCounter, now)
  | _ => none

/-- The order a request that cancels the bank slip finds. -/
def cancels (input : DepositInput) (db : DepositDb) : DepositProcess → Option TopupOrderRow
  | .cancelBankDeposit { context, point := .begin } =>
    findOpenTopupOrder db context.merchantId (input.now 0) none
  | _ => none

/-- An order is inserted while its shop still has no open one of its method, and who cancels the
bank slip finds a bank slip. -/
def Orderly (taken : DepositTaken) : Prop :=
  ∀ acting ∈ ofActor (fun input process => some (input, process)) taken,
    (∀ order ∈ inserting acting.2,
      findOpenTopupOrder taken.before.store order.1 order.2.2 (some order.2.1) = none) ∧
    ∀ order ∈ cancels acting.1 taken.before.store acting.2, order.method = .bankCounter

instance (taken : DepositTaken) : Decidable (Orderly taken) :=
  inferInstanceAs (Decidable (∀ acting ∈ ofActor _ taken, _ ∧ _))

/-- An order as it was before, whatever became of it: what its shop asked for stays, and it does not
open again. -/
structure SameSlip (old row : TopupOrderRow) : Prop where
  id : row.id = old.id
  merchant : row.merchantId = old.merchantId
  method : row.method = old.method
  created : row.createdAt = old.createdAt
  expires : row.expiresAt = old.expiresAt
  opened : row.status = .opened → old.status = .opened

theorem SameSlip.refl (row : TopupOrderRow) : SameSlip row row :=
  ⟨rfl, rfl, rfl, rfl, rfl, fun opened => opened⟩

/-- Of two open orders of one shop and method, one was made when the other had expired. -/
def Apart (db : DepositDb) : Prop :=
  ∀ a ∈ db.topupOrders, ∀ b ∈ db.topupOrders, a.status = .opened → b.status = .opened →
    a.merchantId = b.merchantId → a.method = b.method → a.id ≠ b.id →
    a.expiresAt ≤ b.createdAt ∨ b.expiresAt ≤ a.createdAt

/-- A request that is about to cancel has found a bank slip. -/
def FoundSlip (db : DepositDb) : DepositProcess → Prop
  | .cancelBankDeposit { point := .cancelling orderId _, .. } =>
    ∃ row ∈ db.topupOrders, row.id = orderId ∧ row.method = .bankCounter
  | _ => True

section Steps

variable {db db' : DepositDb} {input : DepositInput} {process : DepositProcess}

theorem findOpen_none (none : findOpenTopupOrder db merchantId now (some method) = none) :
    ∀ row ∈ db.topupOrders, row.merchantId = merchantId → row.status = .opened →
      row.method = method → row.expiresAt ≤ now := by
  intro row mem own opened same
  unfold findOpenTopupOrder at none
  rw [List.head?_eq_none_iff, List.eq_nil_iff_forall_not_mem] at none
  by_contra live
  have hit : row ∈ db.topupOrders.filter fun row =>
      row.merchantId = merchantId ∧ row.status = .opened ∧ now < row.expiresAt ∧
        ∀ wanted ∈ some method, row.method = wanted := by
    refine List.mem_filter.mpr ⟨mem, decide_eq_true ⟨own, opened, Int.not_le.mp live, ?_⟩⟩
    rintro wanted ⟨⟩
    exact same
  exact none row (List.mem_mergeSort.mpr hit)

theorem findOpen_mem (found : findOpenTopupOrder db merchantId now method = some row) :
    row ∈ db.topupOrders := by
  unfold findOpenTopupOrder at found
  have there := List.mem_mergeSort.mp (List.mem_of_head? found)
  exact (List.mem_filter.mp there).1

/-- What a step that inserts no order does to the orders. -/
theorem Filed.same_slips (filed : Filed db filing db') (unopened : ∀ row, filing ≠ .opened row) :
    (∀ old ∈ db.topupOrders, ∃ row ∈ db'.topupOrders, SameSlip old row) ∧
    ∀ row ∈ db'.topupOrders, ∃ old ∈ db.topupOrders, SameSlip old row := by
  have pays : ∀ reference submissionId now row, openTopup reference row = true →
      SameSlip row (paidBy submissionId now row) :=
    fun _ _ _ row _ => { SameSlip.refl row with opened := by simp [paidBy] }
  cases filed with
  | still | recorded =>
    exact ⟨fun old mem => ⟨old, mem, .refl old⟩, fun row mem => ⟨row, mem, .refl row⟩⟩
  | opened => exact absurd rfl (unopened _)
  | closed hits ended =>
    refine update_related _ SameSlip.refl fun row hit => { SameSlip.refl row with opened := ?_ }
    rcases ended with rfl | rfl <;> simp
  | noted => exact update_related _ SameSlip.refl fun row _ => { SameSlip.refl row with }
  | credited | approved => exact update_related _ SameSlip.refl (pays _ _ _)

/-- What a step of any request does to the orders: it inserts the one it decided on, or inserts
none. -/
inductive Slips (db db' : DepositDb) (process : DepositProcess) : Prop
  | inserted {row : TopupOrderRow} :
      inserting process = some (row.merchantId, row.method, row.createdAt) →
      (∀ old ∈ db.topupOrders, old.id ≠ row.id) → row.status = .opened →
      db'.topupOrders = db.topupOrders ++ [row] → Slips db db' process
  | kept : Filed db filing db' → (∀ row, filing ≠ .opened row) → Slips db db' process

theorem still_slips (process : DepositProcess) : Slips db db process :=
  .kept .still (by rintro _ ⟨⟩)

theorem saveOrder_slips {order : NewTopupOrder}
    (saved : saveOrder deps order input db = .ok (db', reference))
    (asks : inserting process = some (order.merchantId, order.method, order.createdAt)) :
    Slips db db' process := by
  unfold saveOrder at saved
  split at saved
  · cases saved
  · obtain ⟨_, fresh, _, rfl⟩ := saveTopupOrder_ok saved
    exact .inserted asks (fun old mem => (fresh old mem).1) rfl rfl

/-- A unit of work on the orders that inserts none. -/
theorem unit_slips {work : DepositDb → Except Fault (DepositDb × α)}
    (each : ∀ next answer, work db = .ok (next, answer) →
      ∃ filing, Filed db filing next ∧ ∀ row, filing ≠ .opened row)
    (done : depositUnit input work db = (db', result)) : Slips db db' process := by
  rcases depositUnit_cases input work db with ⟨next, answer, _, worked, same⟩ | ⟨fault, same⟩
  · rw [same] at done
    cases done
    obtain ⟨filing, filed, unopened⟩ := each _ _ worked
    exact .kept filed unopened
  · rw [same] at done
    cases done
    exact still_slips _

theorem cancel_unopened (db : DepositDb) (orderId : String) (now : Timestamp) :
    ∀ next answer, Except.ok (ε := Fault) (cancelTopupOrder db orderId now) = .ok (next, answer) →
      ∃ filing, Filed db filing next ∧ ∀ row, filing ≠ .opened row := by
  intro next answer done
  cases done
  exact ⟨_, cancel_filed db orderId now, by rintro _ ⟨⟩⟩

theorem start_slips (input : DepositInput) (db : DepositDb) (call : StartChapaDeposit) :
    Slips db (call.step input db).1 (.startChapaDeposit call) := by
  obtain ⟨deps, context, amountMinor, correlationId, point⟩ := call
  cases point with
  | saving now =>
    simp only [StartChapaDeposit.step]
    split
    · rename_i saved
      exact saveOrder_slips saved rfl
    · exact still_slips _
    · exact still_slips _
  | initializing reference now =>
    simp only [StartChapaDeposit.step]
    split <;> exact still_slips _
  | cancelling detail now =>
    simp only [StartChapaDeposit.step]
    split
    all_goals
      rename_i done
      exact unit_slips (cancel_unopened db _ now) done
  | _ => exact still_slips _

theorem order_slips (input : DepositInput) (db : DepositDb) (call : OrderBankDeposit) :
    Slips db (call.step input db).1 (.orderBankDeposit call) := by
  obtain ⟨deps, context, amountMinor, correlationId, point⟩ := call
  cases point with
  | saving now =>
    simp only [OrderBankDeposit.step]
    split
    · rename_i saved
      exact saveOrder_slips saved rfl
    · exact still_slips _
    · exact still_slips _
  | _ => exact still_slips _

theorem cancelBank_slips (input : DepositInput) (db : DepositDb) (call : CancelBankDeposit) :
    Slips db (call.step input db).1 (.cancelBankDeposit call) := by
  obtain ⟨context, point⟩ := call
  cases point with
  | begin =>
    simp only [CancelBankDeposit.step]
    split <;> exact still_slips _
  | cancelling orderId now =>
    simp only [CancelBankDeposit.step]
    split
    all_goals
      rename_i done
      exact unit_slips (cancel_unopened db orderId now) done
  | _ => exact still_slips _

theorem expire_slips (input : DepositInput) (db : DepositDb) (call : ExpireOrders) :
    Slips db (call.step input db).1 (.expireTopupOrders call) := by
  obtain ⟨point⟩ := call
  cases point with
  | begin =>
    simp only [ExpireOrders.step]
    split
    all_goals
      rename_i done
      refine unit_slips (fun next answer worked => ?_) done
      cases worked
      exact ⟨_, expire_filed db (input.now 0), by rintro _ ⟨⟩⟩
  | _ => exact still_slips _

theorem settle_slips (sound : DepositSound db) (input : DepositInput)
    (call : SettleChapaDeposit) :
    Slips db (call.step input db).1 (.settleChapaDeposit call) := by
  unfold SettleChapaDeposit.step
  cases here : call.point with
  | begin =>
    simp only
    split
    · exact still_slips _
    · split <;> exact still_slips _
  | verifying order =>
    simp only
    split <;> exact still_slips _
  | recording order payment =>
    simp only
    have notes : ∀ next answer, Except.ok (ε := Fault) (recordTopupProviderOutcome db call.reference
        payment.providerReference payment.status (input.now 0), ()) = .ok (next, answer) →
        ∃ filing, Filed db filing next ∧ ∀ row, filing ≠ .opened row := by
      intro next answer worked
      cases worked
      exact ⟨.noted call.reference, .noted, by rintro _ ⟨⟩⟩
    split
    · rename_i done
      split <;> exact unit_slips notes done
    · rename_i done
      exact unit_slips notes done
  | settling order payment amountMinor =>
    simp only
    have settles : ∀ next won, call.settle order payment amountMinor input db = .ok (next, won) →
        ∃ filing, Filed db filing next ∧ ∀ row, filing ≠ .opened row := by
      intro next won worked
      rcases settle_filed sound here worked with ⟨_, rfl, _⟩ | ⟨_, _, _, _, _, filed⟩
      · exact ⟨.still, .still, by rintro _ ⟨⟩⟩
      · exact ⟨_, filed, by rintro _ ⟨⟩⟩
    split
    all_goals
      rename_i done
      exact unit_slips settles done
  | _ => exact still_slips _

theorem record_slips (input : DepositInput) (db : DepositDb) (call : RecordDeposit) :
    Slips db (call.step input db).1 (.recordDeposit call) := by
  unfold RecordDeposit.step
  cases here : call.point with
  | begin =>
    simp only
    have records : ∀ next outcome, recordAndClose call.deps call.claim input db =
        .ok (next, outcome) → ∃ filing, Filed db filing next ∧ ∀ row, filing ≠ .opened row := by
      intro next outcome worked
      rcases record_filed here worked with ⟨_, _, filed⟩ | ⟨_, _, _, _, filed⟩
      · exact ⟨_, filed, by rintro _ ⟨⟩⟩
      · exact ⟨_, filed, by rintro _ ⟨⟩⟩
    split
    · exact still_slips _
    · split
      all_goals
        rename_i done
        exact unit_slips records done
  | _ => exact still_slips _

theorem approve_slips (known : KnownApproval db call) (input : DepositInput) :
    Slips db (call.step input db).1 (.approveDeposit call) := by
  unfold ApproveDeposit.step
  cases here : call.point with
  | posting waiting =>
    simp only
    have posts : ∀ next answer, call.post waiting input db = .ok (next, answer) →
        ∃ filing, Filed db filing next ∧ ∀ row, filing ≠ .opened row := by
      intro next answer worked
      obtain ⟨_, _, _, _, filed⟩ := post_filed known here worked
      exact ⟨_, filed, by rintro _ ⟨⟩⟩
    split
    all_goals
      rename_i done
      exact unit_slips posts done
  | _ => exact still_slips _

/-- Only a request that has decided on an order inserts one, and it inserts that one. -/
theorem process_slips (sound : DepositSound db) (known : KnownDeposit db process)
    (input : DepositInput) : Slips db (process.step input db).1 process := by
  cases process with
  | startChapaDeposit call => exact start_slips input db call
  | orderBankDeposit call => exact order_slips input db call
  | cancelBankDeposit call => exact cancelBank_slips input db call
  | expireTopupOrders call => exact expire_slips input db call
  | settleChapaDeposit call => exact settle_slips sound input call
  | recordDeposit call => exact record_slips input db call
  | approveDeposit call => exact approve_slips known input

/-- The orders stay apart when the one that is inserted finds no open one of its method. -/
theorem Apart.slips (apart : Apart db) (slips : Slips db db' process)
    (alone : ∀ order ∈ inserting process,
      findOpenTopupOrder db order.1 order.2.2 (some order.2.1) = none) : Apart db' := by
  cases slips with
  | @inserted row asks fresh opened added =>
    have expired := findOpen_none (alone _ asks)
    have past : ∀ old ∈ db.topupOrders, old.status = .opened →
        old.merchantId = row.merchantId → old.method = row.method →
        old.expiresAt ≤ row.createdAt :=
      fun old mem opened own same => expired old mem own opened same
    intro a memA b memB openA openB own same other
    rw [added] at memA memB
    rcases List.mem_append.mp memA with memA | memA
    · rcases List.mem_append.mp memB with memB | memB
      · exact apart a memA b memB openA openB own same other
      · cases List.mem_singleton.mp memB
        exact .inl (past a memA openA own same)
    · cases List.mem_singleton.mp memA
      rcases List.mem_append.mp memB with memB | memB
      · exact .inr (past b memB openB own.symm same.symm)
      · cases List.mem_singleton.mp memB
        exact absurd rfl other
  | kept filed unopened =>
    obtain ⟨_, earlier⟩ := Filed.same_slips filed unopened
    intro a memA b memB openA openB own same other
    obtain ⟨oldA, thereA, asA⟩ := earlier a memA
    obtain ⟨oldB, thereB, asB⟩ := earlier b memB
    rw [asA.merchant, asB.merchant] at own
    rw [asA.method, asB.method] at same
    rw [asA.id, asB.id] at other
    rw [asA.expires, asB.created, asB.expires, asA.created]
    exact apart oldA thereA oldB thereB (asA.opened openA) (asB.opened openB) own same other

/-- Orders that are apart are open one at a time. -/
theorem Apart.one (apart : Apart db) (sound : DepositSound db) : OneAtATime db := by
  intro merchantId method now made
  have same : ∀ a ∈ db.topupOrders.filter (live merchantId method now),
      ∀ b ∈ db.topupOrders.filter (live merchantId method now), a = b := by
    intro a memA b memB
    obtain ⟨memA, liveA⟩ := List.mem_filter.mp memA
    obtain ⟨memB, liveB⟩ := List.mem_filter.mp memB
    simp only [live, decide_eq_true_eq] at liveA liveB
    obtain ⟨ownA, sameA, openA, untilA⟩ := liveA
    obtain ⟨ownB, sameB, openB, untilB⟩ := liveB
    by_contra other
    have ids : a.id ≠ b.id := fun id => other (sound.orders.eq memA memB id)
    rcases apart a memA b memB openA openB (ownA.trans ownB.symm) (sameA.trans sameB.symm) ids with
      first | second
    · exact Int.not_lt.mpr (Int.le_trans first (made b memB)) untilA
    · exact Int.not_lt.mpr (Int.le_trans second (made a memA)) untilB
  have once : (db.topupOrders.filter (live merchantId method now)).Nodup :=
    (List.Nodup.of_map _ sound.orders).filter _
  generalize db.topupOrders.filter (live merchantId method now) = rows at same once
  cases rows with
  | nil => exact Nat.zero_le _
  | cons first rest =>
    cases rest with
    | nil => exact Nat.le_refl _
    | cons second rest =>
      have equal := same first List.mem_cons_self second
        (List.mem_cons_of_mem _ List.mem_cons_self)
      exact absurd (equal ▸ List.mem_cons_self) (List.nodup_cons.mp once).1

theorem FoundSlip.slips (found : FoundSlip db process) (slips : Slips db db' other) :
    FoundSlip db' process := by
  have stays : ∀ orderId, (∃ row ∈ db.topupOrders, row.id = orderId ∧ row.method = .bankCounter) →
      ∃ row ∈ db'.topupOrders, row.id = orderId ∧ row.method = .bankCounter := by
    rintro orderId ⟨old, mem, id, method⟩
    cases slips with
    | inserted _ _ _ added =>
      refine ⟨old, ?_, id, method⟩
      rw [added]
      exact List.mem_append_left _ mem
    | kept filed unopened =>
      obtain ⟨row, there, same⟩ := (Filed.same_slips filed unopened).1 old mem
      exact ⟨row, there, same.id.trans id, same.method.trans method⟩
  cases process with
  | cancelBankDeposit call =>
    obtain ⟨context, point⟩ := call
    cases point with
    | cancelling orderId now => exact stays orderId found
    | _ => trivial
  | _ => trivial

/-- A request that finds a bank slip knows it has found one. -/
theorem foundSlip_step (found : FoundSlip db process)
    (slip : ∀ order ∈ cancels input db process, order.method = .bankCounter)
    (slips : Slips db (process.step input db).1 process) :
    FoundSlip (process.step input db).1 (process.step input db).2 := by
  cases process with
  | cancelBankDeposit call =>
    obtain ⟨context, point⟩ := call
    cases point with
    | begin =>
      simp only [DepositProcess.step, CancelBankDeposit.step, Prod.map, id]
      cases search : findOpenTopupOrder db context.merchantId (input.now 0) none with
      | none => trivial
      | some order => exact ⟨order, findOpen_mem search, rfl, slip order search⟩
    | cancelling orderId now =>
      simp only [DepositProcess.step, CancelBankDeposit.step, Prod.map, id]
      split <;> trivial
    | returned cancelled => trivial
    | threw fault => trivial
  | _ => trivial

/-- What a request that has found a bank slip cancels is that slip. -/
theorem cancel_spares (sound : DepositSound db) (input : DepositInput) {call : CancelBankDeposit}
    (found : FoundSlip db (.cancelBankDeposit call)) (mem : row ∈ db.topupOrders)
    (other : row.method ≠ .bankCounter) : row ∈ (call.step input db).1.topupOrders := by
  obtain ⟨context, point⟩ := call
  cases point with
  | begin =>
    simp only [CancelBankDeposit.step]
    split <;> exact mem
  | cancelling orderId now =>
    obtain ⟨slip, there, named, method⟩ := found
    simp only [CancelBankDeposit.step]
    rcases depositUnit_cases input (fun db => .ok (cancelTopupOrder db orderId now)) db with
      ⟨next, answer, _, worked, same⟩ | ⟨fault, same⟩
    · cases worked
      rw [same]
      have missed : openTopupId orderId row = false := by
        refine decide_eq_false fun hit => other ?_
        rw [sound.orders.eq mem there (hit.1.trans named.symm)]
        exact method
      have kept := update_mem (openTopupId orderId)
        (fun row => { row with status := .cancelled, updatedAt := now }) mem
      rw [missed] at kept
      exact kept
    · rw [same]
      exact mem
  | _ => exact mem

end Steps

section Runs

variable {w w' : DepositWorld} {past : List DepositTaken}

/-- What holds in an orderly run. -/
structure Ordered (allowed : List DepositService) (w : DepositWorld) : Prop where
  secure : DepositSecure allowed w
  apart : Apart w.store
  found : ∀ process, some process ∈ w.procs → FoundSlip w.store process

theorem ordered_start (before : BeforeOrders w) : Ordered allowed w where
  secure := by
    refine ⟨?_, fun process mem => ?_⟩
    · refine ⟨?_, ?_, ?_, ?_, ?_⟩
      · rw [before.orders]
        exact List.nodup_nil
      · rw [before.orders]
        exact List.nodup_nil
      · rw [before.submissions]
        exact List.nodup_nil
      · simp [before.orders]
      · simp [before.submissions]
    · rw [before.idle] at mem
      cases mem
  apart := by
    intro a mem
    rw [before.orders] at mem
    cases mem
  found := by
    intro process mem
    rw [before.idle] at mem
    cases mem

theorem foundSlip_starting {process : DepositProcess} (start : process.Starting) :
    FoundSlip db process := by
  cases process with
  | cancelBankDeposit call =>
    obtain ⟨context, point⟩ := call
    cases start
    trivial
  | _ => trivial

theorem ordered_step (ordered : Ordered allowed w) (step : DepositStep allowed w event w')
    (orderly : Orderly ⟨w, event, w'⟩) : Ordered allowed w' ∧ SparesOthers ⟨w, event, w'⟩ := by
  have secure := deposit_secure w event w' ordered.secure step
  cases step with
  | start admitted =>
    refine ⟨⟨secure, ordered.apart, fun process mem => ?_⟩, by rintro _ _ _ ⟨⟩⟩
    rcases List.mem_append.mp mem with mem | mem
    · exact ordered.found process mem
    · cases List.mem_singleton.mp mem
      exact foundSlip_starting admitted.2
  | crash =>
    refine ⟨⟨secure, ordered.apart, fun process mem => ?_⟩, by rintro _ _ _ ⟨⟩⟩
    rcases List.mem_or_eq_of_mem_set mem with mem | same
    · exact ordered.found process mem
    · cases same
  | act here permitted moved =>
    rename_i process input store process' slot
    obtain ⟨alone, slip⟩ := orderly (input, process) (ofActor_act here)
    have sound := ordered.secure.1
    have slips := process_slips sound (ordered.secure.2 process (World.proc_mem here)).2 input
    have found := ordered.found process (World.proc_mem here)
    have knows := foundSlip_step found slip slips
    rw [show process.step input w.store = _ from moved] at slips knows
    refine ⟨⟨secure, ordered.apart.slips slips alone, fun other mem => ?_⟩, ?_⟩
    · rcases List.mem_or_eq_of_mem_set mem with mem | same
      · exact (ordered.found other mem).slips slips
      · cases same
        exact knows
    · rintro _ _ call ⟨⟩ there row mem other
      have mine := here.symm.trans there
      cases mine
      have spares := cancel_spares sound input found mem other
      have stored : (call.step input w.store).1 = store := congrArg Prod.fst moved
      rw [stored] at spares
      exact spares

/-- Where every order is inserted while its shop has no other open one of its method, and who
cancels the bank slip finds a bank slip, each shop has one slip of each method at a time, and
cancelling it touches no other order. -/
theorem one_slip_each (run : Run BeforeOrders (DepositStep allowed) past w)
    (orderly : ∀ taken ∈ past, Orderly taken) : Promised past w := by
  have whole : Ordered allowed w ∧ ∀ taken ∈ past, SparesOthers taken := by
    induction run with
    | start before => exact ⟨ordered_start before, by simp⟩
    | @step past w event w' run step ih =>
      obtain ⟨ordered, spared⟩ := ih fun taken mem => orderly taken (List.mem_cons_of_mem _ mem)
      obtain ⟨after, spares⟩ := ordered_step ordered step (orderly _ List.mem_cons_self)
      exact ⟨after, List.forall_mem_cons.mpr ⟨spares, spared⟩⟩
  exact ⟨whole.1.apart.one whole.1.secure.1, whole.2⟩

end Runs

/-- A shop asking for a slip for a hundred birr. -/
def slipFor (correlationId : CorrelationId) : DepositProcess :=
  .orderBankDeposit
    { deps := sandbox, context := ⟨"shop", "till", "cashier"⟩, amountMinor := 10000
      correlationId, point := .begin }

/-- The shop calls its slip off. -/
def slipOff : DepositProcess :=
  .cancelBankDeposit { context := ⟨"shop", "till", "cashier"⟩, point := .begin }

/-- Surroundings in which a reference is drawn under a tag. -/
def printing (reference : String) (now : Timestamp) : DepositInput :=
  { answering "id" reference now with newReference := fun _ => reference }

/-- Requests that have come in, and the steps they take: whose, with what reference, and when. -/
def slipEvents (requests : List DepositProcess) (acts : List (Nat × String × Timestamp)) :
    List (Event DepositInput DepositProcess) :=
  requests.map .start ++ acts.map fun act => .act act.1 (printing act.2.1 act.2.2)

def slipsPlayed (requests : List DepositProcess) (acts : List (Nat × String × Timestamp)) :
    List DepositTaken × DepositWorld :=
  played (World.next depositServer) (slipEvents requests acts) [] ⟨depositDesk, []⟩

theorem slipsPlayed_run {requests : List DepositProcess} {acts : List (Nat × String × Timestamp)}
    (playable : Playable (World.May (Requests ordering) fun _ _ _ => True)
      (World.next depositServer) (slipEvents requests acts) ⟨depositDesk, []⟩) :
    Run BeforeOrders (DepositStep ordering) (slipsPlayed requests acts).1
      (slipsPlayed requests acts).2 := by
  have opening : Run BeforeOrders (DepositStep ordering) [] ⟨depositDesk, []⟩ :=
    .start ⟨rfl, rfl, by simp [depositDesk, migrated], rfl⟩
  exact opening.play Pool.next playable

/-- A payment through the gateway is begun, and then the bank slip is called off. -/
def calledOff : List (Nat × String × Timestamp) :=
  [(0, "ABCDEFGHJ", 0), (0, "ABCDEFGHJ", 0), (0, "ABCDEFGHJ", 0), (1, "", 1), (1, "", 1)]

theorem calledOff_run : Run BeforeOrders (DepositStep ordering)
    (slipsPlayed [hundredBirr, slipOff] calledOff).1
    (slipsPlayed [hundredBirr, slipOff] calledOff).2 :=
  slipsPlayed_run (by decide +kernel)

/-- Whether a step spares the orders of other methods. -/
def spares (taken : DepositTaken) : Bool :=
  (ofActor (fun _ process => some process) taken).all fun process =>
    match process with
    | .cancelBankDeposit _ => taken.before.store.topupOrders.all fun row =>
        row.method = .bankCounter ∨ row ∈ taken.after.store.topupOrders
    | _ => true

theorem SparesOthers.spares (spared : SparesOthers taken) : spares taken = true := by
  unfold OpenSlips.spares
  refine (Option.all_eq_true _ _).mpr fun process acts => ?_
  cases process with
  | cancelBankDeposit call =>
    unfold ofActor at acts
    split at acts
    · rename_i slot input event
      obtain ⟨process, here, same⟩ := Option.bind_eq_some_iff.mp acts
      cases same
      refine List.all_eq_true.mpr fun row mem => decide_eq_true ?_
      by_cases slip : row.method = .bankCounter
      · exact .inl slip
      · exact .inr (spared slot input call event here row mem slip)
    · cases acts
  | _ => rfl

/-- A shop that has no slip and calls it off cancels its payment through the gateway. -/
theorem calledOff_cancels : ¬ ∀ past w, Run BeforeOrders (DepositStep ordering) past w →
    Promised past w := by
  intro promised
  have spared := (promised _ _ calledOff_run).spared
  have all : (slipsPlayed [hundredBirr, slipOff] calledOff).1.all spares = true :=
    List.all_eq_true.mpr fun taken mem => (spared taken mem).spares
  revert all
  decide +kernel

/-- A slip is ordered, called off, and ordered again. -/
def orderedAgain : List (Nat × String × Timestamp) :=
  [(0, "ABCDEFGHJ", 0), (0, "ABCDEFGHJ", 0), (1, "", 1), (1, "", 1), (2, "KLMNPQRST", 2),
    (2, "KLMNPQRST", 2)]

/-- The shop has the second slip then, and no other. -/
theorem one_slip_each_again :
    Promised (slipsPlayed [slipFor "one", slipOff, slipFor "two"] orderedAgain).1
      (slipsPlayed [slipFor "one", slipOff, slipFor "two"] orderedAgain).2 ∧
    (slipsPlayed [slipFor "one", slipOff, slipFor "two"] orderedAgain).2.store.topupOrders.map
      (·.status) = [.cancelled, .opened] :=
  ⟨one_slip_each (slipsPlayed_run (by decide +kernel)) (by decide +kernel), by decide +kernel⟩

end Telga.Proofs.OpenSlips
