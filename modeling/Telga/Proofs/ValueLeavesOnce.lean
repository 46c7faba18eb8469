import Telga.Proofs.Runs

namespace Telga.Proofs
open Domain Persistence Application Library

/-- The entries a step added to the ledger. -/
def added (taken : Happened) : List LedgerEntryRow :=
  taken.after.store.ledgerEntries.drop taken.before.store.ledgerEntries.length

/-- An entry that takes a sale's value out of the bucket holding it, other than into review: the
debit leg of a release or a settlement. -/
def Departs (transactionId : TransactionId) (row : LedgerEntryRow) : Prop :=
  row.transactionId = some transactionId ∧ row.direction = .debit ∧
  (row.accountType = .merchantReserved ∨ row.accountType = .merchantUnderReview) ∧
  row.entryType ≠ .adjustment

instance (transactionId : TransactionId) : DecidablePred (Departs transactionId) := fun _ =>
  inferInstanceAs (Decidable (_ ∧ _))

/-- The step committed a release or a settlement of the sale. -/
def Leaves (transactionId : TransactionId) (taken : Happened) : Prop :=
  ∃ row ∈ added taken, Departs transactionId row

instance (transactionId : TransactionId) : DecidablePred (Leaves transactionId) := fun _ =>
  inferInstanceAs (Decidable (∃ row ∈ _, _))

/-- A call about to do the unit of work in which it releases or settles a sale. -/
inductive Attempting (transactionId : TransactionId) : Process → Prop
  | answered : sale.point = .applying processing submitted → submitted.state ≠ .pending →
      processing.id = transactionId → Attempting transactionId (.createSale sale)
  | refusedLive : sale.point = .releasing processing → processing.id = transactionId →
      Attempting transactionId (.createSale sale)
  | resolved : call.point = .applying row job correlationId status →
      status.outcome = .success ∨ status.outcome = .failure →
      call.transactionId = transactionId → Attempting transactionId (.resolvePending call)
  | neverSubmitted : sweep.point = .neverSubmitted work → work.current.id = transactionId →
      Attempting transactionId (.recoverInFlight sweep)
  | recovered : sweep.point = .applying work lookupMs outcome reference →
      outcome = .confirmedSuccess ∨ outcome = .confirmedFailure →
      work.current.id = transactionId → Attempting transactionId (.recoverInFlight sweep)
  | completed : call.point = .completing row support → call.transactionId = transactionId →
      Attempting transactionId (.completeReversal call)

/-- Nothing was posted, no reservation changed and no commission was recorded. -/
def Unmoved (db db' : Db) : Prop :=
  db'.ledgerEntries = db.ledgerEntries ∧ db'.balanceReservations = db.balanceReservations ∧
  db'.commissionEntries = db.commissionEntries

/-- The movements of value that end a reservation. -/
def Disposal.ends : Disposal → Bool
  | .review => false
  | _ => true

/-- A leg of a posting that becomes a departing entry. -/
def Departing (transactionId : TransactionId) (leg : DraftEntry) : Prop :=
  leg.transactionId = some transactionId ∧ leg.direction = .debit ∧
  (leg.accountKind = .merchantReserved ∨ leg.accountKind = .merchantUnderReview) ∧
  leg.reason ≠ .adjustment

theorem departs_entryRows {legs : List DraftEntry} :
    (∃ row ∈ entryRows posting accounts index legs, Departs t row) ↔
      ∃ leg ∈ legs, Departing t leg := by
  constructor
  · rintro ⟨row, mem, departs⟩
    obtain ⟨offset, leg, found, rfl⟩ := mem_entryRows.mp mem
    exact ⟨leg, List.mem_of_getElem? found, departs⟩
  · rintro ⟨leg, mem, departing⟩
    obtain ⟨offset, found⟩ := List.getElem?_of_mem mem
    exact ⟨_, mem_entryRows.mpr ⟨offset, leg, found, rfl⟩, departing⟩

/-- Ending a reservation takes its value out of its bucket; nothing else about it does. -/
theorem departing_disposal {disposal : Disposal} :
    (∃ leg ∈ disposal.legs context, Departing t leg) ↔
      disposal.ends = true ∧ context.transactionId = t := by
  cases disposal with
  | release =>
    simp [Disposal.legs, Disposal.ends, releaseLegs, bucketTransfer, merchantLeg, Departing]
  | settle profitMinor profitBps =>
    simp only [Disposal.legs, Disposal.ends, settlementLegs]
    split <;> simp [merchantLeg, platformLeg, Departing]
  | review =>
    simp [Disposal.legs, Disposal.ends, reviewLegs, bucketTransfer, merchantLeg, Departing]
  | reviewRelease =>
    simp [Disposal.legs, Disposal.ends, reviewReleaseLegs, bucketTransfer, merchantLeg, Departing]

/-- A sale's value leaves its bucket exactly in the deeds that end its reservation. -/
theorem Turn.departing (turn : Turn db process deed) :
    (∃ leg ∈ deed.legs, Departing t leg) ↔
      ∃ state disposal context commission, deed = .moved state disposal context commission ∧
        disposal.ends = true ∧ context.transactionId = t := by
  have transfers : ∀ input debit, ¬ ∃ leg ∈ transferLegs input debit, Departing t leg := by
    intro input debit
    unfold transferLegs
    split <;> simp [merchantLeg, platformLeg, Departing]
  cases deed with
  | moved state disposal context commission =>
    rw [Deed.legs, departing_disposal]
    constructor
    · exact fun ends => ⟨_, _, _, _, rfl, ends⟩
    · rintro ⟨_, _, _, _, same, ends⟩
      cases same
      exact ends
  | opened row hold record context =>
    simp [Deed.legs, holdLegs, bucketTransfer, merchantLeg, Departing]
  | posted legs =>
    cases turn with
    | takesProfit => simp [Deed.legs, profitLegs, merchantLeg, platformLeg, Departing]
    | charges => simp [Deed.legs, feeLegs, merchantLeg, platformLeg, Departing]
    | deposits => simp [Deed.legs, fundingLegs, merchantLeg, platformLeg, Departing]
  | sent row legs =>
    cases turn with
    | records => simp [Deed.legs]
    | sends => simpa [Deed.legs] using transfers _ _
  | approved id legs =>
    cases turn with
    | approves => simpa [Deed.legs] using transfers _ _
    | late => simp [Deed.legs]
  | reversed id movement given =>
    simp [Deed.legs, reversalLegs, merchantLeg, platformLeg, Departing]
  | _ => simp [Deed.legs]

/-- A step commits a release or a settlement exactly when it is a deed that ends the sale's
reservation. -/
theorem leaves_iff (act : Act taken.before.store taken.after.store input process deed) :
    Leaves t taken ↔
      ∃ state disposal context commission, deed = .moved state disposal context commission ∧
        disposal.ends = true ∧ context.transactionId = t := by
  obtain ⟨posting, accounts, _, grown⟩ := act.did.ledger
  unfold Leaves added
  rw [grown, List.drop_left, departs_entryRows]
  exact act.turn.departing

theorem Disposal.ends_target (disposal : Disposal) (ends : disposal.ends = true) :
    disposal.target = .released ∨ disposal.target = .settled := by
  cases disposal with
  | release => exact .inl rfl
  | settle profitMinor profitBps => exact .inr rfl
  | review => cases ends
  | reviewRelease => exact .inl rfl

/-- A step that takes the value out found it in its bucket and leaves it gone. -/
theorem leaves_closes (act : Act taken.before.store taken.after.store input process deed)
    (leaves : Leaves t taken) : ¬ Ended taken.before.store t ∧ Ended taken.after.store t := by
  obtain ⟨state, disposal, context, commission, rfl, ends, rfl⟩ := (leaves_iff act).mp leaves
  have origin := act.did.origin act.sound
  have values := act.did.values act.sound act.turn context.transactionId
  simp only [Deed.value, if_true, Option.some_or] at values
  constructor
  · intro ended
    unfold Ended at ended
    rw [origin] at ended
    rcases ended with ended | ended
    · exact disposal.origin_open.1 (Option.some.inj ended)
    · exact disposal.origin_open.2 (Option.some.inj ended)
  · unfold Ended
    rw [values]
    rcases disposal.ends_target ends with target | target
    · exact .inl (congrArg some target)
    · exact .inr (congrArg some target)

/-- Value that left its bucket stays out of it, whatever step is taken. -/
theorem ended_stays (t : TransactionId) (w : World Db Process) (event : Event Input Process)
    (w' : World Db Process) (secure : Secure Sound (Enlisted allowed) w) (ended : Ended w.store t)
    (step : Interleaved allowed w event w') : Ended w'.store t := by
  rcases secure_act secure step with aside | ⟨input, process, deed, _, _, act⟩
  · rw [aside]
    exact ended
  · exact act.did.ended act.sound act.turn ended

/-- An attempt to release or settle a sale does that, or nothing. -/
theorem Attempting.outcome (attempting : Attempting t process) (turn : Turn db process deed) :
    deed = .quiet ∨ ∃ state disposal context commission,
      deed = .moved state disposal context commission ∧
        disposal.ends = true ∧ context.transactionId = t := by
  cases attempting with
  | answered point known same =>
    cases turn with
    | quiet => exact .inl rfl
    | settles here _ concerns =>
      rw [point] at here
      cases here
      exact .inr ⟨_, _, _, _, rfl, rfl, concerns.1.trans same⟩
    | fails here _ concerns =>
      rw [point] at here
      cases here
      exact .inr ⟨_, _, _, _, rfl, rfl, concerns.1.trans same⟩
    | holds here unknown =>
      rw [point] at here
      cases here
      exact absurd unknown known
    | opens here | submits here | releases here => simp [point] at here
  | refusedLive point same =>
    cases turn with
    | quiet => exact .inl rfl
    | releases here concerns =>
      rw [point] at here
      cases here
      exact .inr ⟨_, _, _, _, rfl, rfl, concerns.1.trans same⟩
    | opens here | submits here | settles here | fails here | holds here => simp [point] at here
  | resolved point outcome same =>
    cases turn with
    | quiet => exact .inl rfl
    | resolveSuccess _ _ found => exact .inr ⟨_, _, _, _, rfl, rfl, found.1.trans same⟩
    | resolveFailure _ _ found => exact .inr ⟨_, _, _, _, rfl, rfl, found.1.trans same⟩
    | escalatePending here notSuccess notFailure =>
      rw [point] at here
      cases here
      rcases outcome with success | failure
      · exact absurd success notSuccess
      · exact absurd failure notFailure
  | neverSubmitted point same =>
    cases turn with
    | quiet => exact .inl rfl
    | neverSubmitted here concerns =>
      rw [point] at here
      cases here
      exact .inr ⟨_, _, _, _, rfl, rfl, concerns.1.trans same⟩
    | recoverSuccess here | recoverFailure here | holdRecovery here | escalateRecovery here =>
      simp [point] at here
  | recovered point outcome same =>
    cases turn with
    | quiet => exact .inl rfl
    | neverSubmitted here => simp [point] at here
    | recoverSuccess here found =>
      rw [point] at here
      cases here
      exact .inr ⟨_, _, _, _, rfl, rfl, found.1.trans same⟩
    | recoverFailure here found =>
      rw [point] at here
      cases here
      exact .inr ⟨_, _, _, _, rfl, rfl, found.1.trans same⟩
    | holdRecovery here notSuccess notFailure =>
      rw [point] at here
      cases here
      rcases outcome with success | failure
      · exact absurd success notSuccess
      · exact absurd failure notFailure
    | escalateRecovery here notSuccess notFailure =>
      rw [point] at here
      cases here
      rcases outcome with success | failure
      · exact absurd success notSuccess
      · exact absurd failure notFailure
  | completed point same =>
    cases turn with
    | quiet => exact .inl rfl
    | completes here found either =>
      refine .inr ⟨_, _, _, _, rfl, ?_, found.1.trans same⟩
      rcases either with rfl | rfl <;> rfl

theorem Did.unmoved (did : Did .quiet db db') : Unmoved db db' := by
  obtain ⟨_, _, _, grown⟩ := did.ledger
  refine ⟨?_, did.holds, ?_⟩
  · simpa [Deed.legs, entryRows] using grown
  · simpa [Deed.commissions] using did.commissions

/-- The value reserved for a sale leaves its bucket at most once, and every other attempt to
release or settle it posts nothing, moves no reservation and records no commission. -/
theorem value_leaves_once {past : List Happened} (run : Run Begins (Interleaved allowed) past w)
    (transactionId : TransactionId) :
    (past.Pairwise fun later earlier =>
      ¬ (Leaves transactionId later ∧ Leaves transactionId earlier)) ∧
    ∀ taken ∈ past, ∀ input process, Acted taken input process →
      Attempting transactionId process → ¬ Leaves transactionId taken →
      Unmoved taken.before.store taken.after.store := by
  constructor
  · refine run.at_most_once _ _ begins_secure secure_step (ended_stays transactionId) ?_
    intro w event w' secure step leaves
    rcases secure_act secure step with aside | ⟨input, process, deed, _, _, act⟩
    · obtain ⟨row, mem, _⟩ := leaves
      simp only [added, aside, List.drop_length, List.not_mem_nil] at mem
    · exact leaves_closes act leaves
  · intro taken mem input process acted attempting stays
    obtain ⟨deed, act⟩ := acted_deed run mem acted
    rcases attempting.outcome act.turn with rfl | ends
    · exact act.did.unmoved
    · exact absurd ((leaves_iff act).mpr ends) stays

/-- A provider's answer about a pending sale delivered twice: both calls read the sale as pending
before either settles it. -/
def answeredTwice : List (Event Input Process) :=
  let unanswered := fun tag => drawing tag .indeterminate .success 0
  [.start (funds "shop"), .act 0 (unanswered "a"),
   .start (airtime "request"), .act 1 (unanswered "b"), .act 1 (unanswered "c"),
   .act 1 (unanswered "d"), .act 1 (unanswered "e"), .act 1 (unanswered "sale"),
   .act 1 (unanswered "f"), .act 1 (unanswered "g"), .act 1 (unanswered "h"),
   .start (.resolvePending ⟨"sale0", "shop", .begin⟩),
   .start (.resolvePending ⟨"sale0", "shop", .begin⟩),
   .act 2 (unanswered "i"), .act 3 (unanswered "j"), .act 2 (unanswered "k"),
   .act 3 (unanswered "l"), .act 2 (unanswered "m"), .act 3 (unanswered "n"),
   .act 2 (unanswered "o"), .act 3 (unanswered "p"), .act 2 (unanswered "q"),
   .act 3 (unanswered "r")]

def answeredTwiceRun : List Happened × World Db Process :=
  played (World.next services) answeredTwice [] ⟨twoShops, []⟩

/-- The first of the two takes the value out; the second, which attempts it too, moves nothing. -/
theorem answeredTwice_leaves_once :
    (∃ taken ∈ answeredTwiceRun.1, Leaves "sale0" taken) ∧
    (answeredTwiceRun.1.Pairwise fun later earlier =>
      ¬ (Leaves "sale0" later ∧ Leaves "sale0" earlier)) ∧
    ∃ taken ∈ answeredTwiceRun.1, ∃ input process, Acted taken input process ∧
      Attempting "sale0" process ∧ Unmoved taken.before.store taken.after.store := by
  have run := interleaved_run [.deposit, .createSale, .resolvePending] answeredTwice (by decide)
  obtain ⟨once, others⟩ := value_leaves_once run "sale0"
  refine ⟨⟨_, List.mem_cons_of_mem _ (List.mem_cons_self ..), by decide⟩, once, ?_⟩
  refine ⟨_, List.mem_cons_self .., _, _, ⟨3, rfl, rfl⟩, .resolved rfl (.inl rfl) rfl, ?_⟩
  exact others _ (List.mem_cons_self ..) _ _ ⟨3, rfl, rfl⟩ (.resolved rfl (.inl rfl) rfl)
    (by decide)

end Telga.Proofs
