import Telga.Proofs.PendingJobs

namespace Telga.Proofs.StatusChecks
open Domain Persistence Application Library

/-- How many checks a sale's pending job has counted, and when the sale is given up. -/
def tally (db : Db) (transactionId : TransactionId) : Option (Nat × Timestamp) :=
  (findPendingResolution db transactionId).map fun row => (row.attempts, row.deadlineAt)

/-- The provider did not say whether it delivered. -/
def Indeterminate (outcome : ProviderLookupOutcome) : Prop :=
  outcome ≠ .confirmedSuccess ∧ outcome ≠ .confirmedFailure

def InFlight (row : TransactionRow) : Prop :=
  row.state = .processing ∨ row.state = .pending

/-- The sale that a sweep finds in flight when it applies an answer, which leaves it open and whose
unit of work goes through. -/
structure LeftOpen (input : Input) (db : Db) (work : UnderClaim) (outcome : ProviderLookupOutcome)
    (reference : Option String) (current : TransactionRow) : Prop where
  found : findTransaction db work.current.id work.current.merchantId = some current
  flying : InFlight current
  answer : Indeterminate outcome
  through : Commits input (applyLookup work outcome reference input) db

instance : DecidablePred Indeterminate := fun _ =>
  inferInstanceAs (Decidable (_ ∧ _))

instance : DecidablePred InFlight := fun _ =>
  inferInstanceAs (Decidable (_ ∨ _))

/-- The unit of work goes through. -/
def goes (input : Input) (work : Db → Except Fault (Db × α)) (db : Db) : Bool :=
  match unit input work db with
  | (_, .ok _) => true
  | (_, .error _) => false

theorem goes_iff {input : Input} {work : Db → Except Fault (Db × α)} :
    goes input work db = true ↔ Commits input work db := by
  unfold goes Commits
  split
  · rename_i next answer same
    exact ⟨fun _ => ⟨next, answer, same⟩, fun _ => rfl⟩
  · rename_i next fault same
    constructor
    · intro impossible
      cases impossible
    · rintro ⟨next', answer, same'⟩
      cases same.symm.trans same'

/-- The row of a sale that a sweep's answer leaves open, if this step does. -/
def leftOpen (input : Input) (db : Db) (work : UnderClaim) (outcome : ProviderLookupOutcome)
    (reference : Option String) : Option TransactionRow :=
  (findTransaction db work.current.id work.current.merchantId).filter fun current =>
    InFlight current ∧ Indeterminate outcome ∧
      goes input (applyLookup work outcome reference input) db = true

/-- A step that opens the pending job of a sale unless there is one, and the deadline it sets: a
sale held by its own call is given that call's maximum from then on, one met by a sweep the sweep's
maximum from the time it got in flight. -/
def opensUntil (input : Input) (db : Db) (transactionId : TransactionId) :
    Process → Option Timestamp
  | .createSale sale =>
    match sale.point with
    | .applying processing submitted =>
      if processing.id = transactionId ∧ submitted.state = .pending ∧
          goes input (applyOutcome sale processing submitted input) db = true
      then some (input.now 0 + sale.deps.pendingMaximumMs)
      else none
    | _ => none
  | .recoverInFlight sweep =>
    match sweep.point with
    | .uncertain work =>
      if work.current.id = transactionId ∧ goes input (moveUncertain work input) db = true
      then some (work.current.updatedAt + work.policy.pendingMaximumMs)
      else none
    | .applying work _ outcome reference =>
      ((leftOpen input db work outcome reference).filter fun current =>
        current.id = transactionId).map fun current =>
          current.updatedAt + work.policy.pendingMaximumMs
    | _ => none
  | _ => none

/-- A step that records a status check of a sale: one whose job is closed counts no more. -/
def recordsCheck (input : Input) (db : Db) (transactionId : TransactionId) : Process → Bool
  | .resolvePending call =>
    match call.point with
    | .recording _ _ _ =>
      call.transactionId = transactionId ∧ input.busy = false ∧
        jobOf db transactionId = some .awaiting
    | _ => false
  | .recoverInFlight sweep =>
    match sweep.point with
    | .applying work _ outcome reference =>
      (leftOpen input db work outcome reference).any fun current =>
        current.id = transactionId ∧ (jobOf db transactionId).all (· = .awaiting)
    | _ => false
  | _ => false

/-- The input and the call of a step, if it was an atomic step of a call. -/
def stepOf (taken : Happened) : Option (Input × Process) :=
  match taken.event with
  | .act slot input => (taken.before.proc slot).map (input, ·)
  | _ => none

/-- How many checks of a sale a run has recorded. -/
def checksOf (transactionId : TransactionId) (past : List Happened) : Nat :=
  past.countP fun taken => (stepOf taken).any fun step =>
    recordsCheck step.1 taken.before.store transactionId step.2

/-- The deadline a run has set a sale: that of the step that opened its job. -/
def deadlineOf (transactionId : TransactionId) (past : List Happened) : Option Timestamp :=
  past.findSome? fun taken =>
    if tally taken.before.store transactionId = none then
      (stepOf taken).bind fun step => opensUntil step.1 taken.before.store transactionId step.2
    else none

/-- What becomes of a tally when a job is opened unless there is one, and a check is recorded. -/
def advanced (job : Option (Nat × Timestamp)) (deadline : Option Timestamp) (checked : Bool) :
    Option (Nat × Timestamp) :=
  (job.or (deadline.map (0, ·))).map fun (attempts, deadlineAt) =>
    (if checked then attempts + 1 else attempts, deadlineAt)

/-- Every support case goes by the reference of its sale, and no two by the same. -/
structure Cased (db : Db) : Prop where
  referred : ∀ row ∈ db.supportCases, row.reference = supportReference row.transactionId
  unique : Unique (·.reference) db.supportCases

/-- What a step does to the tallies, and that it opens no second case of a sale. -/
structure Notes (db db' : Db) (opens : TransactionId → Option Timestamp)
    (checks : TransactionId → Bool) : Prop where
  tallies : ∀ t, tally db' t = advanced (tally db t) (opens t) (checks t)
  cases : Cased db → Cased db'

/-- Neither the pending jobs nor the support cases change. -/
def Beside (db db' : Db) : Prop :=
  db'.pendingResolutions = db.pendingResolutions ∧ db'.supportCases = db.supportCases

section Tables

variable {db db' db'' : Db} {t : TransactionId}

theorem leftOpen_iff {input : Input} {work : UnderClaim} :
    leftOpen input db work outcome reference = some current ↔
      LeftOpen input db work outcome reference current := by
  unfold leftOpen
  rw [Option.filter_eq_some_iff]
  simp only [decide_eq_true_eq, goes_iff]
  constructor
  · rintro ⟨found, flying, answer, through⟩
    exact ⟨found, flying, answer, through⟩
  · rintro ⟨found, flying, answer, through⟩
    exact ⟨found, flying, answer, through⟩

@[simp] theorem advanced_still (job : Option (Nat × Timestamp)) : advanced job none false = job := by
  cases job <;> rfl

theorem advanced_advanced (job : Option (Nat × Timestamp)) (deadline : Option Timestamp)
    (checked : Bool) :
    advanced (advanced job deadline false) none checked = advanced job deadline checked := by
  cases job with
  | none => cases deadline <;> rfl
  | some job => rfl

theorem Notes.still (tallies : ∀ t, tally db' t = tally db t) (cases : Cased db → Cased db') :
    Notes db db' (fun _ => none) (fun _ => false) := by
  refine ⟨fun t => ?_, cases⟩
  rw [advanced_still]
  exact tallies t

theorem Beside.notes (beside : Beside db db') : Notes db db' (fun _ => none) (fun _ => false) := by
  refine .still (fun t => ?_) fun cased => ?_
  · unfold tally findPendingResolution
    rw [beside.1]
  · exact ⟨beside.2 ▸ cased.referred, beside.2 ▸ cased.unique⟩

/-- What changes neither a tally nor the cases comes after anything else. -/
theorem Notes.upon (first : Notes db db' opens checks)
    (next : Notes db' db'' (fun _ => none) (fun _ => false)) : Notes db db'' opens checks := by
  refine ⟨fun t => ?_, fun cased => next.cases (first.cases cased)⟩
  rw [next.tallies, advanced_still, first.tallies]

/-- Or before. -/
theorem Notes.after (next : Notes db' db'' opens checks)
    (first : Notes db db' (fun _ => none) (fun _ => false)) : Notes db db'' opens checks := by
  refine ⟨fun t => ?_, fun cased => next.cases (first.cases cased)⟩
  rw [next.tallies, first.tallies, advanced_still]

/-- A check is recorded by a job just opened. -/
theorem Notes.counting (first : Notes db db' opens (fun _ => false))
    (next : Notes db' db'' (fun _ => none) checks) : Notes db db'' opens checks := by
  refine ⟨fun t => ?_, fun cased => next.cases (first.cases cased)⟩
  rw [next.tallies, first.tallies, advanced_advanced]

theorem Notes.congr (notes : Notes db db' opens checks) (sameOpens : ∀ t, opens' t = opens t)
    (sameChecks : ∀ t, checks' t = checks t) : Notes db db' opens' checks' := by
  refine ⟨fun t => ?_, notes.cases⟩
  rw [notes.tallies, sameOpens, sameChecks]

theorem tally_update {hit : PendingResolutionRow → Bool}
    {change : PendingResolutionRow → PendingResolutionRow}
    (keeps : ∀ row, (change row).transactionId = row.transactionId) (db : Db) (t : TransactionId) :
    tally { db with pendingResolutions := update hit change db.pendingResolutions } t =
      (findPendingResolution db t).map fun row =>
        ((if hit row then change row else row).attempts,
          (if hit row then change row else row).deadlineAt) := by
  unfold tally findPendingResolution
  rw [find?_update fun row => by rw [keeps], Option.map_map]
  rfl

theorem close_notes (db : Db) (t : TransactionId) (status : PendingStatus) (now : Timestamp) :
    Notes db (closePendingResolution db t status now).1 (fun _ => none) (fun _ => false) := by
  refine .still (fun other => ?_) fun cased => ⟨cased.referred, cased.unique⟩
  have keeps : ∀ row : PendingResolutionRow,
      ({ row with status, updatedAt := now } : PendingResolutionRow).transactionId =
        row.transactionId := fun _ => rfl
  simp only [closePendingResolution]
  rw [tally_update keeps]
  unfold tally
  apply congrArg (Option.map · (findPendingResolution db other))
  funext row
  split <;> rfl

theorem metadata_notes (db : Db) (t : TransactionId) (noted : PendingMetadata) :
    Notes db (updatePendingMetadata db t noted) (fun _ => none) (fun _ => false) := by
  refine .still (fun other => ?_) fun cased => ⟨cased.referred, cased.unique⟩
  have keeps : ∀ row : PendingResolutionRow,
      ({ row with
        nextCheckAt := noted.nextCheckAt <|> row.nextCheckAt
        lastOutcomeCategory := noted.lastOutcomeCategory <|> row.lastOutcomeCategory
        currentState := noted.currentState <|> row.currentState
        manualReviewOpen := noted.manualReviewOpen || row.manualReviewOpen
        updatedAt := noted.now } : PendingResolutionRow).transactionId = row.transactionId :=
    fun _ => rfl
  unfold updatePendingMetadata
  rw [tally_update keeps]
  unfold tally
  apply congrArg (Option.map · (findPendingResolution db other))
  funext row
  split <;> rfl

/-- An attempt is counted by the job of one sale, while it is awaited. -/
theorem attempt_notes (db : Db) (t : TransactionId) (now : Timestamp) :
    Notes db (recordResolutionAttempt db t now) (fun _ => none)
      fun other => decide (other = t ∧ jobOf db other = some .awaiting) := by
  refine ⟨fun other => ?_, fun cased => ⟨cased.referred, cased.unique⟩⟩
  have keeps : ∀ row : PendingResolutionRow,
      ({ row with
        attempts := row.attempts + 1, lastAttemptAt := some now, updatedAt := now } :
          PendingResolutionRow).transactionId = row.transactionId := fun _ => rfl
  unfold recordResolutionAttempt
  rw [tally_update keeps]
  unfold tally jobOf
  cases found : findPendingResolution db other with
  | none => rfl
  | some row =>
    have same := find_job found
    by_cases here : other = t
    · by_cases awaiting : row.status = .awaiting <;> simp [awaited, advanced, same, here, awaiting]
    · simp [awaited, advanced, same, here]

/-- A job is opened with its deadline, unless there is one. -/
theorem upsert_notes (h : upsertPendingResolution db job = .ok db') :
    Notes db db' (fun t => if t = job.transactionId then some job.deadlineAt else none)
      (fun _ => false) := by
  unfold upsertPendingResolution at h
  split at h
  · rename_i present
    cases h
    refine ⟨fun other => ?_, id⟩
    split
    · rename_i here
      cases found : findPendingResolution db other with
      | none =>
        obtain ⟨row, mem, same⟩ := present
        have missed := List.find?_eq_none.mp found row mem
        simp [here, same] at missed
      | some row => simp [tally, found, advanced]
    · exact (advanced_still _).symm
  · rename_i absent
    simp only [bind_ok, demand_ok, pure_ok] at h
    obtain ⟨_, _, _, _, rfl⟩ := h
    have fresh : ∀ old ∈ db.pendingResolutions, old.transactionId ≠ job.transactionId :=
      fun old mem same => absent ⟨old, mem, same⟩
    refine ⟨fun other => ?_, fun cased => ⟨cased.referred, cased.unique⟩⟩
    unfold tally findPendingResolution
    rw [find?_added _ fresh]
    by_cases here : other = job.transactionId
    · have none : db.pendingResolutions.find?
          (fun row => row.transactionId = job.transactionId) = none := by
        refine List.find?_eq_none.mpr fun old mem => ?_
        simpa using fresh old mem
      simp [here, none, advanced]
    · simp [here]

/-- A case is opened under the reference of its sale. -/
theorem createSupportCase_notes {filed : SupportInput} (h : createSupportCase db filed = .ok db')
    (referred : filed.reference = supportReference filed.transactionId) :
    Notes db db' (fun _ => none) (fun _ => false) := by
  refine .still (fun t => ?_) fun cased => ?_
  · obtain ⟨_, rfl⟩ := createSupportCase_ok h
    rfl
  · unfold createSupportCase at h
    split at h
    · cases h
      exact cased
    · simp only [bind_ok, demand_ok, pure_ok] at h
      obtain ⟨_, fresh, _, _, _, _, rfl⟩ := h
      constructor
      · intro row mem
        rcases List.mem_append.mp mem with mem | mem
        · exact cased.referred row mem
        · rw [List.mem_singleton.mp mem]
          exact referred
      · exact cased.unique.append fun old mem same => fresh ⟨old, mem, same⟩

theorem saveAudit_notes
    (h : saveAudit db auditId now action actor merchantId transactionId correlationId = .ok db') :
    Notes db db' (fun _ => none) (fun _ => false) := by
  obtain ⟨_, rfl⟩ := saveAudit_ok h
  exact Beside.notes ⟨rfl, rfl⟩

theorem moveValue_notes
    (h : moveValue origin target entries action entityType db context = .ok db') :
    Notes db db' (fun _ => none) (fun _ => false) := by
  obtain ⟨_, _, _, _, _, _, _, _, _, rfl⟩ := moveValue_ok h
  exact Beside.notes ⟨rfl, rfl⟩

theorem saveTransaction_notes (h : saveTransaction db saving = .ok db') :
    Notes db db' (fun _ => none) (fun _ => false) := by
  rcases (saveTransaction_ok h).2 with ⟨_, rfl⟩ | ⟨_, _, _, _, rfl⟩ <;>
    exact Beside.notes ⟨rfl, rfl⟩

theorem Notes.refl (db : Db) : Notes db db (fun _ => none) (fun _ => false) :=
  Beside.notes ⟨rfl, rfl⟩

end Tables

section Units

variable {db db' : Db} {input : Input} {sale : CreateSale} {call : ResolvePending}
  {work : UnderClaim} {current : TransactionRow}

theorem openSale_beside (h : openSale sale input db = .ok (db', reserved)) : Beside db db' := by
  refine ⟨openSale_jobs h, ?_⟩
  simp only [openSale, bind_ok, pure_ok, Prod.mk.injEq] at h
  obtain ⟨_, _, _, _, first, saved, second, audited, _, _, third, rewritten, fourth, held, _, _,
    fifth, again, sixth, audited', last, recorded, rfl, _⟩ := h
  obtain ⟨_, rfl⟩ := saveIdempotencyRecord_ok recorded
  obtain ⟨_, _, _, _, _, _, _, _, heldEq⟩ := reserve_ok held
  have cases : ∀ {db db' : Db} {saving}, saveTransaction db saving = .ok db' →
      db'.supportCases = db.supportCases := by
    intro db db' saving h
    rcases (saveTransaction_ok h).2 with ⟨_, rfl⟩ | ⟨_, _, _, _, rfl⟩ <;> rfl
  have audits : ∀ {db db' : Db} {id now action actor merchantId transactionId correlationId},
      saveAudit db id now action actor merchantId transactionId correlationId = .ok db' →
      db'.supportCases = db.supportCases := by
    intro db db' id now action actor merchantId transactionId correlationId h
    obtain ⟨_, rfl⟩ := saveAudit_ok h
    rfl
  calc sixth.supportCases
      = fifth.supportCases := audits audited'
    _ = fourth.supportCases := cases again
    _ = third.supportCases := by rw [heldEq]
    _ = second.supportCases := cases rewritten
    _ = first.supportCases := audits audited
    _ = db.supportCases := cases saved

theorem markProcessing_notes (h : markProcessing sale reserved input db = .ok (db', processing)) :
    Notes db db' (fun _ => none) (fun _ => false) := by
  simp only [markProcessing, bind_ok, pure_ok, Prod.mk.injEq] at h
  obtain ⟨_, _, _, saved, _, audited, rfl, _⟩ := h
  exact (saveTransaction_notes saved).upon (saveAudit_notes audited)

theorem releaseQuietly_notes (h : releaseQuietly sale processing input db = .ok (db', answer)) :
    Notes db db' (fun _ => none) (fun _ => false) := by
  simp only [releaseQuietly, bind_ok, pure_ok, Prod.mk.injEq] at h
  obtain ⟨_, _, _, saved, _, released, rfl, _⟩ := h
  exact (saveTransaction_notes saved).upon (moveValue_notes released)

theorem settleSale_notes (h : settleSale sale processing submitted input db = .ok (db', result)) :
    Notes db db' (fun _ => none) (fun _ => false) := by
  simp only [settleSale, bind_ok, pure_ok, Prod.mk.injEq] at h
  obtain ⟨_, _, _, saved, _, _, _, settled, last, recorded, _, audited, rfl, _⟩ := h
  obtain ⟨_, rfl⟩ := recordCommission_ok recorded
  have settles := (saveTransaction_notes saved).upon (moveValue_notes settled)
  obtain ⟨_, rfl⟩ := saveAudit_ok audited
  exact settles.upon (Beside.notes ⟨rfl, rfl⟩)

theorem failSale_notes (h : failSale sale processing submitted input db = .ok (db', result)) :
    Notes db db' (fun _ => none) (fun _ => false) := by
  simp only [failSale, bind_ok, pure_ok, Prod.mk.injEq] at h
  obtain ⟨_, _, _, saved, _, released, _, audited, rfl, _⟩ := h
  have fails := (saveTransaction_notes saved).upon (moveValue_notes released)
  obtain ⟨_, rfl⟩ := saveAudit_ok audited
  exact fails.upon (Beside.notes ⟨rfl, rfl⟩)

/-- Holding a sale opens its job, with the sale's own maximum. -/
theorem holdSale_notes (h : holdSale sale processing submitted input db = .ok (db', result)) :
    Notes db db'
      (fun t => if t = processing.id then some (input.now 0 + sale.deps.pendingMaximumMs) else none)
      (fun _ => false) := by
  simp only [holdSale, bind_ok, pure_ok, Prod.mk.injEq] at h
  obtain ⟨_, _, _, saved, _, begun, _, audited, rfl, _⟩ := h
  have opens := (upsert_notes begun).after (saveTransaction_notes saved)
  exact opens.upon (saveAudit_notes audited)

theorem resolveSuccess_notes
    (h : resolveSuccess call current correlationId status input db = .ok (db', result)) :
    Notes db db' (fun _ => none) (fun _ => false) := by
  simp only [resolveSuccess, bind_ok, pure_ok, Prod.mk.injEq] at h
  obtain ⟨_, _, _, saved, _, settled, _, audited, rfl, _⟩ := h
  have settles := (saveTransaction_notes saved).upon (moveValue_notes settled)
  obtain ⟨_, rfl⟩ := saveAudit_ok audited
  exact settles.upon (Beside.notes ⟨rfl, rfl⟩)

theorem resolveFailure_notes
    (h : resolveFailure call current correlationId status input db = .ok (db', result)) :
    Notes db db' (fun _ => none) (fun _ => false) := by
  simp only [resolveFailure, bind_ok, pure_ok, Prod.mk.injEq] at h
  obtain ⟨_, _, _, saved, _, released, _, audited, rfl, _⟩ := h
  have fails := (saveTransaction_notes saved).upon (moveValue_notes released)
  obtain ⟨_, rfl⟩ := saveAudit_ok audited
  exact fails.upon (Beside.notes ⟨rfl, rfl⟩)

theorem escalatePending_notes
    (h : escalatePending call current correlationId input db = .ok (db', result)) :
    Notes db db' (fun _ => none) (fun _ => false) := by
  simp only [escalatePending, bind_ok, pure_ok, Prod.mk.injEq] at h
  obtain ⟨_, _, _, saved, _, reviewed, _, filed, _, audited, rfl, _⟩ := h
  have escalates := (saveTransaction_notes saved).upon (moveValue_notes reviewed)
  have files := escalates.upon (createSupportCase_notes filed rfl)
  exact files.upon (saveAudit_notes audited)

theorem closing_notes {rest : Db → Except Fault (Db × SaleResult)}
    (h : closing call status current correlationId now db rest = .ok (db', result))
    (notes : ∀ closed, rest closed = .ok (db', result) →
      Notes closed db' (fun _ => none) (fun _ => false)) :
    Notes db db' (fun _ => none) (fun _ => false) := by
  have closes := close_notes db call.transactionId status now
  simp only [closing] at h
  split at h
  · exact (notes _ h).after closes
  · simp only [pure_ok, Prod.mk.injEq] at h
    obtain ⟨rfl, _⟩ := h
    exact closes

theorem applyStatus_notes
    (h : applyStatus call row job correlationId status input db = .ok (db', result)) :
    Notes db db' (fun _ => none) (fun _ => false) := by
  simp only [applyStatus] at h
  split at h
  · cases h
    exact .refl _
  · split at h
    · exact closing_notes h fun _ => resolveSuccess_notes
    · exact closing_notes h fun _ => resolveFailure_notes
    · split at h
      · cases h
        exact .refl _
      · exact closing_notes h fun _ => escalatePending_notes

theorem releaseNeverSubmitted_notes (h : releaseNeverSubmitted work input db = .ok (db', result)) :
    Notes db db' (fun _ => none) (fun _ => false) := by
  simp only [releaseNeverSubmitted, bind_ok, pure_ok, Prod.mk.injEq] at h
  obtain ⟨_, _, _, _, _, saved, _, released, _, audited, rfl, _⟩ := h
  have fails := (saveTransaction_notes saved).upon (moveValue_notes released)
  obtain ⟨_, rfl⟩ := saveAudit_ok audited
  exact fails.upon (Beside.notes ⟨rfl, rfl⟩)

/-- An uncertain submission opens the job, with the sweep's maximum. -/
theorem moveUncertain_notes (h : moveUncertain work input db = .ok (db', answer)) :
    Notes db db' (fun t => if t = work.current.id then
        some (work.current.updatedAt + work.policy.pendingMaximumMs) else none)
      (fun _ => false) := by
  simp only [moveUncertain, bind_ok, pure_ok, Prod.mk.injEq] at h
  obtain ⟨_, _, _, _, _, saved, _, begun, _, audited, rfl, _⟩ := h
  have opens := (upsert_notes begun).after (saveTransaction_notes saved)
  exact opens.upon (saveAudit_notes audited)

theorem recoverSuccess_notes
    (h : recoverSuccess work current reference input db = .ok (db', result)) :
    Notes db db' (fun _ => none) (fun _ => false) := by
  simp only [recoverSuccess, bind_ok, pure_ok, Prod.mk.injEq] at h
  obtain ⟨_, _, _, saved, second, settled, _, audited, rfl, _⟩ := h
  have settles := (saveTransaction_notes saved).upon (moveValue_notes settled)
  have closes := settles.upon (close_notes second current.id .resolved (input.now 0))
  obtain ⟨_, rfl⟩ := saveAudit_ok audited
  exact closes.upon (Beside.notes ⟨rfl, rfl⟩)

theorem recoverFailure_notes
    (h : recoverFailure work current reference input db = .ok (db', result)) :
    Notes db db' (fun _ => none) (fun _ => false) := by
  simp only [recoverFailure, bind_ok, pure_ok, Prod.mk.injEq] at h
  obtain ⟨_, _, _, saved, second, released, _, audited, rfl, _⟩ := h
  have fails := (saveTransaction_notes saved).upon (moveValue_notes released)
  have closes := fails.upon (close_notes second current.id .resolved (input.now 0))
  obtain ⟨_, rfl⟩ := saveAudit_ok audited
  exact closes.upon (Beside.notes ⟨rfl, rfl⟩)

theorem escalateRecovery_notes
    (h : escalateRecovery work current working outcome reference attempts input db =
      .ok (db', result)) : Notes db db' (fun _ => none) (fun _ => false) := by
  simp only [escalateRecovery, bind_ok] at h
  obtain ⟨_, _, _, saved, second, reviewed, h⟩ := h
  have escalates := (saveTransaction_notes saved).upon (moveValue_notes reviewed)
  have closes := escalates.upon (close_notes second current.id .escalated (input.now 0))
  split at h
  · rename_i none
    simp only [bind_ok, pure_ok, Prod.mk.injEq] at h
    obtain ⟨third, filed, fourth, audited, _, audited', rfl, _⟩ := h
    have referred : ((findSupportCaseByTransaction (closePendingResolution second current.id
        .escalated (input.now 0)).1 current.id current.merchantId).map (·.reference)).getD
          (supportReference current.id) = supportReference current.id := by
      rw [none]
      rfl
    have files := closes.upon (createSupportCase_notes filed referred)
    have notes := (files.upon (saveAudit_notes audited)).upon (metadata_notes fourth current.id
      { now := input.now 0, manualReviewOpen := true })
    exact notes.upon (saveAudit_notes audited')
  · simp only [bind_ok, pure_ok, Prod.mk.injEq] at h
    obtain ⟨third, kept, _, audited, rfl, _⟩ := h
    cases kept
    have notes := closes.upon (metadata_notes (closePendingResolution second current.id .escalated
      (input.now 0)).1 current.id { now := input.now 0, manualReviewOpen := true })
    exact notes.upon (saveAudit_notes audited)

end Units

section Answers

variable {db db' : Db} {input : Input} {work : UnderClaim} {current : TransactionRow}

/-- Counting an attempt opens the job of a sale unless there is one, counts one check more unless
it is closed, and then looks at the tally: short of both limits the sale is kept as it is, and
otherwise it is escalated. -/
theorem countAttempt_decides
    (h : countAttempt work current working outcome reference input db = .ok (db', result)) :
    Notes db db'
      (fun t => if t = current.id then some (current.updatedAt + work.policy.pendingMaximumMs)
        else none)
      (fun t => decide (t = current.id ∧ (jobOf db t).all (· = .awaiting) = true)) ∧
    ∃ attempts deadline, tally db' current.id = some (attempts, deadline) ∧
      ((attempts < work.policy.maxStatusAttempts ∧ input.now 0 < deadline ∧
          db'.transactions = db.transactions) ∨
        ((work.policy.maxStatusAttempts ≤ attempts ∨ deadline ≤ input.now 0) ∧
          ∃ jobs, escalateRecovery work current working outcome reference attempts input
            { db with pendingResolutions := jobs } = .ok (db', result))) := by
  simp only [countAttempt, bind_ok] at h
  obtain ⟨first, ensured, h⟩ := h
  have began := upsert_notes ensured
  have jobs := (upsert_changed ensured).2.1
  have counts : Notes db (recordResolutionAttempt first current.id (input.now 0))
      (fun t => if t = current.id then some (current.updatedAt + work.policy.pendingMaximumMs)
        else none)
      (fun t => decide (t = current.id ∧ (jobOf db t).all (· = .awaiting) = true)) := by
    apply (began.counting (attempt_notes first current.id (input.now 0))).congr (fun _ => rfl)
    intro t
    by_cases here : t = current.id
    · subst here
      have opens := jobs current.id
      rw [if_pos rfl] at opens
      rw [opens]
      cases jobOf db current.id <;> simp [opened]
    · simp [here]
  obtain ⟨job, there⟩ : ∃ job, findPendingResolution
      (recordResolutionAttempt first current.id (input.now 0)) current.id = some job := by
    have some := counts.tallies current.id
    rw [if_pos rfl] at some
    cases found : findPendingResolution (recordResolutionAttempt first current.id (input.now 0))
        current.id with
    | some job => exact ⟨job, rfl⟩
    | none =>
      rw [tally, found, advanced] at some
      cases before : tally db current.id <;> rw [before] at some <;> cases some
  have told : tally (recordResolutionAttempt first current.id (input.now 0)) current.id =
      some (job.attempts, job.deadlineAt) := by
    rw [tally, there]
    rfl
  obtain ⟨jobs', rfl⟩ := upsertPendingResolution_ok ensured
  simp only [there, Option.map_some, Option.getD_some, Option.any_some] at h
  have noted : ∀ note, Notes _ (updatePendingMetadata (recordResolutionAttempt
      { db with pendingResolutions := jobs' } current.id (input.now 0)) current.id note)
        (fun _ => none) (fun _ => false) := fun note => metadata_notes _ _ note
  split at h
  · rename_i reached
    have escalates := (noted _).upon (escalateRecovery_notes h)
    refine ⟨counts.upon escalates, job.attempts, job.deadlineAt, ?_, .inr ⟨?_, _, h⟩⟩
    · rw [escalates.tallies, advanced_still, told]
    · simp only [Bool.or_eq_true, isAfter, decide_eq_true_eq] at reached
      exact reached.symm
  · rename_i short
    simp only [Bool.or_eq_true, isAfter, decide_eq_true_eq, not_or, Nat.not_le, Int.not_le] at short
    split at h
    all_goals
      simp only [bind_ok, pure_ok, Prod.mk.injEq] at h
      obtain ⟨last, audited, rfl, _⟩ := h
      have keeps := (noted _).upon (saveAudit_notes audited)
      refine ⟨counts.upon keeps, job.attempts, job.deadlineAt, ?_, .inl ⟨short.2, short.1, ?_⟩⟩
      · rw [keeps.tallies, advanced_still, told]
      · exact (saveAudit_aside audited).1

/-- What an indeterminate answer comes to for a sale in flight. -/
structure Decided (input : Input) (db db' : Db) (work : UnderClaim) (current : TransactionRow) :
    Prop where
  notes : Notes db db'
    (fun t => if t = current.id then some (current.updatedAt + work.policy.pendingMaximumMs)
      else none)
    (fun t => decide (t = current.id ∧ (jobOf db t).all (· = .awaiting) = true))
  tallied : ∃ attempts deadline, tally db' current.id = some (attempts, deadline) ∧
    ((attempts < work.policy.maxStatusAttempts ∧ input.now 0 < deadline ∧
        stateOf db' current.id = some .pending) ∨
      ((work.policy.maxStatusAttempts ≤ attempts ∨ deadline ≤ input.now 0) ∧
        ∃ outcome reference rows jobs working result,
          Present (·.id) working.id rows ∧ working.id = current.id ∧
          escalateRecovery work current working outcome reference attempts input
            { db with transactions := rows, pendingResolutions := jobs } = .ok (db', result)))

theorem holdRecovery_decided (sound : Sound db)
    (found : findTransaction db t merchantId = some current) (flying : InFlight current)
    (h : holdRecovery work current outcome reference input db = .ok (db', result)) :
    Decided input db db' work current := by
  obtain ⟨_, present, stored⟩ := stored_found sound found
  unfold holdRecovery at h
  split at h
  · simp only [bind_ok] at h
    obtain ⟨working, moves, middle, saved, h⟩ := h
    obtain ⟨_, workingEq⟩ := transitionTo_ok moves
    have same : working.id = current.id := by
      rw [workingEq]
      rfl
    obtain ⟨rows, restated, rfl⟩ := save_restates moves saved present
    obtain ⟨notes, attempts, deadline, told, decided⟩ := countAttempt_decides h
    have pending : stateOf { db with transactions := rows } current.id = some .pending := by
      have states : ∀ other, stateOf { db with transactions := rows } other =
          if other = current.id then some .pending else stateOf db other :=
        stateOf_restated restated present
      rw [states, if_pos rfl]
    obtain ⟨row, mem, id, _⟩ := mem_of_stateOf pending
    have there : Present (·.id) current.id rows := ⟨row, mem, id⟩
    refine ⟨notes.after (Beside.notes ⟨rfl, rfl⟩), attempts, deadline, told, ?_⟩
    rcases decided with ⟨few, early, kept⟩ | ⟨reached, jobs, escalated⟩
    · refine .inl ⟨few, early, ?_⟩
      rw [stateOf_congr kept, pending]
    · exact .inr ⟨reached, _, _, rows, jobs, working, result, same ▸ there, same, escalated⟩
  · rename_i other
    have pending := flying.resolve_left other
    rw [pending] at stored
    obtain ⟨notes, attempts, deadline, told, decided⟩ := countAttempt_decides h
    refine ⟨notes, attempts, deadline, told, ?_⟩
    rcases decided with ⟨few, early, kept⟩ | ⟨reached, jobs, escalated⟩
    · refine .inl ⟨few, early, ?_⟩
      rw [stateOf_congr kept, stored]
    · exact .inr ⟨reached, _, _, db.transactions, jobs, rehydrate current, result, present, rfl,
        escalated⟩

end Answers

section Steps

variable {db db' : Db} {input : Input}

theorem createSale_notes {sale sale' : CreateSale} (moved : sale.step input db = (db', sale')) :
    Notes db db' (fun t => opensUntil input db t (.createSale sale))
      (fun t => recordsCheck input db t (.createSale sale)) := by
  cases point : sale.point with
  | reserving =>
    simp only [opensUntil, recordsCheck, point]
    simp only [CreateSale.step, point] at moved
    rcases unit_cases input (openSale sale input) db with
      ⟨next, reserved, _, done, same⟩ | ⟨fault, same⟩
    all_goals
      rw [same] at moved
      cases moved
    · exact (openSale_beside done).notes
    · exact .refl db
  | submitting reserved =>
    simp only [opensUntil, recordsCheck, point]
    simp only [CreateSale.step, point] at moved
    rcases unit_cases input (markProcessing sale reserved input) db with
      ⟨next, processing, _, done, same⟩ | ⟨fault, same⟩
    all_goals
      rw [same] at moved
      cases moved
    · exact markProcessing_notes done
    · exact .refl db
  | applying processing submitted =>
    simp only [opensUntil, recordsCheck, point]
    simp only [CreateSale.step, point] at moved
    rcases unit_cases input (applyOutcome sale processing submitted input) db with
      ⟨next, result, _, done, same⟩ | ⟨fault, same⟩
    all_goals
      rw [same] at moved
      cases moved
    · have through : goes input (applyOutcome sale processing submitted input) db = true :=
        goes_iff.mpr ⟨_, _, same⟩
      unfold applyOutcome at done
      split at done
      · rename_i state
        simp only [state, reduceCtorEq, false_and, and_false, if_false]
        exact settleSale_notes done
      · rename_i state
        simp only [state, reduceCtorEq, false_and, and_false, if_false]
        exact failSale_notes done
      · rename_i state
        simp only [state, through, and_true]
        exact (holdSale_notes done).congr (fun t => by simp only [eq_comm]) fun _ => rfl
    · have stuck : goes input (applyOutcome sale processing submitted input) db = false := by
        unfold goes
        rw [same]
      simp only [stuck, Bool.false_eq_true, and_false, if_false]
      exact .refl db
  | releasing processing =>
    simp only [opensUntil, recordsCheck, point]
    simp only [CreateSale.step, point] at moved
    rcases unit_cases input (releaseQuietly sale processing input) db with
      ⟨next, result, _, done, same⟩ | ⟨fault, same⟩
    all_goals
      rw [same] at moved
      cases moved
    · exact releaseQuietly_notes done
    · exact .refl db
  | awaiting processing =>
    simp only [opensUntil, recordsCheck, point]
    simp only [CreateSale.step, point] at moved
    split at moved
    all_goals
      cases moved
      exact .refl db
  | _ =>
    simp only [opensUntil, recordsCheck, point]
    simp only [CreateSale.step, point] at moved
    repeat' split at moved
    all_goals
      cases moved
      exact .refl db

theorem resolvePending_notes {call call' : ResolvePending}
    (moved : call.step input db = (db', call')) :
    Notes db db' (fun t => opensUntil input db t (.resolvePending call))
      (fun t => recordsCheck input db t (.resolvePending call)) := by
  cases point : call.point with
  | recording row job correlationId =>
    simp only [opensUntil, recordsCheck, point]
    simp only [ResolvePending.step, point] at moved
    rcases unit_cases input
        (fun db => .ok (recordResolutionAttempt db call.transactionId (input.now 0), ())) db with
      ⟨next, _, free, done, same⟩ | ⟨fault, same⟩
    · rw [same] at moved
      cases moved
      cases done
      simp only [free, true_and]
      exact (attempt_notes db call.transactionId (input.now 0)).congr (fun _ => rfl) fun t => by
        simp only [eq_comm]
    · rw [same] at moved
      cases moved
      have busy := unit_busy rfl same
      simp only [busy, Bool.true_eq_false, false_and, and_false, decide_false]
      exact .refl db
  | applying row job correlationId status =>
    simp only [opensUntil, recordsCheck, point]
    simp only [ResolvePending.step, point] at moved
    rcases unit_cases input (applyStatus call row job correlationId status input) db with
      ⟨next, result, _, done, same⟩ | ⟨fault, same⟩
    all_goals
      rw [same] at moved
      cases moved
    · exact applyStatus_notes done
    · exact .refl db
  | awaiting row job correlationId =>
    simp only [opensUntil, recordsCheck, point]
    simp only [ResolvePending.step, point] at moved
    split at moved
    all_goals
      cases moved
      exact .refl db
  | _ =>
    simp only [opensUntil, recordsCheck, point]
    simp only [ResolvePending.step, point] at moved
    repeat' split at moved
    all_goals
      cases moved
      exact .refl db

end Steps

section Sweeps

variable {db db' : Db} {input : Input}

theorem auditing_notes {sweep sweep' : RecoverInFlight}
    (moved : sweep.auditing input db action row correlationId onto thrown = (db', sweep')) :
    Notes db db' (fun _ => none) (fun _ => false) := by
  unfold RecoverInFlight.auditing at moved
  split at moved
  · rename_i same
    cases moved
    obtain ⟨_, audited, eq⟩ := map_ok.mp (unit_ok same)
    cases eq
    exact saveAudit_notes audited
  · rename_i same
    cases moved
    cases unit_error same
    exact .refl _

/-- An answer changes the tally of the sale it leaves open, and no other. -/
theorem applyLookup_notes {work : UnderClaim} (sound : Sound db)
    (same : unit input (applyLookup work outcome reference input) db = (db', .ok result)) :
    Notes db db'
      (fun t => ((leftOpen input db work outcome reference).filter fun current =>
        current.id = t).map fun current => current.updatedAt + work.policy.pendingMaximumMs)
      (fun t => (leftOpen input db work outcome reference).any fun current =>
        current.id = t ∧ (jobOf db t).all (· = .awaiting)) := by
  have through : Commits input (applyLookup work outcome reference input) db := ⟨_, _, same⟩
  have h := unit_ok same
  simp only [applyLookup, bind_ok, expect_ok] at h
  obtain ⟨current, found, h⟩ := h
  have closed : ¬ (InFlight current ∧ Indeterminate outcome) →
      leftOpen input db work outcome reference = none := by
    intro settled
    rw [Option.eq_none_iff_forall_not_mem]
    intro other mem
    have left := leftOpen_iff.mp mem
    have own : current = other := Option.some.inj (found.symm.trans left.found)
    exact settled ⟨own ▸ left.flying, left.answer⟩
  split at h
  · rename_i apart
    have none := closed fun both => both.1.elim apart.1 apart.2
    simp only [pure_ok, Prod.mk.injEq] at h
    obtain ⟨rfl, _⟩ := h
    simp only [none, Option.filter_none, Option.map_none, Option.any_none]
    exact .refl _
  · rename_i together
    have flying : InFlight current := by
      by_cases processing : current.state = .processing
      · exact .inl processing
      · exact .inr (Decidable.not_not.mp fun other => together ⟨processing, other⟩)
    split at h
    · have none := closed fun both => both.2.1 rfl
      simp only [none, Option.filter_none, Option.map_none, Option.any_none]
      exact recoverSuccess_notes h
    · have none := closed fun both => both.2.2 rfl
      simp only [none, Option.filter_none, Option.map_none, Option.any_none]
      exact recoverFailure_notes h
    · rename_i notSuccess notFailure
      have left := leftOpen_iff.mpr ⟨found, flying, ⟨notSuccess, notFailure⟩, through⟩
      refine (holdRecovery_decided sound found flying h).notes.congr ?_ ?_
      · intro t
        rw [left]
        by_cases here : t = current.id
        · subst here
          simp
        · have apart : ¬ current.id = t := fun same => here same.symm
          simp [here, Option.filter, apart]
      · intro t
        rw [left, Option.any_some]
        by_cases here : t = current.id
        · subst here
          simp
        · have apart : ¬ current.id = t := fun same => here same.symm
          simp [here, apart]

theorem recoverInFlight_notes {sweep sweep' : RecoverInFlight} (sound : Sound db)
    (moved : sweep.step input db = (db', sweep')) :
    Notes db db' (fun t => opensUntil input db t (.recoverInFlight sweep))
      (fun t => recordsCheck input db t (.recoverInFlight sweep)) := by
  cases point : sweep.point with
  | «begin» =>
    simp only [opensUntil, recordsCheck, point]
    simp only [RecoverInFlight.step, point] at moved
    split at moved
    · rename_i same
      cases moved
      obtain ⟨_, audited, eq⟩ := map_ok.mp (unit_ok same)
      cases eq
      obtain ⟨_, rfl⟩ := saveAuditEvent_ok audited
      exact Beside.notes ⟨rfl, rfl⟩
    · rename_i same
      cases moved
      cases unit_error same
      exact .refl _
  | claiming row policy =>
    simp only [opensUntil, recordsCheck, point]
    simp only [RecoverInFlight.step, point] at moved
    split at moved
    all_goals
      rename_i same
      cases moved
    · obtain ⟨_, rfl⟩ := claimTransaction_ok (unit_ok same)
      exact Beside.notes ⟨rfl, rfl⟩
    · obtain ⟨_, rfl⟩ := claimTransaction_ok (unit_ok same)
      exact Beside.notes ⟨rfl, rfl⟩
    · cases unit_error same
      exact .refl _
  | neverSubmitted work =>
    simp only [opensUntil, recordsCheck, point]
    simp only [RecoverInFlight.step, point] at moved
    rcases unit_cases input (releaseNeverSubmitted work input) db with
      ⟨next, result, _, done, same⟩ | ⟨fault, same⟩
    all_goals
      rw [same] at moved
      cases moved
    · exact releaseNeverSubmitted_notes done
    · exact .refl _
  | uncertain work =>
    simp only [opensUntil, recordsCheck, point]
    simp only [RecoverInFlight.step, point] at moved
    rcases unit_cases input (moveUncertain work input) db with
      ⟨next, result, _, done, same⟩ | ⟨fault, same⟩
    all_goals
      rw [same] at moved
      cases moved
    · have through : goes input (moveUncertain work input) db = true := goes_iff.mpr ⟨_, _, same⟩
      simp only [through, and_true]
      exact (moveUncertain_notes done).congr (fun t => by simp only [eq_comm]) fun _ => rfl
    · have stuck : goes input (moveUncertain work input) db = false := by
        unfold goes
        rw [same]
      simp only [stuck, Bool.false_eq_true, and_false, if_false]
      exact .refl db
  | applying work lookupMs outcome reference =>
    simp only [opensUntil, recordsCheck, point]
    simp only [RecoverInFlight.step, point] at moved
    rcases unit_cases input (applyLookup work outcome reference input) db with
      ⟨next, result, _, _, same⟩ | ⟨fault, same⟩
    all_goals
      rw [same] at moved
      cases moved
    · exact applyLookup_notes sound same
    · have none : leftOpen input db work outcome reference = none := by
        rw [Option.eq_none_iff_forall_not_mem]
        intro other mem
        obtain ⟨next, answer, went⟩ := (leftOpen_iff.mp mem).through
        cases same.symm.trans went
      simp only [none, Option.filter_none, Option.map_none, Option.any_none]
      exact .refl _
  | releasing row rethrown =>
    simp only [opensUntil, recordsCheck, point]
    simp only [RecoverInFlight.step, point] at moved
    split at moved
    · rename_i same
      cases unit_ok same
      split at moved
      all_goals
        cases moved
        exact Beside.notes ⟨rfl, rfl⟩
    · rename_i same
      cases moved
      cases unit_error same
      exact .refl _
  | prevented row | claimed row policy | announcing work
  | noting work lookupMs outcome reference | failing row fault =>
    simp only [opensUntil, recordsCheck, point]
    simp only [RecoverInFlight.step, point] at moved
    exact auditing_notes moved
  | _ =>
    simp only [opensUntil, recordsCheck, point]
    simp only [RecoverInFlight.step, point] at moved
    repeat' split at moved
    all_goals
      cases moved
      exact .refl _

theorem markReversalRequired_notes {call : RequireReversal}
    (h : markReversalRequired call row input db = .ok (db', result)) :
    Notes db db' (fun _ => none) (fun _ => false) := by
  simp only [markReversalRequired, bind_ok] at h
  obtain ⟨next, _, first, saved, h⟩ := h
  have began : Notes db first (fun _ => none) (fun _ => false) := by
    have saves := saveTransaction_notes saved
    split at saves
    · exact saves.after (close_notes db call.transactionId .escalated (input.now 0))
    · exact saves
  split at h
  · rename_i none
    simp only [bind_ok, pure_ok, Prod.mk.injEq] at h
    obtain ⟨_, filed, _, audited, rfl, _⟩ := h
    have referred : ((findSupportCaseByTransaction first call.transactionId call.merchantId).map
        (·.reference)).getD (supportReference call.transactionId) =
          supportReference call.transactionId := by
      rw [none]
      rfl
    exact (began.upon (createSupportCase_notes filed referred)).upon (saveAudit_notes audited)
  · simp only [bind_ok, pure_ok, Prod.mk.injEq] at h
    obtain ⟨_, kept, _, audited, rfl, _⟩ := h
    cases kept
    exact began.upon (saveAudit_notes audited)

theorem requireReversal_notes {call call' : RequireReversal}
    (moved : call.step input db = (db', call')) :
    Notes db db' (fun t => opensUntil input db t (.requireReversal call))
      (fun t => recordsCheck input db t (.requireReversal call)) := by
  simp only [opensUntil, recordsCheck]
  cases point : call.point with
  | requiring row =>
    simp only [RequireReversal.step, point] at moved
    rcases unit_cases input (markReversalRequired call row input) db with
      ⟨next, result, _, done, went⟩ | ⟨fault, went⟩
    all_goals
      rw [went] at moved
      cases moved
    · exact markReversalRequired_notes done
    · exact .refl _
  | _ =>
    simp only [RequireReversal.step, point] at moved
    repeat' split at moved
    all_goals
      cases moved
      exact .refl _

theorem deposit_beside {call call' : Deposit} (moved : call.step input db = (db', call')) :
    Beside db db' := by
  unfold Deposit.step at moved
  split at moved
  · split at moved
    · rename_i same
      cases moved
      obtain ⟨_, funded, eq⟩ := map_ok.mp (unit_ok same)
      cases eq
      obtain ⟨_, _, _, _, _, rfl⟩ := postMovement_ok funded
      exact ⟨rfl, rfl⟩
    · rename_i same
      cases moved
      cases unit_error same
      exact ⟨rfl, rfl⟩
  all_goals
    cases moved
    exact ⟨rfl, rfl⟩

theorem configure_beside {call call' : Configure} (moved : call.step input db = (db', call')) :
    Beside db db' := by
  unfold Configure.step at moved
  split at moved
  · split at moved
    · rename_i same
      cases moved
      obtain ⟨_, written, eq⟩ := map_ok.mp (unit_ok same)
      cases eq
      cases change : call.change with
      | settings update =>
        rw [change] at written
        obtain ⟨_, rfl⟩ := writePlatformFeeSettings_ok written
        exact ⟨rfl, rfl⟩
      | providerRate rate =>
        rw [change] at written
        obtain ⟨_, rfl⟩ := saveProviderRate_ok written
        exact ⟨rfl, rfl⟩
    · rename_i same
      cases moved
      cases unit_error same
      exact ⟨rfl, rfl⟩
  all_goals
    cases moved
    exact ⟨rfl, rfl⟩

/-- Every step advances the tallies by what it opens and records. -/
theorem step_notes {process : Process} (sound : Sound db)
    (served : process.service ∈ pendingServices) :
    Notes db (process.step input db).1 (fun t => opensUntil input db t process)
      (fun t => recordsCheck input db t process) := by
  cases process with
  | createSale sale => exact createSale_notes rfl
  | resolvePending call => exact resolvePending_notes rfl
  | recoverInFlight sweep => exact recoverInFlight_notes sound rfl
  | requireReversal call => exact requireReversal_notes rfl
  | deposit call => exact Beside.notes (deposit_beside rfl)
  | configure call => exact Beside.notes (configure_beside rfl)
  | _ => simp [pendingServices, Process.service] at served

end Sweeps

/-- No sale has been made, no job opened, no case filed, and nobody is at work. -/
def Unopened (w : World Db Process) : Prop :=
  Begins w ∧ w.store.pendingResolutions = [] ∧ w.store.supportCases = []

section History

variable {db db' : Db} {input : Input} {past : List Happened} {w w' : World Db Process}

/-- Only a job that is there, or is opened by the same step, records a check. -/
theorem recordsCheck_opens {process : Process} (none : tally db t = none)
    (unopened : opensUntil input db t process = .none) :
    recordsCheck input db t process = false := by
  rw [Bool.eq_false_iff]
  intro recorded
  cases process with
  | resolvePending call =>
    simp only [recordsCheck] at recorded
    split at recorded
    · simp only [decide_eq_true_eq] at recorded
      obtain ⟨row, mem, own, _⟩ := mem_of_jobOf recorded.2.2
      unfold tally findPendingResolution at none
      rw [Option.map_eq_none_iff] at none
      have missed := List.find?_eq_none.mp none row mem
      exact missed (decide_eq_true own)
    · cases recorded
  | recoverInFlight sweep =>
    simp only [recordsCheck] at recorded
    split at recorded
    · rename_i work lookupMs outcome reference point
      simp only [opensUntil, point, Option.map_eq_none_iff, Option.filter_eq_none_iff] at unopened
      obtain ⟨current, left, here⟩ := Option.any_eq_true _ _ |>.mp recorded
      simp only [decide_eq_true_eq] at here
      exact unopened current left (decide_eq_true here.1)
    · cases recorded
  | _ => cases recorded

/-- A run's own record of a sale: the tally of its job, if one was opened. -/
structure Kept (past : List Happened) (db : Db) : Prop where
  cased : Cased db
  tallies : ∀ t, tally db t = (deadlineOf t past).map (checksOf t past, ·)
  unopened : ∀ t, deadlineOf t past = none → checksOf t past = 0

theorem kept_start (opening : Unopened w) : Kept [] w.store := by
  obtain ⟨_, jobs, cases⟩ := opening
  refine ⟨⟨?_, ?_⟩, fun t => ?_, fun t _ => rfl⟩
  · rw [cases]
    intro row mem
    cases mem
  · rw [cases]
    exact List.nodup_nil
  · unfold tally findPendingResolution
    rw [jobs]
    rfl

/-- A step that is no call's own leaves the record as it is. -/
theorem kept_idle (kept : Kept past w.store) (same : w'.store = w.store)
    (idle : stepOf ⟨w, event, w'⟩ = none) : Kept (⟨w, event, w'⟩ :: past) w'.store := by
  have checks : ∀ t, checksOf t (⟨w, event, w'⟩ :: past) = checksOf t past := by
    intro t
    unfold checksOf
    rw [List.countP_cons, idle]
    rfl
  have deadlines : ∀ t, deadlineOf t (⟨w, event, w'⟩ :: past) = deadlineOf t past := by
    intro t
    unfold deadlineOf
    rw [List.findSome?_cons, idle, Option.bind_none, ite_self]
  rw [same]
  refine ⟨kept.cased, fun t => ?_, fun t => ?_⟩
  · rw [checks, deadlines]
    exact kept.tallies t
  · rw [checks, deadlines]
    exact kept.unopened t

/-- A step of a call adds to the record what it opens and records. -/
theorem kept_act {process : Process} (sound : Sound w.store)
    (served : process.service ∈ pendingServices) (kept : Kept past w.store)
    (act : stepOf ⟨w, event, w'⟩ = some (input, process))
    (stored : w'.store = (process.step input w.store).1) :
    Kept (⟨w, event, w'⟩ :: past) w'.store := by
  have notes : Notes w.store (process.step input w.store).1 _ _ := step_notes sound served
  rw [← stored] at notes
  obtain ⟨tallies, cases⟩ := notes
  have checks : ∀ t, checksOf t (⟨w, event, w'⟩ :: past) =
      checksOf t past + if recordsCheck input w.store t process = true then 1 else 0 := by
    intro t
    unfold checksOf
    rw [List.countP_cons, act, Option.any_some]
  have deadlines : ∀ t, deadlineOf t (⟨w, event, w'⟩ :: past) =
      ((if tally w.store t = none then opensUntil input w.store t process else none).or
        (deadlineOf t past)) := by
    intro t
    unfold deadlineOf
    rw [List.findSome?_cons, act, Option.bind_some]
    split <;> rename_i found <;> rw [found] <;> rfl
  have each : ∀ t, tally w'.store t = (deadlineOf t (⟨w, event, w'⟩ :: past)).map
        (checksOf t (⟨w, event, w'⟩ :: past), ·) ∧
      (deadlineOf t (⟨w, event, w'⟩ :: past) = none →
        checksOf t (⟨w, event, w'⟩ :: past) = 0) := by
    intro t
    have before := kept.tallies t
    rw [checks, deadlines, tallies]
    cases deadline : deadlineOf t past with
    | none =>
      have none := kept.unopened t deadline
      rw [deadline, Option.map_none] at before
      rw [before, if_pos rfl, none, Option.or_none]
      cases opens : opensUntil input w.store t process with
      | none =>
        rw [recordsCheck_opens before opens]
        exact ⟨rfl, fun _ => rfl⟩
      | some first =>
        cases recordsCheck input w.store t process <;> exact ⟨rfl, nofun⟩
    | some deadlineAt =>
      rw [deadline, Option.map_some] at before
      have there : ¬ some (checksOf t past, deadlineAt) = none := nofun
      rw [before, if_neg there, Option.none_or]
      cases recordsCheck input w.store t process <;> exact ⟨rfl, nofun⟩
  exact ⟨cases kept.cased, fun t => (each t).1, fun t => (each t).2⟩

theorem kept_run (run : Run Unopened (Interleaved pendingServices) past w) :
    Secure Sound (Enlisted pendingServices) w ∧ Kept past w.store := by
  apply run.history (H := fun past w => Secure Sound (Enlisted pendingServices) w ∧
    Kept past w.store)
  · intro w opening
    exact ⟨begins_secure w opening.1, kept_start opening⟩
  · rintro past w event w' ⟨secure, kept⟩ step
    refine ⟨secure_step w event w' secure step, ?_⟩
    cases step with
    | start _ | crash => exact kept_idle kept rfl rfl
    | act here fresh moved =>
      have served := (secure.2 _ (World.proc_mem here)).1
      exact kept_act secure.1 served kept (by simp only [stepOf, here, Option.map_some])
        (congrArg Prod.fst moved).symm

end History

/-- The sale is under review, with its value in that bucket and one support case. -/
structure InReview (db db' : Db) (sale : TransactionRow) : Prop where
  state : stateOf db' sale.id = some .underReview
  hold : ∃ hold ∈ db'.balanceReservations, hold.transactionId = sale.id ∧
    hold.merchantId = sale.merchantId ∧ hold.status = .underReview
  value : ∃ context, context.transactionId = sale.id ∧ context.merchantId = sale.merchantId ∧
    context.amount = sale.amount ∧
    db'.ledgerEntries = db.ledgerEntries ++
      entryRows (postingFor context (reviewLegs context)) db.ledgerAccounts 0 (reviewLegs context)
  support : ∃! row, row ∈ db'.supportCases ∧ row.transactionId = sale.id

section Escalation

variable {db db' : Db} {input : Input} {work : UnderClaim} {current : TransactionRow}

/-- An escalation leaves the sale a case: its own, or the one it had. -/
theorem escalateRecovery_case (fresh : ¬ Present (·.id) (input.newId 2) db.supportCases)
    (h : escalateRecovery work current working outcome reference attempts input db =
      .ok (db', result)) : ∃ row ∈ db'.supportCases, row.transactionId = current.id := by
  simp only [escalateRecovery, bind_ok] at h
  obtain ⟨_, _, first, saved, second, reviewed, h⟩ := h
  obtain ⟨_, _, _, _, _, _, _, _, _, rfl⟩ := moveValue_ok reviewed
  have same : first.supportCases = db.supportCases := by
    rcases (saveTransaction_ok saved).2 with ⟨_, rfl⟩ | ⟨_, _, _, _, rfl⟩ <;> rfl
  rw [← same] at fresh
  split at h
  · simp only [bind_ok, pure_ok, Prod.mk.injEq] at h
    obtain ⟨third, filed, fourth, audited, _, audited', rfl, _⟩ := h
    obtain ⟨_, rfl⟩ := saveAudit_ok audited
    obtain ⟨_, rfl⟩ := saveAudit_ok audited'
    unfold createSupportCase at filed
    split at filed
    · rename_i present
      exact absurd present fresh
    · simp only [bind_ok, demand_ok, pure_ok] at filed
      obtain ⟨_, _, _, _, _, _, rfl⟩ := filed
      exact ⟨_, List.mem_append_right _ (List.mem_singleton.mpr rfl), rfl⟩
  · rename_i there
    simp only [bind_ok, pure_ok, Prod.mk.injEq] at h
    obtain ⟨third, kept, _, audited, rfl, _⟩ := h
    cases kept
    obtain ⟨_, rfl⟩ := saveAudit_ok audited
    obtain ⟨row, found⟩ := Option.ne_none_iff_exists'.mp there
    have own := List.find?_some found
    simp only [decide_eq_true_eq] at own
    exact ⟨row, List.mem_of_find?_eq_some found, own.1⟩

/-- A sale that is escalated is in review. -/
theorem escalateRecovery_review (sound : Sound db) (cased : Cased db')
    (fresh : ¬ Present (·.id) (input.newId 2) db.supportCases)
    (present : Present (·.id) working.id rows) (same : working.id = current.id)
    (h : escalateRecovery work current working outcome reference attempts input
      { db with transactions := rows, pendingResolutions := jobs } = .ok (db', result)) :
    InReview db db' current := by
  have fresh' : ¬ Present (·.id) (input.newId 2)
      ({ db with transactions := rows, pendingResolutions := jobs } : Db).supportCases := fresh
  obtain ⟨row, mem, own⟩ := escalateRecovery_case fresh' h
  obtain ⟨context, sale, owner, worth, rows', reservations, audits, jobs', support, restated, moved,
    _, rfl⟩ := escalateRecovery_ok h sound.holdIds present
  rw [same] at restated present
  constructor
  case state =>
    have states : ∀ db', db'.transactions = rows' → stateOf db' current.id = some .underReview := by
      rintro db' rfl
      have all : ∀ other, stateOf db' other = if other = current.id then some .underReview
          else stateOf { db with transactions := rows } other := stateOf_restated restated present
      rw [all, if_pos rfl]
    exact states _ rfl
  case hold =>
    obtain ⟨hold, now, there, held, holder, status, rfl⟩ := moved
    refine ⟨setStatus .underReview now hold, ?_, held.trans sale, holder.trans owner, rfl⟩
    apply mem_update.mpr
    refine ⟨hold, there, ?_⟩
    have hit : guarded hold.id Disposal.review.origin hold = true := by
      simp [guarded, status]
    rw [if_pos hit]
    rfl
  case value => exact ⟨context, sale, owner, worth, rfl⟩
  case support =>
    refine ⟨row, ⟨mem, own⟩, ?_⟩
    rintro other ⟨mem', own'⟩
    apply cased.unique.eq mem' mem
    rw [cased.referred other mem', cased.referred row mem, own, own']

end Escalation

/-- Applying an answer that leaves a sale open holds its value. -/
theorem LeftOpen.holds {db : Db} (left : LeftOpen input db work outcome reference current)
    (h : applyLookup work outcome reference input db = .ok (db', result)) :
    holdRecovery work current outcome reference input db = .ok (db', result) := by
  simp only [applyLookup, bind_ok, expect_ok] at h
  obtain ⟨current', found, h⟩ := h
  cases Option.some.inj (found.symm.trans left.found)
  split at h
  · rename_i apart
    exact (left.flying.elim apart.1 apart.2).elim
  · split at h
    · exact absurd rfl left.answer.1
    · exact absurd rfl left.answer.2
    · exact h

/-- After a sweep has applied an answer that leaves a sale open, the sale is pending only if fewer
checks than the maximum have been recorded and its deadline is still to come; otherwise it is in
review. -/
theorem sweep_decides {taken : Happened} {past : List Happened}
    (run : Run Unopened (Interleaved pendingServices) (taken :: past) w)
    (acted : Acted taken input (.recoverInFlight sweep))
    (point : sweep.point = .applying work lookupMs outcome reference)
    (left : LeftOpen input taken.before.store work outcome reference current)
    (fresh : ¬ Present (·.id) (input.newId 2) taken.before.store.supportCases) :
    ∃ deadline, deadlineOf current.id (taken :: past) = some deadline ∧
      ((checksOf current.id (taken :: past) < work.policy.maxStatusAttempts ∧
          input.now 0 < deadline ∧ stateOf w.store current.id = some .pending) ∨
        ((work.policy.maxStatusAttempts ≤ checksOf current.id (taken :: past) ∨
            deadline ≤ input.now 0) ∧ InReview taken.before.store w.store current)) := by
  have kept := (kept_run run).2
  obtain ⟨slot, event, there⟩ := acted
  cases run with
  | step before stepped =>
    have sound := (kept_run before).1.1
    dsimp only at event there left fresh
    subst event
    cases stepped with
    | act here permitted moved =>
      rw [here] at there
      cases there
      obtain ⟨next, answer, same⟩ := left.through
      have stored := congrArg Prod.fst moved
      simp only [services, Process.step, RecoverInFlight.step, point, same, Prod.map_apply, id_eq]
        at stored
      subst stored
      have decided := holdRecovery_decided sound left.found left.flying (left.holds (unit_ok same))
      obtain ⟨attempts, deadline, told, decided⟩ := decided.tallied
      have recorded := kept.tallies current.id
      rw [told] at recorded
      obtain ⟨own, deadlined, counted⟩ := Option.map_eq_some_iff.mp recorded.symm
      simp only [Prod.mk.injEq] at counted
      obtain ⟨rfl, rfl⟩ := counted
      refine ⟨own, deadlined, ?_⟩
      rcases decided with pending | ⟨reached, _, _, rows, jobs, working, _, present, id, escalated⟩
      · exact .inl pending
      · exact .inr ⟨reached, escalateRecovery_review sound kept.cased fresh present id escalated⟩

/-- When a run brought a sale in flight: its row's time once it was there. -/
def inFlightSince (transactionId : TransactionId) (past : List Happened) : Option Timestamp :=
  past.findSome? fun taken =>
    if stateOf taken.before.store transactionId = none then
      (taken.after.store.transactions.find? fun row => row.id = transactionId).map (·.updatedAt)
    else none

/-- Five minutes at most, and three checks. -/
def recoveryDefaults : RecoveryPolicy :=
  { recoveryAgeMs := 30000, pendingMaximumMs := 300000, maxStatusAttempts := 3
    claimLeaseMs := 60000, statusCheckIntervalMs := 30000, batchLimit := 50 }

def recoverySweep : Process :=
  .recoverInFlight
    { deps := { workerId := "worker", recovery := { recoveryDefaults with } }
      scanId := "", startedAt := 0, todo := [], gathered := {}, point := .begin }

/-- A sale that gets in flight at once and is held a minute later, its provider having said
nothing, and a sweep five minutes after the sale began, up to the answer it gets. -/
def heldAndSwept : List (Event Input Process) :=
  let selling := fun tag => drawing tag .indeterminate .stillPending 0
  let sweeping := fun tag => drawing tag .indeterminate .stillPending 310000
  [.start (funds "shop"), .act 0 (selling "a"), .start (airtime "request"), .act 1 (selling "b"),
   .act 1 (selling "c"), .act 1 (selling "d"), .act 1 (selling "e"), .act 1 (selling "sale"),
   .act 1 (selling "f"), .act 1 (selling "g"),
   .act 1 (drawing "h" .indeterminate .stillPending 60000),
   .start recoverySweep, .act 2 (sweeping "i"), .act 2 (sweeping "j"), .act 2 (sweeping "k"),
   .act 2 (sweeping "l"), .act 2 (sweeping "m"), .act 2 (sweeping "n"), .act 2 (sweeping "o"),
   .act 2 (sweeping "p"), .act 2 (sweeping "q"), .act 2 (sweeping "r")]

def sweptRun : List Happened × World Db Process :=
  played (World.next services) heldAndSwept [] ⟨twoShops, []⟩

/-- The sweep in a slot is about to apply an answer, of which something holds. -/
def applyingAt (w : World Db Process) (slot : Nat)
    (holds : UnderClaim → ProviderLookupOutcome → Option String → Bool) : Bool :=
  match w.proc slot with
  | some (.recoverInFlight sweep) =>
    match sweep.point with
    | .applying work _ outcome reference => holds work outcome reference
    | _ => false
  | _ => false

theorem applyingAt_true {w : World Db Process} {slot : Nat}
    {holds : UnderClaim → ProviderLookupOutcome → Option String → Bool}
    (h : applyingAt w slot holds = true) : ∃ sweep work lookupMs outcome reference,
      w.proc slot = some (.recoverInFlight sweep) ∧
      sweep.point = .applying work lookupMs outcome reference ∧
      holds work outcome reference = true := by
  unfold applyingAt at h
  split at h
  · rename_i sweep here
    split at h
    · rename_i work lookupMs outcome reference point
      exact ⟨sweep, work, lookupMs, outcome, reference, here, point, h⟩
    · cases h
  · cases h

/-- The step of the sweep that applies the answer. -/
def appliedStep (input : Input) : Happened :=
  ⟨sweptRun.2, .act 2 input, sweptRun.2.next services (.act 2 input)⟩

theorem appliedStep_run (input : Input)
    (may : sweptRun.2.May (Calls pendingServices) Fresh (.act 2 input)) :
    Run Unopened (Interleaved pendingServices) (appliedStep input :: sweptRun.1)
      (appliedStep input).after := by
  have playable : Playable (World.May (Calls pendingServices) Fresh) (World.next services)
      heldAndSwept ⟨twoShops, []⟩ := by decide +kernel
  have opening : Run Unopened (Interleaved pendingServices) [] ⟨twoShops, []⟩ :=
    .start ⟨⟨twoShops_blank, rfl⟩, rfl, rfl⟩
  have before : Run Unopened (Interleaved pendingServices) sweptRun.1 sweptRun.2 :=
    opening.play Pool.next playable
  exact .step before (Pool.next _ _ may)

def answerAt (now : Timestamp) : Input :=
  drawing "s" .indeterminate .stillPending now

/-- Past its deadline the sale is put in review. -/
theorem late_in_review : ∃ sale,
    findTransaction sweptRun.2.store "sale0" "shop" = some sale ∧
    InReview sweptRun.2.store (appliedStep (answerAt 400000)).after.store sale := by
  have may : sweptRun.2.May (Calls pendingServices) Fresh (.act 2 (answerAt 400000)) := by
    decide +kernel
  have applying : applyingAt sweptRun.2 2 fun work outcome reference =>
      decide (work.current.id = "sale0" ∧ work.current.merchantId = "shop") &&
      (leftOpen (answerAt 400000) sweptRun.2.store work outcome reference).isSome := by
    decide +kernel
  have review : stateOf (appliedStep (answerAt 400000)).after.store "sale0" = some .underReview ∧
      ¬ Present (·.id) ((answerAt 400000).newId 2) sweptRun.2.store.supportCases := by
    decide +kernel
  obtain ⟨sweep, work, lookupMs, outcome, reference, here, point, holds⟩ :=
    applyingAt_true applying
  simp only [Bool.and_eq_true, decide_eq_true_eq] at holds
  obtain ⟨⟨id, merchant⟩, some⟩ := holds
  obtain ⟨sale, open'⟩ := Option.isSome_iff_exists.mp some
  have left := leftOpen_iff.mp open'
  have found := left.found
  rw [id, merchant] at found
  have own := (findTransaction_ok found).2.1
  obtain ⟨deadline, _, ⟨_, _, pending⟩ | ⟨_, reviewed⟩⟩ := sweep_decides
    (appliedStep_run (answerAt 400000) may) ⟨2, rfl, here⟩ point left review.2
  · rw [own, review.1] at pending
    cases pending
  · exact ⟨sale, found, reviewed⟩

/-- A sale held by its own call may be left pending later than the sweep's maximum after it got in
flight, and a sweep whose unit of work throws leaves it pending however late it is. -/
theorem held_beyond :
    (¬ ∀ (taken : Happened) past w input sweep work lookupMs outcome reference current,
      Run Unopened (Interleaved pendingServices) (taken :: past) w →
      Acted taken input (.recoverInFlight sweep) →
      sweep.point = .applying work lookupMs outcome reference →
      LeftOpen input taken.before.store work outcome reference current →
      ¬ Present (·.id) (input.newId 2) taken.before.store.supportCases →
      ∃ since, inFlightSince current.id (taken :: past) = some since ∧
        ((checksOf current.id (taken :: past) < work.policy.maxStatusAttempts ∧
            input.now 0 < since + work.policy.pendingMaximumMs ∧
            stateOf w.store current.id = some .pending) ∨
          InReview taken.before.store w.store current)) ∧
    ¬ ∀ (taken : Happened) past w input sweep work lookupMs outcome reference current,
      Run Unopened (Interleaved pendingServices) (taken :: past) w →
      Acted taken input (.recoverInFlight sweep) →
      sweep.point = .applying work lookupMs outcome reference →
      findTransaction taken.before.store work.current.id work.current.merchantId = some current →
      InFlight current → Indeterminate outcome →
      ¬ Present (·.id) (input.newId 2) taken.before.store.supportCases →
      ∃ deadline, deadlineOf current.id (taken :: past) = some deadline ∧
        ((checksOf current.id (taken :: past) < work.policy.maxStatusAttempts ∧
            input.now 0 < deadline ∧ stateOf w.store current.id = some .pending) ∨
          InReview taken.before.store w.store current) := by
  constructor
  · intro claim
    have may : sweptRun.2.May (Calls pendingServices) Fresh (.act 2 (answerAt 310000)) := by
      decide +kernel
    have applying : applyingAt sweptRun.2 2 fun work outcome reference =>
        decide (work.current.id = "sale0" ∧ work.policy = recoveryDefaults) &&
        (leftOpen (answerAt 310000) sweptRun.2.store work outcome reference).isSome := by
      decide +kernel
    have stays : inFlightSince "sale0" (appliedStep (answerAt 310000) :: sweptRun.1) = some 0 ∧
        stateOf (appliedStep (answerAt 310000)).after.store "sale0" = some .pending ∧
        ¬ Present (·.id) ((answerAt 310000).newId 2) sweptRun.2.store.supportCases := by
      decide +kernel
    obtain ⟨sweep, work, lookupMs, outcome, reference, here, point, holds⟩ :=
      applyingAt_true applying
    simp only [Bool.and_eq_true, decide_eq_true_eq] at holds
    obtain ⟨⟨id, policy⟩, some⟩ := holds
    obtain ⟨sale, open'⟩ := Option.isSome_iff_exists.mp some
    have left := leftOpen_iff.mp open'
    have own := (findTransaction_ok left.found).2.1.trans id
    obtain ⟨since, began, ⟨_, early, _⟩ | review⟩ := claim _ _ _ _ _ _ _ _ _ _
      (appliedStep_run (answerAt 310000) may) ⟨2, rfl, here⟩ point left stays.2.2
    · rw [own, stays.1] at began
      cases began
      rw [policy] at early
      exact absurd early (by decide)
    · have state := review.state
      rw [own, stays.2.1] at state
      cases state
  · intro claim
    let busy : Input := { answerAt 400000 with busy := true }
    have may : sweptRun.2.May (Calls pendingServices) Fresh (.act 2 busy) := by
      decide +kernel
    have applying : applyingAt sweptRun.2 2 fun work outcome reference =>
        decide (work.current.id = "sale0" ∧ Indeterminate outcome) &&
        (findTransaction sweptRun.2.store work.current.id work.current.merchantId).any
          fun row => InFlight row := by
      decide +kernel
    have stays : deadlineOf "sale0" (appliedStep busy :: sweptRun.1) = some 360000 ∧
        stateOf (appliedStep busy).after.store "sale0" = some .pending ∧
        ¬ Present (·.id) (busy.newId 2) sweptRun.2.store.supportCases := by
      decide +kernel
    obtain ⟨sweep, work, lookupMs, outcome, reference, here, point, holds⟩ :=
      applyingAt_true applying
    simp only [Bool.and_eq_true, decide_eq_true_eq, Option.any_eq_true] at holds
    obtain ⟨⟨id, answer⟩, sale, found, flying⟩ := holds
    have own := (findTransaction_ok found).2.1.trans id
    obtain ⟨deadline, set, ⟨_, early, _⟩ | review⟩ := claim _ _ _ _ _ _ _ _ _ _
      (appliedStep_run busy may) ⟨2, rfl, here⟩ point found flying answer stays.2.2
    · rw [own, stays.1] at set
      cases set
      exact absurd early (by decide)
    · have state := review.state
      rw [own, stays.2.1] at state
      cases state

end Telga.Proofs.StatusChecks
