import Telga.Proofs.StatusChecks
import Telga.Proofs.SweepReports

namespace Telga.Proofs.Fairness
open Domain Persistence Application Library StatusChecks

variable {db db' db'' : Db} {t u : TransactionId} {latest : Timestamp} {most : Nat}
  {input : Input} {work : UnderClaim} {current : TransactionRow} {result : RecoveryResult}

/-- A sale is in a state that sweeps look for. -/
def flies (db : Db) (t : TransactionId) : Bool :=
  (stateOf db t).any fun state => decide (state ∈ inFlightStates)

/-- How many more recoveries a sale in flight can take before it is not in flight any more, when no
policy allows more than so many status checks. -/
def left (most : Nat) (db : Db) (t : TransactionId) : Nat :=
  if flies db t then max 1 (most - attemptsOf db t) else 0

/-- A sale's pending job, if it has one, is still awaited. -/
def Awaits (db : Db) (t : TransactionId) : Prop :=
  (jobOf db t).all (· = .awaiting) = true

/-- What a write about one sale leaves of the others: their rows, their jobs, and every claim. -/
structure Alters (t : TransactionId) (latest : Timestamp) (db db' : Db) : Prop where
  rows : ∃ change, (∀ row : TransactionRow,
      (change row).id = row.id ∧ (change row).merchantId = row.merchantId) ∧
    db'.transactions = update (fun row => row.id = t) change db.transactions
  dated : (∀ row ∈ db.transactions, row.updatedAt ≤ latest) →
    ∀ row ∈ db'.transactions, row.updatedAt ≤ latest
  jobs : ∀ u, u ≠ t → findPendingResolution db' u = findPendingResolution db u
  claims : db'.recoveryClaims = db.recoveryClaims

section Alterations

theorem Alters.quiet (sales : db'.transactions = db.transactions)
    (jobs : ∀ u, u ≠ t → findPendingResolution db' u = findPendingResolution db u)
    (claims : db'.recoveryClaims = db.recoveryClaims) : Alters t latest db db' := by
  refine ⟨⟨id, fun _ => ⟨rfl, rfl⟩, ?_⟩, ?_, jobs, claims⟩
  · rw [sales]
    simp [update]
  · rw [sales]
    exact id

theorem Alters.same (sales : db'.transactions = db.transactions)
    (jobs : db'.pendingResolutions = db.pendingResolutions)
    (claims : db'.recoveryClaims = db.recoveryClaims) : Alters t latest db db' := by
  apply Alters.quiet sales
  · intro u _
    unfold findPendingResolution
    rw [jobs]
  · exact claims

theorem Alters.trans (first : Alters t latest db db') (next : Alters t latest db' db'') :
    Alters t latest db db'' := by
  obtain ⟨change, keeps, rows⟩ := first.rows
  obtain ⟨change', keeps', rows'⟩ := next.rows
  refine ⟨⟨change' ∘ change, ?_, ?_⟩, fun dated => next.dated (first.dated dated), ?_,
    next.claims.trans first.claims⟩
  · intro row
    obtain ⟨id, merchant⟩ := keeps row
    obtain ⟨id', merchant'⟩ := keeps' (change row)
    exact ⟨id'.trans id, merchant'.trans merchant⟩
  · rw [rows', rows]
    apply update_update
    intro row
    simp [(keeps row).1]
  · intro u apart
    exact (next.jobs u apart).trans (first.jobs u apart)

theorem Alters.unique (alters : Alters t latest db db') (ids : Unique (·.id) db.transactions) :
    Unique (·.id) db'.transactions := by
  obtain ⟨change, keeps, rows⟩ := alters.rows
  rw [rows]
  exact ids.update fun row => (keeps row).1

theorem Alters.present (alters : Alters t latest db db') (present : Present (·.id) u db.transactions) :
    Present (·.id) u db'.transactions := by
  obtain ⟨change, keeps, rows⟩ := alters.rows
  obtain ⟨row, mem, id⟩ := present
  rw [rows]
  refine ⟨_, update_mem _ change mem, ?_⟩
  split
  · exact (keeps row).1.trans id
  · exact id

/-- Another sale's row is left as it was. -/
theorem Alters.kept (alters : Alters t latest db db') {row : TransactionRow}
    (mem : row ∈ db.transactions) (apart : row.id ≠ t) : row ∈ db'.transactions := by
  obtain ⟨change, _, rows⟩ := alters.rows
  rw [rows]
  exact mem_update.mpr ⟨row, mem, if_neg (by simpa using apart)⟩

theorem Alters.merchant (alters : Alters t latest db db') {row : TransactionRow}
    (mem : row ∈ db'.transactions) :
    ∃ old ∈ db.transactions, old.id = row.id ∧ old.merchantId = row.merchantId := by
  obtain ⟨change, keeps, rows⟩ := alters.rows
  rw [rows] at mem
  obtain ⟨old, there, rfl⟩ := mem_update.mp mem
  refine ⟨old, there, ?_⟩
  split
  · exact ⟨(keeps old).1.symm, (keeps old).2.symm⟩
  · exact ⟨rfl, rfl⟩

theorem Alters.state_eq (alters : Alters t latest db db') (apart : u ≠ t) :
    stateOf db' u = stateOf db u := by
  obtain ⟨change, keeps, rows⟩ := alters.rows
  have same : (update (fun row => row.id = t) change db.transactions).find? (fun row => row.id = u) =
      db.transactions.find? fun row => row.id = u := by
    apply find?_update_other
    · intro row
      rw [(keeps row).1]
    · intro row wanted
      simp only [decide_eq_true_eq] at wanted
      simpa [wanted] using apart
  unfold stateOf
  rw [rows, same]

theorem Alters.left_eq (alters : Alters t latest db db') (apart : u ≠ t) :
    left most db' u = left most db u := by
  have same := alters.jobs u apart
  unfold left flies attemptsOf
  rw [alters.state_eq apart, same]

theorem Alters.awaits (alters : Alters t latest db db') (apart : u ≠ t) (awaits : Awaits db u) :
    Awaits db' u := by
  have same := alters.jobs u apart
  unfold Awaits jobOf at awaits ⊢
  rw [same]
  exact awaits

end Alterations

section Writes

/-- A stored sale is overwritten with one that was moved to another state. -/
theorem moves_alters {transaction next : Transaction}
    (moves : transitionTo transaction target now reference = .ok next)
    (saved : saveTransaction db ⟨next, productType, masked, payload⟩ = .ok db')
    (own : transaction.id = t) (dated : now ≤ latest) (present : Present (·.id) t db.transactions) :
    Alters t latest db db' := by
  obtain ⟨_, rfl⟩ := transitionTo_ok moves
  rcases (saveTransaction_ok saved).2 with ⟨_, rfl⟩ | ⟨absent, _⟩
  · refine ⟨⟨overwrite _, fun _ => ⟨rfl, rfl⟩, by rw [← own]⟩, ?_, fun _ _ => rfl, rfl⟩
    intro before row mem
    obtain ⟨old, there, rfl⟩ := mem_update.mp mem
    split
    · exact dated
    · exact before old there
  · exact absurd (own ▸ present) absent

theorem moveValue_alters
    (h : moveValue origin target entries action entityType db context = .ok db') :
    Alters t latest db db' := by
  obtain ⟨_, _, _, _, _, _, _, _, _, rfl⟩ := moveValue_ok h
  exact .same rfl rfl rfl

theorem saveAudit_alters
    (h : saveAudit db auditId now action actor merchantId transactionId correlationId = .ok db') :
    Alters t latest db db' := by
  obtain ⟨_, rfl⟩ := saveAudit_ok h
  exact .same rfl rfl rfl

theorem createSupportCase_alters {filed : SupportInput} (h : createSupportCase db filed = .ok db') :
    Alters t latest db db' := by
  obtain ⟨_, rfl⟩ := createSupportCase_ok h
  exact .same rfl rfl rfl

/-- The jobs of other sales are found as they were. -/
theorem find_job_update {hit : PendingResolutionRow → Bool}
    {change : PendingResolutionRow → PendingResolutionRow} (db : Db)
    (keeps : ∀ row, (change row).transactionId = row.transactionId)
    (misses : ∀ row, hit row = true → row.transactionId = t) (apart : u ≠ t) :
    findPendingResolution { db with pendingResolutions := update hit change db.pendingResolutions }
      u = findPendingResolution db u := by
  apply find?_update_other
  · intro row
    rw [keeps]
  · intro row wanted
    simp only [decide_eq_true_eq] at wanted
    cases struck : hit row with
    | false => rfl
    | true => exact absurd (wanted.symm.trans (misses row struck)) apart

theorem awaited_own {row : PendingResolutionRow} (hit : awaited t row = true) :
    row.transactionId = t := by
  simp only [awaited, decide_eq_true_eq] at hit
  exact hit.1

theorem close_alters (db : Db) (t : TransactionId) (status : PendingStatus) (now : Timestamp) :
    Alters t latest db (closePendingResolution db t status now).1 :=
  .quiet rfl (fun _ apart => find_job_update db (fun _ => rfl) (fun _ => awaited_own) apart) rfl

theorem attempt_alters (db : Db) (t : TransactionId) (now : Timestamp) :
    Alters t latest db (recordResolutionAttempt db t now) :=
  .quiet rfl (fun _ apart => find_job_update db (fun _ => rfl) (fun _ => awaited_own) apart) rfl

theorem metadata_alters (db : Db) (t : TransactionId) (noted : PendingMetadata) :
    Alters t latest db (updatePendingMetadata db t noted) := by
  refine .quiet rfl (fun _ apart => find_job_update db (fun _ => rfl) ?_ apart) rfl
  intro row hit
  simpa using hit

theorem upsert_alters {job : PendingInput} (h : upsertPendingResolution db job = .ok db')
    (own : job.transactionId = t) : Alters t latest db db' := by
  unfold upsertPendingResolution at h
  split at h
  · cases h
    exact .same rfl rfl rfl
  · rename_i absent
    simp only [bind_ok, demand_ok, pure_ok] at h
    obtain ⟨_, _, _, _, rfl⟩ := h
    refine .quiet rfl ?_ rfl
    intro u apart
    unfold findPendingResolution
    rw [find?_added _ fun old mem same => absent ⟨old, mem, same⟩]
    exact if_neg (own ▸ apart)

end Writes

section Units

variable {working : Transaction}

theorem releaseNeverSubmitted_alters (present : Present (·.id) work.current.id db.transactions)
    (now : input.now 0 ≤ latest) (h : releaseNeverSubmitted work input db = .ok (db', result)) :
    Alters work.current.id latest db db' := by
  simp only [releaseNeverSubmitted, bind_ok, pure_ok, Prod.mk.injEq] at h
  obtain ⟨processing, submits, failed, fails, _, saved, _, released, _, audited, rfl, _⟩ := h
  obtain ⟨_, submitted⟩ := transitionTo_ok submits
  have own : processing.id = work.current.id := by
    rw [submitted]
    rfl
  have saves : Alters work.current.id latest db _ := moves_alters fails saved own now present
  apply (saves.trans (moveValue_alters released)).trans
  obtain ⟨_, rfl⟩ := saveAudit_ok audited
  exact .same rfl rfl rfl

theorem moveUncertain_alters (present : Present (·.id) work.current.id db.transactions)
    (now : input.now 0 ≤ latest) (h : moveUncertain work input db = .ok (db', answer)) :
    Alters work.current.id latest db db' := by
  simp only [moveUncertain, bind_ok, pure_ok, Prod.mk.injEq] at h
  obtain ⟨processing, submits, pending, holds, _, saved, _, opens, _, audited, rfl, _⟩ := h
  obtain ⟨_, submitted⟩ := transitionTo_ok submits
  have own : processing.id = work.current.id := by
    rw [submitted]
    rfl
  have saves : Alters work.current.id latest db _ := moves_alters holds saved own now present
  exact (saves.trans (upsert_alters opens rfl)).trans (saveAudit_alters audited)

theorem recoverSuccess_alters (present : Present (·.id) current.id db.transactions)
    (now : input.now 0 ≤ latest)
    (h : recoverSuccess work current reference input db = .ok (db', result)) :
    Alters current.id latest db db' := by
  simp only [recoverSuccess, bind_ok, pure_ok, Prod.mk.injEq] at h
  obtain ⟨next, moves, _, saved, second, settled, _, audited, rfl, _⟩ := h
  have saves : Alters current.id latest db _ := moves_alters moves saved rfl now present
  have closes : Alters current.id latest second _ :=
    close_alters second current.id .resolved (input.now 0)
  apply ((saves.trans (moveValue_alters settled)).trans closes).trans
  obtain ⟨_, rfl⟩ := saveAudit_ok audited
  exact .same rfl rfl rfl

theorem recoverFailure_alters (present : Present (·.id) current.id db.transactions)
    (now : input.now 0 ≤ latest)
    (h : recoverFailure work current reference input db = .ok (db', result)) :
    Alters current.id latest db db' := by
  simp only [recoverFailure, bind_ok, pure_ok, Prod.mk.injEq] at h
  obtain ⟨next, moves, _, saved, second, released, _, audited, rfl, _⟩ := h
  have saves : Alters current.id latest db _ := moves_alters moves saved rfl now present
  have closes : Alters current.id latest second _ :=
    close_alters second current.id .resolved (input.now 0)
  apply ((saves.trans (moveValue_alters released)).trans closes).trans
  obtain ⟨_, rfl⟩ := saveAudit_ok audited
  exact .same rfl rfl rfl

theorem escalateRecovery_alters (present : Present (·.id) current.id db.transactions)
    (own : working.id = current.id) (now : input.now 0 ≤ latest)
    (h : escalateRecovery work current working outcome reference attempts input db =
      .ok (db', result)) : Alters current.id latest db db' := by
  simp only [escalateRecovery, bind_ok] at h
  obtain ⟨escalated, moves, _, saved, second, reviewed, h⟩ := h
  have saves : Alters current.id latest db _ := moves_alters moves saved own now present
  have closes : Alters current.id latest second _ :=
    close_alters second current.id .escalated (input.now 0)
  have closed := (saves.trans (moveValue_alters reviewed)).trans closes
  split at h
  · simp only [bind_ok, pure_ok, Prod.mk.injEq] at h
    obtain ⟨_, support, fourth, audited, _, audited', rfl, _⟩ := h
    have notes : Alters current.id latest fourth _ := metadata_alters fourth current.id
      { now := input.now 0, manualReviewOpen := true }
    apply closed.trans
    apply (createSupportCase_alters support).trans
    exact ((saveAudit_alters audited).trans notes).trans (saveAudit_alters audited')
  · simp only [bind_ok, pure_ok, Prod.mk.injEq] at h
    obtain ⟨third, kept, _, audited, rfl, _⟩ := h
    cases kept
    have notes : Alters current.id latest _ _ := metadata_alters
      (closePendingResolution second current.id .escalated (input.now 0)).1 current.id
      { now := input.now 0, manualReviewOpen := true }
    exact (closed.trans notes).trans (saveAudit_alters audited)

theorem countAttempt_alters (present : Present (·.id) current.id db.transactions)
    (own : working.id = current.id) (now : input.now 0 ≤ latest)
    (h : countAttempt work current working outcome reference input db = .ok (db', result)) :
    Alters current.id latest db db' := by
  simp only [countAttempt, bind_ok] at h
  obtain ⟨first, ensured, h⟩ := h
  have opens : Alters current.id latest db first := upsert_alters ensured rfl
  have counts : Alters current.id latest first _ := attempt_alters first current.id (input.now 0)
  have noted : ∀ note, Alters current.id latest db (updatePendingMetadata
      (recordResolutionAttempt first current.id (input.now 0)) current.id note) := fun note =>
    (opens.trans counts).trans (metadata_alters _ _ note)
  split at h
  · exact (noted _).trans (escalateRecovery_alters ((noted _).present present) own now h)
  · split at h
    all_goals
      simp only [bind_ok, pure_ok, Prod.mk.injEq] at h
      obtain ⟨_, audited, rfl, _⟩ := h
      exact (noted _).trans (saveAudit_alters audited)

theorem holdRecovery_alters (present : Present (·.id) current.id db.transactions)
    (now : input.now 0 ≤ latest)
    (h : holdRecovery work current outcome reference input db = .ok (db', result)) :
    Alters current.id latest db db' := by
  unfold holdRecovery at h
  split at h
  · simp only [bind_ok] at h
    obtain ⟨working, moves, middle, saved, h⟩ := h
    obtain ⟨_, same⟩ := transitionTo_ok moves
    have own : working.id = current.id := by
      rw [same]
      rfl
    have saves : Alters current.id latest db middle := moves_alters moves saved rfl now present
    exact saves.trans (countAttempt_alters (saves.present present) own now h)
  · exact countAttempt_alters present rfl now h

theorem applyLookup_alters (now : input.now 0 ≤ latest)
    (h : applyLookup work outcome reference input db = .ok (db', result)) :
    Alters work.current.id latest db db' := by
  simp only [applyLookup, bind_ok, expect_ok] at h
  obtain ⟨current, found, h⟩ := h
  obtain ⟨mem, id, _⟩ := findTransaction_ok found
  have present : Present (·.id) current.id db.transactions := ⟨current, mem, rfl⟩
  rw [← id]
  split at h
  · simp only [pure_ok, Prod.mk.injEq] at h
    obtain ⟨rfl, _⟩ := h
    exact .same rfl rfl rfl
  · split at h
    · exact recoverSuccess_alters present now h
    · exact recoverFailure_alters present now h
    · exact holdRecovery_alters present now h

end Units

section Advances

variable {working : Transaction} {state : TransactionState}

/-- A sale that was in flight has used up one more recovery: it is not in flight any more, or one
more status check of it is counted. -/
structure Advances (most : Nat) (t : TransactionId) (db db' : Db) : Prop where
  less : left most db' t < left most db t
  awaits : flies db' t = true → Awaits db' t

theorem left_pos (flying : flies db t = true) : 1 ≤ left most db t := by
  unfold left
  rw [if_pos flying]
  exact Nat.le_max_left ..

theorem flies_of_left (some : 0 < left most db t) : flies db t = true := by
  unfold left at some
  by_cases flying : flies db t = true
  · exact flying
  · rw [if_neg flying] at some
    cases some

theorem flies_of_state (stored : stateOf db t = some state) :
    flies db t = decide (state ∈ inFlightStates) := by
  unfold flies
  rw [stored]
  rfl

/-- A sale that was given another state than those has used up all of them. -/
theorem Advances.landed (flying : flies db t = true) (stored : stateOf db' t = some state)
    (lands : state ∉ inFlightStates) : Advances most t db db' := by
  have down : flies db' t = false := by
    rw [flies_of_state stored]
    exact decide_eq_false lands
  refine ⟨?_, ?_⟩
  · have none : left most db' t = 0 := by
      unfold left
      rw [down]
      rfl
    rw [none]
    exact left_pos flying
  · intro up
    rw [down] at up
    cases up

theorem Advances.wrote (flying : flies db t = true) (present : Present (·.id) t db.transactions)
    (wrote : Wrote t state change db db') (lands : state ∉ inFlightStates) :
    Advances most t db db' := by
  apply Advances.landed flying _ lands
  rw [stateOf_restated wrote.sales present, if_pos rfl]

theorem attemptsOf_tally (db : Db) (t : TransactionId) :
    attemptsOf db t = ((tally db t).map (·.1)).getD 0 := by
  unfold attemptsOf StatusChecks.tally
  cases findPendingResolution db t with
  | none | some _ => rfl

theorem releaseNeverSubmitted_advances (present : Present (·.id) work.current.id db.transactions)
    (flying : flies db work.current.id = true)
    (h : releaseNeverSubmitted work input db = .ok (db', result)) :
    Advances most work.current.id db db' :=
  .wrote flying present (releaseNeverSubmitted_wrote present h) (by decide)

/-- An uncertain submission uses nothing up. -/
theorem moveUncertain_keeps (present : Present (·.id) work.current.id db.transactions)
    (flying : flies db work.current.id = true) (awaits : Awaits db work.current.id)
    (h : moveUncertain work input db = .ok (db', answer)) :
    stateOf db' work.current.id = some .pending ∧ Awaits db' work.current.id ∧
      left most db' work.current.id = left most db work.current.id := by
  have notes := (moveUncertain_notes h).tallies work.current.id
  simp only [moveUncertain, bind_ok, pure_ok, Prod.mk.injEq] at h
  obtain ⟨processing, submits, pending, holds, middle, saved, _, opens, last, audited, rfl, _⟩ := h
  obtain ⟨_, submitted⟩ := transitionTo_ok submits
  have own : processing.id = work.current.id := by
    rw [submitted]
    rfl
  have marked := save_wrote holds saved (own ▸ present)
  rw [own] at marked
  obtain ⟨sales, began⟩ := upsert_changed opens
  have aside := saveAudit_aside audited
  have wrote := (marked.upon began sales).aside aside
  have stored : stateOf last work.current.id = some .pending := by
    rw [stateOf_restated wrote.sales present, if_pos rfl]
  refine ⟨stored, ?_, ?_⟩
  · unfold Awaits at awaits ⊢
    rw [wrote.jobs.1, if_pos rfl]
    change (opened (jobOf db work.current.id)).all (· = .awaiting) = true
    cases job : jobOf db work.current.id with
    | none => rfl
    | some status =>
      rw [job] at awaits
      exact awaits
  · have same : attemptsOf last work.current.id = attemptsOf db work.current.id := by
      rw [attemptsOf_tally, attemptsOf_tally, notes, if_pos rfl]
      cases tally db work.current.id with
      | none | some _ => rfl
    unfold left
    rw [flying, flies_of_state stored, same]
    rfl

theorem countAttempt_advances (present : Present (·.id) current.id db.transactions)
    (own : working.id = current.id) (stored : stateOf db current.id = some .pending)
    (awaits : Awaits db current.id) (few : work.policy.maxStatusAttempts ≤ most)
    (h : countAttempt work current working outcome reference input db = .ok (db', result)) :
    Advances most current.id db db' := by
  have flying : flies db current.id = true := flies_of_state stored
  obtain ⟨notes, attempts, deadline, told, decided⟩ := countAttempt_decides h
  rcases countAttempt_wrote present own h with escalated | ⟨sales, counted⟩
  · exact .wrote flying present escalated (by decide)
  · rcases decided with ⟨short, _, _⟩ | ⟨_, jobs, escalated⟩
    · have still : stateOf db' current.id = some .pending := by
        rw [stateOf_congr sales]
        exact stored
      have one : attemptsOf db' current.id = attemptsOf db current.id + 1 := by
        have tallies := notes.tallies current.id
        unfold Awaits at awaits
        rw [if_pos rfl, awaits] at tallies
        rw [attemptsOf_tally, attemptsOf_tally, tallies]
        cases tally db current.id with
        | none | some _ => simp [advanced]
      have reached : attemptsOf db' current.id = attempts := by
        rw [attemptsOf_tally, told]
        rfl
      refine ⟨?_, fun _ => ?_⟩
      · unfold left
        rw [flying, flies_of_state still, one]
        simp only [show decide (TransactionState.pending ∈ inFlightStates) = true from rfl, if_true]
        omega
      · unfold Awaits
        rw [counted.1, if_pos rfl]
        unfold Awaits at awaits
        cases job : jobOf db current.id with
        | none => rfl
        | some status =>
          rw [job] at awaits
          exact awaits
    · have there : Present (·.id) working.id db.transactions := own ▸ present
      have wrote : Wrote current.id .underReview (shut .escalated)
          { db with pendingResolutions := jobs } db' := escalateRecovery_wrote there own escalated
      have landed := stateOf_restated wrote.sales present current.id
      rw [if_pos rfl] at landed
      exact .landed flying landed (by decide)

theorem holdRecovery_advances (present : Present (·.id) current.id db.transactions)
    (stored : stateOf db current.id = some current.state)
    (flying : current.state = .processing ∨ current.state = .pending)
    (awaits : Awaits db current.id) (few : work.policy.maxStatusAttempts ≤ most)
    (h : holdRecovery work current outcome reference input db = .ok (db', result)) :
    Advances most current.id db db' := by
  unfold holdRecovery at h
  split at h
  · rename_i processing
    simp only [bind_ok] at h
    obtain ⟨working, moves, middle, saved, h⟩ := h
    obtain ⟨_, same⟩ := transitionTo_ok moves
    have own : working.id = current.id := by
      rw [same]
      rfl
    have marked : Wrote current.id .pending id db middle := save_wrote moves saved present
    have pending : stateOf middle current.id = some .pending := by
      rw [stateOf_restated marked.sales present, if_pos rfl]
    obtain ⟨row, mem, id, _⟩ := mem_of_stateOf pending
    have job : jobOf middle current.id = jobOf db current.id := by
      rw [marked.jobs.1, if_pos rfl]
      rfl
    have attempts : attemptsOf middle current.id = attemptsOf db current.id := by
      have notes := (saveTransaction_notes saved).tallies current.id
      rw [advanced_still] at notes
      rw [attemptsOf_tally, attemptsOf_tally, notes]
    have held : left most middle current.id = left most db current.id := by
      unfold left
      rw [attempts, flies_of_state pending, flies_of_state stored, processing]
      rfl
    have awaits' : Awaits middle current.id := by
      unfold Awaits at awaits ⊢
      rw [job]
      exact awaits
    have advances := countAttempt_advances ⟨row, mem, id⟩ own pending awaits' few h
    exact ⟨held ▸ advances.less, advances.awaits⟩
  · rename_i other
    rw [flying.resolve_left other] at stored
    exact countAttempt_advances present rfl stored awaits few h

theorem applyLookup_advances (ids : Unique (·.id) db.transactions)
    (flying : stateOf db work.current.id = some .processing ∨
      stateOf db work.current.id = some .pending)
    (awaits : Awaits db work.current.id) (few : work.policy.maxStatusAttempts ≤ most)
    (h : applyLookup work outcome reference input db = .ok (db', result)) :
    Advances most work.current.id db db' := by
  simp only [applyLookup, bind_ok, expect_ok] at h
  obtain ⟨current, found, h⟩ := h
  obtain ⟨mem, id, _⟩ := findTransaction_ok found
  have present : Present (·.id) current.id db.transactions := ⟨current, mem, rfl⟩
  have stored := stateOf_of_mem ids mem
  have here := stored
  rw [id] at here
  have going : current.state = .processing ∨ current.state = .pending := by
    rcases flying with flying | flying
    · rw [flying] at here
      exact .inl (Option.some.inj here).symm
    · rw [flying] at here
      exact .inr (Option.some.inj here).symm
  have up : flies db current.id = true := by
    rw [flies_of_state stored]
    rcases going with going | going
    · rw [going]
      rfl
    · rw [going]
      rfl
  rw [← id] at awaits ⊢
  split at h
  · rename_i apart
    exact absurd going (not_or.mpr apart)
  · split at h
    · exact .wrote up present (recoverSuccess_wrote present h) (by decide)
    · exact .wrote up present (recoverFailure_wrote present h) (by decide)
    · exact holdRecovery_advances present stored going awaits few h

end Advances

end Telga.Proofs.Fairness
