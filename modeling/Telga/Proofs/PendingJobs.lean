import Telga.Proofs.Alone

namespace Telga.Proofs
open Domain Persistence Application Library

/-- The status of a sale's pending job, if it has one. -/
def jobOf (db : Db) (transactionId : TransactionId) : Option PendingStatus :=
  (findPendingResolution db transactionId).map (·.status)

/-- Which pending job goes with which state of a sale: an awaited one with a pending sale, none
yet with one that has not been submitted or whose submission has not been answered, and no awaited
one with any other. -/
def Fit : Option TransactionState → Option PendingStatus → Prop
  | none, job => job = none
  | some .pending, job => job = some .awaiting
  | some .reserved, job => job = none
  | some .processing, job => job = none
  | some _, job => job ≠ some .awaiting

/-- Every sale has the pending job that goes with its state. -/
structure Jobs (db : Db) : Prop where
  keys : Unique (·.transactionId) db.pendingResolutions
  fit : ∀ t, Fit (stateOf db t) (jobOf db t)

/-- A step that gives no sale a state and leaves the pending jobs alone. -/
def Aside (db db' : Db) : Prop :=
  db'.transactions = db.transactions ∧ db'.pendingResolutions = db.pendingResolutions

/-- One thing is done to the pending job of one sale, and nothing to any other's. -/
def Changed (transactionId : TransactionId) (change : Option PendingStatus → Option PendingStatus)
    (db db' : Db) : Prop :=
  (∀ t, jobOf db' t = if t = transactionId then change (jobOf db t) else jobOf db t) ∧
  (Unique (·.transactionId) db.pendingResolutions →
    Unique (·.transactionId) db'.pendingResolutions)

/-- A unit of work that gives one sale a state and changes its pending job. -/
structure Wrote (transactionId : TransactionId) (state : TransactionState)
    (change : Option PendingStatus → Option PendingStatus) (db db' : Db) : Prop where
  sales : Restated transactionId state db.transactions db'.transactions
  jobs : Changed transactionId change db db'

/-- A job is opened unless there is one. -/
def opened (job : Option PendingStatus) : Option PendingStatus :=
  job.or (some .awaiting)

/-- A job is closed if it is awaited. -/
def shut (status : PendingStatus) (job : Option PendingStatus) : Option PendingStatus :=
  job.map fun old => if old = .awaiting then status else old

theorem Aside.refl (db : Db) : Aside db db :=
  ⟨rfl, rfl⟩

theorem Aside.trans (first : Aside db db') (next : Aside db' db'') : Aside db db'' :=
  ⟨next.1.trans first.1, next.2.trans first.2⟩

theorem Changed.same (same : db'.pendingResolutions = db.pendingResolutions) :
    Changed t id db db' := by
  unfold Changed jobOf findPendingResolution
  rw [same]
  simp

theorem Changed.trans (first : Changed t change db db') (next : Changed t change' db' db'') :
    Changed t (change' ∘ change) db db'' := by
  refine ⟨fun other => ?_, fun keys => next.2 (first.2 keys)⟩
  rw [next.1, first.1]
  by_cases here : other = t
  · simp [here]
  · simp [here]

theorem Changed.aside (changed : Changed t change db db') (aside : Aside db' db'') :
    Changed t change db db'' :=
  changed.trans (.same aside.2)

/-- A job was changed before the sale was given its state. -/
theorem Wrote.after (wrote : Wrote t state change' middle db')
    (changed : Changed t change db middle) (sales : middle.transactions = db.transactions) :
    Wrote t state (change' ∘ change) db db' where
  sales := sales ▸ wrote.sales
  jobs := changed.trans wrote.jobs

/-- Or after it. -/
theorem Wrote.upon (wrote : Wrote t state change db middle)
    (changed : Changed t change' middle db') (sales : db'.transactions = middle.transactions) :
    Wrote t state (change' ∘ change) db db' where
  sales := sales ▸ wrote.sales
  jobs := wrote.jobs.trans changed

/-- A sale given two states was given the second. -/
theorem Wrote.trans (first : Wrote t before change db middle)
    (second : Wrote t state change' middle db') : Wrote t state (change' ∘ change) db db' where
  sales := first.sales.trans second.sales
  jobs := first.jobs.trans second.jobs

theorem Wrote.aside (wrote : Wrote t state change db db') (aside : Aside db' db'') :
    Wrote t state change db db'' where
  sales := aside.1 ▸ wrote.sales
  jobs := wrote.jobs.aside aside

/-- Looking up among jobs some of which were rewritten. -/
theorem jobOf_update {hit : PendingResolutionRow → Bool}
    {change : PendingResolutionRow → PendingResolutionRow}
    (keeps : ∀ row, (change row).transactionId = row.transactionId) (db : Db) (t : TransactionId) :
    jobOf { db with pendingResolutions := update hit change db.pendingResolutions } t =
      (findPendingResolution db t).map fun row =>
        (if hit row then change row else row).status := by
  unfold jobOf findPendingResolution
  rw [find?_update fun row => by rw [keeps], Option.map_map]
  rfl

theorem mem_of_jobOf (h : jobOf db t = some status) :
    ∃ row ∈ db.pendingResolutions, row.transactionId = t ∧ row.status = status := by
  obtain ⟨row, found, same⟩ := Option.map_eq_some_iff.mp h
  exact ⟨row, List.mem_of_find?_eq_some found, by simpa using List.find?_some found, same⟩

theorem find_job (found : findPendingResolution db t = some row) : row.transactionId = t := by
  have same := List.find?_some found
  simpa using same

theorem close_changed (db : Db) (t : TransactionId) (status : PendingStatus) (now : Timestamp) :
    Changed t (shut status) db (closePendingResolution db t status now).1 := by
  refine ⟨fun other => ?_, fun keys => keys.update fun _ => rfl⟩
  have keeps : ∀ row : PendingResolutionRow,
      ({ row with status, updatedAt := now } : PendingResolutionRow).transactionId =
        row.transactionId := fun _ => rfl
  simp only [closePendingResolution]
  rw [jobOf_update keeps]
  unfold jobOf shut
  cases found : findPendingResolution db other with
  | none => simp
  | some row =>
    have same := find_job found
    by_cases here : other = t
    · by_cases awaiting : row.status = .awaiting <;> simp [awaited, same, here, awaiting]
    · simp [awaited, same, here]

/-- A job that is awaited can be closed. -/
theorem close_awaited (keys : Unique (·.transactionId) db.pendingResolutions)
    (job : jobOf db t = some .awaiting) (status : PendingStatus) (now : Timestamp) :
    (closePendingResolution db t status now).2 = true := by
  obtain ⟨row, mem, rfl, awaiting⟩ := mem_of_jobOf job
  have hits : db.pendingResolutions.filter (awaited row.transactionId) = [row] := by
    have split : awaited row.transactionId = fun other =>
        decide (other.status = .awaiting) && decide (other.transactionId = row.transactionId) := by
      funext other
      simp [awaited, Bool.and_comm]
    rw [split, ← List.filter_filter, keys.filter mem]
    simp [awaiting]
  simp only [closePendingResolution, changes, hits]
  rfl

theorem attempt_changed (db : Db) (t : TransactionId) (now : Timestamp) :
    Changed t id db (recordResolutionAttempt db t now) := by
  refine ⟨fun other => ?_, fun keys => keys.update fun _ => rfl⟩
  have keeps : ∀ row : PendingResolutionRow,
      ({ row with
        attempts := row.attempts + 1, lastAttemptAt := some now, updatedAt := now } :
          PendingResolutionRow).transactionId = row.transactionId := fun _ => rfl
  unfold recordResolutionAttempt
  rw [jobOf_update keeps]
  unfold jobOf
  cases findPendingResolution db other with
  | none => simp
  | some row => by_cases hit : awaited t row <;> simp [hit]

theorem metadata_changed (db : Db) (t : TransactionId) (noted : PendingMetadata) :
    Changed t id db (updatePendingMetadata db t noted) := by
  refine ⟨fun other => ?_, fun keys => keys.update fun _ => rfl⟩
  have keeps : ∀ row : PendingResolutionRow,
      ({ row with
        nextCheckAt := noted.nextCheckAt <|> row.nextCheckAt
        lastOutcomeCategory := noted.lastOutcomeCategory <|> row.lastOutcomeCategory
        currentState := noted.currentState <|> row.currentState
        manualReviewOpen := noted.manualReviewOpen || row.manualReviewOpen
        updatedAt := noted.now } : PendingResolutionRow).transactionId = row.transactionId :=
    fun _ => rfl
  unfold updatePendingMetadata
  rw [jobOf_update keeps]
  unfold jobOf
  cases findPendingResolution db other with
  | none => simp
  | some row => by_cases hit : row.transactionId = t <;> simp [hit]

theorem upsert_changed (h : upsertPendingResolution db job = .ok db') :
    db'.transactions = db.transactions ∧ Changed job.transactionId opened db db' := by
  unfold upsertPendingResolution at h
  split at h
  · rename_i present
    cases h
    refine ⟨rfl, fun other => ?_, id⟩
    by_cases here : other = job.transactionId
    · cases found : findPendingResolution db other with
      | none =>
        obtain ⟨row, mem, same⟩ := present
        have missed := List.find?_eq_none.mp found row mem
        simp [here, same] at missed
      | some row => simp [jobOf, found, opened]
    · simp [here]
  · rename_i absent
    simp only [bind_ok, demand_ok, pure_ok] at h
    obtain ⟨_, _, _, _, rfl⟩ := h
    have fresh : ∀ old ∈ db.pendingResolutions, old.transactionId ≠ job.transactionId :=
      fun old mem same => absent ⟨old, mem, same⟩
    refine ⟨rfl, fun other => ?_, fun keys => keys.append fresh⟩
    unfold jobOf findPendingResolution
    rw [find?_added _ fresh]
    by_cases here : other = job.transactionId
    · have none : db.pendingResolutions.find?
          (fun row => row.transactionId = job.transactionId) = none := by
        refine List.find?_eq_none.mpr fun old mem => ?_
        simpa using fresh old mem
      simp [here, none, opened]
    · simp [here]

theorem moveValue_aside
    (h : moveValue origin target entries action entityType db context = .ok db') :
    Aside db db' := by
  obtain ⟨_, _, _, _, _, _, _, _, _, rfl⟩ := moveValue_ok h
  exact .refl _

theorem saveAudit_aside
    (h : saveAudit db auditId now action actor merchantId transactionId correlationId = .ok db') :
    Aside db db' := by
  obtain ⟨_, rfl⟩ := saveAudit_ok h
  exact .refl _

theorem createSupportCase_aside (h : createSupportCase db input = .ok db') : Aside db db' := by
  obtain ⟨_, rfl⟩ := createSupportCase_ok h
  exact .refl _

theorem recordCommission_aside (h : recordCommission db input = .ok db') : Aside db db' := by
  obtain ⟨_, rfl⟩ := recordCommission_ok h
  exact .refl _

/-- Saving a sale in the state it was moved to. -/
theorem save_wrote (moves : transitionTo transaction target now reference = .ok next)
    (saved : saveTransaction db ⟨next, productType, masked, payload⟩ = .ok db')
    (present : Present (·.id) transaction.id db.transactions) :
    Wrote transaction.id target id db db' := by
  obtain ⟨_, restated, rfl⟩ := save_restates moves saved present
  exact ⟨restated, .same rfl⟩

section Sale

variable {sale : CreateSale} {input : Input} {db db' : Db}

theorem saveTransaction_jobs (h : saveTransaction db saving = .ok db') :
    db'.pendingResolutions = db.pendingResolutions := by
  rcases (saveTransaction_ok h).2 with ⟨_, rfl⟩ | ⟨_, _, _, _, rfl⟩ <;> rfl

theorem openSale_jobs (h : openSale sale input db = .ok (db', reserved)) :
    db'.pendingResolutions = db.pendingResolutions := by
  simp only [openSale, bind_ok, pure_ok, Prod.mk.injEq] at h
  obtain ⟨_, _, _, _, first, saved, second, audited, _, _, third, rewritten, fourth, held, _, _,
    fifth, again, sixth, audited', last, recorded, rfl, _⟩ := h
  obtain ⟨_, rfl⟩ := saveIdempotencyRecord_ok recorded
  obtain ⟨_, _, _, _, _, _, _, _, heldEq⟩ := reserve_ok held
  calc sixth.pendingResolutions
      = fifth.pendingResolutions := (saveAudit_aside audited').2
    _ = fourth.pendingResolutions := saveTransaction_jobs again
    _ = third.pendingResolutions := by rw [heldEq]
    _ = second.pendingResolutions := saveTransaction_jobs rewritten
    _ = first.pendingResolutions := (saveAudit_aside audited).2
    _ = db.pendingResolutions := saveTransaction_jobs saved

theorem markProcessing_wrote (known : Remembered db sale.toSaleCall reserved)
    (h : markProcessing sale reserved input db = .ok (db', processing)) :
    Wrote reserved.id .processing id db db' := by
  simp only [markProcessing, bind_ok, pure_ok, Prod.mk.injEq] at h
  obtain ⟨_, moves, _, saved, _, audited, rfl, _⟩ := h
  exact (save_wrote moves saved known.sold.present).aside (saveAudit_aside audited)

theorem settleSale_wrote (known : Remembered db sale.toSaleCall processing)
    (h : settleSale sale processing submitted input db = .ok (db', result)) :
    Wrote processing.id .successful id db db' := by
  simp only [settleSale, bind_ok, pure_ok, Prod.mk.injEq] at h
  obtain ⟨_, moves, _, saved, _, _, _, settled, _, recorded, _, audited, rfl, _⟩ := h
  have written := save_wrote moves saved known.sold.present
  have aside := ((moveValue_aside settled).trans (recordCommission_aside recorded)).trans
    (saveAudit_aside audited)
  exact written.aside aside

theorem failSale_wrote (known : Remembered db sale.toSaleCall processing)
    (h : failSale sale processing submitted input db = .ok (db', result)) :
    Wrote processing.id .failed id db db' := by
  simp only [failSale, bind_ok, pure_ok, Prod.mk.injEq] at h
  obtain ⟨_, moves, _, saved, _, released, _, audited, rfl, _⟩ := h
  have written := save_wrote moves saved known.sold.present
  have aside := (moveValue_aside released).trans (saveAudit_aside audited)
  exact written.aside aside

theorem releaseQuietly_wrote (known : Remembered db sale.toSaleCall processing)
    (h : releaseQuietly sale processing input db = .ok (db', result)) :
    Wrote processing.id .failed id db db' := by
  simp only [releaseQuietly, bind_ok, pure_ok, Prod.mk.injEq] at h
  obtain ⟨_, moves, _, saved, _, released, rfl, _⟩ := h
  exact (save_wrote moves saved known.sold.present).aside (moveValue_aside released)

theorem holdSale_wrote (known : Remembered db sale.toSaleCall processing)
    (h : holdSale sale processing submitted input db = .ok (db', result)) :
    Wrote processing.id .pending opened db db' := by
  simp only [holdSale, bind_ok, pure_ok, Prod.mk.injEq] at h
  obtain ⟨_, moves, _, saved, _, begun, _, audited, rfl, _⟩ := h
  obtain ⟨restated, jobs⟩ := save_wrote moves saved known.sold.present
  obtain ⟨sales, changed⟩ := upsert_changed begun
  have written : Wrote processing.id .pending opened db _ := ⟨sales ▸ restated, jobs.trans changed⟩
  exact written.aside (saveAudit_aside audited)

end Sale

section Recovery

variable {input : Input} {db db' : Db} {call : ResolvePending} {work : UnderClaim}

theorem resolveSuccess_wrote (present : Present (·.id) current.id db.transactions)
    (h : resolveSuccess call current correlationId status input db = .ok (db', result)) :
    Wrote current.id .successful id db db' := by
  simp only [resolveSuccess, bind_ok, pure_ok, Prod.mk.injEq] at h
  obtain ⟨_, moves, _, saved, _, settled, _, audited, rfl, _⟩ := h
  have written := save_wrote moves saved present
  have aside := (moveValue_aside settled).trans (saveAudit_aside audited)
  exact written.aside aside

theorem resolveFailure_wrote (present : Present (·.id) current.id db.transactions)
    (h : resolveFailure call current correlationId status input db = .ok (db', result)) :
    Wrote current.id .failed id db db' := by
  simp only [resolveFailure, bind_ok, pure_ok, Prod.mk.injEq] at h
  obtain ⟨_, moves, _, saved, _, released, _, audited, rfl, _⟩ := h
  have written := save_wrote moves saved present
  have aside := (moveValue_aside released).trans (saveAudit_aside audited)
  exact written.aside aside

theorem escalatePending_wrote (present : Present (·.id) current.id db.transactions)
    (h : escalatePending call current correlationId input db = .ok (db', result)) :
    Wrote current.id .underReview id db db' := by
  simp only [escalatePending, bind_ok, pure_ok, Prod.mk.injEq] at h
  obtain ⟨_, moves, _, saved, _, reviewed, _, support, _, audited, rfl, _⟩ := h
  have written := save_wrote moves saved present
  have aside := ((moveValue_aside reviewed).trans (createSupportCase_aside support)).trans
    (saveAudit_aside audited)
  exact written.aside aside

theorem releaseNeverSubmitted_wrote
    (present : Present (·.id) work.current.id db.transactions)
    (h : releaseNeverSubmitted work input db = .ok (db', result)) :
    Wrote work.current.id .failed id db db' := by
  simp only [releaseNeverSubmitted, bind_ok, pure_ok, Prod.mk.injEq] at h
  obtain ⟨processing, submits, _, fails, _, saved, _, released, _, audited, rfl, _⟩ := h
  obtain ⟨_, submitted⟩ := transitionTo_ok submits
  have same : processing.id = work.current.id := by
    rw [submitted]
    rfl
  have written := save_wrote fails saved (same ▸ present)
  have noted := saveAudit_aside audited
  have aside := (moveValue_aside released).trans ⟨noted.1, noted.2⟩
  exact same ▸ written.aside aside

theorem recoverSuccess_wrote (present : Present (·.id) current.id db.transactions)
    (h : recoverSuccess work current reference input db = .ok (db', result)) :
    Wrote current.id .successful (shut .resolved) db db' := by
  simp only [recoverSuccess, bind_ok, pure_ok, Prod.mk.injEq] at h
  obtain ⟨_, moves, _, saved, second, settled, _, audited, rfl, _⟩ := h
  have written := save_wrote moves saved present
  have closes := close_changed second current.id .resolved (input.now 0)
  have closed := (written.aside (moveValue_aside settled)).upon closes rfl
  have aside := saveAudit_aside audited
  exact closed.aside aside

theorem recoverFailure_wrote (present : Present (·.id) current.id db.transactions)
    (h : recoverFailure work current reference input db = .ok (db', result)) :
    Wrote current.id .failed (shut .resolved) db db' := by
  simp only [recoverFailure, bind_ok, pure_ok, Prod.mk.injEq] at h
  obtain ⟨_, moves, _, saved, second, released, _, audited, rfl, _⟩ := h
  have written := save_wrote moves saved present
  have closes := close_changed second current.id .resolved (input.now 0)
  have closed := (written.aside (moveValue_aside released)).upon closes rfl
  have aside := saveAudit_aside audited
  exact closed.aside aside

theorem escalateRecovery_wrote (present : Present (·.id) working.id db.transactions)
    (same : working.id = current.id)
    (h : escalateRecovery work current working outcome reference attempts input db =
      .ok (db', result)) :
    Wrote current.id .underReview (shut .escalated) db db' := by
  simp only [escalateRecovery, bind_ok] at h
  obtain ⟨_, moves, _, saved, second, reviewed, h⟩ := h
  have written := same ▸ save_wrote moves saved present
  have closes := close_changed second current.id .escalated (input.now 0)
  have closed := (written.aside (moveValue_aside reviewed)).upon closes rfl
  split at h
  · simp only [bind_ok, pure_ok, Prod.mk.injEq] at h
    obtain ⟨_, support, fourth, audited, _, audited', rfl, _⟩ := h
    have aside := (createSupportCase_aside support).trans (saveAudit_aside audited)
    have notes := metadata_changed fourth current.id
      { now := input.now 0, manualReviewOpen := true }
    have noted := (closed.aside aside).upon notes rfl
    exact noted.aside (saveAudit_aside audited')
  · simp only [bind_ok, pure_ok, Prod.mk.injEq] at h
    obtain ⟨third, kept, _, audited, rfl, _⟩ := h
    cases kept
    have notes := metadata_changed (closePendingResolution second current.id .escalated
      (input.now 0)).1 current.id { now := input.now 0, manualReviewOpen := true }
    have noted := closed.upon notes rfl
    exact noted.aside (saveAudit_aside audited)

/-- Counting an attempt makes sure there is a job, and escalates the sale or leaves its state. -/
theorem countAttempt_wrote (present : Present (·.id) current.id db.transactions)
    (same : working.id = current.id)
    (h : countAttempt work current working outcome reference input db = .ok (db', result)) :
    Wrote current.id .underReview (shut .escalated ∘ opened) db db' ∨
    db'.transactions = db.transactions ∧ Changed current.id opened db db' := by
  simp only [countAttempt, bind_ok] at h
  obtain ⟨first, ensured, h⟩ := h
  obtain ⟨sales, began⟩ := upsert_changed ensured
  have counted := began.trans (attempt_changed first current.id (input.now 0))
  have noted : ∀ note, Changed current.id opened db
      (updatePendingMetadata (recordResolutionAttempt first current.id (input.now 0)) current.id
        note) := fun note => counted.trans (metadata_changed _ _ note)
  have kept : ∀ note, (updatePendingMetadata
      (recordResolutionAttempt first current.id (input.now 0)) current.id note).transactions =
        db.transactions := fun _ => sales
  split at h
  · have here := present
    rw [← same, ← kept] at here
    have wrote := escalateRecovery_wrote here same h
    exact .inl (wrote.after (noted _) (kept _))
  · split at h
    all_goals
      simp only [bind_ok, pure_ok, Prod.mk.injEq] at h
      obtain ⟨_, audited, rfl, _⟩ := h
      have aside := saveAudit_aside audited
      exact .inr ⟨aside.1.trans (kept _), (noted _).aside aside⟩

end Recovery

/-- What a step of one of these services does to the sales and their jobs, given that they fitted
each other: nothing; or a sale is opened, which has no job; or a sale is given a state that its
changed job fits. -/
inductive Progress (db db' : Db) : Prop
  | quiet : db'.transactions = db.transactions → Changed t change db db' →
      change (jobOf db t) = jobOf db t → Progress db db'
  | opens : db'.transactions = db.transactions ++ [row] →
      ¬ Present (·.id) row.id db.transactions → row.state = .reserved →
      db'.pendingResolutions = db.pendingResolutions → Progress db db'
  | wrote : Wrote t state change db db' → stateOf db t = some before →
      Fit (some state) (change (jobOf db t)) → Progress db db'

theorem Aside.progress (aside : Aside db db') : Progress db db' := by
  have changed : Changed "" id db db' := .same aside.2
  exact .quiet aside.1 changed rfl

theorem stateOf_congr (same : db'.transactions = db.transactions) (t : TransactionId) :
    stateOf db' t = stateOf db t := by
  unfold stateOf
  rw [same]

theorem Jobs.progress (jobs : Jobs db) (progress : Progress db db') : Jobs db' := by
  cases progress with
  | quiet sales changed still =>
    refine ⟨changed.2 jobs.keys, fun other => ?_⟩
    have kept : jobOf db' other = jobOf db other := by
      rw [changed.1]
      split
      · rename_i here
        rw [here, still]
      · rfl
    rw [stateOf_congr sales, kept]
    exact jobs.fit other
  | @opens row sales absent reserved same =>
    have kept : ∀ t, jobOf db' t = jobOf db t := by
      intro t
      unfold jobOf findPendingResolution
      rw [same]
    refine ⟨same ▸ jobs.keys, fun other => ?_⟩
    rw [stateOf_append sales absent, kept]
    have fits := jobs.fit other
    split
    · rename_i here
      have unknown : stateOf db other = none := by
        unfold stateOf
        rw [Option.map_eq_none_iff, List.find?_eq_none]
        intro old mem hit
        exact absent ⟨old, mem, by simpa [here] using hit⟩
      rw [unknown] at fits
      rw [reserved]
      exact fits
    · exact fits
  | @wrote t state change before written stored fitting =>
    refine ⟨written.jobs.2 jobs.keys, fun other => ?_⟩
    obtain ⟨row, mem, id, _⟩ := mem_of_stateOf stored
    rw [stateOf_restated written.sales ⟨row, mem, id⟩, written.jobs.1]
    split
    · rename_i here
      rw [here]
      exact fitting
    · exact jobs.fit other

/-- The job of a sale whose submission has not been answered: none. -/
theorem Jobs.none_of (jobs : Jobs db)
    (stored : stateOf db t = some .reserved ∨ stateOf db t = some .processing) :
    jobOf db t = none := by
  have fits := jobs.fit t
  rcases stored with stored | stored
  all_goals
    rw [stored] at fits
    exact fits

/-- The job of a pending sale: an awaited one. -/
theorem Jobs.awaiting_of (jobs : Jobs db) (stored : stateOf db t = some .pending) :
    jobOf db t = some .awaiting := by
  have fits := jobs.fit t
  rw [stored] at fits
  exact fits

/-- A row just read is how its sale is stored. -/
theorem stored_found (sound : Sound db) (found : findTransaction db t merchantId = some row) :
    row.id = t ∧ Present (·.id) row.id db.transactions ∧ stateOf db row.id = some row.state := by
  obtain ⟨mem, id, _⟩ := findTransaction_ok found
  exact ⟨id, ⟨row, mem, rfl⟩, stateOf_of_mem sound.ids mem⟩

section Steps

variable {db db' : Db} {input : Input}

theorem createSale_progress {sale : CreateSale} (jobs : Jobs db) (known : KnownSale db sale)
    (fresh : Fresh input db (.createSale sale)) (current : Current db (.createSale sale))
    (moved : sale.step input db = (db', sale')) : Progress db db' := by
  unfold KnownSale at known
  unfold Current at current
  cases point : sale.point with
  | reserving =>
    simp only [CreateSale.step, point] at moved
    rcases unit_cases input (openSale sale input) db with
      ⟨next, reserved, _, done, same⟩ | ⟨fault, same⟩
    all_goals
      rw [same] at moved
      cases moved
    · obtain ⟨row, hold, record, context, opening, did, _⟩ := openSale_turn point fresh done
      exact .opens did.sales opening.absent opening.state (openSale_jobs done)
    · exact (Aside.refl db).progress
  | submitting reserved =>
    simp only [point] at known current
    simp only [CreateSale.step, point] at moved
    rcases unit_cases input (markProcessing sale reserved input) db with
      ⟨next, processing, _, done, same⟩ | ⟨fault, same⟩
    all_goals
      rw [same] at moved
      cases moved
    · exact .wrote (markProcessing_wrote known.1 done) current (jobs.none_of (.inl current))
    · exact (Aside.refl db).progress
  | applying processing submitted =>
    simp only [point] at known current
    simp only [CreateSale.step, point] at moved
    have none := jobs.none_of (.inr current)
    rcases unit_cases input (applyOutcome sale processing submitted input) db with
      ⟨next, result, _, done, same⟩ | ⟨fault, same⟩
    all_goals
      rw [same] at moved
      cases moved
    · unfold applyOutcome at done
      split at done
      · refine .wrote (settleSale_wrote known.1 done) current ?_
        simp [Fit, none]
      · refine .wrote (failSale_wrote known.1 done) current ?_
        simp [Fit, none]
      · refine .wrote (holdSale_wrote known.1 done) current ?_
        simp [Fit, opened, none]
    · exact (Aside.refl db).progress
  | releasing processing =>
    simp only [point] at known current
    simp only [CreateSale.step, point] at moved
    rcases unit_cases input (releaseQuietly sale processing input) db with
      ⟨next, result, _, done, same⟩ | ⟨fault, same⟩
    all_goals
      rw [same] at moved
      cases moved
    · refine .wrote (releaseQuietly_wrote known.1 done) current ?_
      simp [Fit, jobs.none_of (.inr current)]
    · exact (Aside.refl db).progress
  | awaiting processing =>
    simp only [CreateSale.step, point] at moved
    split at moved
    all_goals
      cases moved
      exact (Aside.refl db).progress
  | _ =>
    simp only [CreateSale.step, point] at moved
    repeat' split at moved
    all_goals
      cases moved
      exact (Aside.refl db).progress

/-- Closing the job of a pending sale goes on with the work. -/
theorem closing_ok {call : ResolvePending} (keys : Unique (·.transactionId) db.pendingResolutions)
    (job : jobOf db call.transactionId = some .awaiting)
    (h : closing call status current correlationId now db work = .ok answer) :
    work (closePendingResolution db call.transactionId status now).1 = .ok answer := by
  unfold closing at h
  have closes := close_awaited keys job status now
  cases closed : closePendingResolution db call.transactionId status now with
  | mk next changed =>
    rw [closed] at closes h
    simp only at closes
    simpa [closes] using h

theorem applyStatus_progress {call : ResolvePending} (sound : Sound db) (jobs : Jobs db)
    (h : applyStatus call row job correlationId status input db = .ok (db', result)) :
    Progress db db' := by
  simp only [applyStatus] at h
  split at h
  · cases h
    exact (Aside.refl _).progress
  · rename_i current looked
    obtain ⟨found, pending⟩ := Option.filter_eq_some_iff.mp looked
    simp only [decide_eq_true_eq] at pending
    obtain ⟨id, present, stored⟩ := stored_found sound found
    rw [pending] at stored
    have awaiting := jobs.awaiting_of stored
    rw [id] at awaiting stored
    have closes := close_changed db call.transactionId
    have here : ∀ status now, Present (·.id) current.id
        (closePendingResolution db call.transactionId status now).1.transactions :=
      fun _ _ => present
    split at h
    · have done := closing_ok jobs.keys awaiting h
      have wrote := resolveSuccess_wrote (here ..) done
      rw [id] at wrote
      refine .wrote (wrote.after (closes ..) rfl) stored ?_
      simp [Fit, shut, awaiting]
    · have done := closing_ok jobs.keys awaiting h
      have wrote := resolveFailure_wrote (here ..) done
      rw [id] at wrote
      refine .wrote (wrote.after (closes ..) rfl) stored ?_
      simp [Fit, shut, awaiting]
    · split at h
      · cases h
        exact (Aside.refl _).progress
      · have done := closing_ok jobs.keys awaiting h
        have wrote := escalatePending_wrote (here ..) done
        rw [id] at wrote
        refine .wrote (wrote.after (closes ..) rfl) stored ?_
        simp [Fit, shut, awaiting]

theorem resolvePending_progress {call : ResolvePending} (sound : Sound db) (jobs : Jobs db)
    (moved : call.step input db = (db', call')) : Progress db db' := by
  cases point : call.point with
  | recording row job correlationId =>
    simp only [ResolvePending.step, point] at moved
    split at moved
    · rename_i same
      cases moved
      cases unit_ok same
      exact .quiet rfl (attempt_changed db call.transactionId (input.now 0)) rfl
    · rename_i same
      cases moved
      cases unit_error same
      exact (Aside.refl _).progress
  | applying row job correlationId status =>
    simp only [ResolvePending.step, point] at moved
    rcases unit_cases input (applyStatus call row job correlationId status input) db with
      ⟨next, result, _, done, same⟩ | ⟨fault, same⟩
    all_goals
      rw [same] at moved
      cases moved
    · exact applyStatus_progress sound jobs done
    · exact (Aside.refl _).progress
  | awaiting row job correlationId =>
    simp only [ResolvePending.step, point] at moved
    split at moved
    all_goals
      cases moved
      exact (Aside.refl _).progress
  | _ =>
    simp only [ResolvePending.step, point] at moved
    repeat' split at moved
    all_goals
      cases moved
      exact (Aside.refl _).progress

theorem holdRecovery_progress {work : UnderClaim} (sound : Sound db) (jobs : Jobs db)
    (found : findTransaction db t merchantId = some current)
    (inFlight : current.state = .processing ∨ current.state = .pending)
    (h : holdRecovery work current outcome reference input db = .ok (db', result)) :
    Progress db db' := by
  obtain ⟨_, present, stored⟩ := stored_found sound found
  unfold holdRecovery at h
  split at h
  · rename_i processing
    simp only [bind_ok] at h
    obtain ⟨working, moves, middle, saved, h⟩ := h
    obtain ⟨_, workingEq⟩ := transitionTo_ok moves
    have same : working.id = current.id := by
      rw [workingEq]
      rfl
    have marked : Wrote current.id .pending id db middle := save_wrote moves saved present
    rw [processing] at stored
    have none := jobs.none_of (.inr stored)
    have states := stateOf_restated marked.sales present current.id
    rw [if_pos rfl] at states
    obtain ⟨row, mem, here, _⟩ := mem_of_stateOf states
    rcases countAttempt_wrote ⟨row, mem, here⟩ same h with escalated | ⟨sales, counted⟩
    · refine .wrote (marked.trans escalated) stored ?_
      simp [Fit, shut, opened, none]
    · refine .wrote (marked.upon counted sales) stored ?_
      simp [Fit, opened, none]
  · rename_i processing
    have pending := inFlight.resolve_left processing
    rw [pending] at stored
    have awaiting := jobs.awaiting_of stored
    rcases countAttempt_wrote present rfl h with escalated | ⟨sales, counted⟩
    · refine .wrote escalated stored ?_
      simp [Fit, shut, opened, awaiting]
    · refine .quiet sales counted ?_
      simp [opened, awaiting]

theorem applyLookup_progress {work : UnderClaim} (sound : Sound db) (jobs : Jobs db)
    (h : applyLookup work outcome reference input db = .ok (db', result)) : Progress db db' := by
  simp only [applyLookup, bind_ok, expect_ok] at h
  obtain ⟨current, found, h⟩ := h
  obtain ⟨_, present, stored⟩ := stored_found sound found
  split at h
  · simp only [pure_ok, Prod.mk.injEq] at h
    obtain ⟨rfl, _⟩ := h
    exact (Aside.refl _).progress
  · rename_i apart
    have inFlight : current.state = .processing ∨ current.state = .pending := by
      by_cases processing : current.state = .processing
      · exact .inl processing
      · exact .inr (Decidable.not_not.mp fun other => apart ⟨processing, other⟩)
    -- Either there is no job to close, or an awaited one.
    have closed : shut .resolved (jobOf db current.id) ≠ some .awaiting := by
      rcases inFlight with state | state
      all_goals rw [state] at stored
      · simp [shut, jobs.none_of (.inr stored)]
      · simp [shut, jobs.awaiting_of stored]
    split at h
    · exact .wrote (recoverSuccess_wrote present h) stored closed
    · exact .wrote (recoverFailure_wrote present h) stored closed
    · exact holdRecovery_progress sound jobs found inFlight h

theorem auditing_progress {sweep : RecoverInFlight}
    (moved : sweep.auditing input db action row correlationId onto thrown = (db', sweep')) :
    Progress db db' := by
  unfold RecoverInFlight.auditing at moved
  split at moved
  · rename_i same
    cases moved
    obtain ⟨_, audited, eq⟩ := map_ok.mp (unit_ok same)
    cases eq
    exact (saveAudit_aside audited).progress
  · rename_i same
    cases moved
    cases unit_error same
    exact (Aside.refl _).progress

theorem recoverInFlight_progress {sweep : RecoverInFlight} (sound : Sound db) (jobs : Jobs db)
    (known : KnownSweep db sweep) (current : Current db (.recoverInFlight sweep))
    (moved : sweep.step input db = (db', sweep')) : Progress db db' := by
  unfold KnownSweep at known
  unfold Current at current
  cases point : sweep.point with
  | begin =>
    simp only [RecoverInFlight.step, point] at moved
    split at moved
    · rename_i same
      cases moved
      obtain ⟨_, audited, eq⟩ := map_ok.mp (unit_ok same)
      cases eq
      obtain ⟨_, rfl⟩ := saveAuditEvent_ok audited
      exact Aside.progress ⟨rfl, rfl⟩
    · rename_i same
      cases moved
      cases unit_error same
      exact (Aside.refl _).progress
  | claiming row policy =>
    simp only [RecoverInFlight.step, point] at moved
    split at moved
    all_goals
      rename_i same
      cases moved
    · obtain ⟨_, rfl⟩ := claimTransaction_ok (unit_ok same)
      exact Aside.progress ⟨rfl, rfl⟩
    · obtain ⟨_, rfl⟩ := claimTransaction_ok (unit_ok same)
      exact Aside.progress ⟨rfl, rfl⟩
    · cases unit_error same
      exact (Aside.refl _).progress
  | neverSubmitted work =>
    simp only [point] at known current
    simp only [RecoverInFlight.step, point] at moved
    rcases unit_cases input (releaseNeverSubmitted work input) db with
      ⟨next, result, _, done, same⟩ | ⟨fault, same⟩
    all_goals
      rw [same] at moved
      cases moved
    · refine .wrote (releaseNeverSubmitted_wrote known.1.sold.present done) current ?_
      simp [Fit, jobs.none_of (.inl current)]
    · exact (Aside.refl _).progress
  | uncertain work =>
    simp only [point] at known
  | applying work lookupMs outcome reference =>
    simp only [RecoverInFlight.step, point] at moved
    rcases unit_cases input (applyLookup work outcome reference input) db with
      ⟨next, result, _, done, same⟩ | ⟨fault, same⟩
    all_goals
      rw [same] at moved
      cases moved
    · exact applyLookup_progress sound jobs done
    · exact (Aside.refl _).progress
  | releasing row rethrown =>
    simp only [RecoverInFlight.step, point] at moved
    split at moved
    · rename_i same
      cases unit_ok same
      split at moved
      all_goals
        cases moved
        exact Aside.progress ⟨rfl, rfl⟩
    · rename_i same
      cases moved
      cases unit_error same
      exact (Aside.refl _).progress
  | prevented row | claimed row policy | announcing work
  | noting work lookupMs outcome reference | failing row fault =>
    simp only [RecoverInFlight.step, point] at moved
    exact auditing_progress moved
  | _ =>
    simp only [RecoverInFlight.step, point] at moved
    repeat' split at moved
    all_goals
      cases moved
      exact (Aside.refl _).progress

/-- Requiring a reversal closes the job of a sale that is still pending. -/
theorem markReversalRequired_progress {call : RequireReversal} (jobs : Jobs db)
    (known : row.id = call.transactionId ∧ Present (·.id) row.id db.transactions)
    (legal : row.state = .pending ∨ row.state = .underReview)
    (stored : stateOf db row.id = some row.state)
    (h : markReversalRequired call row input db = .ok (db', result)) : Progress db db' := by
  obtain ⟨same, present⟩ := known
  simp only [markReversalRequired, bind_ok] at h
  obtain ⟨next, moves, first, saved, h⟩ := h
  have last : Aside first db' := by
    split at h
    · simp only [bind_ok, pure_ok, Prod.mk.injEq] at h
      obtain ⟨_, support, _, audited, rfl, _⟩ := h
      exact (createSupportCase_aside support).trans (saveAudit_aside audited)
    · simp only [bind_ok, pure_ok, Prod.mk.injEq] at h
      obtain ⟨_, kept, _, audited, rfl, _⟩ := h
      cases kept
      exact saveAudit_aside audited
  rcases legal with pending | review
  · rw [if_pos pending, ← same] at saved
    have wrote : Wrote row.id .reversalRequired id _ first := save_wrote moves saved present
    have closes := close_changed db row.id .escalated (input.now 0)
    rw [pending] at stored
    refine .wrote ((wrote.after closes rfl).aside last) stored ?_
    simp [Fit, shut, jobs.awaiting_of stored]
  · rw [if_neg (by simp [review])] at saved
    have wrote := save_wrote moves saved present
    have fits := jobs.fit row.id
    rw [stored, review] at fits
    exact .wrote (wrote.aside last) stored fits

theorem requireReversal_progress {call : RequireReversal} (jobs : Jobs db)
    (known : KnownRequire db call) (current : Current db (.requireReversal call))
    (moved : call.step input db = (db', call')) : Progress db db' := by
  unfold KnownRequire at known
  unfold Current at current
  cases point : call.point with
  | requiring row =>
    simp only [point] at known current
    obtain ⟨same, _, sold, legal⟩ := known
    simp only [RequireReversal.step, point] at moved
    rcases unit_cases input (markReversalRequired call row input) db with
      ⟨next, result, _, done, went⟩ | ⟨fault, went⟩
    all_goals
      rw [went] at moved
      cases moved
    · exact markReversalRequired_progress jobs ⟨same, sold.present⟩ legal current done
    · exact (Aside.refl _).progress
  | _ =>
    simp only [RequireReversal.step, point] at moved
    repeat' split at moved
    all_goals
      cases moved
      exact (Aside.refl _).progress

theorem deposit_progress {call : Deposit} (moved : call.step input db = (db', call')) :
    Progress db db' := by
  unfold Deposit.step at moved
  split at moved
  · split at moved
    · rename_i same
      cases moved
      obtain ⟨_, funded, eq⟩ := map_ok.mp (unit_ok same)
      cases eq
      obtain ⟨_, _, _, _, _, rfl⟩ := postMovement_ok funded
      exact Aside.progress ⟨rfl, rfl⟩
    · rename_i same
      cases moved
      cases unit_error same
      exact (Aside.refl _).progress
  all_goals
    cases moved
    exact (Aside.refl _).progress

theorem configure_progress {call : Configure} (moved : call.step input db = (db', call')) :
    Progress db db' := by
  unfold Configure.step at moved
  split at moved
  · split at moved
    · rename_i same
      cases moved
      obtain ⟨_, written, eq⟩ := map_ok.mp (unit_ok same)
      cases eq
      cases change : call.change with
      | settings update =>
        rw [change] at written
        obtain ⟨_, rfl⟩ := writePlatformFeeSettings_ok written
        exact Aside.progress ⟨rfl, rfl⟩
      | providerRate rate =>
        rw [change] at written
        obtain ⟨_, rfl⟩ := saveProviderRate_ok written
        exact Aside.progress ⟨rfl, rfl⟩
    · rename_i same
      cases moved
      cases unit_error same
      exact (Aside.refl _).progress
  all_goals
    cases moved
    exact (Aside.refl _).progress

end Steps

/-- The services that open, close and act on pending jobs, with deposits and settings. -/
def pendingServices : List Service :=
  [.deposit, .configure, .createSale, .resolvePending, .recoverInFlight, .requireReversal]

/-- No sale made, none awaited, and nobody at work. -/
def Idle (d : Desk Db Process) : Prop :=
  Opens d ∧ d.store.pendingResolutions = []

/-- A sale is pending exactly when it has an awaited job; so the job of a pending sale can always
be closed, and no sale that was closed has a job the sweep would act on. -/
structure Awaited (db : Db) : Prop where
  pending_iff : ∀ sale ∈ db.transactions, sale.state = .pending ↔
    ∃ job ∈ db.pendingResolutions, job.transactionId = sale.id ∧ job.status = .awaiting
  closable : ∀ sale ∈ db.transactions, sale.state = .pending → ∀ status now,
    (closePendingResolution db sale.id status now).2 = true
  open_sale : ∀ job ∈ db.pendingResolutions, job.status = .awaiting →
    stateOf db job.transactionId = some .pending

theorem Jobs.pending_of (jobs : Jobs db) (job : jobOf db t = some .awaiting) :
    stateOf db t = some .pending := by
  have fits := jobs.fit t
  rw [job] at fits
  cases stored : stateOf db t with
  | none => simp [stored, Fit] at fits
  | some state => cases state <;> simp_all [Fit]

theorem Jobs.awaited (jobs : Jobs db) (sound : Sound db) : Awaited db := by
  have found : ∀ job ∈ db.pendingResolutions, job.status = .awaiting →
      jobOf db job.transactionId = some .awaiting := by
    intro job mem awaiting
    unfold jobOf findPendingResolution
    rw [jobs.keys.find? mem, Option.map_some, awaiting]
  refine ⟨fun sale mem => ⟨fun pending => ?_, ?_⟩, fun sale mem pending => ?_,
    fun job mem status => ?_⟩
  · have stored := stateOf_of_mem sound.ids mem
    rw [pending] at stored
    exact mem_of_jobOf (jobs.awaiting_of stored)
  · rintro ⟨job, there, same, awaiting⟩
    have stored := jobs.pending_of (found job there awaiting)
    rw [same, stateOf_of_mem sound.ids mem] at stored
    exact Option.some.inj stored
  · have stored := stateOf_of_mem sound.ids mem
    rw [pending] at stored
    exact close_awaited jobs.keys (jobs.awaiting_of stored)
  · exact jobs.pending_of (found job mem status)

theorem idle_jobs (d : Desk Db Process) (idle : Idle d) : Jobs d.store := by
  obtain ⟨⟨blank, _⟩, none⟩ := idle
  refine ⟨by rw [none]; exact List.nodup_nil, fun t => ?_⟩
  simp [stateOf, blank.transactions, jobOf, findPendingResolution, none, Fit]

theorem jobs_step (d : Desk Db Process) (event : Event Input Process) (d' : Desk Db Process)
    (settled : Settled Sound (EnlistedAlone pendingServices) d) (jobs : Jobs d.store)
    (step : Sequential pendingServices d event d') : Jobs d'.store := by
  cases step with
  | start _ _ | crash => exact jobs
  | @act process _ _ _ _ _ here fresh moved =>
    obtain ⟨⟨service, known⟩, current⟩ := settled.2 _ here
    refine jobs.progress ?_
    have same := congrArg Prod.fst moved
    dsimp only at same
    subst same
    cases process with
    | createSale sale => exact createSale_progress jobs known fresh current rfl
    | resolvePending call => exact resolvePending_progress settled.1 jobs rfl
    | recoverInFlight sweep => exact recoverInFlight_progress settled.1 jobs known current rfl
    | requireReversal call => exact requireReversal_progress jobs known current rfl
    | deposit call => exact deposit_progress rfl
    | configure call => exact configure_progress rfl
    | _ => simp [pendingServices, Process.service] at service

/-- In every state that calls made one after another can reach, each free to die after any of its
units of work, the pending sales are those with an awaited job. -/
theorem pending_awaited {past : List Proceeded}
    (run : Run Idle (Sequential pendingServices) past d) : Awaited d.store := by
  have kept : Settled Sound (EnlistedAlone pendingServices) d ∧ Jobs d.store := by
    refine run.invariant (I := fun d =>
      Settled Sound (EnlistedAlone pendingServices) d ∧ Jobs d.store) ?_ ?_
    · intro d idle
      exact ⟨opens_alone d idle.1, idle_jobs d idle⟩
    · intro d event d' both step
      exact ⟨alone_step d event d' both.1 step, jobs_step d event d' both.1 both.2 step⟩
  exact kept.2.awaited kept.1.1

/-- A sale the provider says nothing about, left pending by a call that dies; a lookup that gets
no answer either; and a lookup that settles it. -/
def leftPending : List (Event Input Process) :=
  let unanswered := fun tag => drawing tag .indeterminate .stillPending 0
  [.start (funds "shop"), .act 0 (unanswered "a"),
   .start (airtime "request"), .act 0 (unanswered "b"), .act 0 (unanswered "c"),
   .act 0 (unanswered "d"), .act 0 (unanswered "e"), .act 0 (unanswered "sale"),
   .act 0 (unanswered "f"), .act 0 (unanswered "g"), .act 0 (unanswered "h"), .crash 0,
   .start (.resolvePending ⟨"sale0", "shop", .begin⟩), .act 0 (unanswered "i"),
   .act 0 (unanswered "j"), .act 0 (unanswered "k"), .act 0 (unanswered "l"),
   .act 0 (unanswered "m")]

def leftPendingRun : List Proceeded × Desk Db Process :=
  played (Desk.next services) leftPending [] ⟨twoShops, none⟩

/-- The sale that is left is pending, and awaited. -/
theorem leftPending_awaited : Awaited leftPendingRun.2.store ∧
    stateOf leftPendingRun.2.store "sale0" = some .pending := by
  have opening : Run Idle (Sequential pendingServices) [] ⟨twoShops, none⟩ :=
    .start ⟨⟨twoShops_blank, rfl⟩, rfl⟩
  have playable : Playable (Desk.May services (Calls pendingServices) Fresh) (Desk.next services)
      leftPending ⟨twoShops, none⟩ := by decide
  exact ⟨pending_awaited (opening.play Solo.next playable), by decide⟩

end Telga.Proofs
