import Telga.Proofs.SaleTurns

namespace Telga.Proofs
open Domain Persistence Application Library

section Resolve

variable {db db' : Db} {call : ResolvePending} {input : Input}

theorem resolveSuccess_turn (unique : Unique (·.id) db.balanceReservations)
    (point : call.point = .applying row job correlationId status)
    (success : status.outcome = .success)
    (found : findTransaction db call.transactionId call.merchantId = some current)
    (state : current.state = .pending)
    (h : resolveSuccess call current correlationId status input
      { db with pendingResolutions := jobs } = .ok (db', result)) :
    ∃ context, context.transactionId = call.transactionId ∧
      Turn db (.resolvePending call) (.moved .successful (.settle 0 0) context none) ∧
      Did (.moved .successful (.settle 0 0) context none) db db' := by
  obtain ⟨mem, id, merchant⟩ := findTransaction_ok found
  simp only [resolveSuccess, bind_ok, pure_ok, Prod.mk.injEq] at h
  obtain ⟨next, moves, first, saved, second, settled, third, audited, rfl, _⟩ := h
  obtain ⟨rows, restated, firstEq⟩ := save_restates moves saved ⟨current, mem, rfl⟩
  subst firstEq
  obtain ⟨reservations, audits, moved, positive, secondEq⟩ :=
    moveValue_moved (.settle 0 0) settled unique
  obtain ⟨audits', thirdEq⟩ := saveAudit_ok audited
  subst secondEq thirdEq
  have restated : Restated call.transactionId .successful db.transactions rows := id ▸ restated
  let context := call.operation current (input.now 0) correlationId (input.newId 0) (input.newId 1)
  have here : Found db context call.transactionId call.merchantId .pending :=
    ⟨rfl, rfl, current, mem, id, merchant, rfl, state⟩
  exact ⟨context, rfl, .resolveSuccess point success here,
    .moved restated moved positive rfl rfl (List.append_nil _).symm (answered_update _ _ _) rfl rfl ⟨rfl, rfl⟩⟩

theorem resolveFailure_turn (unique : Unique (·.id) db.balanceReservations)
    (point : call.point = .applying row job correlationId status)
    (failure : status.outcome = .failure)
    (found : findTransaction db call.transactionId call.merchantId = some current)
    (state : current.state = .pending)
    (h : resolveFailure call current correlationId status input
      { db with pendingResolutions := jobs } = .ok (db', result)) :
    ∃ deed, Turn db (.resolvePending call) deed ∧ Did deed db db' := by
  obtain ⟨mem, id, merchant⟩ := findTransaction_ok found
  simp only [resolveFailure, bind_ok, pure_ok, Prod.mk.injEq] at h
  obtain ⟨next, moves, first, saved, second, released, third, audited, rfl, _⟩ := h
  obtain ⟨rows, restated, firstEq⟩ := save_restates moves saved ⟨current, mem, rfl⟩
  subst firstEq
  obtain ⟨reservations, audits, moved, positive, secondEq⟩ :=
    moveValue_moved .release released unique
  obtain ⟨audits', thirdEq⟩ := saveAudit_ok audited
  subst secondEq thirdEq
  have restated : Restated call.transactionId .failed db.transactions rows := id ▸ restated
  let context := call.operation current (input.now 0) correlationId (input.newId 0) (input.newId 1)
  have here : Found db context call.transactionId call.merchantId .pending :=
    ⟨rfl, rfl, current, mem, id, merchant, rfl, state⟩
  exact ⟨_, .resolveFailure point failure here,
    .moved restated moved positive rfl rfl (List.append_nil _).symm (answered_update _ _ _) rfl rfl ⟨rfl, rfl⟩⟩

theorem escalatePending_turn (unique : Unique (·.id) db.balanceReservations)
    (point : call.point = .applying row job correlationId status)
    (undecided : status.outcome ≠ .success ∧ status.outcome ≠ .failure)
    (found : findTransaction db call.transactionId call.merchantId = some current)
    (state : current.state = .pending)
    (h : escalatePending call current correlationId input
      { db with pendingResolutions := jobs } = .ok (db', result)) :
    ∃ deed, Turn db (.resolvePending call) deed ∧ Did deed db db' := by
  obtain ⟨mem, id, merchant⟩ := findTransaction_ok found
  simp only [escalatePending, bind_ok, pure_ok, Prod.mk.injEq] at h
  obtain ⟨next, moves, first, saved, second, reviewed, third, opened, fourth, audited, rfl, _⟩ := h
  obtain ⟨rows, restated, firstEq⟩ := save_restates moves saved ⟨current, mem, rfl⟩
  subst firstEq
  obtain ⟨reservations, audits, moved, positive, secondEq⟩ :=
    moveValue_moved .review reviewed unique
  obtain ⟨cases', thirdEq⟩ := createSupportCase_ok opened
  obtain ⟨audits', fourthEq⟩ := saveAudit_ok audited
  subst secondEq thirdEq fourthEq
  have restated : Restated call.transactionId .underReview db.transactions rows := id ▸ restated
  let context := call.operation current (input.now 0) correlationId (input.newId 0) (input.newId 1)
  have here : Found db context call.transactionId call.merchantId .pending :=
    ⟨rfl, rfl, current, mem, id, merchant, rfl, state⟩
  exact ⟨_, .escalatePending point undecided.1 undecided.2 here,
    .moved restated moved positive rfl rfl (List.append_nil _).symm (answered_refl _) rfl rfl ⟨rfl, rfl⟩⟩

/-- Closing the job changes nothing here, and what comes after it starts from there. -/
theorem closing_turn
    (h : closing call status current correlationId now db work = .ok (db', result))
    (turn : ∀ jobs, work { db with pendingResolutions := jobs } = .ok (db', result) →
      ∃ deed, Turn db (.resolvePending call) deed ∧ Did deed db db') :
    ∃ deed, Turn db (.resolvePending call) deed ∧ Did deed db db' := by
  simp only [closing] at h
  split at h
  · exact turn _ h
  · simp only [pure_ok, Prod.mk.injEq] at h
    obtain ⟨rfl, _⟩ := h
    exact ⟨.quiet, .quiet, .quiet rfl rfl rfl rfl rfl rfl rfl rfl ⟨rfl, rfl⟩⟩

theorem applyStatus_turn (unique : Unique (·.id) db.balanceReservations)
    (point : call.point = .applying row job correlationId status)
    (h : applyStatus call row job correlationId status input db = .ok (db', result)) :
    ∃ deed, Turn db (.resolvePending call) deed ∧ Did deed db db' := by
  simp only [applyStatus] at h
  split at h
  · simp only [pure_ok, Prod.mk.injEq] at h
    obtain ⟨rfl, _⟩ := h
    exact ⟨.quiet, .quiet, .refl _⟩
  · rename_i current still
    obtain ⟨found, state⟩ := Option.filter_eq_some_iff.mp still
    have state : current.state = .pending := by simpa using state
    split at h
    · rename_i success
      refine closing_turn h fun jobs done => ?_
      obtain ⟨context, _, turn, did⟩ := resolveSuccess_turn unique point success found state done
      exact ⟨_, turn, did⟩
    · rename_i failure
      exact closing_turn h fun jobs => resolveFailure_turn unique point failure found state
    · rename_i notSuccess notFailure
      split at h
      · simp only [pure_ok, Prod.mk.injEq] at h
        obtain ⟨rfl, _⟩ := h
        exact ⟨.quiet, .quiet, .refl _⟩
      · exact closing_turn h fun jobs =>
          escalatePending_turn unique point ⟨notSuccess, notFailure⟩ found state

theorem resolvePending_acts (unique : Unique (·.id) db.balanceReservations) :
    Acts db (.resolvePending call) ((Process.resolvePending call).step input db) := by
  cases point : call.point with
  | begin | job row =>
    simp only [Process.step, ResolvePending.step, point]
    split <;> exact acts_quiet trivial
  | support row correlationId =>
    simp only [Process.step, ResolvePending.step, point]
    exact acts_quiet trivial
  | recording row job correlationId =>
    simp only [Process.step, ResolvePending.step, point]
    rcases unit_cases input
        (fun db => .ok (recordResolutionAttempt db call.transactionId (input.now 0), ())) db with
      ⟨next, _, _, done, same⟩ | ⟨fault, same⟩
    · rw [same]
      cases done
      exact acts_of_turn ⟨.quiet, .quiet, .quiet rfl rfl rfl rfl rfl rfl rfl rfl ⟨rfl, rfl⟩⟩ trivial
    · rw [same]
      exact acts_quiet trivial
  | awaiting row job correlationId =>
    simp only [Process.step, ResolvePending.step, point]
    split <;> exact acts_quiet trivial
  | applying row job correlationId status =>
    simp only [Process.step, ResolvePending.step, point]
    rcases unit_cases input (applyStatus call row job correlationId status input) db with
      ⟨next, result, _, done, same⟩ | ⟨fault, same⟩
    · rw [same]
      exact acts_of_turn (applyStatus_turn unique point done) trivial
    · rw [same]
      exact acts_quiet trivial
  | returned result | threw fault =>
    simp only [Process.step, ResolvePending.step, point]
    exact acts_quiet trivial

end Resolve

/-- Restating a sale twice restates it with the second state. -/
theorem Restated.trans (first : Restated transactionId before rows middle)
    (second : Restated transactionId state middle after) :
    Restated transactionId state rows after := by
  obtain ⟨change, restates, rfl⟩ := first
  obtain ⟨change', restates', rfl⟩ := second
  refine ⟨change' ∘ change, fun row => ?_, update_update fun row => ?_⟩
  · obtain ⟨reference, now, eq⟩ := restates row
    obtain ⟨reference', now', eq'⟩ := restates' (change row)
    refine ⟨reference', now', ?_⟩
    rw [Function.comp, eq', eq]
  · obtain ⟨_, _, eq⟩ := restates row
    simp only [eq]

section Recover

variable {db db' : Db} {sweep : RecoverInFlight} {work : UnderClaim} {input : Input}

theorem releaseNeverSubmitted_turn (unique : Unique (·.id) db.balanceReservations)
    (point : sweep.point = .neverSubmitted work) (swept : Swept db work.current)
    (h : releaseNeverSubmitted work input db = .ok (db', result)) :
    ∃ deed, Turn db (.recoverInFlight sweep) deed ∧ Did deed db db' := by
  simp only [releaseNeverSubmitted, bind_ok, pure_ok, Prod.mk.injEq] at h
  obtain ⟨processing, submits, failed, fails, first, saved, second, released, third, audited, rfl,
    _⟩ := h
  obtain ⟨_, processingEq⟩ := transitionTo_ok submits
  have id : processing.id = work.current.id := by
    rw [processingEq]
    rfl
  obtain ⟨rows, restated, firstEq⟩ := save_restates fails saved (id ▸ swept.sold.present)
  subst firstEq
  obtain ⟨reservations, audits, moved, positive, secondEq⟩ :=
    moveValue_moved .release released unique
  obtain ⟨audits', thirdEq⟩ := saveAudit_ok audited
  subst secondEq thirdEq
  have restated : Restated work.current.id .failed db.transactions rows := id ▸ restated
  let context := recoveryOperation work.current (input.now 0) work.correlationId (input.newId 0)
    (input.newId 1)
  have concerns : Concerns db context work.current.id work.current.merchantId :=
    ⟨rfl, rfl, swept.sold⟩
  exact ⟨_, .neverSubmitted point concerns,
    .moved restated moved positive rfl rfl (List.append_nil _).symm (answered_update _ _ _) rfl rfl ⟨rfl, rfl⟩⟩

theorem recoverSuccess_turn (unique : Unique (·.id) db.balanceReservations)
    (point : sweep.point = .applying work lookupMs .confirmedSuccess reference)
    (found : findTransaction db work.current.id work.current.merchantId = some current)
    (state : current.state = .processing ∨ current.state = .pending)
    (h : recoverSuccess work current reference input db = .ok (db', result)) :
    ∃ context, context.transactionId = work.current.id ∧
      Turn db (.recoverInFlight sweep) (.moved .successful (.settle 0 0) context none) ∧
      Did (.moved .successful (.settle 0 0) context none) db db' := by
  obtain ⟨mem, id, merchant⟩ := findTransaction_ok found
  simp only [recoverSuccess, bind_ok, pure_ok, Prod.mk.injEq] at h
  obtain ⟨next, moves, first, saved, second, settled, third, audited, rfl, _⟩ := h
  obtain ⟨rows, restated, firstEq⟩ := save_restates moves saved ⟨current, mem, rfl⟩
  subst firstEq
  obtain ⟨reservations, audits, moved, positive, secondEq⟩ :=
    moveValue_moved (.settle 0 0) settled unique
  obtain ⟨audits', thirdEq⟩ := saveAudit_ok audited
  subst secondEq thirdEq
  let context := recoveryOperation current (input.now 0) work.correlationId (input.newId 0)
    (input.newId 1)
  have here : Found db context work.current.id work.current.merchantId current.state :=
    ⟨id, merchant, current, mem, id, merchant, rfl, rfl⟩
  exact ⟨context, id, .recoverSuccess point here state,
    .moved restated moved positive rfl rfl (List.append_nil _).symm (answered_update _ _ _) rfl rfl ⟨rfl, rfl⟩⟩

theorem recoverFailure_turn (unique : Unique (·.id) db.balanceReservations)
    (point : sweep.point = .applying work lookupMs .confirmedFailure reference)
    (found : findTransaction db work.current.id work.current.merchantId = some current)
    (state : current.state = .processing ∨ current.state = .pending)
    (h : recoverFailure work current reference input db = .ok (db', result)) :
    ∃ deed, Turn db (.recoverInFlight sweep) deed ∧ Did deed db db' := by
  obtain ⟨mem, id, merchant⟩ := findTransaction_ok found
  simp only [recoverFailure, bind_ok, pure_ok, Prod.mk.injEq] at h
  obtain ⟨next, moves, first, saved, second, released, third, audited, rfl, _⟩ := h
  obtain ⟨rows, restated, firstEq⟩ := save_restates moves saved ⟨current, mem, rfl⟩
  subst firstEq
  obtain ⟨reservations, audits, moved, positive, secondEq⟩ :=
    moveValue_moved .release released unique
  obtain ⟨audits', thirdEq⟩ := saveAudit_ok audited
  subst secondEq thirdEq
  let context := recoveryOperation current (input.now 0) work.correlationId (input.newId 0)
    (input.newId 1)
  have here : Found db context work.current.id work.current.merchantId current.state :=
    ⟨id, merchant, current, mem, id, merchant, rfl, rfl⟩
  exact ⟨_, .recoverFailure point here state,
    .moved restated moved positive rfl rfl (List.append_nil _).symm (answered_update _ _ _) rfl rfl ⟨rfl, rfl⟩⟩

/-- Escalating restates the sale and moves its value into review. -/
theorem escalateRecovery_ok
    (h : escalateRecovery work current working outcome reference attempts input db =
      .ok (db', result))
    (unique : Unique (·.id) db.balanceReservations)
    (present : Present (·.id) working.id db.transactions) :
    ∃ context, context.transactionId = current.id ∧ context.merchantId = current.merchantId ∧
      context.amount = current.amount ∧
      ∃ rows reservations audits jobs support,
        Restated working.id .underReview db.transactions rows ∧
        Moved .review context db.balanceReservations reservations ∧
        (∀ leg ∈ reviewLegs context, 0 < leg.amount.minor) ∧
        db' = { db with
          transactions := rows
          balanceReservations := reservations
          ledgerEntries := db.ledgerEntries ++
            entryRows (postingFor context (reviewLegs context)) db.ledgerAccounts 0
              (reviewLegs context)
          auditEvents := audits
          pendingResolutions := jobs
          supportCases := support } := by
  simp only [escalateRecovery, bind_ok] at h
  obtain ⟨escalated, moves, first, saved, second, reviewed, h⟩ := h
  obtain ⟨rows, restated, firstEq⟩ := save_restates moves saved present
  subst firstEq
  obtain ⟨reservations, audits, moved, positive, secondEq⟩ :=
    moveValue_moved .review reviewed unique
  split at h
  · simp only [bind_ok, pure_ok, Prod.mk.injEq] at h
    obtain ⟨third, opened, fourth, audited, fifth, audited', rfl, _⟩ := h
    obtain ⟨support, thirdEq⟩ := createSupportCase_ok opened
    obtain ⟨audits', fourthEq⟩ := saveAudit_ok audited
    obtain ⟨audits'', fifthEq⟩ := saveAudit_ok audited'
    subst secondEq thirdEq fourthEq fifthEq
    exact ⟨_, rfl, rfl, rfl, rows, reservations, _, _, support, restated, moved, positive, rfl⟩
  · simp only [bind_ok, pure_ok, Prod.mk.injEq] at h
    obtain ⟨third, same, fourth, audited, rfl, _⟩ := h
    cases same
    obtain ⟨audits', fourthEq⟩ := saveAudit_ok audited
    subst secondEq fourthEq
    exact ⟨_, rfl, rfl, rfl, rows, reservations, _, _, _, restated, moved, positive, rfl⟩

/-- Counting an attempt escalates the sale, or keeps everything but the job and the audit
trail. -/
theorem countAttempt_ok
    (h : countAttempt work current working outcome reference input db = .ok (db', result)) :
    ∃ jobs,
      (∃ attempts, escalateRecovery work current working outcome reference attempts input
        { db with pendingResolutions := jobs } = .ok (db', result)) ∨
      ∃ audits, db' = { db with pendingResolutions := jobs, auditEvents := audits } := by
  simp only [countAttempt, bind_ok] at h
  obtain ⟨next, ensured, h⟩ := h
  obtain ⟨jobs, rfl⟩ := upsertPendingResolution_ok ensured
  split at h
  · exact ⟨_, .inl ⟨_, h⟩⟩
  · split at h
    all_goals
      simp only [bind_ok, pure_ok, Prod.mk.injEq] at h
      obtain ⟨third, audited, rfl, _⟩ := h
      obtain ⟨audits, rfl⟩ := saveAudit_ok audited
      exact ⟨_, .inr ⟨audits, rfl⟩⟩

/-- From a sale in flight, given its row as it is stored now and as it was saved before. -/
theorem countAttempt_escalates (unique : Unique (·.id) db.balanceReservations)
    (point : sweep.point = .applying work lookupMs outcome reference)
    (unsure : outcome ≠ .confirmedSuccess ∧ outcome ≠ .confirmedFailure)
    (found : findTransaction db work.current.id work.current.merchantId = some current)
    (state : current.state = .processing ∨ current.state = .pending)
    (id : working.id = current.id) (present : Present (·.id) current.id rows)
    (before : ∀ after, Restated current.id .underReview rows after →
      Restated current.id .underReview db.transactions after)
    (h : escalateRecovery work current working outcome reference attempts input
      { db with transactions := rows, pendingResolutions := jobs } = .ok (db', result)) :
    ∃ deed, Turn db (.recoverInFlight sweep) deed ∧ Did deed db db' := by
  obtain ⟨mem, same, merchant⟩ := findTransaction_ok found
  rw [← id] at present
  obtain ⟨context, sale, owner, worth, rows', reservations, audits, jobs', support, restated, moved,
    positive, rfl⟩ := escalateRecovery_ok h unique present
  have here : Found db context work.current.id work.current.merchantId current.state :=
    ⟨sale.trans same, owner.trans merchant, current, mem, same, merchant, worth.symm, rfl⟩
  have both : Restated context.transactionId .underReview db.transactions rows' := by
    rw [id] at restated
    rw [sale]
    exact before rows' restated
  exact ⟨_, .escalateRecovery point unsure.1 unsure.2 here state,
    .moved both moved positive rfl rfl (List.append_nil _).symm (answered_refl _) rfl rfl ⟨rfl, rfl⟩⟩

theorem holdRecovery_turn (unique : Unique (·.id) db.balanceReservations)
    (point : sweep.point = .applying work lookupMs outcome reference)
    (unsure : outcome ≠ .confirmedSuccess ∧ outcome ≠ .confirmedFailure)
    (found : findTransaction db work.current.id work.current.merchantId = some current)
    (state : current.state = .processing ∨ current.state = .pending)
    (h : holdRecovery work current outcome reference input db = .ok (db', result)) :
    ∃ deed, Turn db (.recoverInFlight sweep) deed ∧ Did deed db db' := by
  obtain ⟨mem, same, merchant⟩ := findTransaction_ok found
  have sold : Sold db current.id current.merchantId current.amount := ⟨current, mem, rfl, rfl, rfl⟩
  unfold holdRecovery at h
  split at h
  · rename_i processing
    simp only [bind_ok] at h
    obtain ⟨working, moves, middle, saved, h⟩ := h
    obtain ⟨_, workingEq⟩ := transitionTo_ok moves
    have id : working.id = current.id := by
      rw [workingEq]
      rfl
    obtain ⟨rows, restated, rfl⟩ := save_restates moves saved sold.present
    have kept : Sold { db with transactions := rows } current.id current.merchantId
      current.amount := sold_of_restated restated sold
    obtain ⟨jobs, escalated | ⟨audits, rfl⟩⟩ := countAttempt_ok h
    · obtain ⟨attempts, escalated⟩ := escalated
      exact countAttempt_escalates unique point unsure found state id kept.present
        (fun after => restated.trans) escalated
    · let context := recoveryOperation current (input.now 0) work.correlationId "" ""
      have here : Found db context work.current.id work.current.merchantId .processing :=
        ⟨same, merchant, current, mem, same, merchant, rfl, processing⟩
      exact ⟨_, .holdRecovery point unsure.1 unsure.2 here,
        .marked restated rfl rfl rfl rfl (answered_refl _) rfl rfl ⟨rfl, rfl⟩⟩
  · obtain ⟨jobs, escalated | ⟨audits, rfl⟩⟩ := countAttempt_ok h
    · obtain ⟨attempts, escalated⟩ := escalated
      exact countAttempt_escalates unique point unsure found state rfl sold.present
        (fun after restated => restated) escalated
    · exact ⟨.quiet, .quiet, .quiet rfl rfl rfl rfl rfl rfl rfl rfl ⟨rfl, rfl⟩⟩

theorem applyLookup_turn (unique : Unique (·.id) db.balanceReservations)
    (point : sweep.point = .applying work lookupMs outcome reference)
    (h : applyLookup work outcome reference input db = .ok (db', result)) :
    ∃ deed, Turn db (.recoverInFlight sweep) deed ∧ Did deed db db' := by
  simp only [applyLookup, bind_ok, expect_ok] at h
  obtain ⟨current, found, h⟩ := h
  split at h
  · simp only [pure_ok, Prod.mk.injEq] at h
    obtain ⟨rfl, _⟩ := h
    exact ⟨.quiet, .quiet, .refl _⟩
  · rename_i inFlight
    have state : current.state = .processing ∨ current.state = .pending := by
      by_cases processing : current.state = .processing
      · exact .inl processing
      · exact .inr (Decidable.not_not.mp fun other => inFlight ⟨processing, other⟩)
    split at h
    · obtain ⟨context, _, turn, did⟩ := recoverSuccess_turn unique point found state h
      exact ⟨_, turn, did⟩
    · exact recoverFailure_turn unique point found state h
    · rename_i notSuccess notFailure
      exact holdRecovery_turn unique point ⟨notSuccess, notFailure⟩ found state h

/-- An audit event of its own, and on to a point at which nothing need be known. -/
theorem auditing_acts (onto : SweepPoint) (thrown : Fault → SweepPoint)
    (onward : ∀ db, KnownSweep db (sweep'.at onto))
    (aside : ∀ fault, KnownSweep db (sweep'.at (thrown fault))) :
    Acts db (.recoverInFlight sweep) ((RecoverInFlight.auditing sweep' input db action row
      correlationId onto thrown).map id .recoverInFlight) := by
  unfold RecoverInFlight.auditing
  rcases unit_cases input (fun db =>
      (·, ()) <$> writeAudit db input 0 action row.merchantId row.id correlationId) db with
    ⟨db', _, _, done, same⟩ | ⟨fault, same⟩
  · rw [same]
    obtain ⟨_, audited, eq⟩ := map_ok.mp done
    cases eq
    obtain ⟨audits, rfl⟩ := saveAudit_ok audited
    exact acts_of_turn ⟨.quiet, .quiet, .quiet rfl rfl rfl rfl rfl rfl rfl rfl ⟨rfl, rfl⟩⟩ (onward _)
  · rw [same]
    exact acts_quiet (aside fault)

theorem recoverInFlight_acts (unique : Unique (·.id) db.balanceReservations)
    (unreferenced : ∀ row ∈ db.transactions, row.state = .reserved → row.providerReference = none)
    (known : KnownSweep db sweep) :
    Acts db (.recoverInFlight sweep) ((Process.recoverInFlight sweep).step input db) := by
  unfold KnownSweep at known
  cases point : sweep.point with
  | begin =>
    simp only [Process.step, RecoverInFlight.step, point]
    split
    · rename_i same
      obtain ⟨_, audited, eq⟩ := map_ok.mp (unit_ok same)
      cases eq
      obtain ⟨audits, rfl⟩ := saveAuditEvent_ok audited
      exact acts_of_turn ⟨.quiet, .quiet, .quiet rfl rfl rfl rfl rfl rfl rfl rfl ⟨rfl, rfl⟩⟩ trivial
    · rename_i same
      cases unit_error same
      exact acts_quiet trivial
  | scanning =>
    simp only [Process.step, RecoverInFlight.step, point]
    exact acts_quiet trivial
  | next =>
    simp only [Process.step, RecoverInFlight.step, point]
    repeat' split
    all_goals exact acts_quiet trivial
  | claiming row policy =>
    simp only [Process.step, RecoverInFlight.step, point]
    split
    · rename_i same
      obtain ⟨claims, rfl⟩ := claimTransaction_ok (unit_ok same)
      exact acts_of_turn ⟨.quiet, .quiet, .quiet rfl rfl rfl rfl rfl rfl rfl rfl ⟨rfl, rfl⟩⟩ trivial
    · rename_i same
      obtain ⟨claims, rfl⟩ := claimTransaction_ok (unit_ok same)
      exact acts_of_turn ⟨.quiet, .quiet, .quiet rfl rfl rfl rfl rfl rfl rfl rfl ⟨rfl, rfl⟩⟩ trivial
    · rename_i same
      cases unit_error same
      exact acts_quiet trivial
  | prevented row | claimed row policy =>
    simp only [Process.step, RecoverInFlight.step, point]
    exact auditing_acts _ _ (fun _ => trivial) (fun _ => trivial)
  | reading row policy =>
    simp only [Process.step, RecoverInFlight.step, point]
    split
    · exact acts_quiet trivial
    · rename_i current found
      obtain ⟨mem, _, _⟩ := findTransaction_ok found
      exact acts_quiet ⟨⟨current, mem, rfl, rfl, rfl⟩, unreferenced current mem⟩
  | job row policy current =>
    rw [point] at known
    simp only [Process.step, RecoverInFlight.step, point]
    split
    · exact acts_quiet trivial
    · split
      · rename_i reserved
        exact acts_quiet ⟨known, reserved.1⟩
      · split
        · rename_i referenced reserved
          exact absurd ⟨reserved, known.unreferenced reserved⟩ referenced
        · exact acts_quiet trivial
  | neverSubmitted work =>
    rw [point] at known
    simp only [Process.step, RecoverInFlight.step, point]
    rcases unit_cases input (releaseNeverSubmitted work input) db with
      ⟨next, result, _, done, same⟩ | ⟨fault, same⟩
    · rw [same]
      exact acts_of_turn (releaseNeverSubmitted_turn unique point known.1 done) trivial
    · rw [same]
      exact acts_quiet trivial
  | uncertain work =>
    rw [point] at known
    exact known.elim
  | announcing work =>
    simp only [Process.step, RecoverInFlight.step, point]
    exact auditing_acts _ _ (fun _ => trivial) (fun _ => trivial)
  | lookingUp work lookupStart =>
    simp only [Process.step, RecoverInFlight.step, point]
    split <;> exact acts_quiet trivial
  | noting work lookupMs outcome reference =>
    simp only [Process.step, RecoverInFlight.step, point]
    exact auditing_acts _ _ (fun _ => trivial) (fun _ => trivial)
  | applying work lookupMs outcome reference =>
    simp only [Process.step, RecoverInFlight.step, point]
    rcases unit_cases input (applyLookup work outcome reference input) db with
      ⟨next, result, _, done, same⟩ | ⟨fault, same⟩
    · rw [same]
      exact acts_of_turn (applyLookup_turn unique point done) trivial
    · rw [same]
      exact acts_quiet trivial
  | failing row fault =>
    simp only [Process.step, RecoverInFlight.step, point]
    exact auditing_acts _ _ (fun _ => trivial) (fun _ => trivial)
  | failedRow row fault | failedJob row fault state =>
    simp only [Process.step, RecoverInFlight.step, point]
    exact acts_quiet trivial
  | releasing row rethrown =>
    simp only [Process.step, RecoverInFlight.step, point]
    split
    · rename_i same
      cases unit_ok same
      split
      all_goals
        exact acts_of_turn ⟨.quiet, .quiet, .quiet rfl rfl rfl rfl rfl rfl rfl rfl ⟨rfl, rfl⟩⟩ trivial
    · rename_i same
      cases unit_error same
      exact acts_quiet trivial
  | returned report | threw fault =>
    simp only [Process.step, RecoverInFlight.step, point]
    exact acts_quiet (by simp only [Known, KnownSweep, point])

end Recover

end Telga.Proofs
