import Telga.Library.Run
import Telga.Application.RecoverInFlight

namespace Telga.Proofs.SweepReports
open Domain Persistence Application Library

/-- Whether a result went through a claim. -/
def throughClaim (kind : RecoveryKind) : Bool :=
  kind ≠ .skippedTooRecent ∧ kind ≠ .skippedClaimedByOther

/-- No sale is removed, nor given to another merchant. -/
def Stays (db db' : Db) : Prop :=
  ∀ row ∈ db.transactions, ∃ row' ∈ db'.transactions,
    row'.id = row.id ∧ row'.merchantId = row.merchantId

/-- Every sale stays, and the claims are left alone. -/
structure Kept (db db' : Db) : Prop where
  sales : Stays db db'
  claims : db'.recoveryClaims = db.recoveryClaims

section Units

variable {db db' db'' : Db} {input : Input} {work : UnderClaim} {current : TransactionRow}
  {result : RecoveryResult}

theorem Stays.same (same : db'.transactions = db.transactions) : Stays db db' := by
  intro row mem
  exact ⟨row, same ▸ mem, rfl, rfl⟩

theorem Stays.trans (first : Stays db db') (next : Stays db' db'') : Stays db db'' := by
  intro row mem
  obtain ⟨row', mem', id, merchant⟩ := first row mem
  obtain ⟨row'', mem'', id', merchant'⟩ := next row' mem'
  exact ⟨row'', mem'', id'.trans id, merchant'.trans merchant⟩

theorem Kept.same (sales : db'.transactions = db.transactions)
    (claims : db'.recoveryClaims = db.recoveryClaims) : Kept db db' :=
  ⟨.same sales, claims⟩

theorem Kept.trans (first : Kept db db') (next : Kept db' db'') : Kept db db'' :=
  ⟨first.sales.trans next.sales, next.claims.trans first.claims⟩

/-- Something was written before that is neither a sale nor a claim. -/
theorem Kept.after (next : Kept db' db'') (sales : db'.transactions = db.transactions)
    (claims : db'.recoveryClaims = db.recoveryClaims) : Kept db db'' :=
  (Kept.same sales claims).trans next

theorem saveTransaction_kept (h : saveTransaction db saving = .ok db') : Kept db db' := by
  rcases (saveTransaction_ok h).2 with ⟨_, rfl⟩ | ⟨_, _, _, _, rfl⟩
  · refine ⟨?_, rfl⟩
    apply (update_related db.transactions _ _).1
    · intro row
      exact ⟨rfl, rfl⟩
    · intro row _
      exact ⟨rfl, rfl⟩
  · refine ⟨fun row mem => ?_, rfl⟩
    exact ⟨row, List.mem_append_left _ mem, rfl, rfl⟩

theorem moveValue_kept
    (h : moveValue origin target entries action entityType db context = .ok db') :
    Kept db db' := by
  obtain ⟨_, _, _, _, _, _, _, _, _, rfl⟩ := moveValue_ok h
  exact .same rfl rfl

theorem saveAudit_kept
    (h : saveAudit db auditId now action actor merchantId transactionId correlationId = .ok db') :
    Kept db db' := by
  obtain ⟨_, rfl⟩ := saveAudit_ok h
  exact .same rfl rfl

theorem upsertPendingResolution_kept (h : upsertPendingResolution db job = .ok db') :
    Kept db db' := by
  obtain ⟨_, rfl⟩ := upsertPendingResolution_ok h
  exact .same rfl rfl

theorem createSupportCase_kept (h : createSupportCase db opened = .ok db') : Kept db db' := by
  obtain ⟨_, rfl⟩ := createSupportCase_ok h
  exact .same rfl rfl

/-- What a unit of work under claim leaves, and what it answers: a result of the sale in hand,
that went through its claim. -/
structure Recovered (work : UnderClaim) (db db' : Db) (result : RecoveryResult) : Prop where
  kept : Kept db db'
  own : result.transactionId = work.current.id
  kind : throughClaim result.kind = true

theorem releaseNeverSubmitted_recovered
    (h : releaseNeverSubmitted work input db = .ok (db', result)) :
    Recovered work db db' result := by
  simp only [releaseNeverSubmitted, bind_ok, pure_ok, Prod.mk.injEq] at h
  obtain ⟨_, _, _, _, first, saved, second, released, third, audited, rfl, rfl⟩ := h
  have kept : Kept db third := by
    apply (saveTransaction_kept saved).trans
    apply (moveValue_kept released).trans
    exact (saveAudit_kept audited).after rfl rfl
  exact ⟨kept, rfl, rfl⟩

theorem moveUncertain_kept (h : moveUncertain work input db = .ok (db', answer)) :
    Kept db db' := by
  simp only [moveUncertain, bind_ok, pure_ok, Prod.mk.injEq] at h
  obtain ⟨_, _, _, _, first, saved, second, ensured, third, audited, rfl, _⟩ := h
  apply (saveTransaction_kept saved).trans
  apply (upsertPendingResolution_kept ensured).trans
  exact saveAudit_kept audited

theorem recoverSuccess_recovered (own : current.id = work.current.id)
    (h : recoverSuccess work current reference input db = .ok (db', result)) :
    Recovered work db db' result := by
  simp only [recoverSuccess, bind_ok, pure_ok, Prod.mk.injEq] at h
  obtain ⟨_, _, first, saved, second, settled, third, audited, rfl, rfl⟩ := h
  have kept : Kept db third := by
    apply (saveTransaction_kept saved).trans
    apply (moveValue_kept settled).trans
    exact (saveAudit_kept audited).after rfl rfl
  exact ⟨kept, own, rfl⟩

theorem recoverFailure_recovered (own : current.id = work.current.id)
    (h : recoverFailure work current reference input db = .ok (db', result)) :
    Recovered work db db' result := by
  simp only [recoverFailure, bind_ok, pure_ok, Prod.mk.injEq] at h
  obtain ⟨_, _, first, saved, second, released, third, audited, rfl, rfl⟩ := h
  have kept : Kept db third := by
    apply (saveTransaction_kept saved).trans
    apply (moveValue_kept released).trans
    exact (saveAudit_kept audited).after rfl rfl
  exact ⟨kept, own, rfl⟩

theorem escalateRecovery_recovered (own : current.id = work.current.id)
    (h : escalateRecovery work current working outcome reference attempts input db =
      .ok (db', result)) : Recovered work db db' result := by
  simp only [escalateRecovery, bind_ok] at h
  obtain ⟨_, _, first, saved, second, reviewed, h⟩ := h
  have escalated : Kept db second :=
    (saveTransaction_kept saved).trans (moveValue_kept reviewed)
  split at h
  · simp only [bind_ok, pure_ok, Prod.mk.injEq] at h
    obtain ⟨third, opened, fourth, audited, fifth, audited', rfl, rfl⟩ := h
    have begun : Kept second third := (createSupportCase_kept opened).after rfl rfl
    have kept : Kept db fifth := by
      apply escalated.trans
      apply begun.trans
      apply (saveAudit_kept audited).trans
      exact (saveAudit_kept audited').after rfl rfl
    exact ⟨kept, own, rfl⟩
  · simp only [bind_ok, pure_ok, Prod.mk.injEq] at h
    obtain ⟨third, same, fourth, audited, rfl, rfl⟩ := h
    cases same
    have kept : Kept db fourth := escalated.trans ((saveAudit_kept audited).after rfl rfl)
    exact ⟨kept, own, rfl⟩

theorem countAttempt_recovered (own : current.id = work.current.id)
    (h : countAttempt work current working outcome reference input db = .ok (db', result)) :
    Recovered work db db' result := by
  simp only [countAttempt, bind_ok] at h
  obtain ⟨next, ensured, h⟩ := h
  have begun : Kept db next := upsertPendingResolution_kept ensured
  split at h
  · obtain ⟨kept, same, kind⟩ := escalateRecovery_recovered own h
    exact ⟨begun.trans (kept.after rfl rfl), same, kind⟩
  · split at h
    all_goals
      simp only [bind_ok, pure_ok, Prod.mk.injEq] at h
      obtain ⟨last, audited, rfl, rfl⟩ := h
      have kept : Kept db last := begun.trans ((saveAudit_kept audited).after rfl rfl)
      exact ⟨kept, own, rfl⟩

theorem applyLookup_recovered
    (h : applyLookup work outcome reference input db = .ok (db', result)) :
    Recovered work db db' result := by
  simp only [applyLookup, bind_ok, expect_ok] at h
  obtain ⟨current, found, h⟩ := h
  obtain ⟨_, own, _⟩ := findTransaction_ok found
  split at h
  · simp only [pure_ok, Prod.mk.injEq] at h
    obtain ⟨rfl, rfl⟩ := h
    exact ⟨.same rfl rfl, own, rfl⟩
  · split at h
    · exact recoverSuccess_recovered own h
    · exact recoverFailure_recovered own h
    · unfold holdRecovery at h
      split at h
      · simp only [bind_ok] at h
        obtain ⟨working, _, middle, saved, h⟩ := h
        obtain ⟨kept, same, kind⟩ := countAttempt_recovered own h
        exact ⟨(saveTransaction_kept saved).trans kept, same, kind⟩
      · exact countAttempt_recovered own h

end Units

/-- The sale in hand, until its result is noted. -/
def inHand : SweepPoint → Option TransactionRow
  | .claiming row _ => some row
  | .prevented row => some row
  | .claimed row _ => some row
  | .reading row _ => some row
  | .job row _ _ => some row
  | .neverSubmitted work => some work.row
  | .uncertain work => some work.row
  | .announcing work => some work.row
  | .lookingUp work _ => some work.row
  | .noting work _ _ _ => some work.row
  | .applying work _ _ _ => some work.row
  | .failing row _ => some row
  | .failedRow row _ => some row
  | .failedJob row _ _ => some row
  | .releasing row (some _) => some row
  | _ => none

/-- The sale whose claim the sweep holds. -/
def underClaim : SweepPoint → Option TransactionRow
  | .claiming _ _ => none
  | .prevented _ => none
  | .releasing row _ => some row
  | point => inHand point

/-- A sale under claim is recovered with a row of its own. -/
def Matched : SweepPoint → Prop
  | .job row _ current => current.id = row.id
  | .neverSubmitted work => work.current.id = work.row.id
  | .uncertain work => work.current.id = work.row.id
  | .announcing work => work.current.id = work.row.id
  | .lookingUp work _ => work.current.id = work.row.id
  | .noting work _ _ _ => work.current.id = work.row.id
  | .applying work _ _ _ => work.current.id = work.row.id
  | _ => True

/-- The sale whose failure is being dealt with. -/
def failed : SweepPoint → Option TransactionRow
  | .failing row _ => some row
  | .failedRow row _ => some row
  | .failedJob row _ _ => some row
  | _ => none

/-- A write failed while a failure was being dealt with, and the sweep is about to throw. -/
def rethrowing : SweepPoint → Bool
  | .releasing _ (some _) => true
  | _ => false

/-- An audit event goes through: the database is not busy, and the id drawn is new. -/
def Noted (input : Input) (db : Db) : Prop :=
  input.busy = false ∧ ¬ Present (·.event.id) (input.newId 0) db.auditEvents

/-- The writes around a recovery go through: the claim, what is noted of it and of a failure, and
its release. -/
def Written (input : Input) (db : Db) : SweepPoint → Prop
  | .claiming _ _ => input.busy = false
  | .prevented _ => Noted input db
  | .claimed _ _ => Noted input db
  | .failing _ _ => Noted input db
  | .releasing _ _ => input.busy = false
  | _ => True

instance : Decidable (Noted input db) :=
  inferInstanceAs (Decidable (_ ∧ ¬ _))

instance : ∀ point, Decidable (Written input db point)
  | .claiming _ _ => inferInstanceAs (Decidable (_ = _))
  | .prevented _ => inferInstanceAs (Decidable (Noted input db))
  | .claimed _ _ => inferInstanceAs (Decidable (Noted input db))
  | .failing _ _ => inferInstanceAs (Decidable (Noted input db))
  | .releasing _ _ => inferInstanceAs (Decidable (_ = _))
  | .begin | .scanning | .next | .reading _ _ | .job _ _ _ | .neverSubmitted _ | .uncertain _
  | .announcing _ | .lookingUp _ _ | .noting _ _ _ _ | .applying _ _ _ _ | .failedRow _ _
  | .failedJob _ _ _ | .returned _ | .threw _ => isTrue trivial

/-- Nothing but the audit trail changes. -/
def Audited (db db' : Db) : Prop :=
  ∃ audits, db' = { db with auditEvents := audits }

/-- A sale is being recovered under claim, and the write that this point makes goes through. -/
structure Under (input : Input) (db : Db) (point : SweepPoint) (row : TransactionRow) : Prop where
  hand : inHand point = some row
  held : underClaim point = some row
  calm : failed point = none
  going : rethrowing point = false
  written : Written input db point

/-- Where the recovery of a sale goes on. -/
structure Onto (point : SweepPoint) (row : TransactionRow) : Prop where
  hand : inHand point = some row
  held : underClaim point = some row
  calm : failed point = none
  going : rethrowing point = false
  matched : Matched point

/-- What one step of a sweep makes of it and of the database. -/
inductive Moves (input : Input) (db : Db) (sweep : RecoverInFlight) : Db → RecoverInFlight → Prop
  | starts : sweep.point = .begin → Audited db db' →
      Moves input db sweep db'
        { sweep with scanId := input.newId 0, startedAt := input.now 0, point := .scanning }
  | aborts : sweep.point = .begin → next.point = .threw fault → next.deps = sweep.deps →
      Moves input db sweep db next
  | scans : sweep.point = .scanning →
      (∀ candidate ∈ candidates, ∃ row ∈ db.transactions,
        row.id = candidate.id ∧ row.merchantId = candidate.merchantId) →
      Moves input db sweep db
        { sweep with
          todo := candidates, gathered := { found := candidates.length }, point := .next }
  | ends : sweep.point = .next → sweep.todo = [] →
      Moves input db sweep db (sweep.at (.returned (sweep.report (input.now 0))))
  | stops : sweep.point = .next → next.point = .returned report → report.stoppedEarly = true →
      next.deps = sweep.deps → next.todo = sweep.todo →
      next.gathered = { sweep.gathered with stoppedEarly := true } → Moves input db sweep db next
  | loses : sweep.point = .next → sweep.todo = candidate :: rest →
      findTransaction db candidate.id candidate.merchantId = none →
      Moves input db sweep db { sweep with todo := rest, point := .next }
  | skips : sweep.point = .next → sweep.todo = candidate :: rest →
      findTransaction db candidate.id candidate.merchantId = some row →
      Moves input db sweep db
        ((RecoverInFlight.add { sweep with todo := rest }
          (skip row .skippedTooRecent sweep.scanId)).at .next)
  | takes : sweep.point = .next → sweep.todo = candidate :: rest →
      findTransaction db candidate.id candidate.merchantId = some row →
      Moves input db sweep db { sweep with todo := rest, point := .claiming row policy }
  | wins : sweep.point = .claiming row policy → input.busy = false →
      claim.transactionId = row.id → claim.workerId = sweep.deps.workerId →
      claimTransaction db claim = .ok (db', true) →
      Moves input db sweep db'
        { sweep with
          gathered := { sweep.gathered with claimed := sweep.gathered.claimed + 1 }
          point := .claimed row policy }
  | yields : sweep.point = .claiming row policy → input.busy = false →
      claim.transactionId = row.id → claim.workerId = sweep.deps.workerId →
      claimTransaction db claim = .ok (db', false) →
      Moves input db sweep db'
        { sweep with
          gathered := { sweep.gathered with
            duplicateWorkersPrevented := sweep.gathered.duplicateWorkersPrevented + 1 }
          point := .prevented row }
  | prevents : sweep.point = .prevented row → Noted input db → Audited db db' →
      Moves input db sweep db'
        ((sweep.add (skip row .skippedClaimedByOther sweep.scanId)).at .next)
  | works : Under input db sweep.point row → Onto point row → Kept db db' →
      Moves input db sweep db' (sweep.at point)
  | settles : Under input db sweep.point row → result.transactionId = row.id →
      throughClaim result.kind = true → Kept db db' →
      Moves input db sweep db' (sweep.settled row result lookupMs)
  | fails : Under input db sweep.point row →
      Moves input db sweep db (sweep.at (.failing row fault))
  | notes : failed sweep.point = some row → Written input db sweep.point →
      failed point = some row → Audited db db' → Moves input db sweep db' (sweep.at point)
  | records : sweep.point = .failedJob row fault state → result.transactionId = row.id →
      throughClaim result.kind = true →
      Moves input db sweep db ((sweep.add result).at (.releasing row none))
  | releases : sweep.point = .releasing row none → input.busy = false →
      Moves input db sweep (releaseClaim db row.id sweep.deps.workerId (input.now 0))
        (sweep.at .next)
  | rethrows : sweep.point = .failing row fault → ¬ Written input db sweep.point →
      Moves input db sweep db (sweep.at (.releasing row (some fault')))
  | throws : (¬ Written input db sweep.point ∨
        (∃ row policy, sweep.point = .claiming row policy ∧
          ¬ Present (·.id) row.id db.transactions) ∨
        ∃ row fault, sweep.point = .releasing row (some fault)) →
      next.point = .threw fault → next.deps = sweep.deps →
      (db' = db ∨ ∃ row : TransactionRow,
        db' = releaseClaim db row.id sweep.deps.workerId (input.now 0)) →
      Moves input db sweep db' next
  | rests : (∃ report, sweep.point = .returned report) ∨ (∃ fault, sweep.point = .threw fault) →
      Moves input db sweep db sweep

section Steps

variable {db : Db} {sweep : RecoverInFlight} {input : Input}

/-- An audit event of its own goes through, and the sweep goes on, or it throws. -/
theorem auditing_cases (sweep : RecoverInFlight) (input : Input) (db : Db) (action : AuditAction)
    (row : TransactionRow) (correlationId : CorrelationId) (onto : SweepPoint)
    (thrown : Fault → SweepPoint) :
    (Noted input db ∧ ∃ db', Audited db db' ∧
      sweep.auditing input db action row correlationId onto thrown = (db', sweep.at onto)) ∨
    (¬ Noted input db ∧ ∃ fault,
      sweep.auditing input db action row correlationId onto thrown =
        (db, sweep.at (thrown fault))) := by
  unfold RecoverInFlight.auditing
  rcases unit_cases input (fun db =>
      (·, ()) <$> writeAudit db input 0 action row.merchantId row.id correlationId) db with
    ⟨db', _, free, done, same⟩ | ⟨fault, same⟩
  · left
    rw [same]
    obtain ⟨_, audited, eq⟩ := map_ok.mp done
    cases eq
    refine ⟨⟨free, ?_⟩, _, saveAudit_ok audited, rfl⟩
    simp only [writeAudit, saveAudit, saveAuditEvent, bind_ok, demand_ok, pure_ok] at audited
    exact audited.choose_spec.1
  · right
    rw [same]
    refine ⟨?_, fault, rfl⟩
    rintro ⟨free, fresh⟩
    have noted : ∃ next, writeAudit db input 0 action row.merchantId row.id correlationId =
        .ok next := by
      simp [writeAudit, saveAudit, saveAuditEvent, fresh]
    obtain ⟨next, noted⟩ := noted
    exact unit_busy (map_ok.mpr ⟨next, noted, rfl⟩) same free

/-- Claiming a sale that is stored does not throw. -/
theorem claimTransaction_goes (claim : ClaimInput)
    (stored : Present (·.id) claim.transactionId db.transactions) :
    ∃ result, claimTransaction db claim = .ok result := by
  unfold claimTransaction
  split
  · exact ⟨_, rfl⟩
  · simp [stored]

theorem candidates_stored (db : Db) (states : List TransactionState) (cutoff : Timestamp)
    (limit : Nat) (merchantId : Option MerchantId) :
    ∀ candidate ∈ findInFlightOlderThan db states cutoff limit merchantId,
      ∃ row ∈ db.transactions, row.id = candidate.id ∧ row.merchantId = candidate.merchantId := by
  intro candidate mem
  obtain ⟨row, taken, rfl⟩ := List.mem_map.mp mem
  have sorted := List.mem_of_mem_take taken
  have found := List.mem_mergeSort.mp sorted
  exact ⟨row, (List.mem_filter.mp found).1, rfl, rfl⟩

/-- An audit event on the way of a recovery is a part of it, or a failure. -/
theorem auditing_moves (under : Under input db sweep.point row) (onto : Onto point row)
    (done : sweep.auditing input db action row' correlationId point (.failing row) = (db', next)) :
    Moves input db sweep db' next := by
  rcases auditing_cases sweep input db action row' correlationId point (.failing row) with
    ⟨_, db', ⟨audits, rfl⟩, same⟩ | ⟨_, fault, same⟩
  · rw [same] at done
    cases done
    exact .works under onto (.same rfl rfl)
  · rw [same] at done
    cases done
    exact .fails under

theorem next_moves (point : sweep.point = .next) (done : sweep.step input db = (db', next)) :
    Moves input db sweep db' next := by
  simp only [RecoverInFlight.step, point] at done
  split at done
  · rename_i finished
    cases done
    exact .ends point finished
  · rename_i candidate rest todo
    split at done
    · cases done
      exact .stops point rfl rfl rfl rfl rfl
    · split at done
      · rename_i gone
        cases done
        exact .loses point todo gone
      · rename_i row found
        split at done
        · cases done
          exact .skips point todo found
        · cases done
          exact .takes point todo found

theorem claiming_moves (point : sweep.point = .claiming row policy)
    (done : sweep.step input db = (db', next)) : Moves input db sweep db' next := by
  simp only [RecoverInFlight.step, point] at done
  split at done
  · rename_i same
    cases done
    have claimed := unit_ok same
    rcases unit_cases input (fun db => claimTransaction db
        { transactionId := row.id, workerId := sweep.deps.workerId, scanId := sweep.scanId,
          now := input.now 0, expiresAt := input.now 1 + policy.claimLeaseMs }) db with
      ⟨_, _, free, _, _⟩ | ⟨_, other⟩
    · exact .wins point free rfl rfl claimed
    · rw [other] at same
      cases same
  · rename_i same
    cases done
    have claimed := unit_ok same
    rcases unit_cases input (fun db => claimTransaction db
        { transactionId := row.id, workerId := sweep.deps.workerId, scanId := sweep.scanId,
          now := input.now 0, expiresAt := input.now 1 + policy.claimLeaseMs }) db with
      ⟨_, _, free, _, _⟩ | ⟨_, other⟩
    · exact .yields point free rfl rfl claimed
    · rw [other] at same
      cases same
  · rename_i same
    cases done
    have kept := unit_error same
    refine .throws ?_ rfl rfl (.inl kept)
    by_cases stored : Present (·.id) row.id db.transactions
    · left
      rw [point]
      intro free
      obtain ⟨⟨next, won⟩, claimed⟩ := claimTransaction_goes
        ⟨row.id, sweep.deps.workerId, sweep.scanId, input.now 0,
          input.now 1 + policy.claimLeaseMs⟩ stored
      exact unit_busy claimed same free
    · exact .inr (.inl ⟨row, policy, point, stored⟩)

/-- A unit of work under claim settles the sale in hand, or fails. -/
theorem recovering_moves {work : UnderClaim} (under : Under input db sweep.point work.row)
    (matched : work.current.id = work.row.id) {recover : Db → Except Fault (Db × RecoveryResult)}
    (recovers : ∀ next result, recover db = .ok (next, result) → Recovered work db next result)
    (lookupMs : Int)
    (done : (match unit input recover db with
      | (db, .ok result) => (db, sweep.settled work.row result lookupMs)
      | (db, .error fault) => (db, sweep.at (.failing work.row fault))) = (db', next)) :
    Moves input db sweep db' next := by
  rcases unit_cases input recover db with ⟨_, result, _, worked, same⟩ | ⟨fault, same⟩
  · rw [same] at done
    cases done
    obtain ⟨kept, own, kind⟩ := recovers _ _ worked
    exact .settles under (own.trans matched) kind kept
  · rw [same] at done
    cases done
    exact .fails under

/-- Once it has its claim, a sweep reads the sale again and decides how to recover it. -/
theorem deciding_moves (point : sweep.point = .job row policy current)
    (matched : current.id = row.id) (done : sweep.step input db = (db', next)) :
    Moves input db sweep db' next := by
  have under : Under input db sweep.point row := by
    rw [point]
    exact ⟨rfl, rfl, rfl, rfl, trivial⟩
  simp only [RecoverInFlight.step, point] at done
  split at done
  · cases done
    exact .settles under matched rfl (.same rfl rfl)
  · split at done
    · cases done
      exact .works under ⟨rfl, rfl, rfl, rfl, matched⟩ (.same rfl rfl)
    · split at done
      all_goals
        cases done
        exact .works under ⟨rfl, rfl, rfl, rfl, matched⟩ (.same rfl rfl)

/-- Every step of a sweep is one of these. -/
theorem step_moves (matched : Matched sweep.point) (done : sweep.step input db = (db', next)) :
    Moves input db sweep db' next := by
  cases point : sweep.point with
  | next => exact next_moves point done
  | claiming row policy => exact claiming_moves point done
  | job row policy current =>
    rw [point] at matched
    exact deciding_moves point matched done
  | «begin» =>
    simp only [RecoverInFlight.step, point] at done
    split at done
    · rename_i same
      cases done
      obtain ⟨_, audited, eq⟩ := map_ok.mp (unit_ok same)
      cases eq
      exact .starts point (saveAuditEvent_ok audited)
    · rename_i same
      cases done
      cases unit_error same
      exact .aborts point rfl rfl
  | scanning =>
    simp only [RecoverInFlight.step, point] at done
    cases done
    exact .scans point (candidates_stored _ _ _ _ _)
  | prevented row =>
    simp only [RecoverInFlight.step, point] at done
    rcases auditing_cases (sweep.add (skip row .skippedClaimedByOther sweep.scanId)) input db
        .recoveryDuplicateWorkerPrevented row sweep.scanId .next .threw with
      ⟨noted, db', audited, same⟩ | ⟨refused, fault, same⟩
    · rw [same] at done
      cases done
      exact .prevents point noted audited
    · rw [same] at done
      cases done
      exact .throws (.inl (point ▸ refused)) rfl rfl (.inl rfl)
  | claimed row policy =>
    simp only [RecoverInFlight.step, point] at done
    rcases auditing_cases sweep input db .recoveryClaimed row sweep.scanId (.reading row policy)
        .threw with ⟨noted, db', ⟨audits, rfl⟩, same⟩ | ⟨refused, fault, same⟩
    · rw [same] at done
      cases done
      have under : Under input db sweep.point row := by
        rw [point]
        exact ⟨rfl, rfl, rfl, rfl, noted⟩
      exact .works under ⟨rfl, rfl, rfl, rfl, trivial⟩ (.same rfl rfl)
    · rw [same] at done
      cases done
      exact .throws (.inl (point ▸ refused)) rfl rfl (.inl rfl)
  | reading row policy =>
    have under : Under input db sweep.point row := by
      rw [point]
      exact ⟨rfl, rfl, rfl, rfl, trivial⟩
    simp only [RecoverInFlight.step, point] at done
    split at done
    · cases done
      exact .fails under
    · rename_i current found
      obtain ⟨_, own, _⟩ := findTransaction_ok found
      cases done
      exact .works under ⟨rfl, rfl, rfl, rfl, own⟩ (.same rfl rfl)
  | neverSubmitted work =>
    rw [point] at matched
    have under : Under input db sweep.point work.row := by
      rw [point]
      exact ⟨rfl, rfl, rfl, rfl, trivial⟩
    simp only [RecoverInFlight.step, point] at done
    exact recovering_moves under matched (fun _ _ => releaseNeverSubmitted_recovered) 0 done
  | uncertain work =>
    rw [point] at matched
    have under : Under input db sweep.point work.row := by
      rw [point]
      exact ⟨rfl, rfl, rfl, rfl, trivial⟩
    simp only [RecoverInFlight.step, point] at done
    rcases unit_cases input (moveUncertain work input) db with ⟨_, _, _, moved, same⟩ | ⟨_, same⟩
    · rw [same] at done
      cases done
      exact .works under ⟨rfl, rfl, rfl, rfl, matched⟩ (moveUncertain_kept moved)
    · rw [same] at done
      cases done
      exact .fails under
  | announcing work =>
    rw [point] at matched
    have under : Under input db sweep.point work.row := by
      rw [point]
      exact ⟨rfl, rfl, rfl, rfl, trivial⟩
    simp only [RecoverInFlight.step, point] at done
    refine auditing_moves under ?_ done
    exact ⟨rfl, rfl, rfl, rfl, matched⟩
  | lookingUp work lookupStart =>
    rw [point] at matched
    have under : Under input db sweep.point work.row := by
      rw [point]
      exact ⟨rfl, rfl, rfl, rfl, trivial⟩
    simp only [RecoverInFlight.step, point] at done
    split at done
    all_goals
      cases done
      exact .works under ⟨rfl, rfl, rfl, rfl, matched⟩ (.same rfl rfl)
  | noting work lookupMs outcome reference =>
    rw [point] at matched
    have under : Under input db sweep.point work.row := by
      rw [point]
      exact ⟨rfl, rfl, rfl, rfl, trivial⟩
    simp only [RecoverInFlight.step, point] at done
    refine auditing_moves under ?_ done
    exact ⟨rfl, rfl, rfl, rfl, matched⟩
  | applying work lookupMs outcome reference =>
    rw [point] at matched
    have under : Under input db sweep.point work.row := by
      rw [point]
      exact ⟨rfl, rfl, rfl, rfl, trivial⟩
    simp only [RecoverInFlight.step, point] at done
    exact recovering_moves under matched (fun _ _ => applyLookup_recovered) lookupMs done
  | failing row fault =>
    simp only [RecoverInFlight.step, point] at done
    rcases auditing_cases sweep input db .recoveryAttemptFailed row sweep.scanId
        (.failedRow row fault) (fun fault => .releasing row (some fault)) with
      ⟨noted, db', audited, same⟩ | ⟨refused, fault', same⟩
    · rw [same] at done
      cases done
      exact .notes (by rw [point]; rfl) (point ▸ noted) rfl audited
    · rw [same] at done
      cases done
      exact .rethrows point (point ▸ refused)
  | failedRow row fault =>
    simp only [RecoverInFlight.step, point] at done
    cases done
    exact .notes (by rw [point]; rfl) (by rw [point]; trivial) rfl ⟨_, rfl⟩
  | failedJob row fault state =>
    simp only [RecoverInFlight.step, point] at done
    cases done
    exact .records point rfl rfl
  | releasing row rethrown =>
    simp only [RecoverInFlight.step, point] at done
    rcases unit_cases input (fun db =>
        .ok (releaseClaim db row.id sweep.deps.workerId (input.now 0), ())) db with
      ⟨_, _, free, released, same⟩ | ⟨fault, same⟩
    · rw [same] at done
      cases released
      cases rethrown with
      | none =>
        cases done
        exact .releases point free
      | some fault =>
        cases done
        exact .throws (.inr (.inr ⟨row, fault, point⟩)) rfl rfl (.inr ⟨row, rfl⟩)
    · rw [same] at done
      cases done
      refine .throws (.inl ?_) rfl rfl (.inl rfl)
      rw [point]
      exact unit_busy rfl same
  | returned report =>
    simp only [RecoverInFlight.step, point] at done
    cases done
    exact .rests (.inl ⟨report, point⟩)
  | threw fault =>
    simp only [RecoverInFlight.step, point] at done
    cases done
    exact .rests (.inr ⟨fault, point⟩)

end Steps

/-- A sweep and the database it runs on. -/
abbrev Sweeping := Db × RecoverInFlight

/-- A worker holds the claim on a sale. -/
def HeldBy (db : Db) (transactionId : TransactionId) (workerId : String) : Prop :=
  ∃ row ∈ db.recoveryClaims,
    row.transactionId = transactionId ∧ row.workerId = workerId ∧ row.active = true

/-- A sale of a shop is stored. -/
def Stored (db : Db) (transactionId : TransactionId) (merchantId : MerchantId) : Prop :=
  ∃ row ∈ db.transactions, row.id = transactionId ∧ row.merchantId = merchantId

/-- Whether the sale in hand went through a claim and has no result yet. -/
def owed (point : SweepPoint) : Nat :=
  if (inHand point).isSome ∧ (underClaim point).isSome then 1 else 0

/-- One claim for each sale. -/
def OneClaimEach (db : Db) : Prop :=
  Unique (·.transactionId) db.recoveryClaims

/-- What anything else does while a worker sweeps: it removes no sale, keeps the claims' key, and
claims nothing in the worker's name. -/
structure Elsewhere (workerId : String) (db db' : Db) : Prop where
  sales : Stays db db'
  unique : OneClaimEach db → OneClaimEach db'
  own : ∀ transactionId, HeldBy db' transactionId workerId → HeldBy db transactionId workerId

/-- One step of a sweep, or of anything else between two of its steps. -/
inductive SweepStep : Sweeping → Option Input → Sweeping → Prop
  | own : SweepStep (db, sweep) (some input) (sweep.step input db)
  | elsewhere : Elsewhere sweep.deps.workerId db db' → SweepStep (db, sweep) none (db', sweep)

abbrev SweepTaken := Taken Sweeping (Option Input)

/-- A sweep is about to begin. -/
def Beginning (w : Sweeping) : Prop :=
  w.2.point = .begin ∧ OneClaimEach w.1

/-- What the sweep's scan found. -/
def Scanned (past : List SweepTaken) (found : List Candidate) : Prop :=
  ∃ taken ∈ past, taken.event.isSome = true ∧ taken.before.2.point = .scanning ∧
    taken.after.2.todo = found

/-- The sweep won the claim on a sale. -/
def Took (transactionId : TransactionId) (past : List SweepTaken) : Prop :=
  ∃ taken ∈ past, ∃ row policy, taken.before.2.point = .claiming row policy ∧
    taken.after.2.point = .claimed row policy ∧ row.id = transactionId

/-- A write that a step of the sweep makes around a recovery goes through. -/
def GoneThrough (taken : SweepTaken) : Prop :=
  ∀ input ∈ taken.event, Written input taken.before.1 taken.before.2.point

instance (taken : SweepTaken) : Decidable (GoneThrough taken) :=
  match same : taken.event with
  | none => isTrue fun input mem => by
    rw [same] at mem
    cases mem
  | some input => decidable_of_iff (Written input taken.before.1 taken.before.2.point) (by
    simp [GoneThrough, same])

/-- All that changed is the audit trail and the claim on one sale. -/
structure Untouched (transactionId : TransactionId) (db db' : Db) : Prop where
  rest : ∃ audits claims, db' = { db with auditEvents := audits, recoveryClaims := claims }
  claims : ∀ other, other ≠ transactionId → findClaim db' other = findClaim db other

/-- The recovery of a sale fails at this step, or the sweep deals with what failed. -/
def Failure (row : TransactionRow) (taken : SweepTaken) : Prop :=
  taken.event.isSome = true ∧ (failed taken.before.2.point = some row ∨
    failed taken.after.2.point = some row ∨ ∃ rethrown, taken.before.2.point = .releasing row rethrown)

/-- The sweep has come to an end. -/
def Ended (point : SweepPoint) : Prop :=
  (∃ report, point = .returned report) ∨ ∃ fault, point = .threw fault

section Claims

variable {db db' : Db} {claim : ClaimInput}

theorem Kept.elsewhere (kept : Kept db db') (workerId : String) : Elsewhere workerId db db' := by
  obtain ⟨sales, claims⟩ := kept
  refine ⟨sales, fun unique => ?_, fun transactionId held => ?_⟩
  · rw [OneClaimEach, claims]
    exact unique
  · rw [HeldBy, claims] at held
    exact held

theorem Audited.kept (audited : Audited db db') : Kept db db' := by
  obtain ⟨audits, rfl⟩ := audited
  exact .same rfl rfl

/-- A claim that is won changes hands, and no other does. -/
theorem claim_won (unique : OneClaimEach db) (h : claimTransaction db claim = .ok (db', true)) :
    Stays db db' ∧ OneClaimEach db' ∧ ∀ transactionId workerId,
      transactionId ≠ claim.transactionId ∨ workerId ≠ claim.workerId →
      HeldBy db' transactionId workerId → HeldBy db transactionId workerId := by
  obtain ⟨_, eq⟩ := claimTransaction_ok h
  refine ⟨?_, ?_, ?_⟩
  · rw [eq]
    exact .same rfl
  · unfold claimTransaction at h
    split at h
    · simp only [Except.ok.injEq, Prod.mk.injEq] at h
      obtain ⟨rfl, _⟩ := h
      exact unique.update fun _ => rfl
    · rename_i absent
      simp only [bind_ok, demand_ok, pure_ok, Prod.mk.injEq] at h
      obtain ⟨_, _, rfl, _⟩ := h
      exact unique.append fun row mem own => absent ⟨row, mem, own⟩
  · rintro transactionId workerId other ⟨row, mem, own, mine, active⟩
    have apart : transactionId = claim.transactionId → workerId ≠ claim.workerId := by
      intro same
      rcases other with other | other
      · exact absurd same other
      · exact other
    unfold claimTransaction at h
    split at h
    · simp only [Except.ok.injEq, Prod.mk.injEq] at h
      obtain ⟨rfl, _⟩ := h
      obtain ⟨old, there, rfl⟩ := mem_update.mp mem
      split at own
      · rename_i hit
        simp only [claimable, Bool.decide_and, Bool.and_eq_true, decide_eq_true_eq] at hit
        simp only [claimable, hit, Bool.decide_and] at mine
        have same : transactionId = claim.transactionId := own.symm.trans hit.1
        simp at mine
        exact absurd mine.symm (apart same)
      · rename_i miss
        simp only [miss] at mine active
        exact ⟨old, there, own, mine, active⟩
    · simp only [bind_ok, demand_ok, pure_ok, Prod.mk.injEq] at h
      obtain ⟨_, _, rfl, _⟩ := h
      rcases List.mem_append.mp mem with mem | mem
      · exact ⟨row, mem, own, mine, active⟩
      · cases List.mem_singleton.mp mem
        exact absurd mine.symm (apart own.symm)

/-- A claim that is not won changes nothing. -/
theorem claim_lost (unique : OneClaimEach db) (h : claimTransaction db claim = .ok (db', false)) :
    db' = db := by
  unfold claimTransaction at h
  split at h
  · simp only [Except.ok.injEq, Prod.mk.injEq, decide_eq_false_iff_not] at h
    obtain ⟨rfl, few⟩ := h
    have missed : ∀ row ∈ db.recoveryClaims, claimable claim.transactionId claim.now row = false := by
      intro row mem
      by_contra hit
      rw [Bool.not_eq_false] at hit
      apply few
      have own : row.transactionId = claim.transactionId := by
        simp only [claimable, decide_eq_true_eq] at hit
        exact hit.1
      have both : claimable claim.transactionId claim.now = fun other =>
          decide (other.active = false ∨ other.expiresAt ≤ claim.now) &&
            decide (other.transactionId = row.transactionId) := by
        funext other
        simp only [claimable, own, Bool.decide_and, Bool.and_comm]
      rw [changes, both, ← List.filter_filter, unique.filter mem]
      rw [both] at hit
      simp only [decide_true, Bool.and_true] at hit
      rw [List.filter_singleton, hit]
      rfl
    rw [update_of_no_hit missed]
  · simp only [bind_ok, pure_ok, Prod.mk.injEq] at h
    obtain ⟨_, _, _, impossible⟩ := h
    cases impossible

/-- A release frees the sale, and nobody holds another than before. -/
theorem release_held (db : Db) (transactionId : TransactionId) (workerId : String)
    (now : Timestamp) :
    ¬ HeldBy (releaseClaim db transactionId workerId now) transactionId workerId ∧
    ∀ other worker, HeldBy (releaseClaim db transactionId workerId now) other worker →
      HeldBy db other worker := by
  constructor
  · rintro ⟨row, mem, own, mine, active⟩
    obtain ⟨old, _, rfl⟩ := mem_update.mp mem
    split at active
    · cases active
    · rename_i miss
      rw [if_neg miss] at own mine
      exact absurd (decide_eq_true ⟨own, mine, active⟩) miss
  · rintro other worker ⟨row, mem, own, mine, active⟩
    obtain ⟨old, there, rfl⟩ := mem_update.mp mem
    split at active
    · cases active
    · rename_i miss
      rw [if_neg miss] at own mine
      exact ⟨old, there, own, mine, active⟩

theorem release_elsewhere (db : Db) (transactionId : TransactionId) (worker workerId : String)
    (now : Timestamp) : Elsewhere workerId db (releaseClaim db transactionId worker now) where
  sales := .same rfl
  unique unique := unique.update fun _ => rfl
  own other := (release_held db transactionId worker now).2 other workerId

end Claims

section Sweeps

variable {db db' : Db} {sweep next : RecoverInFlight} {input : Input}

theorem failed_matched (failing : failed point = some row) : Matched point := by
  cases point <;> first | exact trivial | cases failing

theorem ended_matched (ended : point = .threw fault) : Matched point :=
  ended ▸ trivial

theorem Moves.sane (moves : Moves input db sweep db' next) (unique : OneClaimEach db)
    (matched : Matched sweep.point) :
    Stays db db' ∧ OneClaimEach db' ∧ Matched next.point ∧ next.deps = sweep.deps := by
  have still : Stays db db := .same rfl
  have keys : ∀ {later}, Kept db later → OneClaimEach later := fun kept =>
    (kept.elsewhere "").unique unique
  cases moves with
  | starts _ audited | prevents _ _ audited =>
    exact ⟨audited.kept.sales, keys audited.kept, trivial, rfl⟩
  | notes _ _ failing audited =>
    exact ⟨audited.kept.sales, keys audited.kept, failed_matched failing, rfl⟩
  | aborts _ ended deps => exact ⟨still, unique, ended_matched ended, deps⟩
  | throws _ ended deps spared =>
    rcases spared with rfl | ⟨row, rfl⟩
    · exact ⟨still, unique, ended_matched ended, deps⟩
    · have released := release_elsewhere db row.id sweep.deps.workerId "" (input.now 0)
      exact ⟨released.sales, released.unique unique, ended_matched ended, deps⟩
  | stops _ ended _ deps => exact ⟨still, unique, ended ▸ trivial, deps⟩
  | wins _ _ _ _ claimed =>
    obtain ⟨sales, unique', _⟩ := claim_won unique claimed
    exact ⟨sales, unique', trivial, rfl⟩
  | yields _ _ _ _ claimed =>
    cases claim_lost unique claimed
    exact ⟨still, unique, trivial, rfl⟩
  | works _ onto kept => exact ⟨kept.sales, keys kept, onto.matched, rfl⟩
  | settles _ _ _ kept => exact ⟨kept.sales, keys kept, trivial, rfl⟩
  | releases =>
    rename_i row _ _
    have released := release_elsewhere db row.id sweep.deps.workerId "" (input.now 0)
    exact ⟨released.sales, released.unique unique, trivial, rfl⟩
  | rests => exact ⟨still, unique, matched, rfl⟩
  | scans | ends | loses | skips | takes | fails | records | rethrows =>
    exact ⟨still, unique, trivial, rfl⟩

/-- How far a sweep has got with what its scan found. -/
structure Tallied (candidates : List Candidate) (w : Sweeping) : Prop where
  found : w.2.gathered.found = candidates.length
  order : w.2.gathered.results.map (·.transactionId) ++
    ((inHand w.2.point).toList.map (·.id) ++ w.2.todo.map (·.id)) = candidates.map (·.id)
  claimed : w.2.gathered.claimed =
    w.2.gathered.results.countP (fun result => throughClaim result.kind) + owed w.2.point
  stored : ∀ candidate ∈ w.2.todo, Stored w.1 candidate.id candidate.merchantId
  hand : ∀ row ∈ inHand w.2.point, Stored w.1 row.id row.merchantId
  going : rethrowing w.2.point = false ∧ ∀ fault, w.2.point ≠ .threw fault
  report : ∀ report, w.2.point = .returned report →
    report.stoppedEarly = true ∨ w.2.todo = [] ∧ report = w.2.report report.finishedAt

theorem Stays.stored (stays : Stays db db') (stored : Stored db transactionId merchantId) :
    Stored db' transactionId merchantId := by
  obtain ⟨row, mem, id, merchant⟩ := stored
  obtain ⟨row', mem', id', merchant'⟩ := stays row mem
  exact ⟨row', mem', id'.trans id, merchant'.trans merchant⟩

/-- What is tallied of a sweep does not change while something else happens. -/
theorem Tallied.stays (tallied : Tallied candidates (db, sweep)) (stays : Stays db db') :
    Tallied candidates (db', sweep) where
  found := tallied.found
  order := tallied.order
  claimed := tallied.claimed
  stored candidate mem := stays.stored (tallied.stored candidate mem)
  hand row mem := stays.stored (tallied.hand row mem)
  going := tallied.going
  report := tallied.report

/-- The sweep goes on with the sale in hand. -/
theorem Tallied.on (tallied : Tallied candidates (db, sweep)) (stays : Stays db db')
    (point : SweepPoint) (hand : inHand point = inHand sweep.point)
    (held : (underClaim point).isSome = (underClaim sweep.point).isSome)
    (going : rethrowing point = false) (lasts : ¬ Ended point) :
    Tallied candidates (db', sweep.at point) where
  found := tallied.found
  order := by
    simp only [RecoverInFlight.at, hand]
    exact tallied.order
  claimed := by
    simp only [RecoverInFlight.at, owed, hand, held]
    exact tallied.claimed
  stored candidate mem := stays.stored (tallied.stored candidate mem)
  hand row mem := by
    simp only [RecoverInFlight.at, hand] at mem
    exact stays.stored (tallied.hand row mem)
  going := ⟨going, fun fault same => lasts (.inr ⟨fault, same⟩)⟩
  report report same := absurd (.inl ⟨report, same⟩) lasts

/-- The result of the sale in hand is noted. -/
theorem Tallied.noted (tallied : Tallied candidates (db, sweep)) (stays : Stays db db')
    (found : next.gathered.found = sweep.gathered.found)
    (results : next.gathered.results = sweep.gathered.results ++ [result])
    (claimed : next.gathered.claimed = sweep.gathered.claimed) (todo : next.todo = sweep.todo)
    (hand : inHand sweep.point = some row) (own : result.transactionId = row.id)
    (counts : throughClaim result.kind = (underClaim sweep.point).isSome)
    (free : inHand next.point = none) (going : rethrowing next.point = false)
    (lasts : ¬ Ended next.point) : Tallied candidates (db', next) where
  found := found.trans tallied.found
  order := by
    have before := tallied.order
    simp only [hand, Option.toList_some, List.map_cons, List.map_nil] at before
    rw [results, free, todo, ← before]
    simp [own]
  claimed := by
    have before := tallied.claimed
    simp only [owed, hand] at before
    simp only [claimed, results, owed, free, List.countP_append, List.countP_singleton, counts]
    simpa using before
  stored candidate mem := stays.stored (tallied.stored candidate (todo ▸ mem))
  hand row mem := by
    simp only [free] at mem
    cases mem
  going := ⟨going, fun fault same => lasts (.inr ⟨fault, same⟩)⟩
  report report same := absurd (.inl ⟨report, same⟩) lasts

theorem stored_found (stored : Stored db transactionId merchantId) :
    findTransaction db transactionId merchantId ≠ none := by
  obtain ⟨row, mem, id, merchant⟩ := stored
  intro gone
  have missed := List.find?_eq_none.mp gone row mem
  simp [id, merchant] at missed

/-- Nothing ended yet at a point that has a sale in hand. -/
theorem lasts_of_hand (hand : inHand point = some row) : ¬ Ended point := by
  rintro (⟨report, rfl⟩ | ⟨fault, rfl⟩) <;> cases hand

theorem not_ended_next : ¬ Ended .next := by
  rintro (⟨_, same⟩ | ⟨_, same⟩) <;> cases same

theorem not_ended_releasing : ¬ Ended (.releasing row rethrown) := by
  rintro (⟨_, same⟩ | ⟨_, same⟩) <;> cases same

theorem failed_hand (failing : failed point = some row) :
    inHand point = some row ∧ underClaim point = some row ∧ rethrowing point = false := by
  cases point <;> first | exact ⟨failing, failing, rfl⟩ | cases failing

/-- Every step of a sweep whose writes go through keeps its tally. -/
theorem Tallied.moves (tallied : Tallied candidates (db, sweep))
    (moves : Moves input db sweep db' next) (written : Written input db sweep.point)
    (later : sweep.point ≠ .begin ∧ sweep.point ≠ .scanning)
    (stays : Stays db db') : Tallied candidates (db', next) := by
  cases moves with
  | starts point | aborts point => exact absurd point later.1
  | scans point => exact absurd point later.2
  | ends point finished =>
    have order := tallied.order
    have claimed := tallied.claimed
    rw [point] at order claimed
    refine ⟨tallied.found, order, claimed, tallied.stored, ?_, ⟨rfl, nofun⟩, ?_⟩
    · intro row mem
      cases mem
    · intro report same
      cases same
      exact .inr ⟨finished, rfl⟩
  | stops point ended early deps todo gathered =>
    have order := tallied.order
    have claimed := tallied.claimed
    rw [point] at order claimed
    refine ⟨?_, ?_, ?_, ?_, ?_, ?_, ?_⟩
    · rw [gathered]
      exact tallied.found
    · rw [gathered, ended, todo]
      exact order
    · rw [gathered, ended]
      exact claimed
    · rw [todo]
      exact tallied.stored
    · rw [ended]
      rintro row ⟨⟩
    · rw [ended]
      exact ⟨rfl, nofun⟩
    · intro report' same
      rw [ended] at same
      cases same
      exact .inl early
  | loses point todo gone =>
    have stored := tallied.stored _ (todo ▸ List.mem_cons_self)
    exact absurd gone (stored_found stored)
  | skips point todo found =>
    rename_i candidate rest row
    obtain ⟨_, own, _⟩ := findTransaction_ok found
    have order := tallied.order
    have claimed := tallied.claimed
    simp only [point, todo] at order claimed
    refine ⟨tallied.found, ?_, ?_, ?_, ?_, ⟨rfl, nofun⟩, nofun⟩
    · rw [← order]
      simp [RecoverInFlight.at, RecoverInFlight.add, skip, inHand, own]
    · simp only [RecoverInFlight.at, RecoverInFlight.add, List.countP_append]
      exact claimed
    · exact fun other mem => tallied.stored other (todo ▸ List.mem_cons_of_mem _ mem)
    · rintro row ⟨⟩
  | takes point todo found =>
    rename_i candidate rest row policy
    obtain ⟨mem, own, _⟩ := findTransaction_ok found
    have order := tallied.order
    have claimed := tallied.claimed
    simp only [point, todo] at order claimed
    refine ⟨tallied.found, ?_, claimed, ?_, ?_, ⟨rfl, nofun⟩, nofun⟩
    · rw [← order]
      simp [inHand, own]
    · exact fun other mem => tallied.stored other (todo ▸ List.mem_cons_of_mem _ mem)
    · rintro other ⟨⟩
      exact ⟨row, mem, rfl, rfl⟩
  | wins point free own mine won =>
    have order := tallied.order
    have claimed := tallied.claimed
    have hand := tallied.hand
    simp only [point] at order claimed hand
    refine ⟨tallied.found, order, ?_, ?_, ?_, ⟨rfl, nofun⟩, nofun⟩
    · exact congrArg (· + 1) claimed
    · exact fun other mem => stays.stored (tallied.stored other mem)
    · exact fun row mem => stays.stored (hand row mem)
  | yields point free own mine lost =>
    have order := tallied.order
    have claimed := tallied.claimed
    have hand := tallied.hand
    simp only [point] at order claimed hand
    refine ⟨tallied.found, order, claimed, ?_, ?_, ⟨rfl, nofun⟩, nofun⟩
    · exact fun other mem => stays.stored (tallied.stored other mem)
    · exact fun row mem => stays.stored (hand row mem)
  | prevents point noted audited =>
    rename_i row
    have hand : inHand sweep.point = some row := by
      rw [point]
      rfl
    refine tallied.noted audited.kept.sales rfl rfl rfl rfl hand rfl ?_ rfl rfl not_ended_next
    rw [point]
    rfl
  | works under onto kept =>
    refine tallied.on kept.sales _ ?_ ?_ onto.going (lasts_of_hand onto.hand)
    · rw [onto.hand, under.hand]
    · rw [onto.held, under.held]
  | settles under own kind kept =>
    refine tallied.noted kept.sales rfl rfl rfl rfl under.hand own ?_ rfl rfl ?_
    · rw [kind, under.held]
      rfl
    · exact not_ended_releasing
  | fails under =>
    refine tallied.on (.same rfl) _ ?_ ?_ rfl (lasts_of_hand rfl)
    · rw [under.hand]
      rfl
    · rw [under.held]
      rfl
  | notes calm noted failing audited =>
    obtain ⟨hand, held, _⟩ := failed_hand calm
    obtain ⟨hand', held', going⟩ := failed_hand failing
    refine tallied.on audited.kept.sales _ ?_ ?_ going (lasts_of_hand hand')
    · rw [hand, hand']
    · rw [held, held']
  | records point own kind =>
    rename_i row fault state result
    have hand : inHand sweep.point = some row := by
      rw [point]
      rfl
    refine tallied.noted stays rfl rfl rfl rfl hand own ?_ rfl rfl not_ended_releasing
    rw [kind, point]
    rfl
  | releases point free =>
    have order := tallied.order
    have claimed := tallied.claimed
    simp only [point] at order claimed
    refine ⟨tallied.found, order, claimed, ?_, ?_, ⟨rfl, nofun⟩, nofun⟩
    · exact fun other mem => stays.stored (tallied.stored other mem)
    · rintro row ⟨⟩
  | rethrows point refused => exact absurd written refused
  | throws refused ended deps spared =>
    rcases refused with refused | ⟨row, policy, point, gone⟩ | ⟨row, fault, point⟩
    · exact absurd written refused
    · have hand := tallied.hand row (by simp only [point]; rfl)
      obtain ⟨row', mem, same, _⟩ := hand
      exact absurd ⟨row', mem, same⟩ gone
    · have going := tallied.going.1
      simp only [point] at going
      cases going
  | rests ended => exact tallied

/-- While its writes go through, a sweep holds no claim but the one of the sale it recovers. -/
theorem Moves.holds (moves : Moves input db sweep db' next) (unique : OneClaimEach db)
    (lasts : ∀ fault, next.point ≠ .threw fault)
    (before : HeldBy db transactionId sweep.deps.workerId →
      ∃ row, underClaim sweep.point = some row ∧ row.id = transactionId)
    (held : HeldBy db' transactionId sweep.deps.workerId) :
    ∃ row, underClaim next.point = some row ∧ row.id = transactionId := by
  have same : db'.recoveryClaims = db.recoveryClaims →
      ∃ row, underClaim sweep.point = some row ∧ row.id = transactionId := by
    intro claims
    apply before
    rw [HeldBy, claims] at held
    exact held
  have free : underClaim sweep.point = none → db'.recoveryClaims = db.recoveryClaims → False := by
    intro none claims
    obtain ⟨row, own, _⟩ := same claims
    rw [none] at own
    cases own
  cases moves with
  | starts point audited | prevents point _ audited =>
    exact (free (by rw [point]; rfl) audited.kept.claims).elim
  | aborts point | scans point | ends point | stops point | loses point | skips point
  | takes point => exact (free (by rw [point]; rfl) rfl).elim
  | wins point free' own mine claimed =>
    rename_i row policy claim
    obtain ⟨_, _, others⟩ := claim_won unique claimed
    by_cases here : transactionId = row.id
    · exact ⟨_, rfl, here.symm⟩
    · have older := others transactionId sweep.deps.workerId (.inl (own ▸ here)) held
      obtain ⟨row', under, _⟩ := before older
      rw [point] at under
      cases under
  | yields point _ _ _ claimed =>
    cases claim_lost unique claimed
    exact (free (by rw [point]; rfl) rfl).elim
  | works under onto kept =>
    obtain ⟨row', under', own⟩ := same kept.claims
    rw [under.held] at under'
    cases under'
    exact ⟨_, onto.held, own⟩
  | settles under _ _ kept =>
    obtain ⟨row', under', own⟩ := same kept.claims
    rw [under.held] at under'
    cases under'
    exact ⟨_, rfl, own⟩
  | fails under =>
    obtain ⟨row', under', own⟩ := same rfl
    rw [under.held] at under'
    cases under'
    exact ⟨_, rfl, own⟩
  | notes calm _ failing audited =>
    obtain ⟨row', under', own⟩ := same audited.kept.claims
    rw [(failed_hand calm).2.1] at under'
    cases under'
    exact ⟨_, (failed_hand failing).2.1, own⟩
  | records point | rethrows point =>
    obtain ⟨row', under', own⟩ := same rfl
    rw [point] at under'
    cases under'
    exact ⟨_, rfl, own⟩
  | releases point =>
    rename_i row _
    obtain ⟨freed, others⟩ := release_held db row.id sweep.deps.workerId (input.now 0)
    obtain ⟨row', under', own⟩ := before (others _ _ held)
    rw [point] at under'
    cases under'
    exact absurd (own ▸ held) freed
  | throws _ ended => exact absurd ended (lasts _)
  | rests => exact same rfl

/-- A failure touches nothing but the audit trail and the claim of its own sale: the sales still to
come are the same, and the results so far are kept. -/
theorem Moves.failure (moves : Moves input db sweep db' next)
    (written : Written input db sweep.point)
    (lasts : ∀ fault, next.point ≠ .threw fault)
    (failing : failed sweep.point = some row ∨ failed next.point = some row ∨
      ∃ rethrown, sweep.point = .releasing row rethrown) :
    Untouched row.id db db' ∧ next.todo = sweep.todo ∧
      sweep.gathered.results <+: next.gathered.results := by
  have quiet : failed sweep.point = none → failed next.point = none →
      (∀ row rethrown, sweep.point ≠ .releasing row rethrown) → False := by
    intro calm calm' holding
    rcases failing with failing | failing | ⟨rethrown, releasing⟩
    · rw [calm] at failing
      cases failing
    · rw [calm'] at failing
      cases failing
    · exact holding _ _ releasing
  cases moves with
  | fails => exact ⟨⟨⟨_, _, rfl⟩, fun _ _ => rfl⟩, rfl, List.prefix_refl _⟩
  | notes _ _ _ audited =>
    obtain ⟨audits, rfl⟩ := audited
    exact ⟨⟨⟨_, _, rfl⟩, fun _ _ => rfl⟩, rfl, List.prefix_refl _⟩
  | records => exact ⟨⟨⟨_, _, rfl⟩, fun _ _ => rfl⟩, rfl, List.prefix_append _ _⟩
  | releases point =>
    rename_i own _
    have same : row = own := by
      rcases failing with failing | failing | ⟨rethrown, releasing⟩
      · rw [point] at failing
        cases failing
      · cases failing
      · rw [point] at releasing
        cases releasing
        rfl
    subst same
    refine ⟨⟨⟨_, _, rfl⟩, fun other apart => ?_⟩, rfl, List.prefix_refl _⟩
    refine find?_update_other _ (fun _ => rfl) fun claim wanted => ?_
    simp only [decide_eq_true_eq] at wanted
    simp [wanted, apart]
  | rethrows _ refused => exact absurd written refused
  | throws _ ended => exact absurd ended (lasts _)
  | works under onto | settles under =>
    refine (quiet under.calm ?_ ?_).elim
    · first | exact onto.calm | rfl
    · intro other rethrown releasing
      have hand := under.hand
      have still := under.going
      rw [releasing] at hand still
      cases rethrown with
      | none => cases hand
      | some fault => cases still
  | stops point ended =>
    refine (quiet (by rw [point]; rfl) (by rw [ended]; rfl) ?_).elim
    intro other rethrown releasing
    rw [point] at releasing
    cases releasing
  | aborts point ended => exact absurd ended (lasts _)
  | rests ended =>
    rcases ended with ⟨report, ended⟩ | ⟨fault, ended⟩
    · refine (quiet (by rw [ended]; rfl) (by rw [ended]; rfl) ?_).elim
      intro other rethrown releasing
      rw [ended] at releasing
      cases releasing
    · exact absurd ended (lasts _)
  | starts point | scans point | ends point | loses point | skips point | takes point
  | wins point | yields point | prevents point =>
    refine (quiet (by rw [point]; rfl) rfl ?_).elim
    intro other rethrown releasing
    rw [point] at releasing
    cases releasing

/-- A write around a recovery that does not go through ends the sweep. -/
theorem Moves.refused (moves : Moves input db sweep db' next)
    (refused : ¬ Written input db sweep.point) :
    rethrowing next.point = true ∨ ∃ fault, next.point = .threw fault := by
  cases moves with
  | starts point | aborts point | scans point | ends point | stops point | loses point
  | skips point | takes point | records point =>
    rw [point] at refused
    exact absurd trivial refused
  | wins point free | yields point free | releases point free =>
    rw [point] at refused
    exact absurd free refused
  | prevents point noted =>
    rw [point] at refused
    exact absurd noted refused
  | works under | settles under | fails under => exact absurd under.written refused
  | notes _ written => exact absurd written refused
  | rethrows => exact .inl rfl
  | throws _ ended => exact .inr ⟨_, ended⟩
  | rests ended =>
    rcases ended with ⟨report, point⟩ | ⟨fault, point⟩
    · rw [point] at refused
      exact absurd trivial refused
    · exact .inr ⟨fault, point⟩

/-- And nothing keeps it from ending. -/
theorem Moves.lost (moves : Moves input db sweep db' next)
    (lost : rethrowing sweep.point = true ∨ ∃ fault, sweep.point = .threw fault) :
    rethrowing next.point = true ∨ ∃ fault, next.point = .threw fault := by
  have other : ∀ point, sweep.point = point → rethrowing point = false →
      (∀ fault, point ≠ .threw fault) → False := by
    intro point same calm lasts
    subst same
    rcases lost with rethrows | ⟨fault, threw⟩
    · rw [calm] at rethrows
      cases rethrows
    · exact lasts fault threw
  cases moves with
  | starts point | aborts point | scans point | ends point | stops point | loses point
  | skips point | takes point | records point | wins point | yields point | releases point
  | prevents point | rethrows point =>
    exact (other _ point rfl nofun).elim
  | works under | settles under | fails under =>
    refine (other _ rfl under.going fun fault threw => ?_).elim
    exact lasts_of_hand under.hand (.inr ⟨fault, threw⟩)
  | notes calm =>
    obtain ⟨hand, _, going⟩ := failed_hand calm
    refine (other _ rfl going fun fault threw => ?_).elim
    exact lasts_of_hand hand (.inr ⟨fault, threw⟩)
  | throws _ ended => exact .inr ⟨_, ended⟩
  | rests => exact lost

/-- The kinds of result make up all results. -/
theorem counts_sum (results : List RecoveryResult) :
    results.length =
      (results.filter fun result => result.kind = .recoveredSuccessful).length +
      (results.filter fun result => result.kind = .recoveredFailed).length +
      (results.filter fun result => result.kind = .releasedNeverSubmitted).length +
      (results.filter fun result => result.kind = .movedToPending).length +
      (results.filter fun result => result.kind = .escalatedUnderReview).length +
      ((results.filter fun result => result.kind = .skippedTooRecent).length +
        (results.filter fun result => result.kind = .skippedTerminal).length +
        (results.filter fun result => result.kind = .skippedClaimedByOther).length) +
      (results.filter fun result => result.kind = .recoveryFailed).length := by
  induction results with
  | nil => rfl
  | cons result results ih =>
    cases kind : result.kind
    all_goals
      simp only [List.filter_cons, kind, List.length_cons]
      simp only [reduceCtorEq, decide_false, decide_true, if_true, Bool.false_eq_true, if_false,
        List.length_cons]
      omega

/-- What a sweep does next, and which results that adds, whatever it gathered so far. -/
def Regardless (input : Input) (db : Db) (sweep : RecoverInFlight) (gathered : Gathered) : Prop :=
  let here := sweep.step input db
  let there := RecoverInFlight.step input db { sweep with gathered }
  there.1 = here.1 ∧ there.2.todo = here.2.todo ∧
    (there.2.point = here.2.point ∨ Ended there.2.point ∧ Ended here.2.point) ∧
    ∃ added, here.2.gathered.results = sweep.gathered.results ++ added ∧
      there.2.gathered.results = gathered.results ++ added

theorem step_regardless (input : Input) (db : Db) (sweep : RecoverInFlight) (gathered : Gathered)
    (later : sweep.point ≠ .scanning) : Regardless input db sweep gathered := by
  have none : ∀ results : List RecoveryResult, results = results ++ [] := fun results =>
    (List.append_nil results).symm
  cases point : sweep.point with
  | scanning => exact absurd point later
  | claiming row policy =>
    simp only [Regardless, RecoverInFlight.step, point]
    split <;> exact ⟨rfl, rfl, .inl rfl, [], none _, none _⟩
  | next =>
    simp only [Regardless, RecoverInFlight.step, point]
    split
    · exact ⟨rfl, rfl, .inr ⟨.inl ⟨_, rfl⟩, .inl ⟨_, rfl⟩⟩, [], none _, none _⟩
    · split
      · exact ⟨rfl, rfl, .inr ⟨.inl ⟨_, rfl⟩, .inl ⟨_, rfl⟩⟩, [], none _, none _⟩
      · split
        · exact ⟨rfl, rfl, .inl rfl, [], none _, none _⟩
        · split
          · exact ⟨rfl, rfl, .inl rfl, _, rfl, rfl⟩
          · exact ⟨rfl, rfl, .inl rfl, [], none _, none _⟩
  | prevented row =>
    simp only [Regardless, RecoverInFlight.step, point, RecoverInFlight.auditing]
    split <;> exact ⟨rfl, rfl, .inl rfl, _, rfl, rfl⟩
  | failedJob row fault state =>
    simp only [Regardless, RecoverInFlight.step, point]
    refine ⟨?_, ?_, .inl ?_, _, rfl, rfl⟩ <;> trivial
  | claimed _ _ | announcing _ | noting _ _ _ _ | failing _ _ =>
    simp only [Regardless, RecoverInFlight.step, point, RecoverInFlight.auditing]
    split <;> exact ⟨rfl, rfl, .inl rfl, [], none _, none _⟩
  | «begin» | reading _ _ | uncertain _ | lookingUp _ _ =>
    simp only [Regardless, RecoverInFlight.step, point]
    split <;> exact ⟨rfl, rfl, .inl rfl, [], none _, none _⟩
  | job row policy current =>
    simp only [Regardless, RecoverInFlight.step, point]
    split
    · exact ⟨rfl, rfl, .inl rfl, _, rfl, rfl⟩
    · split
      · exact ⟨rfl, rfl, .inl rfl, [], none _, none _⟩
      · split <;> exact ⟨rfl, rfl, .inl rfl, [], none _, none _⟩
  | neverSubmitted _ | applying _ _ _ _ =>
    simp only [Regardless, RecoverInFlight.step, point]
    split
    · exact ⟨rfl, rfl, .inl rfl, _, rfl, rfl⟩
    · exact ⟨rfl, rfl, .inl rfl, [], none _, none _⟩
  | releasing row rethrown =>
    simp only [Regardless, RecoverInFlight.step, point]
    split
    · cases rethrown <;> exact ⟨rfl, rfl, .inl rfl, [], none _, none _⟩
    · exact ⟨rfl, rfl, .inl rfl, [], none _, none _⟩
  | failedRow _ _ | returned _ | threw _ =>
    simp only [Regardless, RecoverInFlight.step, point]
    refine ⟨?_, ?_, .inl ?_, [], none _, none _⟩ <;> trivial

end Sweeps

/-- One failure changes no other outcome: it touches its own sale's claim and the audit trail, the
sales still to come and the results so far stay, and nothing that comes after depends on either. -/
structure Apart (taken : SweepTaken) : Prop where
  failure : ∀ row, Failure row taken →
    Untouched row.id taken.before.1 taken.after.1 ∧ taken.after.2.todo = taken.before.2.todo ∧
      taken.before.2.gathered.results <+: taken.after.2.gathered.results
  regardless : ∀ input ∈ taken.event, taken.before.2.point ≠ .scanning → ∀ gathered,
    Regardless input taken.before.1 taken.before.2 gathered

/-- What a report tells of the sales that were found. -/
structure Tells (report : SweepReport) (candidates : List Candidate) : Prop where
  each : report.results.map (·.transactionId) = candidates.map (·.id)
  found : report.found = candidates.length
  sum : report.found = report.recoveredSuccessful + report.recoveredFailed +
    report.releasedNeverSubmitted + report.movedToPending + report.escalatedUnderReview +
    report.skipped + report.recoveryFailures
  claimed : report.claimed = report.results.countP fun result => throughClaim result.kind

/-- A sweep accounts for what it found: it reports, unless it was stopped early each of them once,
every claim it took is released, and no failure changed another outcome. -/
structure Accounted (past : List SweepTaken) (w : Sweeping) (candidates : List Candidate) :
    Prop where
  report : ∃ report, w.2.point = .returned report ∧
    (report.stoppedEarly = false → Tells report candidates)
  released : ∀ transactionId, Took transactionId past →
    ¬ HeldBy w.1 transactionId w.2.deps.workerId
  apart : ∀ taken ∈ past, Apart taken

/-- What is known of a sweep on its way. -/
structure Account (past : List SweepTaken) (w : Sweeping) : Prop where
  unique : OneClaimEach w.1
  matched : Matched w.2.point
  early : w.2.point = .begin ∨ w.2.point = .scanning → ∀ candidates, ¬ Scanned past candidates
  scanned : w.2.point = .begin ∨ w.2.point = .scanning ∨ (∃ fault, w.2.point = .threw fault) ∨
    ∃ candidates, Scanned past candidates
  lost : (∃ taken ∈ past, ¬ GoneThrough taken) → (∃ candidates, Scanned past candidates) ∧
    (rethrowing w.2.point = true ∨ ∃ fault, w.2.point = .threw fault)
  tallied : (∀ taken ∈ past, GoneThrough taken) → ∀ candidates, Scanned past candidates →
    Tallied candidates w
  holds : (∀ taken ∈ past, GoneThrough taken) → (∀ fault, w.2.point ≠ .threw fault) →
    ∀ transactionId, Took transactionId past → HeldBy w.1 transactionId w.2.deps.workerId →
    ∃ row, underClaim w.2.point = some row ∧ row.id = transactionId
  apart : (∀ taken ∈ past, GoneThrough taken) → (∀ fault, w.2.point ≠ .threw fault) →
    ∀ taken ∈ past, Apart taken

section Runs

variable {past : List SweepTaken} {w : Sweeping} {db db' : Db} {sweep : RecoverInFlight}

theorem scanned_cons : Scanned (taken :: past) candidates ↔
    (taken.event.isSome = true ∧ taken.before.2.point = .scanning ∧
      taken.after.2.todo = candidates) ∨ Scanned past candidates := by
  simp [Scanned]

theorem scanned_later (taken : SweepTaken) (scanned : Scanned past candidates) :
    Scanned (taken :: past) candidates :=
  scanned_cons.mpr (.inr scanned)

theorem account_start (start : Beginning w) : Account [] w where
  unique := start.2
  matched := start.1 ▸ trivial
  early _ candidates := by rintro ⟨_, ⟨⟩, _⟩
  scanned := .inl start.1
  lost := by rintro ⟨_, ⟨⟩, _⟩
  tallied _ candidates := by rintro ⟨_, ⟨⟩, _⟩
  holds _ _ transactionId := by rintro ⟨_, ⟨⟩, _⟩
  apart _ _ := by rintro _ ⟨⟩

/-- While something else happens, all stays known. -/
theorem account_elsewhere (account : Account past (db, sweep))
    (elsewhere : Elsewhere sweep.deps.workerId db db') :
    Account (⟨(db, sweep), none, (db', sweep)⟩ :: past) (db', sweep) where
  unique := elsewhere.unique account.unique
  matched := account.matched
  early here candidates scanned := by
    rcases scanned_cons.mp scanned with ⟨now, _⟩ | scanned
    · cases now
    · exact account.early here candidates scanned
  scanned := by
    rcases account.scanned with h | h | h | ⟨candidates, scanned⟩
    · exact .inl h
    · exact .inr (.inl h)
    · exact .inr (.inr (.inl h))
    · exact .inr (.inr (.inr ⟨candidates, scanned_later _ scanned⟩))
  lost := by
    rintro ⟨taken, mem, refused⟩
    rcases List.mem_cons.mp mem with rfl | mem
    · refine absurd (fun input event => ?_) refused
      cases event
    · obtain ⟨⟨candidates, scanned⟩, lost⟩ := account.lost ⟨taken, mem, refused⟩
      exact ⟨⟨candidates, scanned_later _ scanned⟩, lost⟩
  tallied all candidates scanned := by
    rcases scanned_cons.mp scanned with ⟨now, _⟩ | scanned
    · cases now
    · have before := account.tallied (fun taken mem => all taken (List.mem_cons_of_mem _ mem))
      exact (before candidates scanned).stays elsewhere.sales
  holds all lasts transactionId took held := by
    have before := account.holds (fun taken mem => all taken (List.mem_cons_of_mem _ mem)) lasts
    obtain ⟨taken, mem, row, policy, claiming, claimed, own⟩ := took
    rcases List.mem_cons.mp mem with rfl | mem
    · cases claiming.symm.trans claimed
    · exact before transactionId ⟨taken, mem, row, policy, claiming, claimed, own⟩
        (elsewhere.own transactionId held)
  apart all lasts taken mem := by
    have before := account.apart (fun taken mem => all taken (List.mem_cons_of_mem _ mem)) lasts
    rcases List.mem_cons.mp mem with rfl | mem
    · refine ⟨fun row failing => ?_, fun input event => ?_⟩
      · cases failing.1
      · cases event
    · exact before taken mem

/-- What a scan finds is what a sweep has to account for. -/
theorem tallied_scan (scanning : sweep.point = .scanning)
    (moves : Moves input db sweep db' next) : Tallied next.todo (db', next) := by
  have other : ∀ row point, sweep.point = point → inHand point = some row → False := by
    intro row point same hand
    rw [scanning] at same
    subst same
    cases hand
  cases moves with
  | scans point stored =>
    refine ⟨rfl, rfl, rfl, stored, ?_, ⟨rfl, nofun⟩, nofun⟩
    rintro row ⟨⟩
  | works under | settles under | fails under => exact (other _ _ rfl under.hand).elim
  | notes calm => exact (other _ _ rfl (failed_hand calm).1).elim
  | throws refused =>
    rcases refused with refused | ⟨row, policy, point, _⟩ | ⟨row, fault, point⟩
    · rw [scanning] at refused
      exact absurd trivial refused
    · cases scanning.symm.trans point
    · cases scanning.symm.trans point
  | rests ended =>
    rw [scanning] at ended
    rcases ended with ⟨_, ended⟩ | ⟨_, ended⟩ <;> cases ended
  | _ point => cases scanning.symm.trans point

/-- A sweep begins with its scan, or throws. -/
theorem moves_begin (begins : sweep.point = .begin) (moves : Moves input db sweep db' next) :
    next.point = .scanning ∨ ∃ fault, next.point = .threw fault := by
  have other : ∀ row point, sweep.point = point → inHand point = some row → False := by
    intro row point same hand
    rw [begins] at same
    subst same
    cases hand
  cases moves with
  | starts => exact .inl rfl
  | aborts _ ended | throws _ ended => exact .inr ⟨_, ended⟩
  | works under | settles under | fails under => exact (other _ _ rfl under.hand).elim
  | notes calm => exact (other _ _ rfl (failed_hand calm).1).elim
  | rests ended =>
    rw [begins] at ended
    rcases ended with ⟨_, ended⟩ | ⟨_, ended⟩ <;> cases ended
  | _ point => cases begins.symm.trans point

/-- A sweep that threw does nothing more. -/
theorem moves_threw (threw : sweep.point = .threw fault) (moves : Moves input db sweep db' next) :
    next = sweep := by
  have other : ∀ row point, sweep.point = point → inHand point = some row → False := by
    intro row point same hand
    rw [threw] at same
    subst same
    cases hand
  cases moves with
  | works under | settles under | fails under => exact (other _ _ rfl under.hand).elim
  | notes calm => exact (other _ _ rfl (failed_hand calm).1).elim
  | throws refused =>
    rcases refused with refused | ⟨row, policy, point, _⟩ | ⟨row, fault, point⟩
    · rw [threw] at refused
      exact absurd trivial refused
    · cases threw.symm.trans point
    · cases threw.symm.trans point
  | rests => rfl
  | _ point => cases threw.symm.trans point

/-- Only a sweep that begins gets to its scan. -/
theorem moves_early (early : next.point = .begin ∨ next.point = .scanning)
    (moves : Moves input db sweep db' next) : sweep.point = .begin := by
  have other : inHand next.point = none ∧ ¬ Ended next.point ∧ next.point ≠ .next := by
    rcases early with early | early <;> rw [early]
    · exact ⟨rfl, (by rintro (⟨_, same⟩ | ⟨_, same⟩) <;> cases same), nofun⟩
    · exact ⟨rfl, (by rintro (⟨_, same⟩ | ⟨_, same⟩) <;> cases same), nofun⟩
  cases moves with
  | starts point | aborts point => exact point
  | scans | loses | skips | prevents | releases => exact absurd rfl other.2.2
  | ends => exact absurd (.inl ⟨_, rfl⟩) other.2.1
  | stops _ ended => exact absurd (.inl ⟨_, ended⟩) other.2.1
  | throws _ ended => exact absurd (.inr ⟨_, ended⟩) other.2.1
  | rests ended => exact absurd ended other.2.1
  | works _ onto => cases other.1.symm.trans onto.hand
  | notes _ _ failing => cases other.1.symm.trans (failed_hand failing).1
  | settles | records => rcases early with early | early <;> cases early
  | takes | wins | yields | fails | rethrows => cases other.1

/-- What a step of the sweep itself leaves known of it. -/
theorem account_own (account : Account past (db, sweep)) (stepped : sweep.step input db = w') :
    Account (⟨(db, sweep), some input, w'⟩ :: past) w' := by
  obtain ⟨db', next⟩ := w'
  have moves := step_moves account.matched stepped
  obtain ⟨stays, unique, matched, deps⟩ := moves.sane account.unique account.matched
  have lasted : (∀ fault, next.point ≠ .threw fault) → ∀ fault, sweep.point ≠ .threw fault := by
    intro lasts fault threw
    rw [moves_threw threw moves] at lasts
    exact lasts fault threw
  constructor
  case unique => exact unique
  case matched => exact matched
  case early =>
    intro here candidates scanned
    have begins := moves_early here moves
    rcases scanned_cons.mp scanned with ⟨_, scanning, _⟩ | scanned
    · cases begins.symm.trans scanning
    · exact account.early (.inl begins) candidates scanned
  case scanned =>
    rcases account.scanned with begins | scanning | ⟨fault, threw⟩ | ⟨candidates, scanned⟩
    · rcases moves_begin begins moves with scanning | threw
      · exact .inr (.inl scanning)
      · exact .inr (.inr (.inl threw))
    · exact .inr (.inr (.inr ⟨next.todo, scanned_cons.mpr (.inl ⟨rfl, scanning, rfl⟩)⟩))
    · rw [moves_threw threw moves]
      exact .inr (.inr (.inl ⟨fault, threw⟩))
    · exact .inr (.inr (.inr ⟨candidates, scanned_later _ scanned⟩))
  case lost =>
    rintro ⟨taken, mem, refused⟩
    rcases List.mem_cons.mp mem with rfl | mem
    · have refused : ¬ Written input db sweep.point := by
        intro written
        apply refused
        rintro _ ⟨⟩
        exact written
      refine ⟨?_, moves.refused refused⟩
      rcases account.scanned with begins | scanning | ⟨fault, threw⟩ | ⟨candidates, scanned⟩
      · rw [begins] at refused
        exact absurd trivial refused
      · rw [scanning] at refused
        exact absurd trivial refused
      · rw [threw] at refused
        exact absurd trivial refused
      · exact ⟨candidates, scanned_later _ scanned⟩
    · obtain ⟨⟨candidates, scanned⟩, lost⟩ := account.lost ⟨taken, mem, refused⟩
      exact ⟨⟨candidates, scanned_later _ scanned⟩, moves.lost lost⟩
  case tallied =>
    intro all candidates scanned
    have written := all _ List.mem_cons_self input rfl
    have before := account.tallied (fun taken mem => all taken (List.mem_cons_of_mem _ mem))
    rcases scanned_cons.mp scanned with ⟨_, scanning, rfl⟩ | scanned
    · exact tallied_scan scanning moves
    · refine (before candidates scanned).moves moves written ⟨?_, ?_⟩ stays
      · exact fun begins => account.early (.inl begins) candidates scanned
      · exact fun scanning => account.early (.inr scanning) candidates scanned
  case holds =>
    intro all lasts transactionId took held
    have before := account.holds (fun taken mem => all taken (List.mem_cons_of_mem _ mem))
      (lasted lasts)
    obtain ⟨taken, mem, row, policy, claiming, claimed, own⟩ := took
    rcases List.mem_cons.mp mem with rfl | mem
    · refine ⟨row, ?_, own⟩
      rw [claimed]
      rfl
    · rw [deps] at held
      exact moves.holds account.unique lasts
        (before transactionId ⟨taken, mem, row, policy, claiming, claimed, own⟩) held
  case apart =>
    intro all lasts taken mem
    have before := account.apart (fun taken mem => all taken (List.mem_cons_of_mem _ mem))
      (lasted lasts)
    rcases List.mem_cons.mp mem with rfl | mem
    · have written := all _ List.mem_cons_self input rfl
      refine ⟨fun row failing => ?_, ?_⟩
      · exact moves.failure written lasts failing.2
      · rintro _ ⟨⟩ later gathered
        exact step_regardless input db sweep gathered later
    · exact before taken mem

theorem account_step (account : Account past w) (step : SweepStep w event w') :
    Account (⟨w, event, w'⟩ :: past) w' := by
  cases step with
  | own => exact account_own account rfl
  | elsewhere elsewhere => exact account_elsewhere account elsewhere

theorem account (run : Run Beginning SweepStep past w) : Account past w :=
  run.history (fun _ => account_start) fun _ _ _ _ => account_step

/-- A sweep that ended accounts for what it found exactly when every write that it makes around
a recovery went through. -/
theorem sweep_accounted (run : Run Beginning SweepStep past w) (ended : Ended w.2.point) :
    (∀ candidates, Scanned past candidates → Accounted past w candidates) ↔
      ∀ taken ∈ past, GoneThrough taken := by
  have account := account run
  constructor
  · intro accounted
    by_contra refused
    simp only [not_forall] at refused
    obtain ⟨taken, mem, refused⟩ := refused
    obtain ⟨⟨candidates, scanned⟩, lost⟩ := account.lost ⟨taken, mem, refused⟩
    obtain ⟨report, returned, _⟩ := (accounted candidates scanned).report
    rw [returned] at lost
    rcases lost with rethrows | ⟨fault, threw⟩
    · cases rethrows
    · cases threw
  · intro all candidates scanned
    have tallied := account.tallied all candidates scanned
    rcases ended with ⟨report, returned⟩ | ⟨fault, threw⟩
    · have lasts : ∀ fault, w.2.point ≠ .threw fault := tallied.going.2
      refine ⟨⟨report, returned, fun late => ?_⟩, fun transactionId took held => ?_,
        account.apart all lasts⟩
      · rcases tallied.report report returned with early | ⟨finished, same⟩
        · cases late.symm.trans early
        · have order := tallied.order
          have found := tallied.found
          have claimed := tallied.claimed
          simp only [returned, finished] at order claimed
          have each : w.2.gathered.results.map (·.transactionId) = candidates.map (·.id) := by
            simpa [inHand] using order
          have length : w.2.gathered.results.length = candidates.length := by
            simpa using congrArg List.length each
          rw [same]
          refine ⟨each, found, ?_, ?_⟩
          · have sum := counts_sum w.2.gathered.results
            simp only [RecoverInFlight.report, RecoverInFlight.count, found, ← length]
            exact sum
          · simpa [owed, inHand, RecoverInFlight.report] using claimed
      · obtain ⟨row, under, _⟩ := account.holds all lasts transactionId took held
        rw [returned] at under
        cases under
    · exact absurd threw (tallied.going.2 fault)

end Runs

/-- A shop with a sale the provider never answered. -/
def unansweredSale : Db :=
  { migrated with
    merchants := [⟨"shop", .active⟩], devices := [⟨"till", "shop", .active⟩]
    transactions :=
      [{ id := "sale", merchantId := "shop", deviceId := "till", operatorId := "cashier"
         productType := "airtime", providerId := none, amount := ⟨1000, safe_thousand⟩
         recipientMasked := "09******44", state := .processing, idempotencyKey := "key"
         payloadFingerprint := "fingerprint", providerReference := none
         createdAt := 0, updatedAt := 0 }] }

/-- A worker's sweep, before its first step. -/
def worker : RecoverInFlight where
  deps :=
    { workerId := "worker"
      recovery :=
        { recoveryAgeMs := 60, pendingMaximumMs := 500, maxStatusAttempts := 5, claimLeaseMs := 30
          statusCheckIntervalMs := 30, batchLimit := 100 } }
  scanId := ""
  startedAt := 0
  todo := []
  gathered := {}
  point := .begin

/-- One more step of the sweep, at which the database may be busy. -/
def turn (tag : String) (busy : Bool) : Option Input :=
  some
    { now := fun _ => 100, newId := fun index => tag ++ ["0", "1", "2"].getD index "3", busy
      health := .answered true, submission := .answered ⟨.confirmedSuccess, none⟩
      status := .answered ⟨.stillPending, none⟩, reversal := .answered (), shouldContinue := true }

def turned (w : Sweeping) (event : Option Input) : Sweeping :=
  (event.map fun input => w.2.step input w.1).getD w

/-- Steps of the sweep at the shop. -/
def turnsPlayed (events : List (Option Input)) : List SweepTaken × Sweeping :=
  played turned events [] (unansweredSale, worker)

theorem turnsPlayed_run (events : List (Option Input))
    (own : ∀ event ∈ events, event.isSome = true) :
    Run Beginning SweepStep (turnsPlayed events).1 (turnsPlayed events).2 := by
  have steps : ∀ (w : Sweeping) event, event.isSome = true → SweepStep w event (turned w event) := by
    intro w event made
    obtain ⟨input, rfl⟩ := Option.isSome_iff_exists.mp made
    exact .own
  have playable : ∀ events (w : Sweeping), (∀ event ∈ events, event.isSome = true) →
      Playable (fun (_ : Sweeping) event => event.isSome = true) turned events w := by
    intro events
    induction events with
    | nil => exact fun _ _ => trivial
    | cons event events ih =>
      intro w own
      obtain ⟨now, later⟩ := List.forall_mem_cons.mp own
      exact ⟨now, ih (turned w event) later⟩
  have start : Beginning (unansweredSale, worker) := ⟨rfl, List.nodup_nil⟩
  exact Run.play steps (.start start) (playable events _ own)

/-- The database is busy when the claim on the sale is about to be noted. -/
def cutShort : List (Option Input) :=
  [turn "a" false, turn "b" false, turn "c" false, turn "d" false, turn "e" true]

/-- A sweep that could not note its claim throws: it tells nothing of the sale it found, and keeps
its claim. -/
theorem cut_short_unaccounted :
    Run Beginning SweepStep (turnsPlayed cutShort).1 (turnsPlayed cutShort).2 ∧
      (turnsPlayed cutShort).2.2.point = .threw .busy ∧
      Scanned (turnsPlayed cutShort).1 [⟨"sale", "shop"⟩] ∧
      HeldBy (turnsPlayed cutShort).2.1 "sale" "worker" ∧
      ¬ Accounted (turnsPlayed cutShort).1 (turnsPlayed cutShort).2 [⟨"sale", "shop"⟩] := by
  have threw : (turnsPlayed cutShort).2.2.point = .threw .busy := by decide +kernel
  refine ⟨turnsPlayed_run _ (by decide), threw, ?_, ?_, ?_⟩
  · refine ⟨_, List.mem_of_getElem? (i := 3) rfl, rfl, ?_, ?_⟩
    · decide +kernel
    · decide +kernel
  · unfold HeldBy
    decide +kernel
  · rintro ⟨⟨report, returned, _⟩, _, _⟩
    rw [threw] at returned
    cases returned

/-- The database is busy when the provider's answer is about to be applied, and when it has
failed, not any more. -/
def failedOnce : List (Option Input) :=
  [turn "a" false, turn "b" false, turn "c" false, turn "d" false, turn "e" false, turn "f" false,
    turn "g" false, turn "h" false, turn "i" false, turn "j" false, turn "k" true, turn "l" false,
    turn "m" false, turn "n" false, turn "o" false, turn "p" false]

/-- What the sweep then reports. -/
def failedReport : SweepReport :=
  { scanId := "a0", startedAt := 100, finishedAt := 100, found := 1, claimed := 1
    duplicateWorkersPrevented := 0, recoveredSuccessful := 0, recoveredFailed := 0
    releasedNeverSubmitted := 0, movedToPending := 0, escalatedUnderReview := 0, skipped := 0
    recoveryFailures := 1, operationalAlerts := 1, providerLookupMs := 0, stoppedEarly := false
    results :=
      [{ transactionId := "sale", merchantId := "shop", kind := .recoveryFailed
         stateBefore := .processing, state := .processing, providerOutcome := .unknown
         correlationId := "a0", operationalAlert := true
         reasonCode := some (recoveryCode .busy) }] }

/-- A sweep whose recovery of the sale failed accounts for it. -/
theorem failed_once_accounted :
    (turnsPlayed failedOnce).2.2.point = .returned failedReport ∧
      Accounted (turnsPlayed failedOnce).1 (turnsPlayed failedOnce).2 [⟨"sale", "shop"⟩] := by
  have returned : (turnsPlayed failedOnce).2.2.point = .returned failedReport := by
    decide +kernel
  have scanned : Scanned (turnsPlayed failedOnce).1 [⟨"sale", "shop"⟩] := by
    refine ⟨_, List.mem_of_getElem? (i := 14) rfl, rfl, ?_, ?_⟩
    · decide +kernel
    · decide +kernel
  have through : ∀ taken ∈ (turnsPlayed failedOnce).1, GoneThrough taken := by
    decide +kernel
  exact ⟨returned, (sweep_accounted (turnsPlayed_run _ (by decide)) (.inl ⟨_, returned⟩)).mpr
    through _ scanned⟩

end Telga.Proofs.SweepReports
