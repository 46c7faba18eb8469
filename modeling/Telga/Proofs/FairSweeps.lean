import Telga.Proofs.RecoveryEffects

namespace Telga.Proofs.Fairness
open Domain Persistence Application Library
open SweepReports (Sweeping OneClaimEach failed)

/-- The longest recovery age of any provider's policy. -/
def maximumRecoveryAgeMs (config : RecoveryConfig) : Int :=
  config.perProvider.foldl
    (fun longest entry => max longest (entry.2.recoveryAgeMs.getD config.recoveryAgeMs))
    config.recoveryAgeMs

/-- The most status checks that any provider's policy allows. -/
def mostStatusAttempts (config : RecoveryConfig) : Nat :=
  config.perProvider.foldl
    (fun most entry => max most (entry.2.maxStatusAttempts.getD config.maxStatusAttempts))
    config.maxStatusAttempts

/-- A sweep before its first step. -/
def unstarted (deps : RecoveryDeps) : RecoverInFlight where
  deps := deps
  scanId := ""
  startedAt := 0
  todo := []
  gathered := {}
  point := .begin

/-- The steps of a sweep while nothing else writes. -/
abbrev SweepRun (deps : RecoveryDeps) (db : Db) :=
  Run (· = ((db, unstarted deps) : Sweeping)) fun w (input : Input) w' =>
    w' = w.2.step input w.1

abbrev Swept := Taken Sweeping Input

/-- The sweep claimed a sale. -/
def Claimed (t : TransactionId) (past : List Swept) : Prop :=
  ∃ taken ∈ past, ∃ row policy, taken.before.2.point = .claiming row policy ∧
    taken.after.2.point = .claimed row policy ∧ row.id = t

/-- The recovery of a sale that the sweep has claimed returns; it does not throw. -/
def Returned (taken : Swept) : Prop :=
  (∃ row, taken.after.2.point = .releasing row none) ∧ failed taken.before.2.point = none

/-- Every time that a step reads lies within some bounds. -/
def Within (lo hi : Timestamp) (input : Input) : Prop :=
  ∀ index, lo ≤ input.now index ∧ input.now index ≤ hi

/-- The sales in flight that a sweep looks for. -/
def inFlight (deps : RecoveryDeps) (db : Db) : List TransactionRow :=
  db.transactions.filter fun row =>
    row.state ∈ inFlightStates ∧ ∀ wanted ∈ deps.merchantId, row.merchantId = wanted

section Policies

variable {α : Type} {β : Type} [LinearOrder β]

theorem foldl_max_least (value : α → β) (entries : List α) (first : β) :
    first ≤ entries.foldl (fun most entry => max most (value entry)) first := by
  induction entries generalizing first with
  | nil => exact le_refl first
  | cons entry entries ih => exact le_trans (le_max_left ..) (ih _)

theorem foldl_max_member (value : α → β) {entries : List α} {entry : α} (mem : entry ∈ entries)
    (first : β) : value entry ≤ entries.foldl (fun most entry => max most (value entry)) first := by
  induction entries generalizing first with
  | nil => cases mem
  | cons head entries ih =>
    rcases List.mem_cons.mp mem with rfl | mem
    · exact le_trans (le_max_right ..) (foldl_max_least value entries _)
    · exact ih mem _

theorem foldl_min_least (value : α → β) (entries : List α) (first : β) :
    entries.foldl (fun least entry => min least (value entry)) first ≤ first := by
  induction entries generalizing first with
  | nil => exact le_refl first
  | cons entry entries ih => exact le_trans (ih _) (min_le_left ..)

/-- A provider's policy is the base policy, or overridden by an entry of its own. -/
theorem policyFor_cases (config : RecoveryConfig) (providerId : Option String) :
    policyFor config providerId = config.toRecoveryPolicy ∨
      ∃ entry ∈ config.perProvider,
        (policyFor config providerId).recoveryAgeMs =
          entry.2.recoveryAgeMs.getD config.recoveryAgeMs ∧
        (policyFor config providerId).maxStatusAttempts =
          entry.2.maxStatusAttempts.getD config.maxStatusAttempts := by
  unfold policyFor
  cases found : providerId.bind fun id => config.perProvider.lookup id with
  | none => exact .inl rfl
  | some override =>
    obtain ⟨id, _, looked⟩ := Option.bind_eq_some_iff.mp found
    obtain ⟨front, back, split, _⟩ := List.lookup_eq_some_iff.mp looked
    exact .inr ⟨(id, override), by simp [split], rfl, rfl⟩

theorem age_le (config : RecoveryConfig) (providerId : Option String) :
    (policyFor config providerId).recoveryAgeMs ≤ maximumRecoveryAgeMs config := by
  rcases policyFor_cases config providerId with base | ⟨entry, mem, age, _⟩
  · rw [base]
    exact foldl_max_least _ _ _
  · rw [age]
    exact foldl_max_member (fun entry : String × PolicyOverride =>
      entry.2.recoveryAgeMs.getD config.recoveryAgeMs) mem _

theorem attempts_le (config : RecoveryConfig) (providerId : Option String) :
    (policyFor config providerId).maxStatusAttempts ≤ mostStatusAttempts config := by
  rcases policyFor_cases config providerId with base | ⟨entry, mem, _, attempts⟩
  · rw [base]
    exact foldl_max_least _ _ _
  · rw [attempts]
    exact foldl_max_member (fun entry : String × PolicyOverride =>
      entry.2.maxStatusAttempts.getD config.maxStatusAttempts) mem _

theorem minimum_le_maximum (config : RecoveryConfig) :
    minimumRecoveryAgeMs config ≤ maximumRecoveryAgeMs config :=
  le_trans (foldl_min_least _ _ _) (foldl_max_least _ _ _)

end Policies

/-- A database as the sweeps leave it: the keys of its tables are unique, the job of a sale in
flight is awaited, and no sale carries a later time than the latest. -/
structure Tidy (latest : Timestamp) (db : Db) : Prop where
  ids : Unique (·.id) db.transactions
  claims : OneClaimEach db
  awaits : ∀ t, flies db t = true → Awaits db t
  dated : ∀ row ∈ db.transactions, row.updatedAt ≤ latest

/-- Every lease that was not given back has run out, but the one that is held. -/
def Leased (held : Option TransactionId) (workerId : String) (now : Timestamp) (db : Db) : Prop :=
  ∀ claim ∈ db.recoveryClaims, claim.active = true →
    claim.expiresAt ≤ now ∨ held = some claim.transactionId ∧ claim.workerId = workerId

/-- The sale a sweep has in hand, from its candidate to its release. -/
def hand : SweepPoint → Option TransactionRow
  | .claiming row _ | .prevented row | .claimed row _ | .reading row _ | .job row _ _
  | .failing row _ | .failedRow row _ | .failedJob row _ _ | .releasing row _ => some row
  | .neverSubmitted work | .uncertain work | .announcing work | .lookingUp work _
  | .noting work _ _ _ | .applying work _ _ _ => some work.row
  | .begin | .scanning | .next | .returned _ | .threw _ => none

/-- The sale whose claim a sweep holds. -/
def held : SweepPoint → Option TransactionId
  | .claiming _ _ | .prevented _ => none
  | point => (hand point).map (·.id)

/-- A sale in hand that nothing was done to yet. -/
structure Waits (most : Nat) (db : Db) (row : TransactionRow) (policy : RecoveryPolicy) : Prop where
  mem : row ∈ db.transactions
  flying : row.state ∈ inFlightStates
  few : policy.maxStatusAttempts ≤ most

/-- A sale that is looked up: it is processed, or pending. -/
structure Going (most : Nat) (db : Db) (work : UnderClaim) : Prop where
  own : work.current.id = work.row.id
  going : stateOf db work.current.id = some .processing ∨ stateOf db work.current.id = some .pending
  few : work.policy.maxStatusAttempts ≤ most

/-- What is known of the sale in hand. No claim of it is refused. -/
def Stands (most : Nat) (db : Db) : SweepPoint → Prop
  | .claiming row policy | .claimed row policy | .reading row policy => Waits most db row policy
  | .job row policy current => current = row ∧ Waits most db row policy
  | .neverSubmitted work | .uncertain work =>
    work.current = work.row ∧ Waits most db work.row work.policy
  | .announcing work | .lookingUp work _ | .noting work _ _ _ | .applying work _ _ _ =>
    Going most db work
  | .prevented _ => False
  | _ => True

/-- A sweep that has thrown, or is about to. -/
def Lost : SweepPoint → Prop
  | .threw _ | .releasing _ (some _) => True
  | _ => False

/-- What the scan finds. -/
def candidates (deps : RecoveryDeps) (startedAt : Timestamp) (db : Db) : List Candidate :=
  findInFlightOlderThan db inFlightStates (startedAt - minimumRecoveryAgeMs deps.recovery)
    deps.recovery.batchLimit deps.merchantId

/-- The scan has been made, and what it found is dealt with one after another: where everything was
old enough, each of them is still to come, about to be claimed, or claimed. -/
structure Searched (deps : RecoveryDeps) (lo latest : Timestamp) (first : Db) (past : List Swept)
    (sweep : RecoverInFlight) (startedAt : Timestamp) : Prop where
  later : sweep.point ≠ .begin ∧ sweep.point ≠ .scanning
  since : lo ≤ startedAt
  found : sweep.gathered.found = (candidates deps startedAt first).length
  each : latest + maximumRecoveryAgeMs deps.recovery ≤ lo →
    ∀ c ∈ candidates deps startedAt first, c ∈ sweep.todo ∨
      (∃ row policy, sweep.point = .claiming row policy ∧ row.id = c.id) ∨ Claimed c.id past

/-- A sweep on its way: what it has to do with the sales as they were when it began. -/
structure Way (deps : RecoveryDeps) (lo hi latest : Timestamp) (first : Db) (past : List Swept)
    (w : Sweeping) : Prop where
  same : w.2.deps = deps
  tidy : Tidy hi w.1
  leased : Leased (held w.2.point) deps.workerId lo w.1
  stands : Stands (mostStatusAttempts deps.recovery) w.1 w.2.point
  claimed : ∀ t, held w.2.point = some t → Claimed t past
  nodup : ((hand w.2.point).toList.map (·.id) ++ w.2.todo.map (·.id)).Nodup
  queue : ∀ c ∈ w.2.todo, ∃ row ∈ inFlight deps first,
    row.id = c.id ∧ row.merchantId = c.merchantId ∧ row ∈ w.1.transactions
  inHand : ∀ row, hand w.2.point = some row → ∃ old ∈ inFlight deps first, old.id = row.id
  rows : ∀ row ∈ first.transactions, ¬ Claimed row.id past → row ∈ w.1.transactions
  merchants : ∀ row ∈ w.1.transactions, ∃ old ∈ first.transactions,
    old.id = row.id ∧ old.merchantId = row.merchantId
  shrinks : ∀ t, left (mostStatusAttempts deps.recovery) w.1 t ≤
    left (mostStatusAttempts deps.recovery) first t
  drops : (∃ taken ∈ past, Returned taken) → ∃ row ∈ inFlight deps first,
    left (mostStatusAttempts deps.recovery) w.1 row.id <
      left (mostStatusAttempts deps.recovery) first row.id
  scan : ((w.2.point = .begin ∨ w.2.point = .scanning ∧ lo ≤ w.2.startedAt) ∧
      w.1.transactions = first.transactions) ∨
    ∃ startedAt, Searched deps lo latest first past w.2 startedAt
  ended : ∀ report, w.2.point = .returned report → report.found = w.2.gathered.found ∧
    (report.stoppedEarly = false → w.2.todo = [])

section Steps

variable {deps : RecoveryDeps} {lo hi latest : Timestamp} {first db db' : Db}
  {past : List Swept} {sweep next : RecoverInFlight} {input : Input} {row : TransactionRow}
  {t : TransactionId} {most : Nat}

theorem claimed_cons {taken : Swept} : Claimed t (taken :: past) ↔
    (∃ row policy, taken.before.2.point = .claiming row policy ∧
      taken.after.2.point = .claimed row policy ∧ row.id = t) ∨ Claimed t past := by
  simp [Claimed]

theorem claimed_later (taken : Swept) (claimed : Claimed t past) : Claimed t (taken :: past) :=
  claimed_cons.mpr (.inr claimed)

theorem Tidy.alters (tidy : Tidy hi db) (alters : Alters t hi db db')
    (awaits : flies db' t = true → Awaits db' t) : Tidy hi db' := by
  refine ⟨alters.unique tidy.ids, ?_, ?_, alters.dated tidy.dated⟩
  · unfold OneClaimEach
    rw [alters.claims]
    exact tidy.claims
  · intro u flying
    by_cases apart : u = t
    · rw [apart] at flying ⊢
      exact awaits flying
    · apply alters.awaits apart
      apply tidy.awaits
      have same : flies db' u = flies db u := by
        unfold flies
        rw [alters.state_eq apart]
      rw [← same]
      exact flying

/-- A write of neither a sale nor a job leaves what is left of every sale. -/
theorem left_still (sales : db'.transactions = db.transactions)
    (jobs : db'.pendingResolutions = db.pendingResolutions) :
    left most db' t = left most db t := by
  unfold left flies attemptsOf findPendingResolution
  rw [stateOf_congr sales, jobs]

theorem awaits_still (sales : db'.transactions = db.transactions)
    (jobs : db'.pendingResolutions = db.pendingResolutions) (tidy : Tidy hi db)
    (flying : flies db' t = true) : Awaits db' t := by
  have same : flies db' t = flies db t := by
    unfold flies
    rw [stateOf_congr sales]
  have awaits := tidy.awaits t (same ▸ flying)
  unfold Awaits jobOf findPendingResolution at awaits ⊢
  rw [jobs]
  exact awaits

theorem left_le (alters : Alters t hi db db') (less : left most db' t ≤ left most db t)
    (u : TransactionId) : left most db' u ≤ left most db u := by
  by_cases apart : u = t
  · rw [apart]
    exact less
  · exact Nat.le_of_eq (alters.left_eq apart)

/-- The sweep works on the sale it has claimed: nothing else changes, and a recovery that returns
has used one up. -/
theorem Way.on (way : Way deps lo hi latest first past (db, sweep)) (next : RecoverInFlight)
    (handed : hand sweep.point = some row) (holds : held sweep.point = some row.id)
    (alters : Alters row.id hi db db')
    (less : left (mostStatusAttempts deps.recovery) db' row.id ≤
      left (mostStatusAttempts deps.recovery) db row.id)
    (awaits : flies db' row.id = true → Awaits db' row.id)
    (point : hand next.point = some row ∧ held next.point = some row.id)
    (rest : next.deps = sweep.deps ∧ next.todo = sweep.todo ∧
      next.gathered.found = sweep.gathered.found)
    (stands : Stands (mostStatusAttempts deps.recovery) db' next.point)
    (returned : Returned ⟨(db, sweep), input, (db', next)⟩ →
      left (mostStatusAttempts deps.recovery) db' row.id <
        left (mostStatusAttempts deps.recovery) db row.id) :
    Way deps lo hi latest first (⟨(db, sweep), input, (db', next)⟩ :: past) (db', next) := by
  obtain ⟨handed', holds'⟩ := point
  obtain ⟨same, todo, found⟩ := rest
  have claimed : Claimed row.id past := way.claimed row.id holds
  have nodup := way.nodup
  simp only [handed, Option.toList_some, List.map_cons, List.map_nil, List.cons_append,
    List.nil_append, List.nodup_cons] at nodup
  have lessAll := left_le alters less
  refine ⟨same.trans way.same, way.tidy.alters alters awaits, ?_, stands, ?_, ?_, ?_, ?_, ?_, ?_,
    ?_, ?_, ?_, ?_⟩
  · change Leased (held next.point) deps.workerId lo db'
    rw [holds', ← holds]
    intro claim mem
    rw [alters.claims] at mem
    exact way.leased claim mem
  · intro t holding
    change held next.point = some t at holding
    rw [holds'] at holding
    cases holding
    exact claimed_later _ claimed
  · change ((hand next.point).toList.map (·.id) ++ next.todo.map (·.id)).Nodup
    rw [handed', todo]
    simpa using nodup
  · intro c mem
    change c ∈ next.todo at mem
    rw [todo] at mem
    obtain ⟨old, there, id, merchant, stored⟩ := way.queue c mem
    refine ⟨old, there, id, merchant, alters.kept stored ?_⟩
    intro own
    apply nodup.1
    rw [← own, id]
    exact List.mem_map_of_mem mem
  · intro other inHand
    change hand next.point = some other at inHand
    rw [handed'] at inHand
    cases inHand
    exact way.inHand row handed
  · intro other mem unclaimed
    have before : ¬ Claimed other.id past := fun now => unclaimed (claimed_later _ now)
    apply alters.kept (way.rows other mem before)
    intro own
    rw [own] at before
    exact before claimed
  · intro other mem
    obtain ⟨old, there, id, merchant⟩ := alters.merchant mem
    obtain ⟨oldest, there', id', merchant'⟩ := way.merchants old there
    exact ⟨oldest, there', id'.trans id, merchant'.trans merchant⟩
  · intro u
    exact Nat.le_trans (lessAll u) (way.shrinks u)
  · intro ⟨taken, mem, returns⟩
    rcases List.mem_cons.mp mem with rfl | mem
    · obtain ⟨old, there, id⟩ := way.inHand row handed
      refine ⟨old, there, ?_⟩
      rw [id]
      exact Nat.lt_of_lt_of_le (returned returns) (way.shrinks row.id)
    · obtain ⟨old, there, dropped⟩ := way.drops ⟨taken, mem, returns⟩
      exact ⟨old, there, Nat.lt_of_le_of_lt (lessAll old.id) dropped⟩
  · rcases way.scan with ⟨early, _⟩ | ⟨startedAt, searched⟩
    · rcases early with begins | ⟨scans, _⟩
      · rw [show sweep.point = .begin from begins] at handed
        cases handed
      · rw [show sweep.point = .scanning from scans] at handed
        cases handed
    · refine .inr ⟨startedAt, ⟨?_, ?_⟩, searched.since, found.trans searched.found, ?_⟩
      · intro begins
        rw [show next.point = .begin from begins] at handed'
        cases handed'
      · intro scans
        rw [show next.point = .scanning from scans] at handed'
        cases handed'
      intro aged c mem
      rcases searched.each aged c mem with waits | ⟨other, policy, claiming, _⟩ | taken
      · exact .inl (todo ▸ waits)
      · rw [show sweep.point = .claiming other policy from claiming] at holds
        cases holds
      · exact .inr (.inr (claimed_later _ taken))
  · intro report ended
    rw [show next.point = .returned report from ended] at handed'
    cases handed'

theorem Stands.still (stands : Stands most db point) (sales : db'.transactions = db.transactions) :
    Stands most db' point := by
  have waits : ∀ {row policy}, Waits most db row policy → Waits most db' row policy :=
    fun waits => ⟨sales ▸ waits.mem, waits.flying, waits.few⟩
  have going : ∀ {work}, Going most db work → Going most db' work := by
    intro work going
    refine ⟨going.own, ?_, going.few⟩
    rw [stateOf_congr sales]
    exact going.going
  cases point with
  | claiming row policy | claimed row policy | reading row policy => exact waits stands
  | job row policy current | neverSubmitted work | uncertain work =>
    exact ⟨stands.1, waits stands.2⟩
  | announcing work | lookingUp work lookupStart | noting work lookupMs outcome reference
  | applying work lookupMs outcome reference => exact going stands
  | prevented row => exact stands
  | _ => trivial

/-- A recovery has come to an end, and its claim is about to be given back. -/
def settles : SweepPoint → Bool
  | .releasing _ none => true
  | _ => false

/-- A step that keeps the claim on the sale in hand, and is not where a recovery returns. -/
structure Carries (row : TransactionRow) (point onto : SweepPoint) : Prop where
  handed : hand point = some row
  holds : held point = some row.id
  hands : hand onto = some row
  held : held onto = some row.id
  silent : failed point = none → settles onto = false

/-- A step under claim that writes no more than an audit event. -/
theorem Way.quietly (way : Way deps lo hi latest first past (db, sweep))
    (carries : Carries row sweep.point onto) (audited : SweepReports.Audited db db')
    (stands : Stands (mostStatusAttempts deps.recovery) db onto)
    (rest : next.deps = sweep.deps ∧ next.todo = sweep.todo ∧
      next.gathered.found = sweep.gathered.found) (there : next.point = onto) :
    Way deps lo hi latest first (⟨(db, sweep), input, (db', next)⟩ :: past) (db', next) := by
  have same : db'.transactions = db.transactions ∧
      db'.pendingResolutions = db.pendingResolutions ∧ db'.recoveryClaims = db.recoveryClaims := by
    obtain ⟨audits, rfl⟩ := audited
    exact ⟨rfl, rfl, rfl⟩
  obtain ⟨sales, jobs, claims⟩ := same
  subst there
  apply way.on next carries.handed carries.holds (.same sales jobs claims)
    (Nat.le_of_eq (left_still sales jobs))
  · exact awaits_still sales jobs way.tidy
  · exact ⟨carries.hands, carries.held⟩
  · exact rest
  · exact stands.still sales
  · intro ⟨⟨other, releases⟩, calm⟩
    have silent := carries.silent calm
    rw [show next.point = .releasing other none from releases] at silent
    cases silent

/-- A step under claim that writes nothing. -/
theorem Way.turns (way : Way deps lo hi latest first past (db, sweep)) (onto : SweepPoint)
    (here : sweep.point = point) (carries : Carries row point onto)
    (stands : Stands (mostStatusAttempts deps.recovery) db onto) :
    Way deps lo hi latest first (⟨(db, sweep), input, (db, sweep.at onto)⟩ :: past)
      (db, sweep.at onto) := by
  subst here
  exact way.quietly carries ⟨db.auditEvents, rfl⟩ stands ⟨rfl, rfl, rfl⟩ rfl

/-- A recovery that throws leaves everything as it was. -/
theorem Way.fails (way : Way deps lo hi latest first past (db, sweep)) (fault : Fault)
    (here : sweep.point = point) (handed : hand point = some row) (holds : held point = some row.id) :
    Way deps lo hi latest first (⟨(db, sweep), input, (db, sweep.at (.failing row fault))⟩ :: past)
      (db, sweep.at (.failing row fault)) :=
  way.turns (.failing row fault) here ⟨handed, holds, rfl, rfl, fun _ => rfl⟩ trivial

/-- A step under claim that notes something in the audit trail. -/
theorem Way.audits (way : Way deps lo hi latest first past (db, sweep)) (onto : SweepPoint)
    (here : sweep.point = point) (carries : Carries row point onto) {thrown : Fault → SweepPoint}
    (stands : Stands (mostStatusAttempts deps.recovery) db onto)
    (threw : ∀ fault, Lost (thrown fault) ∨ thrown fault = .failing row fault)
    (moved : sweep.auditing input db action about correlationId onto thrown = (db', next)) :
    Lost next.point ∨
      Way deps lo hi latest first (⟨(db, sweep), input, (db', next)⟩ :: past) (db', next) := by
  subst here
  rcases SweepReports.auditing_cases sweep input db action about correlationId onto thrown with
    ⟨_, _, audited, same⟩ | ⟨_, fault, same⟩
  · rw [same] at moved
    cases moved
    exact .inr (way.quietly carries audited stands ⟨rfl, rfl, rfl⟩ rfl)
  · rw [same] at moved
    cases moved
    rcases threw fault with lost | fails
    · exact .inl lost
    · right
      rw [fails]
      exact way.fails fault rfl carries.handed carries.holds

theorem find_own (tidy : Tidy hi db) (mem : row ∈ db.transactions) :
    findTransaction db row.id row.merchantId = some row := by
  unfold findTransaction
  cases found : db.transactions.find? (fun other =>
      other.id = row.id ∧ other.merchantId = row.merchantId) with
  | none =>
    have missed := List.find?_eq_none.mp found row mem
    simp at missed
  | some other =>
    have fits := List.find?_some found
    simp only [decide_eq_true_eq] at fits
    rw [tidy.ids.eq (List.mem_of_find?_eq_some found) mem fits.1]

/-- A sale older than the longest recovery age is not too recent. -/
theorem not_young {late now lo age longest written : Int} (aged : late + longest ≤ lo)
    (dated : written ≤ late) (after : lo ≤ now) (within : age ≤ longest) :
    ¬ now - written < age := by
  omega

theorem old_enough {late startedAt lo least longest written : Int} (aged : late + longest ≤ lo)
    (dated : written ≤ late) (since : lo ≤ startedAt) (within : least ≤ longest) :
    written ≤ startedAt - least := by
  omega

theorem Waits.flies {policy : RecoveryPolicy} (waits : Waits most db row policy)
    (tidy : Tidy hi db) : flies db row.id = true := by
  rw [flies_of_state (stateOf_of_mem tidy.ids waits.mem)]
  exact decide_eq_true waits.flying

theorem Going.flies {work : UnderClaim} (going : Going most db work) :
    flies db work.current.id = true := by
  rcases going.going with stored | stored
  · rw [flies_of_state stored]
    rfl
  · rw [flies_of_state stored]
    rfl

/-- One step of the recovery of a sale under claim. -/
theorem Way.works (way : Way deps lo hi latest first past (db, sweep)) (within : Within lo hi input)
    (holds : held sweep.point = some t) (stays : ∀ row rethrown, sweep.point ≠ .releasing row rethrown)
    (moved : sweep.step input db = (db', next)) :
    Lost next.point ∨
      Way deps lo hi latest first (⟨(db, sweep), input, (db', next)⟩ :: past) (db', next) := by
  have stands := way.stands
  have tidy := way.tidy
  cases point : sweep.point with
  | claimed row policy =>
    simp only [RecoverInFlight.step, point] at moved
    rw [point] at stands
    refine way.audits (.reading row policy) point ⟨rfl, rfl, rfl, rfl, fun _ => rfl⟩ stands ?_ moved
    intro fault
    exact .inl trivial
  | reading row policy =>
    rw [point] at stands
    change Waits _ db row policy at stands
    simp only [RecoverInFlight.step, point, find_own tidy stands.mem] at moved
    cases moved
    right
    exact way.turns (.job row policy row) point ⟨rfl, rfl, rfl, rfl, fun _ => rfl⟩ ⟨rfl, stands⟩
  | job row policy current =>
    rw [point] at stands
    change current = row ∧ Waits _ db row policy at stands
    obtain ⟨rfl, waits⟩ := stands
    have flying := waits.flying
    simp only [inFlightStates, List.mem_cons, List.not_mem_nil, or_false] at flying
    simp only [RecoverInFlight.step, point] at moved
    by_cases settled : current.state ≠ .processing ∧ current.state ≠ .reserved ∧
        current.state ≠ .pending
    · obtain ⟨processing, reserved, pending⟩ := settled
      rcases flying with now | now | now
      · exact absurd now processing
      · exact absurd now reserved
      · exact absurd now pending
    · rw [if_neg settled] at moved
      by_cases never : current.state = .reserved ∧ current.providerReference = none
      · rw [if_pos never] at moved
        cases moved
        right
        exact way.turns (.neverSubmitted _) point ⟨rfl, rfl, rfl, rfl, fun _ => rfl⟩ ⟨rfl, waits⟩
      · rw [if_neg never] at moved
        by_cases reserved : current.state = .reserved
        · rw [if_pos reserved] at moved
          cases moved
          right
          exact way.turns (.uncertain _) point ⟨rfl, rfl, rfl, rfl, fun _ => rfl⟩ ⟨rfl, waits⟩
        · rw [if_neg reserved] at moved
          cases moved
          have stored := stateOf_of_mem tidy.ids waits.mem
          have going : stateOf db current.id = some .processing ∨
              stateOf db current.id = some .pending := by
            rcases flying with now | now | now
            · exact .inl (stored.trans (congrArg some now))
            · exact absurd now reserved
            · exact .inr (stored.trans (congrArg some now))
          right
          exact way.turns (.announcing _) point ⟨rfl, rfl, rfl, rfl, fun _ => rfl⟩
            ⟨rfl, going, waits.few⟩
  | neverSubmitted work =>
    rw [point] at stands
    change work.current = work.row ∧ Waits _ db work.row work.policy at stands
    obtain ⟨own, waits⟩ := stands
    simp only [RecoverInFlight.step, point] at moved
    rcases unit_cases input (releaseNeverSubmitted work input) db with
      ⟨after, result, _, done, same⟩ | ⟨fault, same⟩
    · rw [same] at moved
      cases moved
      have present : Present (·.id) work.current.id db.transactions := by
        rw [own]
        exact ⟨work.row, waits.mem, rfl⟩
      have flying : flies db work.current.id = true := by
        rw [own]
        exact waits.flies tidy
      have alters := releaseNeverSubmitted_alters present (within 0).2 done
      have advances : Advances (mostStatusAttempts deps.recovery) work.current.id db db' :=
        releaseNeverSubmitted_advances present flying done
      rw [own] at alters advances
      right
      exact way.on _ (by rw [point]; rfl) (by rw [point]; rfl) alters
        (Nat.le_of_lt advances.less) advances.awaits ⟨rfl, rfl⟩ ⟨rfl, rfl, rfl⟩ trivial
        (fun _ => advances.less)
    · rw [same] at moved
      cases moved
      exact .inr (way.fails fault point rfl rfl)
  | uncertain work =>
    rw [point] at stands
    change work.current = work.row ∧ Waits _ db work.row work.policy at stands
    obtain ⟨own, waits⟩ := stands
    simp only [RecoverInFlight.step, point] at moved
    rcases unit_cases input (moveUncertain work input) db with
      ⟨after, answer, _, done, same⟩ | ⟨fault, same⟩
    · rw [same] at moved
      cases moved
      have present : Present (·.id) work.current.id db.transactions := by
        rw [own]
        exact ⟨work.row, waits.mem, rfl⟩
      have flying : flies db work.current.id = true := by
        rw [own]
        exact waits.flies tidy
      have alters := moveUncertain_alters present (within 0).2 done
      obtain ⟨stored, awaits, kept⟩ := moveUncertain_keeps present flying
        (tidy.awaits _ flying) done
      have going : Going (mostStatusAttempts deps.recovery) db' work :=
        ⟨congrArg (·.id) own, .inr stored, waits.few⟩
      rw [own] at alters awaits kept
      right
      apply way.on (sweep.at (.announcing work)) (by rw [point]; rfl) (by rw [point]; rfl) alters
        (Nat.le_of_eq kept) (fun _ => awaits) ⟨rfl, rfl⟩ ⟨rfl, rfl, rfl⟩ going
      rintro ⟨⟨_, releases⟩, _⟩
      cases releases
    · rw [same] at moved
      cases moved
      exact .inr (way.fails fault point rfl rfl)
  | announcing work =>
    rw [point] at stands
    simp only [RecoverInFlight.step, point] at moved
    refine way.audits (.lookingUp work (input.now 1)) point ⟨rfl, rfl, rfl, rfl, fun _ => rfl⟩
      stands ?_ moved
    intro fault
    exact .inr rfl
  | lookingUp work lookupStart =>
    rw [point] at stands
    right
    simp only [RecoverInFlight.step, point] at moved
    cases status : input.status with
    | answered told =>
      rw [status] at moved
      cases moved
      exact way.turns (.noting work _ _ _) point ⟨rfl, rfl, rfl, rfl, fun _ => rfl⟩ stands
    | threw live token =>
      rw [status] at moved
      cases moved
      exact way.turns (.noting work _ _ _) point ⟨rfl, rfl, rfl, rfl, fun _ => rfl⟩ stands
  | noting work lookupMs outcome reference =>
    rw [point] at stands
    simp only [RecoverInFlight.step, point] at moved
    refine way.audits (.applying work lookupMs outcome reference) point
      ⟨rfl, rfl, rfl, rfl, fun _ => rfl⟩ stands ?_ moved
    intro fault
    exact .inr rfl
  | applying work lookupMs outcome reference =>
    rw [point] at stands
    change Going _ db work at stands
    simp only [RecoverInFlight.step, point] at moved
    rcases unit_cases input (applyLookup work outcome reference input) db with
      ⟨after, result, _, done, same⟩ | ⟨fault, same⟩
    · rw [same] at moved
      cases moved
      have alters := applyLookup_alters (within 0).2 done
      have advances := applyLookup_advances tidy.ids stands.going
        (tidy.awaits _ stands.flies) stands.few done
      rw [stands.own] at alters advances
      right
      exact way.on _ (by rw [point]; rfl) (by rw [point]; rfl) alters
        (Nat.le_of_lt advances.less) advances.awaits ⟨rfl, rfl⟩ ⟨rfl, rfl, rfl⟩ trivial
        (fun _ => advances.less)
    · rw [same] at moved
      cases moved
      exact .inr (way.fails fault point rfl rfl)
  | failing row fault =>
    simp only [RecoverInFlight.step, point] at moved
    refine way.audits (.failedRow row fault) point ⟨rfl, rfl, rfl, rfl, fun _ => rfl⟩ trivial ?_
      moved
    intro fault'
    exact .inl trivial
  | failedRow row fault =>
    right
    simp only [RecoverInFlight.step, point] at moved
    cases moved
    exact way.turns (.failedJob row fault _) point ⟨rfl, rfl, rfl, rfl, fun _ => rfl⟩ trivial
  | failedJob row fault state =>
    right
    simp only [RecoverInFlight.step, point] at moved
    cases moved
    have carries : Carries row sweep.point (.releasing row none) := by
      rw [point]
      exact ⟨rfl, rfl, rfl, rfl, by rintro ⟨⟩⟩
    exact way.quietly carries ⟨db.auditEvents, rfl⟩ trivial ⟨rfl, rfl, rfl⟩ rfl
  | releasing row rethrown => exact absurd point (stays row rethrown)
  | _ =>
    rw [point] at holds
    cases holds

/-- A step that writes neither a sale nor a job, and at which no recovery returns. -/
theorem Way.aside (way : Way deps lo hi latest first past (db, sweep)) (next : RecoverInFlight)
    (sales : db'.transactions = db.transactions)
    (jobs : db'.pendingResolutions = db.pendingResolutions) (claims : OneClaimEach db')
    (leased : Leased (held next.point) deps.workerId lo db') (same : next.deps = sweep.deps)
    (stands : Stands (mostStatusAttempts deps.recovery) db' next.point)
    (claimed : ∀ t, held next.point = some t →
      Claimed t (⟨(db, sweep), input, (db', next)⟩ :: past))
    (nodup : ((hand next.point).toList.map (·.id) ++ next.todo.map (·.id)).Nodup)
    (queue : ∀ c ∈ next.todo, ∃ row ∈ inFlight deps first,
      row.id = c.id ∧ row.merchantId = c.merchantId ∧ row ∈ db.transactions)
    (inHand : ∀ row, hand next.point = some row → ∃ old ∈ inFlight deps first, old.id = row.id)
    (silent : ∀ row, next.point ≠ .releasing row none)
    (scan : ((next.point = .begin ∨ next.point = .scanning ∧ lo ≤ next.startedAt) ∧
        db.transactions = first.transactions) ∨
      ∃ startedAt, Searched deps lo latest first (⟨(db, sweep), input, (db', next)⟩ :: past) next
        startedAt)
    (ended : ∀ report, next.point = .returned report → report.found = next.gathered.found ∧
      (report.stoppedEarly = false → next.todo = [])) :
    Way deps lo hi latest first (⟨(db, sweep), input, (db', next)⟩ :: past) (db', next) := by
  have tidy := way.tidy
  have lefts : ∀ t, left (mostStatusAttempts deps.recovery) db' t =
      left (mostStatusAttempts deps.recovery) db t := fun t => left_still sales jobs
  refine ⟨same.trans way.same, ⟨?_, claims, ?_, ?_⟩, leased, stands, claimed, nodup, ?_, inHand, ?_,
    ?_, ?_, ?_, ?_, ended⟩
  · rw [sales]
    exact tidy.ids
  · intro t flying
    exact awaits_still sales jobs tidy flying
  · rw [sales]
    exact tidy.dated
  · intro c mem
    obtain ⟨row, there, id, merchant, stored⟩ := queue c mem
    exact ⟨row, there, id, merchant, sales ▸ stored⟩
  · intro row mem unclaimed
    have before : ¬ Claimed row.id past := fun now => unclaimed (claimed_later _ now)
    change row ∈ db'.transactions
    rw [sales]
    exact way.rows row mem before
  · intro row mem
    change row ∈ db'.transactions at mem
    rw [sales] at mem
    exact way.merchants row mem
  · intro t
    change left _ db' t ≤ _
    rw [lefts]
    exact way.shrinks t
  · intro ⟨taken, mem, returns⟩
    rcases List.mem_cons.mp mem with rfl | mem
    · obtain ⟨⟨row, releases⟩, _⟩ := returns
      exact absurd releases (silent row)
    · obtain ⟨row, there, dropped⟩ := way.drops ⟨taken, mem, returns⟩
      refine ⟨row, there, ?_⟩
      change left _ db' row.id < _
      rw [lefts]
      exact dropped
  · rcases scan with ⟨early, untouched⟩ | searched
    · exact .inl ⟨early, sales.trans untouched⟩
    · exact .inr searched

theorem stands_of_free {point : SweepPoint} (free : hand point = none) : Stands most db point := by
  cases point with
  | «begin» | scanning | next | returned _ | threw _ => trivial
  | _ => cases free

theorem held_of_free {point : SweepPoint} (free : hand point = none) : held point = none := by
  cases point with
  | «begin» | scanning | next | returned _ | threw _ => rfl
  | _ => cases free

/-- Such a step, that leaves no sale in hand. -/
theorem Way.free (way : Way deps lo hi latest first past (db, sweep)) (next : RecoverInFlight)
    (free : hand next.point = none) (sales : db'.transactions = db.transactions)
    (jobs : db'.pendingResolutions = db.pendingResolutions) (claims : OneClaimEach db')
    (leased : Leased none deps.workerId lo db') (same : next.deps = sweep.deps)
    (nodup : (next.todo.map (·.id)).Nodup)
    (queue : ∀ c ∈ next.todo, ∃ row ∈ inFlight deps first,
      row.id = c.id ∧ row.merchantId = c.merchantId ∧ row ∈ db.transactions)
    (scan : ((next.point = .begin ∨ next.point = .scanning ∧ lo ≤ next.startedAt) ∧
        db.transactions = first.transactions) ∨
      ∃ startedAt, Searched deps lo latest first (⟨(db, sweep), input, (db', next)⟩ :: past) next
        startedAt)
    (ended : ∀ report, next.point = .returned report → report.found = next.gathered.found ∧
      (report.stoppedEarly = false → next.todo = [])) :
    Way deps lo hi latest first (⟨(db, sweep), input, (db', next)⟩ :: past) (db', next) := by
  refine way.aside next sales jobs claims ?_ same (stands_of_free free) ?_ ?_ queue ?_ ?_ scan ended
  · rw [held_of_free free]
    exact leased
  · intro t holds
    rw [held_of_free free] at holds
    cases holds
  · rw [free]
    exact nodup
  · intro row handed
    rw [free] at handed
    cases handed
  · intro row releases
    rw [releases] at free
    cases free

/-- What the scan found is still dealt with, behind a step that takes a candidate on only. -/
theorem Searched.goes {taken : Swept} {startedAt : Timestamp}
    (searched : Searched deps lo latest first past sweep startedAt)
    (later : next.point ≠ .begin ∧ next.point ≠ .scanning)
    (found : next.gathered.found = sweep.gathered.found)
    (each : latest + maximumRecoveryAgeMs deps.recovery ≤ lo → ∀ c : Candidate,
      c ∈ sweep.todo ∨ (∃ row policy, sweep.point = .claiming row policy ∧ row.id = c.id) →
      c ∈ next.todo ∨ (∃ row policy, next.point = .claiming row policy ∧ row.id = c.id) ∨
        Claimed c.id (taken :: past)) :
    Searched deps lo latest first (taken :: past) next startedAt := by
  refine ⟨later, searched.since, found.trans searched.found, ?_⟩
  intro aged c mem
  rcases searched.each aged c mem with waits | claiming | claimed
  · exact each aged c (.inl waits)
  · exact each aged c (.inr claiming)
  · exact .inr (.inr (claimed_later taken claimed))

theorem lost_stays (lost : Lost sweep.point) (moved : sweep.step input db = (db', next)) :
    Lost next.point := by
  cases point : sweep.point with
  | threw fault =>
    simp only [RecoverInFlight.step, point] at moved
    cases moved
    rw [point]
    trivial
  | releasing row rethrown =>
    cases rethrown with
    | none =>
      rw [point] at lost
      exact lost.elim
    | some fault =>
      simp only [RecoverInFlight.step, point] at moved
      split at moved
      · cases moved
        trivial
      · cases moved
        trivial
  | _ =>
    rw [point] at lost
    exact lost.elim

/-- Giving a claim back leaves no lease that is held. -/
theorem release_leased {workerId : String} (leased : Leased (some t) workerId lo db)
    (now : Timestamp) : Leased none workerId lo (releaseClaim db t workerId now) := by
  intro claim mem active
  obtain ⟨old, there, rfl⟩ := mem_update.mp mem
  by_cases hit : decide (old.transactionId = t ∧ old.workerId = workerId ∧ old.active = true) = true
  · rw [if_pos hit] at active
    cases active
  · rw [if_neg hit] at active ⊢
    rcases leased old there active with expired | ⟨own, mine⟩
    · exact .inl expired
    · exact absurd (decide_eq_true ⟨(Option.some.inj own).symm, mine, active⟩) hit

/-- Where every lease has run out, a claim is won. -/
theorem claim_leased {claim : ClaimInput} {won : Bool}
    (h : claimTransaction db claim = .ok (db', won)) (unique : OneClaimEach db)
    (leased : Leased none claim.workerId lo db) (now : lo ≤ claim.now) :
    won = true ∧ OneClaimEach db' ∧ Leased (some claim.transactionId) claim.workerId lo db' ∧
      db'.transactions = db.transactions ∧ db'.pendingResolutions = db.pendingResolutions := by
  have free : ∀ row ∈ db.recoveryClaims, row.active = true → row.expiresAt ≤ lo := by
    intro row mem active
    rcases leased row mem active with expired | ⟨held, _⟩
    · exact expired
    · cases held
  unfold claimTransaction at h
  by_cases present : Present (·.transactionId) claim.transactionId db.recoveryClaims
  · rw [if_pos present] at h
    simp only [Except.ok.injEq, Prod.mk.injEq] at h
    obtain ⟨rfl, told⟩ := h
    have hits : ∀ row ∈ db.recoveryClaims,
        claimable claim.transactionId claim.now row =
          decide (row.transactionId = claim.transactionId) := by
      intro row mem
      unfold claimable
      apply decide_eq_decide.mpr
      constructor
      · exact And.left
      · intro own
        refine ⟨own, ?_⟩
        cases active : row.active with
        | false => exact .inl rfl
        | true => exact .inr (Int.le_trans (free row mem active) now)
    obtain ⟨row, mem, own⟩ := present
    have one : db.recoveryClaims.filter (claimable claim.transactionId claim.now) = [row] := by
      rw [List.filter_congr hits, ← own]
      exact unique.filter mem
    refine ⟨?_, unique.update fun _ => rfl, ?_, rfl, rfl⟩
    · rw [← told, changes, one]
      rfl
    · intro after mem' active
      obtain ⟨old, there, rfl⟩ := mem_update.mp mem'
      by_cases hit : claimable claim.transactionId claim.now old = true
      · rw [if_pos hit]
        rw [hits old there] at hit
        exact .inr ⟨congrArg some (of_decide_eq_true hit).symm, rfl⟩
      · rw [if_neg hit] at active ⊢
        exact .inl (free old there active)
  · rw [if_neg present] at h
    simp only [bind_ok, demand_ok, pure_ok, Prod.mk.injEq] at h
    obtain ⟨_, _, rfl, rfl⟩ := h
    refine ⟨rfl, ?_, ?_, rfl, rfl⟩
    · exact unique.append fun old mem same => present ⟨old, mem, same⟩
    · intro row mem active
      rcases List.mem_append.mp mem with mem | mem
      · exact .inl (free row mem active)
      · cases List.mem_singleton.mp mem
        exact .inr ⟨rfl, rfl⟩

theorem Way.searched (way : Way deps lo hi latest first past (db, sweep))
    (going : sweep.point ≠ .begin ∧ sweep.point ≠ .scanning) :
    ∃ startedAt, Searched deps lo latest first past sweep startedAt := by
  rcases way.scan with ⟨early, _⟩ | searched
  · rcases early with begins | ⟨scans, _⟩
    · exact absurd begins going.1
    · exact absurd scans going.2
  · exact searched

/-- The claim is given back, and the sweep turns to the next candidate. -/
theorem Way.releases (way : Way deps lo hi latest first past (db, sweep))
    (point : sweep.point = .releasing row none) (moved : sweep.step input db = (db', next)) :
    Lost next.point ∨
      Way deps lo hi latest first (⟨(db, sweep), input, (db', next)⟩ :: past) (db', next) := by
  simp only [RecoverInFlight.step, point] at moved
  split at moved
  · rename_i same
    cases unit_ok same
    cases moved
    have leased := way.leased
    rw [point] at leased
    have deps' : sweep.deps.workerId = deps.workerId := congrArg (·.workerId) way.same
    rw [← deps'] at leased
    have nodup := way.nodup
    rw [point] at nodup
    right
    refine way.free (sweep.at .next) rfl rfl rfl ?_ ?_ rfl ?_ way.queue ?_ (by rintro _ ⟨⟩)
    · exact way.tidy.claims.update fun _ => rfl
    · rw [← deps']
      exact release_leased leased (input.now 0)
    · exact (List.nodup_cons.mp nodup).2
    · right
      obtain ⟨startedAt, searched⟩ := way.searched (by rw [point]; exact ⟨by rintro ⟨⟩, by rintro ⟨⟩⟩)
      refine ⟨startedAt, searched.goes ⟨by rintro ⟨⟩, by rintro ⟨⟩⟩ rfl ?_⟩
      intro _ c waiting
      rcases waiting with waits | ⟨other, policy, claiming, _⟩
      · exact .inl waits
      · rw [point] at claiming
        cases claiming
  · cases moved
    exact .inl trivial

/-- The next candidate is taken up, or passed over for its age, or the sweep is over. -/
theorem Way.takes (way : Way deps lo hi latest first past (db, sweep)) (within : Within lo hi input)
    (dated : ∀ row ∈ first.transactions, row.updatedAt ≤ latest) (point : sweep.point = .next)
    (moved : sweep.step input db = (db', next)) :
    Way deps lo hi latest first (⟨(db, sweep), input, (db', next)⟩ :: past) (db', next) := by
  have tidy := way.tidy
  have leased := way.leased
  have nodup := way.nodup
  rw [point] at leased nodup
  obtain ⟨startedAt, searched⟩ := way.searched (by rw [point]; exact ⟨by rintro ⟨⟩, by rintro ⟨⟩⟩)
  have unclaiming : ∀ {c : Candidate},
      ¬ ∃ row policy, sweep.point = .claiming row policy ∧ row.id = c.id := by
    rintro c ⟨row, policy, claiming, _⟩
    rw [point] at claiming
    cases claiming
  simp only [RecoverInFlight.step, point] at moved
  cases todo : sweep.todo with
  | nil =>
    rw [todo] at moved
    cases moved
    refine way.free _ rfl rfl rfl tidy.claims leased rfl nodup way.queue ?_ ?_
    · refine .inr ⟨startedAt, searched.goes ⟨by rintro ⟨⟩, by rintro ⟨⟩⟩ rfl ?_⟩
      intro _ c waiting
      exact .inl (waiting.resolve_right unclaiming)
    · intro report returned
      cases returned
      exact ⟨rfl, fun _ => todo⟩
  | cons candidate rest =>
    rw [todo] at moved
    have queue := way.queue
    change ∀ c ∈ sweep.todo, _ at queue
    rw [todo] at queue
    change (sweep.todo.map (·.id)).Nodup at nodup
    rw [todo, List.map_cons] at nodup
    obtain ⟨row, there, id, merchant, stored⟩ := queue candidate (List.mem_cons_self ..)
    change row ∈ db.transactions at stored
    have found := find_own tidy stored
    rw [id, merchant] at found
    by_cases stop : input.shouldContinue = false
    · simp only [stop, if_true] at moved
      cases moved
      refine way.free _ rfl rfl rfl tidy.claims leased rfl nodup queue ?_ ?_
      · refine .inr ⟨startedAt, searched.goes ⟨by rintro ⟨⟩, by rintro ⟨⟩⟩ rfl ?_⟩
        intro _ c waiting
        exact .inl (todo ▸ waiting.resolve_right unclaiming)
      · intro report returned
        cases returned
        exact ⟨rfl, by rintro ⟨⟩⟩
    · simp only at moved
      rw [if_neg stop] at moved
      simp only [found] at moved
      have member := List.mem_filter.mp there
      have age := age_le sweep.deps.recovery row.providerId
      have few := attempts_le sweep.deps.recovery row.providerId
      rw [way.same] at age few
      split at moved
      · rename_i young
        cases moved
        refine way.free _ rfl rfl rfl tidy.claims leased rfl ?_ ?_ ?_ (by rintro _ ⟨⟩)
        · exact (List.nodup_cons.mp nodup).2
        · intro c mem
          exact queue c (List.mem_cons_of_mem _ mem)
        · refine .inr ⟨startedAt, searched.goes ⟨by rintro ⟨⟩, by rintro ⟨⟩⟩ rfl ?_⟩
          intro aged
          rw [way.same] at young
          have late := dated row member.1
          have now := (within 0).1
          exact absurd young (not_young aged late now age)
      · cases moved
        refine way.aside _ rfl rfl tidy.claims leased rfl ?_ (by rintro _ ⟨⟩) ?_ ?_ ?_ (by rintro _ ⟨⟩) ?_ (by rintro _ ⟨⟩)
        · rw [way.same]
          exact ⟨stored, (of_decide_eq_true member.2).1, few⟩
        · change (row.id :: rest.map fun c => c.id).Nodup
          rw [id]
          exact nodup
        · intro c mem
          exact queue c (List.mem_cons_of_mem _ mem)
        · intro other hand
          cases hand
          exact ⟨row, there, rfl⟩
        · refine .inr ⟨startedAt, searched.goes ⟨by rintro ⟨⟩, by rintro ⟨⟩⟩ rfl ?_⟩
          intro _ c waiting
          have waits := waiting.resolve_right unclaiming
          rw [todo] at waits
          rcases List.mem_cons.mp waits with rfl | later
          · exact .inr (.inl ⟨row, _, rfl, id⟩)
          · exact .inl later

/-- A sale that is about to be claimed is claimed: no lease of it is left. -/
theorem Way.claims (way : Way deps lo hi latest first past (db, sweep)) (within : Within lo hi input)
    {policy : RecoveryPolicy} (point : sweep.point = .claiming row policy)
    (moved : sweep.step input db = (db', next)) :
    Lost next.point ∨
      Way deps lo hi latest first (⟨(db, sweep), input, (db', next)⟩ :: past) (db', next) := by
  have tidy := way.tidy
  have stands := way.stands
  have leased := way.leased
  have nodup := way.nodup
  rw [point] at stands leased nodup
  rw [← congrArg (·.workerId) way.same] at leased
  simp only [RecoverInFlight.step, point] at moved
  split at moved
  · rename_i same
    cases moved
    obtain ⟨_, unique, leased', sales, jobs⟩ :=
      claim_leased (unit_ok same) tidy.claims leased (within 0).1
    right
    have won : ∀ {u}, u = row.id → Claimed u (⟨(db, sweep), input, (db',
        { sweep with
          gathered := { sweep.gathered with claimed := sweep.gathered.claimed + 1 }
          point := .claimed row policy })⟩ :: past) := fun own =>
      claimed_cons.mpr (.inl ⟨row, policy, point, rfl, own.symm⟩)
    refine way.aside _ sales jobs unique ?_ rfl ?_ ?_ nodup way.queue ?_ (by rintro _ ⟨⟩) ?_ (by rintro _ ⟨⟩)
    · rw [← congrArg (·.workerId) way.same]
      exact leased'
    · have waits : Stands (mostStatusAttempts deps.recovery) db (.claimed row policy) := stands
      exact waits.still sales
    · intro t held
      cases held
      exact won rfl
    · intro other hand
      cases hand
      exact way.inHand row (by rw [point]; rfl)
    · obtain ⟨startedAt, searched⟩ := way.searched (by rw [point]; exact ⟨by rintro ⟨⟩, by rintro ⟨⟩⟩)
      refine .inr ⟨startedAt, searched.goes ⟨by rintro ⟨⟩, by rintro ⟨⟩⟩ rfl ?_⟩
      intro _ c waiting
      rcases waiting with waits | ⟨other, policy', claiming, own⟩
      · exact .inl waits
      · rw [point] at claiming
        cases claiming
        exact .inr (.inr (won own.symm))
  · rename_i same
    obtain ⟨won, _⟩ := claim_leased (unit_ok same) tidy.claims leased (within 0).1
    cases won
  · cases moved
    exact .inl trivial

/-- The scan finds sales that are in flight, each once. -/
theorem candidates_nodup (ids : Unique (·.id) db.transactions) (startedAt : Timestamp) :
    ((candidates deps startedAt db).map (·.id)).Nodup := by
  unfold candidates findInFlightOlderThan
  rw [List.map_map]
  apply List.Nodup.sublist ((List.take_sublist ..).map _)
  apply ((List.mergeSort_perm ..).map _).nodup_iff.mpr
  exact List.Nodup.sublist (List.filter_sublist.map _) ids

theorem candidates_inFlight {startedAt : Timestamp} {c : Candidate}
    (mem : c ∈ candidates deps startedAt db) :
    ∃ row ∈ inFlight deps db, row.id = c.id ∧ row.merchantId = c.merchantId := by
  obtain ⟨row, taken, rfl⟩ := List.mem_map.mp mem
  have found := List.mem_mergeSort.mp (List.mem_of_mem_take taken)
  obtain ⟨stored, wanted⟩ := List.mem_filter.mp found
  obtain ⟨state, _, scope⟩ := of_decide_eq_true wanted
  exact ⟨row, List.mem_filter.mpr ⟨stored, decide_eq_true ⟨state, scope⟩⟩, rfl, rfl⟩

/-- A scan that does not fill its batch finds every sale in flight that is old enough. -/
theorem candidates_all {startedAt : Timestamp}
    (few : (candidates deps startedAt db).length < deps.recovery.batchLimit)
    (mem : row ∈ inFlight deps db)
    (old : row.updatedAt ≤ startedAt - minimumRecoveryAgeMs deps.recovery) :
    ∃ c ∈ candidates deps startedAt db, c.id = row.id := by
  unfold candidates findInFlightOlderThan at few ⊢
  rw [List.length_map, List.length_take] at few
  refine ⟨⟨row.id, row.merchantId⟩, List.mem_map.mpr ⟨row, ?_, rfl⟩, rfl⟩
  rw [List.take_of_length_le (by omega)]
  apply List.mem_mergeSort.mpr
  obtain ⟨stored, wanted⟩ := List.mem_filter.mp mem
  obtain ⟨state, scope⟩ := of_decide_eq_true wanted
  exact List.mem_filter.mpr ⟨stored, decide_eq_true ⟨state, old, scope⟩⟩

theorem candidates_same (sales : db'.transactions = db.transactions) (startedAt : Timestamp) :
    candidates deps startedAt db' = candidates deps startedAt db := by
  unfold candidates findInFlightOlderThan
  rw [sales]

/-- The scan. -/
theorem Way.scans (way : Way deps lo hi latest first past (db, sweep))
    (point : sweep.point = .scanning) (moved : sweep.step input db = (db', next)) :
    Way deps lo hi latest first (⟨(db, sweep), input, (db', next)⟩ :: past) (db', next) := by
  have tidy := way.tidy
  have leased := way.leased
  rw [point] at leased
  have early : lo ≤ sweep.startedAt ∧ db.transactions = first.transactions := by
    rcases way.scan with ⟨begins | ⟨_, since⟩, untouched⟩ | ⟨_, searched⟩
    · rw [point] at begins
      cases begins
    · exact ⟨since, untouched⟩
    · exact absurd point searched.later.2
  obtain ⟨since, untouched⟩ := early
  simp only [RecoverInFlight.step, point] at moved
  cases moved
  have found : candidates deps sweep.startedAt db = candidates deps sweep.startedAt first :=
    candidates_same untouched sweep.startedAt
  have flights : inFlight deps db = inFlight deps first := by
    unfold inFlight
    rw [untouched]
  refine way.free _ rfl rfl rfl tidy.claims leased rfl ?_ ?_ ?_ (by rintro _ ⟨⟩)
  · rw [way.same]
    exact candidates_nodup tidy.ids sweep.startedAt
  · intro c mem
    rw [way.same] at mem
    obtain ⟨row, there, id, merchant⟩ := candidates_inFlight mem
    exact ⟨row, flights ▸ there, id, merchant, (List.mem_filter.mp there).1⟩
  · right
    refine ⟨sweep.startedAt, ⟨by rintro ⟨⟩, by rintro ⟨⟩⟩, since, ?_, ?_⟩
    · rw [way.same]
      exact congrArg List.length found
    · intro _ c mem
      left
      rw [way.same]
      rw [← found] at mem
      exact mem

theorem Way.begins (way : Way deps lo hi latest first past (db, sweep)) (within : Within lo hi input)
    (point : sweep.point = .begin) (moved : sweep.step input db = (db', next)) :
    Lost next.point ∨
      Way deps lo hi latest first (⟨(db, sweep), input, (db', next)⟩ :: past) (db', next) := by
  have leased := way.leased
  have nodup := way.nodup
  rw [point] at leased nodup
  simp only [RecoverInFlight.step, point] at moved
  split at moved
  · rename_i same
    obtain ⟨_, saved, eq⟩ := map_ok.mp (unit_ok same)
    cases eq
    have quiet : db'.transactions = db.transactions ∧
        db'.pendingResolutions = db.pendingResolutions ∧
        db'.recoveryClaims = db.recoveryClaims := by
      cases moved
      obtain ⟨audits, rfl⟩ := saveAuditEvent_ok saved
      exact ⟨rfl, rfl, rfl⟩
    obtain ⟨sales, jobs, claims⟩ := quiet
    cases moved
    right
    have untouched : db.transactions = first.transactions := by
      rcases way.scan with ⟨_, untouched⟩ | ⟨_, searched⟩
      · exact untouched
      · exact absurd point searched.later.1
    refine way.free _ rfl sales jobs ?_ ?_ rfl nodup way.queue ?_ (by rintro _ ⟨⟩)
    · unfold OneClaimEach
      rw [claims]
      exact way.tidy.claims
    · intro claim mem
      rw [claims] at mem
      exact leased claim mem
    · exact .inl ⟨.inr ⟨rfl, (within 0).1⟩, untouched⟩
  · cases moved
    exact .inl trivial

/-- A sweep that has returned makes no more of anything. -/
theorem Way.rests (way : Way deps lo hi latest first past (db, sweep)) {report : SweepReport}
    (point : sweep.point = .returned report) (moved : sweep.step input db = (db', next)) :
    Way deps lo hi latest first (⟨(db, sweep), input, (db', next)⟩ :: past) (db', next) := by
  simp only [RecoverInFlight.step, point] at moved
  cases moved
  have free : hand sweep.point = none := by
    rw [point]
    rfl
  have leased := way.leased
  have nodup := way.nodup
  rw [point] at leased nodup
  refine way.free _ free rfl rfl way.tidy.claims leased rfl nodup way.queue ?_ way.ended
  rcases way.scan with early | ⟨startedAt, searched⟩
  · exact .inl early
  · refine .inr ⟨startedAt, searched.goes searched.later rfl ?_⟩
    intro _ c waiting
    exact waiting.imp_right .inl

/-- One step of a sweep: it is lost, or on its way. -/
theorem Way.step (way : Way deps lo hi latest first past (db, sweep)) (within : Within lo hi input)
    (dated : ∀ row ∈ first.transactions, row.updatedAt ≤ latest)
    (moved : sweep.step input db = (db', next)) :
    Lost next.point ∨
      Way deps lo hi latest first (⟨(db, sweep), input, (db', next)⟩ :: past) (db', next) := by
  cases point : sweep.point with
  | «begin» => exact way.begins within point moved
  | scanning => exact .inr (way.scans point moved)
  | next => exact .inr (way.takes within dated point moved)
  | claiming row policy => exact way.claims within point moved
  | prevented row =>
    have stands := way.stands
    rw [point] at stands
    exact stands.elim
  | returned report => exact .inr (way.rests point moved)
  | threw fault =>
    have lost : Lost sweep.point := by
      rw [point]
      trivial
    exact .inl (lost_stays lost moved)
  | releasing row rethrown =>
    cases rethrown with
    | none => exact way.releases point moved
    | some fault =>
      have lost : Lost sweep.point := by
        rw [point]
        trivial
      exact .inl (lost_stays lost moved)
  | _ =>
    refine way.works within (by rw [point]; rfl) ?_ moved
    intro row rethrown releases
    rw [point] at releases
    cases releases

theorem way_starts (tidy : Tidy hi first) (leased : Leased none deps.workerId lo first) :
    Way deps lo hi latest first [] (first, unstarted deps) := by
  refine ⟨rfl, tidy, leased, trivial, ?_, List.nodup_nil, ?_, ?_, ?_, ?_, ?_, ?_,
    .inl ⟨.inl rfl, rfl⟩, ?_⟩
  · intro t held
    cases held
  · intro c mem
    cases mem
  · intro row hand
    cases hand
  · intro row mem _
    exact mem
  · intro row mem
    exact ⟨row, mem, rfl, rfl⟩
  · intro t
    exact Nat.le_refl _
  · rintro ⟨taken, mem, _⟩
    cases mem
  · intro report returned
    cases returned

/-- A sweep is on its way wherever it has got, unless it is lost. -/
theorem way_of_run (tidy : Tidy hi first) (leased : Leased none deps.workerId lo first)
    (dated : ∀ row ∈ first.transactions, row.updatedAt ≤ latest) {w : Sweeping}
    (run : SweepRun deps first past w) (within : ∀ taken ∈ past, Within lo hi taken.event) :
    Lost w.2.point ∨ Way deps lo hi latest first past w := by
  induction run with
  | start begins =>
    rw [begins]
    exact .inr (way_starts tidy leased)
  | @step past w input w' run moved ih =>
    obtain ⟨now, earlier⟩ := List.forall_mem_cons.mp within
    rcases ih earlier with lost | way
    · exact .inl (lost_stays lost moved.symm)
    · exact way.step now dated moved.symm

end Steps

/-- A whole sweep between two times: it returned, and was not stopped early. -/
structure WholeSweep (deps : RecoveryDeps) (lo hi : Timestamp) (db : Db) (past : List Swept)
    (report : SweepReport) (db' : Db) : Prop where
  run : ∃ sweep, SweepRun deps db past (db', sweep) ∧ sweep.point = .returned report
  within : ∀ taken ∈ past, Within lo hi taken.event
  whole : report.stoppedEarly = false

/-- Whole sweeps one after another, each at least the longest recovery age after the one before, and
no other writer. -/
inductive Sweeps (deps : RecoveryDeps) :
    Timestamp → Db → List (List Swept × SweepReport) → Db → Prop
  | done : Sweeps deps since db [] db
  | sweep : since ≤ lo → lo ≤ hi → WholeSweep deps lo hi db past report db' →
      Sweeps deps (max hi (hi + maximumRecoveryAgeMs deps.recovery)) db' later db'' →
      Sweeps deps since db ((past, report) :: later) db''

/-- In a sweep whose batch is full, the recovery of one sale at least returns. -/
def GoesOn (deps : RecoveryDeps) (swept : List Swept × SweepReport) : Prop :=
  swept.2.found = deps.recovery.batchLimit → ∃ taken ∈ swept.1, Returned taken

section Runs

variable {deps : RecoveryDeps} {lo hi since latest : Timestamp} {db db' : Db} {past : List Swept}
  {report : SweepReport} {row : TransactionRow} {ids : List TransactionId}
  {sweeps : List (List Swept × SweepReport)}

theorem Tidy.later (tidy : Tidy latest db) (after : latest ≤ hi) : Tidy hi db := by
  refine ⟨tidy.ids, tidy.claims, tidy.awaits, ?_⟩
  intro row mem
  exact Int.le_trans (tidy.dated row mem) after

theorem Leased.later {workerId : String} (leased : Leased none workerId since db)
    (after : since ≤ lo) : Leased none workerId lo db := by
  intro claim mem active
  rcases leased claim mem active with expired | ⟨held, _⟩
  · exact .inl (Int.le_trans expired after)
  · cases held

theorem WholeSweep.way (whole : WholeSweep deps lo hi db past report db')
    (tidy : Tidy latest db) (after : latest ≤ hi) (leased : Leased none deps.workerId lo db) :
    ∃ sweep, sweep.point = .returned report ∧ Way deps lo hi latest db past (db', sweep) := by
  obtain ⟨sweep, run, returned⟩ := whole.run
  refine ⟨sweep, returned, ?_⟩
  rcases way_of_run (tidy.later after) leased tidy.dated run whole.within with lost | way
  · change Lost sweep.point at lost
    rw [returned] at lost
    exact lost.elim
  · exact way

theorem flies_of_inFlight (tidy : Tidy latest db) (mem : row ∈ inFlight deps db) :
    flies db row.id = true := by
  obtain ⟨stored, wanted⟩ := List.mem_filter.mp mem
  rw [flies_of_state (stateOf_of_mem tidy.ids stored)]
  exact decide_eq_true (of_decide_eq_true wanted).1

/-- What a whole sweep leaves of the sales that are in flight. -/
structure Passes (deps : RecoveryDeps) (lo hi : Timestamp) (db : Db) (past : List Swept) (db' : Db) :
    Prop where
  tidy : Tidy hi db'
  leased : Leased none deps.workerId lo db'
  stays : ∀ row ∈ inFlight deps db, ¬ Claimed row.id past → row ∈ inFlight deps db'
  covers : ∀ row ∈ inFlight deps db', ∃ old ∈ inFlight deps db, old.id = row.id
  shrinks : ∀ t, left (mostStatusAttempts deps.recovery) db' t ≤
    left (mostStatusAttempts deps.recovery) db t

theorem WholeSweep.passes (whole : WholeSweep deps lo hi db past report db')
    (tidy : Tidy latest db) (after : latest ≤ hi) (leased : Leased none deps.workerId lo db) :
    Passes deps lo hi db past db' := by
  obtain ⟨sweep, returned, way⟩ := whole.way tidy after leased
  have leased' := way.leased
  rw [show (db', sweep).2.point = .returned report from returned] at leased'
  refine ⟨way.tidy, leased', ?_, ?_, way.shrinks⟩
  · intro row mem unclaimed
    obtain ⟨stored, wanted⟩ := List.mem_filter.mp mem
    exact List.mem_filter.mpr ⟨way.rows row stored unclaimed, wanted⟩
  · intro row mem
    obtain ⟨stored, wanted⟩ := List.mem_filter.mp mem
    obtain ⟨old, there, id, merchant⟩ := way.merchants row stored
    have flying := flies_of_inFlight way.tidy mem
    have some : 0 < left (mostStatusAttempts deps.recovery) db old.id := by
      rw [id]
      exact Nat.lt_of_lt_of_le (left_pos flying) (way.shrinks row.id)
    have flew := flies_of_left some
    rw [flies_of_state (stateOf_of_mem tidy.ids there)] at flew
    have scope := (of_decide_eq_true wanted).2
    rw [← merchant] at scope
    exact ⟨old, List.mem_filter.mpr ⟨there, decide_eq_true ⟨of_decide_eq_true flew, scope⟩⟩, id⟩

/-- A whole sweep that leaves an old sale unclaimed has filled its batch with others, and one of
them at least has a recovery less to go. -/
theorem WholeSweep.moves (whole : WholeSweep deps lo hi db past report db')
    (tidy : Tidy latest db) (after : latest ≤ hi) (leased : Leased none deps.workerId lo db)
    (aged : latest + maximumRecoveryAgeMs deps.recovery ≤ lo) (goesOn : GoesOn deps (past, report))
    (mem : row ∈ inFlight deps db) (unclaimed : ¬ Claimed row.id past) :
    ∃ other ∈ inFlight deps db, left (mostStatusAttempts deps.recovery) db' other.id <
      left (mostStatusAttempts deps.recovery) db other.id := by
  obtain ⟨sweep, returned, way⟩ := whole.way tidy after leased
  obtain ⟨found, ended⟩ := way.ended report returned
  have todo := ended whole.whole
  obtain ⟨startedAt, searched⟩ := way.searched (by rw [returned]; exact ⟨nofun, nofun⟩)
  have full : ¬ (candidates deps startedAt db).length < deps.recovery.batchLimit := by
    intro few
    have old : row.updatedAt ≤ startedAt - minimumRecoveryAgeMs deps.recovery :=
      old_enough aged (tidy.dated row (List.mem_filter.mp mem).1) searched.since
        (minimum_le_maximum deps.recovery)
    obtain ⟨c, there, own⟩ := candidates_all few mem old
    rcases searched.each aged c there with waits | ⟨other, policy, claiming, _⟩ | claimed
    · change c ∈ sweep.todo at waits
      rw [show sweep.todo = [] from todo] at waits
      cases waits
    · rw [returned] at claiming
      cases claiming
    · exact unclaimed (own ▸ claimed)
  have atMost : (candidates deps startedAt db).length ≤ deps.recovery.batchLimit := by
    unfold candidates findInFlightOlderThan
    rw [List.length_map]
    exact List.length_take_le ..
  have batch : report.found = deps.recovery.batchLimit := by
    have told : report.found = (candidates deps startedAt db).length := found.trans searched.found
    omega
  exact way.drops (goesOn batch)

/-- How many recoveries some sales can take together. -/
def remaining (most : Nat) (ids : List TransactionId) (db : Db) : Nat :=
  (ids.map (left most db)).sum

/-- An old sale that no sweep of a run claims outlives it: the run is shorter than the recoveries
that remain. -/
theorem Sweeps.short (run : Sweeps deps since db sweeps db') (tidy : Tidy latest db)
    (after : latest ≤ since) (aged : latest + maximumRecoveryAgeMs deps.recovery ≤ since)
    (leased : Leased none deps.workerId since db)
    (covers : ∀ row ∈ inFlight deps db, row.id ∈ ids)
    (goesOn : ∀ swept ∈ sweeps, GoesOn deps swept) (mem : row ∈ inFlight deps db)
    (unclaimed : ∀ swept ∈ sweeps, ¬ Claimed row.id swept.1) :
    sweeps.length < remaining (mostStatusAttempts deps.recovery) ids db := by
  induction run generalizing latest with
  | done =>
    have some : 1 ≤ left (mostStatusAttempts deps.recovery) _ row.id :=
      left_pos (flies_of_inFlight tidy mem)
    exact Nat.lt_of_lt_of_le some (List.single_le_sum (fun _ _ => Nat.zero_le _) _
      (List.mem_map_of_mem (covers row mem)))
  | @sweep since lo hi db past report middle later last begins ends whole rest ih =>
    obtain ⟨now, onwards⟩ := List.forall_mem_cons.mp goesOn
    obtain ⟨passed, missed⟩ := List.forall_mem_cons.mp unclaimed
    have spent' : latest ≤ hi := Int.le_trans (Int.le_trans after begins) ends
    have leased' := leased.later begins
    have passes := whole.passes tidy spent' leased'
    have covers' : ∀ row ∈ inFlight deps middle, row.id ∈ ids := by
      intro other there
      obtain ⟨old, before, id⟩ := passes.covers other there
      rw [← id]
      exact covers old before
    have onward := ih passes.tidy (Int.le_max_left ..) (Int.le_max_right ..)
      (passes.leased.later (Int.le_trans ends (Int.le_max_left ..))) covers' onwards
      (passes.stays row mem passed) missed
    obtain ⟨other, there, less⟩ := whole.moves tidy spent' leased' (Int.le_trans aged begins) now mem
      passed
    have spent : remaining (mostStatusAttempts deps.recovery) ids middle <
        remaining (mostStatusAttempts deps.recovery) ids db :=
      List.sum_lt_sum _ _ (fun t _ => passes.shrinks t) ⟨other.id, covers other there, less⟩
    rw [List.length_cons]
    omega

theorem remaining_le (most : Nat) (ids : List TransactionId) (db : Db) :
    remaining most ids db ≤ ids.length * max 1 most := by
  unfold remaining
  have each : ∀ n ∈ ids.map (left most db), n ≤ max 1 most := by
    intro n mem
    obtain ⟨t, _, rfl⟩ := List.mem_map.mp mem
    unfold left
    split
    · omega
    · omega
  have bound := List.sum_le_card_nsmul _ _ each
  rw [List.length_map] at bound
  exact bound

theorem too_long_aged {n most length : Nat} (long : length = n * (most + 1))
    (short : length < n * max 1 most) : False := by
  have few : max 1 most ≤ most + 1 := by omega
  have bound := Nat.mul_le_mul_left n few
  omega

theorem too_few {n most : Nat} (some : 0 < n) (long : 0 = n * (most + 1)) : False := by
  have positive : 0 < n * (most + 1) := Nat.mul_pos some (Nat.succ_pos most)
  omega

theorem too_long {n most length : Nat} (some : 0 < n) (least : 0 < most)
    (long : length + 1 = n * (most + 1)) (short : length < n * max 1 most) : False := by
  rw [Nat.max_eq_right least] at short
  rw [Nat.mul_succ] at long
  omega

/-- Recoveries that always go on get to every sale: in a run of so many sweeps, each sale that was
in flight at its start is claimed. -/
theorem every_sale_claimed (tidy : Tidy latest db) (after : latest ≤ since)
    (leased : Leased none deps.workerId since db)
    (spare : 0 < mostStatusAttempts deps.recovery ∨
      latest + maximumRecoveryAgeMs deps.recovery ≤ since)
    (run : Sweeps deps since db sweeps db')
    (long : sweeps.length = (inFlight deps db).length * (mostStatusAttempts deps.recovery + 1))
    (goesOn : ∀ swept ∈ sweeps, GoesOn deps swept) :
    ∀ row ∈ inFlight deps db, ∃ swept ∈ sweeps, Claimed row.id swept.1 := by
  intro row mem
  by_contra none
  have unclaimed : ∀ swept ∈ sweeps, ¬ Claimed row.id swept.1 := by
    intro swept there claimed
    exact none ⟨swept, there, claimed⟩
  have some : 0 < (inFlight deps db).length := List.length_pos_of_mem mem
  have covers : ∀ old ∈ inFlight deps db, old.id ∈ (inFlight deps db).map (·.id) :=
    fun _ there => List.mem_map_of_mem there
  by_cases aged : latest + maximumRecoveryAgeMs deps.recovery ≤ since
  · have short := run.short tidy after aged leased covers goesOn mem unclaimed
    have bound := remaining_le (mostStatusAttempts deps.recovery) ((inFlight deps db).map (·.id)) db
    rw [List.length_map] at bound
    exact too_long_aged long (Nat.lt_of_lt_of_le short bound)
  · -- The first sweep may pass sales over that are too recent. It is the one to spare.
    have least := spare.resolve_right aged
    cases run with
    | done => exact too_few some long
    | @sweep _ lo hi _ past report middle later _ begins ends whole rest =>
      obtain ⟨_, onwards⟩ := List.forall_mem_cons.mp goesOn
      obtain ⟨passed, missed⟩ := List.forall_mem_cons.mp unclaimed
      have passes := whole.passes tidy (Int.le_trans (Int.le_trans after begins) ends)
        (leased.later begins)
      have covers' : ∀ other ∈ inFlight deps middle, other.id ∈ (inFlight deps db).map (·.id) := by
        intro other there
        obtain ⟨old, before, id⟩ := passes.covers other there
        rw [← id]
        exact covers old before
      have short := rest.short passes.tidy (Int.le_max_left ..) (Int.le_max_right ..)
        (passes.leased.later (Int.le_trans ends (Int.le_max_left ..))) covers' onwards
        (passes.stays row mem passed) missed
      have bound := remaining_le (mostStatusAttempts deps.recovery)
        ((inFlight deps db).map (·.id)) middle
      rw [List.length_map] at bound
      exact too_long some least long (Nat.lt_of_lt_of_le short bound)

end Runs

section Examples

instance (db : Db) (t : TransactionId) : Decidable (Awaits db t) :=
  inferInstanceAs (Decidable (_ = _))

theorem awaits_of_rows {db : Db} (rows : ∀ row ∈ db.transactions, Awaits db row.id)
    (t : TransactionId) (flying : flies db t = true) : Awaits db t := by
  unfold flies at flying
  cases stored : stateOf db t with
  | none =>
    rw [stored] at flying
    cases flying
  | some state =>
    obtain ⟨row, mem, id, _⟩ := mem_of_stateOf stored
    exact id ▸ rows row mem

/-- One turn of a sweep, at a fixed time, with an answer of the provider. -/
def sweepTurn (status : ProviderStatus) (time : Timestamp) (tag : String) : Input where
  now := fun _ => time
  newId := fun index => tag ++ ["0", "1", "2"].getD index "3"
  busy := false
  health := .answered true
  submission := .answered ⟨.confirmedSuccess, none⟩
  status := .answered status
  reversal := .answered ()
  shouldContinue := true

def swept (w : Sweeping) (input : Input) : Sweeping :=
  w.2.step input w.1

theorem swept_run {deps : RecoveryDeps} {db : Db} {past : List Swept} {w : Sweeping}
    (run : SweepRun deps db past w) (inputs : List Input) :
    SweepRun deps db (played swept inputs past w).1 (played swept inputs past w).2 := by
  have playable : ∀ inputs (w : Sweeping), Playable (fun _ _ => True) swept inputs w := by
    intro inputs
    induction inputs with
    | nil => exact fun _ => trivial
    | cons input inputs ih => exact fun w => ⟨trivial, ih (swept w input)⟩
  exact @Run.play _ _ _ (fun (w : Sweeping) (input : Input) w' => w' = w.2.step input w.1)
    (fun _ _ => True) swept (fun _ _ _ => rfl) past w run inputs (playable inputs w)

/-- The turns of a sweep, each with a tag of its own. -/
def sweepTurns (status : ProviderStatus) (time : Timestamp) (sweep : String) (tags : List String) :
    List Input :=
  tags.map fun tag => sweepTurn status time (sweep ++ tag)

theorem played_within {status : ProviderStatus} {time : Timestamp} {sweep : String}
    {tags : List String} {past : List Swept} {w : Sweeping}
    (before : ∀ taken ∈ past, Within time time taken.event) :
    ∀ taken ∈ (played swept (sweepTurns status time sweep tags) past w).1,
      Within time time taken.event := by
  intro taken mem
  rcases played_event mem with earlier | turn
  · exact before taken earlier
  · obtain ⟨tag, _, event⟩ := List.mem_map.mp turn
    rw [← event]
    intro index
    exact ⟨Int.le_refl _, Int.le_refl _⟩

/-- The report of a sweep that returned and was not stopped early. -/
def wholeReport : SweepPoint → Option SweepReport
  | .returned report => if report.stoppedEarly then none else some report
  | _ => none

theorem wholeReport_some {point : SweepPoint} {report : SweepReport}
    (told : wholeReport point = some report) :
    point = .returned report ∧ report.stoppedEarly = false := by
  unfold wholeReport at told
  split at told
  · split at told
    · cases told
    · rename_i whole
      cases told
      exact ⟨rfl, Bool.eq_false_iff.mpr whole⟩
  · cases told

theorem whole_of_report {deps : RecoveryDeps} {db : Db} {time : Timestamp} {past : List Swept}
    {w : Sweeping} {report : SweepReport} (run : SweepRun deps db past w)
    (within : ∀ taken ∈ past, Within time time taken.event)
    (told : wholeReport w.2.point = some report) : WholeSweep deps time time db past report w.1 := by
  obtain ⟨returned, whole⟩ := wholeReport_some told
  exact ⟨⟨w.2, run, returned⟩, within, whole⟩

/-- A worker that sweeps one sale at a time, with one status check at most. -/
def oneByOne : RecoveryDeps where
  workerId := "worker"
  recovery :=
    { recoveryAgeMs := 60, pendingMaximumMs := 500, maxStatusAttempts := 1, claimLeaseMs := 30
      statusCheckIntervalMs := 30, batchLimit := 1 }

def returns (taken : Swept) : Bool :=
  match taken.after.2.point with
  | .releasing _ none => (failed taken.before.2.point).isNone
  | _ => false

theorem returned_of_returns {past : List Swept} (some : past.any returns = true) :
    ∃ taken ∈ past, Returned taken := by
  obtain ⟨taken, mem, some⟩ := List.any_eq_true.mp some
  refine ⟨taken, mem, ?_⟩
  unfold returns at some
  split at some
  · rename_i row released
    exact ⟨⟨row, released⟩, Option.isNone_iff_eq_none.mp some⟩
  · cases some

/-- The sweep that settles a sale a till left pending. -/
def settlingSweep : List Swept × Sweeping :=
  played swept (sweepTurns ⟨.failure, none⟩ 100 "s"
    ["a", "b", "c", "d", "e", "f", "g", "h", "i", "j", "k", "l", "m"]) []
    (leftPendingRun.2.store, unstarted oneByOne)

/-- The sweep after it finds nothing. -/
def idleSweep : List Swept × Sweeping :=
  played swept (sweepTurns ⟨.failure, none⟩ 200 "s" ["n", "o", "p"]) []
    (settlingSweep.2.1, unstarted oneByOne)

/-- The sale a till left pending is claimed in the two sweeps that are made. -/
theorem every_sale_claimed_left : ∃ sweeps db',
    Sweeps oneByOne 100 leftPendingRun.2.store sweeps db' ∧ sweeps.length = 2 ∧
      ∀ row ∈ inFlight oneByOne leftPendingRun.2.store, ∃ swept ∈ sweeps,
        Claimed row.id swept.1 := by
  have settles : SweepRun oneByOne leftPendingRun.2.store settlingSweep.1 settlingSweep.2 :=
    swept_run (.start rfl) _
  have idles : SweepRun oneByOne settlingSweep.2.1 idleSweep.1 idleSweep.2 :=
    swept_run (.start rfl) _
  have settlesNow : ∀ taken ∈ settlingSweep.1, Within 100 100 taken.event :=
    played_within (List.forall_mem_nil _)
  have idlesNow : ∀ taken ∈ idleSweep.1, Within 200 200 taken.event :=
    played_within (List.forall_mem_nil _)
  have settled : (wholeReport settlingSweep.2.2.point).isSome = true := by decide +kernel
  have nothing : (wholeReport idleSweep.2.2.point).map (·.found) = some 0 := by decide +kernel
  obtain ⟨first, told⟩ := Option.isSome_iff_exists.mp settled
  obtain ⟨second, told', empty⟩ := Option.map_eq_some_iff.mp nothing
  have run : Sweeps oneByOne 100 leftPendingRun.2.store
      [(settlingSweep.1, first), (idleSweep.1, second)] idleSweep.2.1 := by
    apply Sweeps.sweep (Int.le_refl _) (Int.le_refl _) (whole_of_report settles settlesNow told)
    have later : max 100 (100 + maximumRecoveryAgeMs oneByOne.recovery) ≤ 200 := by decide
    apply Sweeps.sweep later (Int.le_refl _) (whole_of_report idles idlesNow told')
    exact .done
  have unclaimed : leftPendingRun.2.store.recoveryClaims = [] := by decide +kernel
  have enough : 2 = (inFlight oneByOne leftPendingRun.2.store).length *
      (mostStatusAttempts oneByOne.recovery + 1) := by decide +kernel
  have returned : settlingSweep.1.any returns = true := by decide +kernel
  have tidy : Tidy 0 leftPendingRun.2.store := by
    refine ⟨?_, ?_, ?_, by decide +kernel⟩
    · unfold Library.Unique
      decide +kernel
    · unfold OneClaimEach
      rw [unclaimed]
      exact List.nodup_nil
    · exact awaits_of_rows (by decide +kernel)
  have leased : Leased none oneByOne.workerId 100 leftPendingRun.2.store := by
    intro claim mem
    rw [unclaimed] at mem
    cases mem
  refine ⟨_, _, run, rfl, ?_⟩
  apply every_sale_claimed tidy (by decide) leased (.inl (by decide)) run enough
  intro swept mem
  rcases List.mem_cons.mp mem with rfl | mem
  · exact fun _ => returned_of_returns returned
  · cases List.mem_singleton.mp mem
    intro full
    rw [show second.found = 0 from empty] at full
    cases full

/-- A shop with two sales in flight: one the provider was never asked about, whose value was never
held either, and a later one the provider never answered. -/
def stranded : Db :=
  { SweepReports.unansweredSale with
    transactions := SweepReports.unansweredSale.transactions.flatMap fun row =>
      [{ row with id := "poison", state := .reserved },
       { row with id := "stuck", idempotencyKey := "later", updatedAt := 1 }] }

/-- The scan finds the earlier sale, and no other. -/
theorem candidates_stranded {db : Db} {startedAt : Int} (late : 100 ≤ startedAt)
    (sales : db.transactions = stranded.transactions) :
    candidates oneByOne startedAt db = [⟨"poison", "shop"⟩] := by
  have age : minimumRecoveryAgeMs oneByOne.recovery = 60 := by decide
  have flying : ∀ row ∈ stranded.transactions,
      row.state ∈ inFlightStates ∧ row.updatedAt ≤ (1 : Int) := by decide +kernel
  have all : stranded.transactions.filter (fun row =>
      row.state ∈ inFlightStates ∧
        row.updatedAt ≤ startedAt - minimumRecoveryAgeMs oneByOne.recovery ∧
        ∀ wanted ∈ oneByOne.merchantId, row.merchantId = wanted) = stranded.transactions := by
    apply List.filter_eq_self.mpr
    intro row mem
    obtain ⟨state, early⟩ := flying row mem
    rw [age]
    exact decide_eq_true ⟨state, Int.le_trans early (by omega), nofun⟩
  unfold candidates findInFlightOlderThan
  rw [sales]
  simp only [all]
  rw [List.mergeSort_of_pairwise (by decide +kernel)]
  rfl

/-- A sweep of that shop that has begun. -/
def begunSweep (db : Db) (time : Timestamp) (sweep : String) : List Swept × Sweeping :=
  played swept (sweepTurns ⟨.stillPending, none⟩ time sweep ["a"]) [] (db, unstarted oneByOne)

/-- What the scan makes of it. -/
def scanned (w : Sweeping) : Sweeping :=
  (w.1, { w.2 with todo := [⟨"poison", "shop"⟩], gathered := { found := 1 }, point := .next })

/-- The whole sweep. -/
def strandedSweep (db : Db) (time : Timestamp) (sweep : String) : List Swept × Sweeping :=
  let (past, w) := begunSweep db time sweep
  played swept (sweepTurns ⟨.stillPending, none⟩ time sweep
      ["c", "d", "e", "f", "g", "h", "i", "j", "k", "l", "m"])
    (⟨w, sweepTurn ⟨.stillPending, none⟩ time (sweep ++ "b"), scanned w⟩ :: past) (scanned w)

theorem begunSweep_begun (db : Db) (time : Timestamp) (sweep : String) :
    (begunSweep db time sweep).2.2.deps = oneByOne ∧
      (begunSweep db time sweep).2.2.startedAt = time := by
  simp only [begunSweep, sweepTurns, List.map_cons, List.map_nil, played, swept, unstarted,
    RecoverInFlight.step]
  split
  · exact ⟨rfl, rfl⟩
  · exact ⟨rfl, rfl⟩

theorem scanned_steps {w : Sweeping} {time : Int} (late : 100 ≤ time)
    (sales : w.1.transactions = stranded.transactions) (scanning : w.2.point = .scanning)
    (begun : w.2.deps = oneByOne ∧ w.2.startedAt = time) (input : Input) :
    scanned w = w.2.step input w.1 := by
  have found := candidates_stranded late sales
  unfold candidates at found
  unfold RecoverInFlight.step scanned
  simp only [scanning, begun.1, begun.2, found]
  rfl

theorem strandedSweep_whole {db : Db} {time : Int} {sweep : String} (late : 100 ≤ time)
    (sales : (begunSweep db time sweep).2.1.transactions = stranded.transactions)
    (scanning : (begunSweep db time sweep).2.2.point = .scanning)
    (whole : (wholeReport (strandedSweep db time sweep).2.2.point).isSome = true) :
    ∃ report, WholeSweep oneByOne time time db (strandedSweep db time sweep).1 report
      (strandedSweep db time sweep).2.1 := by
  obtain ⟨report, told⟩ := Option.isSome_iff_exists.mp whole
  have begins : SweepRun oneByOne db (begunSweep db time sweep).1 (begunSweep db time sweep).2 :=
    swept_run (.start rfl) _
  have scans := scanned_steps late sales scanning (begunSweep_begun db time sweep)
    (sweepTurn ⟨.stillPending, none⟩ time (sweep ++ "b"))
  have within : ∀ taken ∈ (begunSweep db time sweep).1, Within time time taken.event :=
    played_within (List.forall_mem_nil _)
  refine ⟨report, whole_of_report (swept_run (.step begins scans) _) ?_ told⟩
  apply played_within
  intro taken mem
  rcases List.mem_cons.mp mem with rfl | earlier
  · exact fun _ => ⟨Int.le_refl _, Int.le_refl _⟩
  · exact within taken earlier

/-- The sales that a sweep was about to claim. -/
def claimedIds (past : List Swept) : List TransactionId :=
  past.filterMap fun taken =>
    match taken.before.2.point with
    | .claiming row _ => some row.id
    | _ => none

theorem mem_claimedIds {t : TransactionId} {past : List Swept} (claimed : Claimed t past) :
    t ∈ claimedIds past := by
  obtain ⟨taken, mem, row, policy, claiming, _, own⟩ := claimed
  apply List.mem_filterMap.mpr
  refine ⟨taken, mem, ?_⟩
  rw [claiming]
  exact congrArg some own

def strandedFirst := strandedSweep stranded 100 "a"
def strandedSecond := strandedSweep strandedFirst.2.1 200 "b"
def strandedThird := strandedSweep strandedSecond.2.1 300 "c"
def strandedFourth := strandedSweep strandedThird.2.1 400 "d"

/-- A sale whose recovery throws in every sweep keeps the one behind it from ever being claimed. -/
theorem stranded_never_claimed : ¬ ∀ deps latest since db sweeps db',
    0 < deps.recovery.batchLimit → Tidy latest db → latest ≤ since →
      Leased none deps.workerId since db → Sweeps deps since db sweeps db' →
      sweeps.length = (inFlight deps db).length * (mostStatusAttempts deps.recovery + 1) →
      ∀ row ∈ inFlight deps db, ∃ swept ∈ sweeps, Claimed row.id swept.1 := by
  intro every
  have unclaimed : stranded.recoveryClaims = [] := by decide +kernel
  have tidy : Tidy 1 stranded := by
    refine ⟨?_, ?_, ?_, by decide +kernel⟩
    · unfold Library.Unique
      decide +kernel
    · unfold OneClaimEach
      rw [unclaimed]
      exact List.nodup_nil
    · exact awaits_of_rows (by decide +kernel)
  have leased : Leased none oneByOne.workerId 100 stranded := by
    intro claim mem
    rw [unclaimed] at mem
    cases mem
  obtain ⟨first, whole⟩ : ∃ report, WholeSweep oneByOne 100 100 stranded strandedFirst.1 report
      strandedFirst.2.1 :=
    strandedSweep_whole (by decide) (by decide +kernel) (by decide +kernel) (by decide +kernel)
  obtain ⟨second, whole'⟩ : ∃ report, WholeSweep oneByOne 200 200 strandedFirst.2.1
      strandedSecond.1 report strandedSecond.2.1 :=
    strandedSweep_whole (by decide) (by decide +kernel) (by decide +kernel) (by decide +kernel)
  obtain ⟨third, whole''⟩ : ∃ report, WholeSweep oneByOne 300 300 strandedSecond.2.1
      strandedThird.1 report strandedThird.2.1 :=
    strandedSweep_whole (by decide) (by decide +kernel) (by decide +kernel) (by decide +kernel)
  obtain ⟨fourth, whole'''⟩ : ∃ report, WholeSweep oneByOne 400 400 strandedThird.2.1
      strandedFourth.1 report strandedFourth.2.1 :=
    strandedSweep_whole (by decide) (by decide +kernel) (by decide +kernel) (by decide +kernel)
  have run : Sweeps oneByOne 100 stranded
      [(strandedFirst.1, first), (strandedSecond.1, second), (strandedThird.1, third),
        (strandedFourth.1, fourth)] strandedFourth.2.1 := by
    have later : max 100 (100 + maximumRecoveryAgeMs oneByOne.recovery) ≤ 200 := by decide
    have later' : max 200 (200 + maximumRecoveryAgeMs oneByOne.recovery) ≤ 300 := by decide
    have later'' : max 300 (300 + maximumRecoveryAgeMs oneByOne.recovery) ≤ 400 := by decide
    apply Sweeps.sweep (Int.le_refl _) (Int.le_refl _) whole
    apply Sweeps.sweep later (Int.le_refl _) whole'
    apply Sweeps.sweep later' (Int.le_refl _) whole''
    apply Sweeps.sweep later'' (Int.le_refl _) whole'''
    exact .done
  have enough : 4 = (inFlight oneByOne stranded).length * (mostStatusAttempts oneByOne.recovery + 1) :=
    by decide +kernel
  have missed : ∀ past ∈ [strandedFirst.1, strandedSecond.1, strandedThird.1, strandedFourth.1],
      "stuck" ∉ claimedIds past := by decide +kernel
  have stuck : ((inFlight oneByOne stranded).any fun row => row.id = "stuck") = true := by
    decide +kernel
  obtain ⟨row, mem, id⟩ := List.any_eq_true.mp stuck
  obtain ⟨swept, there, claimed⟩ := every oneByOne 1 100 stranded _ _ (by decide) tidy (by decide)
    leased run enough row mem
  rw [of_decide_eq_true id] at claimed
  apply missed swept.1 _ (mem_claimedIds claimed)
  exact List.mem_map_of_mem (f := Prod.fst) there

end Examples

end Telga.Proofs.Fairness
