import Telga.Application.Context

namespace Telga.Application
open Domain Persistence Library

/-- Scan-level audit rows are not merchant-scoped; this is their marker. -/
def platformScope : MerchantId := "__platform__"

/-- States the sweep considers in flight. -/
def inFlightStates : List TransactionState := [.processing, .reserved, .pending]

inductive RecoveryKind
  | recoveredSuccessful
  | recoveredFailed
  | releasedNeverSubmitted
  | movedToPending
  | escalatedUnderReview
  | skippedTooRecent
  | skippedTerminal
  | skippedClaimedByOther
  | recoveryFailed
deriving DecidableEq, Repr

structure RecoveryResult where
  transactionId : TransactionId
  merchantId : MerchantId
  kind : RecoveryKind
  stateBefore : TransactionState
  state : TransactionState
  providerOutcome : ProviderLookupOutcome
  providerReference : Option String := none
  attempts : Nat := 0
  correlationId : CorrelationId
  operationalAlert : Bool := false
  supportReference : Option String := none
  reasonCode : Option String := none
deriving DecidableEq

structure SweepReport where
  scanId : String
  startedAt : Timestamp
  finishedAt : Timestamp
  found : Nat
  claimed : Nat
  duplicateWorkersPrevented : Nat
  recoveredSuccessful : Nat
  recoveredFailed : Nat
  releasedNeverSubmitted : Nat
  movedToPending : Nat
  escalatedUnderReview : Nat
  skipped : Nat
  recoveryFailures : Nat
  operationalAlerts : Nat
  providerLookupMs : Int
  stoppedEarly : Bool
  results : List RecoveryResult
deriving DecidableEq

structure RecoveryDeps where
  workerId : String
  recovery : RecoveryConfig
  merchantId : Option MerchantId := none

/-- What a sweep has gathered so far. -/
structure Gathered where
  found : Nat := 0
  claimed : Nat := 0
  duplicateWorkersPrevented : Nat := 0
  providerLookupMs : Int := 0
  stoppedEarly : Bool := false
  results : List RecoveryResult := []

/-- The transaction under claim: the row the sweep read, and the row and correlation id it is
being recovered with. -/
structure UnderClaim where
  row : TransactionRow
  policy : RecoveryPolicy
  current : TransactionRow
  correlationId : CorrelationId
deriving DecidableEq

/-- Where a sweep stands between two atomic steps. -/
inductive SweepPoint
  | begin
  | scanning
  | next
  | claiming (row : TransactionRow) (policy : RecoveryPolicy)
  | prevented (row : TransactionRow)
  | claimed (row : TransactionRow) (policy : RecoveryPolicy)
  | reading (row : TransactionRow) (policy : RecoveryPolicy)
  | job (row : TransactionRow) (policy : RecoveryPolicy) (current : TransactionRow)
  | neverSubmitted (work : UnderClaim)
  | uncertain (work : UnderClaim)
  | announcing (work : UnderClaim)
  | lookingUp (work : UnderClaim) (lookupStart : Timestamp)
  | noting (work : UnderClaim) (lookupMs : Int) (outcome : ProviderLookupOutcome)
      (providerReference : Option String)
  | applying (work : UnderClaim) (lookupMs : Int) (outcome : ProviderLookupOutcome)
      (providerReference : Option String)
  | failing (row : TransactionRow) (fault : Fault)
  | failedRow (row : TransactionRow) (fault : Fault)
  | failedJob (row : TransactionRow) (fault : Fault) (state : TransactionState)
  | releasing (row : TransactionRow) (rethrown : Option Fault)
  | returned (report : SweepReport)
  | threw (fault : Fault)
deriving DecidableEq

/-- A running call of `recoverInFlight`. -/
structure RecoverInFlight where
  deps : RecoveryDeps
  scanId : String
  startedAt : Timestamp
  todo : List Candidate
  gathered : Gathered
  point : SweepPoint

def recoveryActor : AuditActor := ⟨"system", .system⟩

def skip (row : TransactionRow) (kind : RecoveryKind) (correlationId : CorrelationId) :
    RecoveryResult :=
  { transactionId := row.id, merchantId := row.merchantId, kind, stateBefore := row.state,
    state := row.state, providerOutcome := .notAttempted, correlationId }

def writeAudit (db : Db) (input : Input) (index : Nat) (action : AuditAction)
    (merchantId : MerchantId) (transactionId : TransactionId) (correlationId : CorrelationId) :
    Except Fault Db :=
  saveAudit db (input.newId index) (input.now index) action recoveryActor merchantId transactionId
    correlationId

/-- What the ledger operations of a recovery are given: the stored row's own amount. -/
def recoveryOperation (row : TransactionRow) (now : Timestamp) (correlationId : CorrelationId)
    (postingId : PostingId) (auditId : AuditEventId) : OperationContext :=
  { merchantId := row.merchantId, transactionId := row.id, amount := row.amount, now,
    correlationId, actor := recoveryActor, postingId, auditId }

/-- Create the pending row if absent. Its clock starts when the transaction entered the
in-flight state, not when the sweep noticed it. -/
def ensurePending (db : Db) (row : TransactionRow) (correlationId : CorrelationId)
    (policy : RecoveryPolicy) : Except Fault Db :=
  upsertPendingResolution db
    { transactionId := row.id, merchantId := row.merchantId,
      idempotencyKey := row.idempotencyKey, providerReference := row.providerReference,
      correlationId, firstPendingAt := row.updatedAt,
      deadlineAt := row.updatedAt + policy.pendingMaximumMs }

def attemptsOf (db : Db) (transactionId : TransactionId) : Nat :=
  ((findPendingResolution db transactionId).map (·.attempts)).getD 0

/-- Reserved and provably never submitted: fail it by the legal path and release, from the row
read before the unit of work. -/
def releaseNeverSubmitted (work : UnderClaim) (input : Input) (db : Db) :
    Except Fault (Db × RecoveryResult) := do
  let now := input.now 0
  let row := work.current
  let processing ← transitionTo (rehydrate row) .processing now
  let failed ← transitionTo processing .failed now
  let db ← persistRehydrated db failed row
  let db ← release db
    (recoveryOperation row now work.correlationId (input.newId 0) (input.newId 1))
  let db := recordIdempotencyResult db row.merchantId row.idempotencyKey .failed now
  let db ← writeAudit db input 2 .recoveryRecoveredFailed row.merchantId row.id work.correlationId
  return (db,
    { transactionId := row.id, merchantId := row.merchantId, kind := .releasedNeverSubmitted,
      stateBefore := row.state, state := .failed, providerOutcome := .notAttempted,
      correlationId := work.correlationId, reasonCode := some "PROVIDER_NEVER_CALLED" })

/-- Reserved with a provider reference: move onto the pending path before looking up. -/
def moveUncertain (work : UnderClaim) (input : Input) (db : Db) : Except Fault (Db × Unit) := do
  let now := input.now 0
  let row := work.current
  let processing ← transitionTo (rehydrate row) .processing now
  let pending ← transitionTo processing .pending now
  let db ← persistRehydrated db pending row
  let db ← ensurePending db row work.correlationId work.policy
  let db ← writeAudit db input 1 .recoveryMovedToPending row.merchantId row.id work.correlationId
  return (db, ())

/-- The provider delivered: debit. -/
def recoverSuccess (work : UnderClaim) (current : TransactionRow)
    (providerReference : Option String) (input : Input) (db : Db) :
    Except Fault (Db × RecoveryResult) := do
  let now := input.now 0
  let next ← transitionTo (rehydrate current) .successful now providerReference
  let db ← persistRehydrated db next current
  let db ← finalizeSuccess db
    (recoveryOperation current now work.correlationId (input.newId 0) (input.newId 1))
  let db := (closePendingResolution db current.id .resolved now).1
  let db := recordIdempotencyResult db current.merchantId current.idempotencyKey .successful now
  let db ← writeAudit db input 2 .recoveryRecoveredSuccessful current.merchantId current.id
    work.correlationId
  return (db,
    { transactionId := current.id, merchantId := current.merchantId, kind := .recoveredSuccessful,
      stateBefore := work.current.state, state := .successful,
      providerOutcome := .confirmedSuccess, providerReference,
      attempts := attemptsOf db current.id, correlationId := work.correlationId })

/-- The provider did not deliver: release. -/
def recoverFailure (work : UnderClaim) (current : TransactionRow)
    (providerReference : Option String) (input : Input) (db : Db) :
    Except Fault (Db × RecoveryResult) := do
  let now := input.now 0
  let next ← transitionTo (rehydrate current) .failed now providerReference
  let db ← persistRehydrated db next current
  let db ← release db
    (recoveryOperation current now work.correlationId (input.newId 0) (input.newId 1))
  let db := (closePendingResolution db current.id .resolved now).1
  let db := recordIdempotencyResult db current.merchantId current.idempotencyKey .failed now
  let db ← writeAudit db input 2 .recoveryRecoveredFailed current.merchantId current.id
    work.correlationId
  return (db,
    { transactionId := current.id, merchantId := current.merchantId, kind := .recoveredFailed,
      stateBefore := work.current.state, state := .failed,
      providerOutcome := .confirmedFailure, providerReference,
      attempts := attemptsOf db current.id, correlationId := work.correlationId })

/-- Still unknown past the deadline or out of attempts: escalate, and hold the value. -/
def escalateRecovery (work : UnderClaim) (current : TransactionRow) (working : Transaction)
    (outcome : ProviderLookupOutcome) (providerReference : Option String) (attempts : Nat)
    (input : Input) (db : Db) : Except Fault (Db × RecoveryResult) := do
  let now := input.now 0
  let escalated ← transitionTo working .underReview now
  let db ← persistRehydrated db escalated current
  let db ← moveToUnderReview db
    (recoveryOperation current now work.correlationId (input.newId 0) (input.newId 1))
  let db := (closePendingResolution db current.id .escalated now).1
  let existing := findSupportCaseByTransaction db current.id current.merchantId
  let reference := (existing.map (·.reference)).getD (supportReference current.id)
  let db ← if existing = none then do
      let db ← createSupportCase db
        { id := input.newId 2, merchantId := current.merchantId, transactionId := current.id,
          reason := .underReview, reference, correlationId := work.correlationId, now }
      writeAudit db input 3 .manualReviewCreated current.merchantId current.id work.correlationId
    else .ok db
  let db := updatePendingMetadata db current.id { now, manualReviewOpen := true }
  let db ← writeAudit db input 4 .recoveryEscalatedUnderReview current.merchantId current.id
    work.correlationId
  return (db,
    { transactionId := current.id, merchantId := current.merchantId,
      kind := .escalatedUnderReview, stateBefore := work.current.state, state := .underReview,
      providerOutcome := outcome, providerReference, attempts, correlationId := work.correlationId,
      operationalAlert := isOperationalFault outcome, supportReference := some reference })

/-- Count the attempt of a sale that stays unknown, and escalate when time or attempts have run
out. -/
def countAttempt (work : UnderClaim) (current : TransactionRow) (working : Transaction)
    (outcome : ProviderLookupOutcome) (providerReference : Option String) (input : Input) (db : Db) :
    Except Fault (Db × RecoveryResult) := do
  let now := input.now 0
  let db ← ensurePending db current work.correlationId work.policy
  let db := recordResolutionAttempt db current.id now
  let job := findPendingResolution db current.id
  let attempts := (job.map (·.attempts)).getD 0
  let pastDeadline := job.any fun job => isAfter now job.deadlineAt
  let outOfAttempts := decide (work.policy.maxStatusAttempts ≤ attempts)
  let db := updatePendingMetadata db current.id
    { now, nextCheckAt := some (now + work.policy.statusCheckIntervalMs),
      lastOutcomeCategory := some outcome,
      currentState := some (if pastDeadline || outOfAttempts then .underReview else .pending) }
  let told : RecoveryResult :=
    { transactionId := current.id, merchantId := current.merchantId, kind := .movedToPending,
      stateBefore := work.current.state, state := .pending, providerOutcome := outcome,
      providerReference, attempts, correlationId := work.correlationId }
  if pastDeadline || outOfAttempts then
    escalateRecovery work current working outcome providerReference attempts input db
  else if isOperationalFault outcome then do
    -- A misconfigured platform is not a failed sale: alert and hold.
    let db ← writeAudit db input 2 .recoveryAttemptFailed current.merchantId current.id
      work.correlationId
    return (db, { told with
      kind := .recoveryFailed, operationalAlert := true,
      reasonCode := some "PROVIDER_AUTH_OR_CONFIG_FAILURE" })
  else do
    let db ← writeAudit db input 2 .recoveryMovedToPending current.merchantId current.id
      work.correlationId
    return (db, told)

/-- Nobody knows yet: hold the value, as a pending sale. -/
def holdRecovery (work : UnderClaim) (current : TransactionRow) (outcome : ProviderLookupOutcome)
    (providerReference : Option String) (input : Input) (db : Db) :
    Except Fault (Db × RecoveryResult) :=
  if current.state = .processing then do
    let working ← transitionTo (rehydrate current) .pending (input.now 0)
    let db ← persistRehydrated db working current
    countAttempt work current working outcome providerReference input db
  else countAttempt work current (rehydrate current) outcome providerReference input db

/-- The unit of work after the lookup, which reads the row again before it decides. -/
def applyLookup (work : UnderClaim) (outcome : ProviderLookupOutcome)
    (providerReference : Option String) (input : Input) (db : Db) :
    Except Fault (Db × RecoveryResult) := do
  let current ← expect (findTransaction db work.current.id work.current.merchantId) .unexpected
  if current.state ≠ .processing ∧ current.state ≠ .pending then
    return (db, skip current .skippedTerminal work.correlationId)
  else
    match outcome with
    | .confirmedSuccess => recoverSuccess work current providerReference input db
    | .confirmedFailure => recoverFailure work current providerReference input db
    | _ => holdRecovery work current outcome providerReference input db

/-- A stable code for an error met in recovery. -/
def recoveryCode (fault : Fault) : String :=
  (faultCode fault).getD "Error"

def RecoverInFlight.count (sweep : RecoverInFlight) (kind : RecoveryKind) : Nat :=
  (sweep.gathered.results.filter fun result => result.kind = kind).length

def RecoverInFlight.report (sweep : RecoverInFlight) (finishedAt : Timestamp) : SweepReport :=
  { scanId := sweep.scanId, startedAt := sweep.startedAt, finishedAt,
    found := sweep.gathered.found, claimed := sweep.gathered.claimed,
    duplicateWorkersPrevented := sweep.gathered.duplicateWorkersPrevented,
    recoveredSuccessful := sweep.count .recoveredSuccessful,
    recoveredFailed := sweep.count .recoveredFailed,
    releasedNeverSubmitted := sweep.count .releasedNeverSubmitted,
    movedToPending := sweep.count .movedToPending,
    escalatedUnderReview := sweep.count .escalatedUnderReview,
    skipped := sweep.count .skippedTooRecent + sweep.count .skippedTerminal +
      sweep.count .skippedClaimedByOther,
    recoveryFailures := sweep.count .recoveryFailed,
    operationalAlerts :=
      (sweep.gathered.results.filter fun result => result.operationalAlert).length,
    providerLookupMs := sweep.gathered.providerLookupMs,
    stoppedEarly := sweep.gathered.stoppedEarly, results := sweep.gathered.results }

def RecoverInFlight.at (sweep : RecoverInFlight) (point : SweepPoint) : RecoverInFlight :=
  { sweep with point }

def RecoverInFlight.add (sweep : RecoverInFlight) (result : RecoveryResult) : RecoverInFlight :=
  { sweep with
    gathered := { sweep.gathered with results := sweep.gathered.results ++ [result] } }

/-- A write outside any larger unit: one audit event about the transaction under claim, then on
to the next point, or to where a throw leads. -/
def RecoverInFlight.auditing (sweep : RecoverInFlight) (input : Input) (db : Db)
    (action : AuditAction) (row : TransactionRow) (correlationId : CorrelationId)
    (next : SweepPoint) (thrown : Fault → SweepPoint) : Db × RecoverInFlight :=
  match unit input (fun db =>
      (·, ()) <$> writeAudit db input 0 action row.merchantId row.id correlationId) db with
  | (db, .ok _) => (db, sweep.at next)
  | (db, .error fault) => (db, sweep.at (thrown fault))

/-- A transaction was recovered: note the result and let the claim go. -/
def RecoverInFlight.settled (sweep : RecoverInFlight) (row : TransactionRow)
    (result : RecoveryResult) (lookupMs : Int) : RecoverInFlight :=
  let noted := sweep.add result
  { noted with
    gathered := { noted.gathered with
      providerLookupMs := noted.gathered.providerLookupMs + lookupMs }
    point := .releasing row none }

/-- One atomic step of `recoverInFlight`. -/
def RecoverInFlight.step (input : Input) (db : Db) (sweep : RecoverInFlight) :
    Db × RecoverInFlight :=
  match sweep.point with
  | .begin =>
    let sweep := { sweep with scanId := input.newId 0, startedAt := input.now 0 }
    match unit input (fun db => (·, ()) <$> saveAuditEvent db
        { event := { id := input.newId 1, occurredAt := input.now 1, action := .recoveryScanStarted,
                     actor := recoveryActor,
                     merchantId := sweep.deps.merchantId.getD platformScope,
                     transactionId := none }
          correlationId := sweep.scanId, entityType := "transaction", entityId := none }) db with
    | (db, .ok _) => (db, sweep.at .scanning)
    | (db, .error fault) => (db, sweep.at (.threw fault))
  | .scanning =>
    let candidates := findInFlightOlderThan db inFlightStates
      (sweep.startedAt - minimumRecoveryAgeMs sweep.deps.recovery)
      sweep.deps.recovery.batchLimit sweep.deps.merchantId
    (db, { sweep with
      todo := candidates, gathered := { found := candidates.length }, point := .next })
  | .next =>
    match sweep.todo with
    | [] => (db, sweep.at (.returned (sweep.report (input.now 0))))
    | candidate :: rest =>
      if input.shouldContinue = false then
        let stopped := { sweep with
          gathered := { sweep.gathered with stoppedEarly := true } }
        (db, stopped.at (.returned (stopped.report (input.now 0))))
      else
        let sweep := { sweep with todo := rest }
        match findTransaction db candidate.id candidate.merchantId with
        | none => (db, sweep.at .next)
        | some row =>
          let policy := policyFor sweep.deps.recovery row.providerId
          if input.now 0 - row.updatedAt < policy.recoveryAgeMs then
            (db, (sweep.add (skip row .skippedTooRecent sweep.scanId)).at .next)
          else (db, sweep.at (.claiming row policy))
  | .claiming row policy =>
    match unit input (fun db => claimTransaction db
        { transactionId := row.id, workerId := sweep.deps.workerId, scanId := sweep.scanId,
          now := input.now 0, expiresAt := input.now 1 + policy.claimLeaseMs }) db with
    | (db, .ok true) =>
      (db, { sweep with
        gathered := { sweep.gathered with claimed := sweep.gathered.claimed + 1 }
        point := .claimed row policy })
    | (db, .ok false) =>
      (db, { sweep with
        gathered := { sweep.gathered with
          duplicateWorkersPrevented := sweep.gathered.duplicateWorkersPrevented + 1 }
        point := .prevented row })
    | (db, .error fault) => (db, sweep.at (.threw fault))
  | .prevented row =>
    (sweep.add (skip row .skippedClaimedByOther sweep.scanId)).auditing input db
      .recoveryDuplicateWorkerPrevented row sweep.scanId .next .threw
  | .claimed row policy =>
    sweep.auditing input db .recoveryClaimed row sweep.scanId (.reading row policy) .threw
  | .reading row policy =>
    match findTransaction db row.id row.merchantId with
    | none => (db, sweep.at (.failing row .unexpected))
    | some current => (db, sweep.at (.job row policy current))
  | .job row policy current =>
    let correlationId := ((findPendingResolution db row.id).map
      (·.correlationId)).getD sweep.scanId
    let work : UnderClaim := { row, policy, current, correlationId }
    if current.state ≠ .processing ∧ current.state ≠ .reserved ∧ current.state ≠ .pending then
      (db, sweep.settled row (skip current .skippedTerminal correlationId) 0)
    else if current.state = .reserved ∧ current.providerReference = none then
      (db, sweep.at (.neverSubmitted work))
    else if current.state = .reserved then (db, sweep.at (.uncertain work))
    else (db, sweep.at (.announcing work))
  | .neverSubmitted work =>
    match unit input (releaseNeverSubmitted work input) db with
    | (db, .ok result) => (db, sweep.settled work.row result 0)
    | (db, .error fault) => (db, sweep.at (.failing work.row fault))
  | .uncertain work =>
    match unit input (moveUncertain work input) db with
    | (db, .ok _) => (db, sweep.at (.announcing work))
    | (db, .error fault) => (db, sweep.at (.failing work.row fault))
  | .announcing work =>
    sweep.auditing input db .recoveryStatusLookup work.row work.correlationId
      (.lookingUp work (input.now 1)) (.failing work.row)
  | .lookingUp work lookupStart =>
    let lookupMs := max 0 (input.now 0 - lookupStart)
    match input.status with
    | .answered status =>
      (db, sweep.at (.noting work lookupMs (classifyStatus status)
        (status.providerReference <|> work.current.providerReference)))
    | .threw live token =>
      (db, sweep.at (.noting work lookupMs (classifyLookupFailure live token)
        work.current.providerReference))
  | .noting work lookupMs outcome providerReference =>
    sweep.auditing input db .recoveryOutcomeReceived work.row work.correlationId
      (.applying work lookupMs outcome providerReference) (.failing work.row)
  | .applying work lookupMs outcome providerReference =>
    match unit input (applyLookup work outcome providerReference input) db with
    | (db, .ok result) => (db, sweep.settled work.row result lookupMs)
    | (db, .error fault) => (db, sweep.at (.failing work.row fault))
  | .failing row fault =>
    sweep.auditing input db .recoveryAttemptFailed row sweep.scanId (.failedRow row fault)
      fun fault => .releasing row (some fault)
  | .failedRow row fault =>
    let current := (findTransaction db row.id row.merchantId).getD row
    (db, sweep.at (.failedJob row fault current.state))
  | .failedJob row fault state =>
    (db, (sweep.add
      { transactionId := row.id, merchantId := row.merchantId, kind := .recoveryFailed,
        stateBefore := row.state, state, providerOutcome := .unknown,
        attempts := attemptsOf db row.id, correlationId := sweep.scanId,
        operationalAlert := true, reasonCode := some (recoveryCode fault) }).at
      (.releasing row none))
  | .releasing row rethrown =>
    match unit input (fun db =>
        .ok (releaseClaim db row.id sweep.deps.workerId (input.now 0), ())) db with
    | (db, .ok _) =>
      match rethrown with
      | none => (db, sweep.at .next)
      | some fault => (db, sweep.at (.threw fault))
    | (db, .error fault) => (db, sweep.at (.threw fault))
  | .returned _ => (db, sweep)
  | .threw _ => (db, sweep)

end Telga.Application
