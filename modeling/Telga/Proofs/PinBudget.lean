import Telga.Application.PinRequests
import Telga.Library.Windows
import Telga.Proofs.PosRuns

namespace Telga.Proofs
open Domain Persistence Application Library

/-- A PIN that is compared with the stored one, at the time its request goes by. -/
structure PinComparison where
  userId : MerchantUserId
  now : Timestamp
  right : Bool
deriving DecidableEq

/-- The comparison an authorization makes next, if it has found its operator. -/
def comparingOrder (call : AuthorizeOrder) : Option PinComparison :=
  match call.point with
  | .verifying _ now (some user) =>
    some ⟨call.context.userId, now, call.deps.verifySecret call.pin user.pin⟩
  | _ => none

def comparingChange (call : ChangePin) : Option PinComparison :=
  match call.point with
  | .verifying now (some user) =>
    some ⟨call.context.userId, now, call.deps.verifySecret call.currentPin user.pin⟩
  | _ => none

def comparingUnlock (call : UnlockWithPin) : Option PinComparison :=
  match call.point with
  | .verifying now (some user) =>
    some ⟨call.context.userId, now, call.deps.verifySecret call.pin user.pin⟩
  | _ => none

/-- The comparison a request makes with its next step. -/
def comparing : PinRequest → Option PinComparison
  | .pos (.authorizeOrder call) => comparingOrder call
  | .pos _ => none
  | .changePin call => comparingChange call
  | .unlockWithPin call => comparingUnlock call

/-- What a request has still to put on record: the comparison behind it. -/
def unrecorded : PinRequest → Option PinComparison
  | .pos (.authorizeOrder call) =>
    match call.point with
    | .refusing now => some ⟨call.context.userId, now, false⟩
    | .accepting _ now => some ⟨call.context.userId, now, true⟩
    | _ => none
  | .pos _ => none
  | .changePin call =>
    match call.point with
    | .refusing now => some ⟨call.context.userId, now, false⟩
    | .hashing now | .changing now _ | .recording now => some ⟨call.context.userId, now, true⟩
    | _ => none
  | .unlockWithPin call =>
    match call.point with
    | .recording now outcome => some ⟨call.context.userId, now, decide (outcome = .success)⟩
    | _ => none

/-- The recorded attempt of a PIN, as the comparison it stands for. -/
def attemptOf (row : AuthAttemptRow) : Option PinComparison :=
  if row.scope = .pinAuth then some ⟨row.subject, row.createdAt, decide (row.outcome = .success)⟩
  else none

def recorded (pos : PosDb) : List PinComparison :=
  pos.authAttempts.filterMap attemptOf

/-- One step of the server, as it was taken. -/
abbrev PinHappened := Taken (World PosDb PinRequest) (Event PinInput PinRequest)

/-- The comparison a step makes, if it makes one. -/
def comparedPin (taken : PinHappened) : Option PinComparison :=
  ofActor (fun _ => comparing) taken

def comparisons (past : List PinHappened) : List PinComparison :=
  past.filterMap comparedPin

/-- A comparison of an operator's PIN since a time, and where only wrong ones count, a wrong one. -/
def countsFor (userId : MerchantUserId) (wrong : Bool) (since : Timestamp)
    (comparison : PinComparison) : Bool :=
  comparison.userId = userId ∧ since < comparison.now ∧ (wrong = true → comparison.right = false)

/-- The times at which PINs of an operator were compared, or at which wrong ones were. -/
def timesOf (userId : MerchantUserId) (wrong : Bool) (past : List PinHappened) : List Timestamp :=
  ((comparisons past).filter fun comparison =>
    comparison.userId = userId ∧ (wrong = true → comparison.right = false)).map (·.now)

/-- The budget of every operator's PIN is kept to: by wrong PINs in the trailing lockout window, by
all of them in the trailing rate window, and nobody's is compared while its operator is locked. -/
structure BudgetKept (policy : LockoutPolicy) (past : List PinHappened) : Prop where
  wrong : ∀ userId last,
    within policy.lockoutMs last (timesOf userId true past) ≤ policy.maxFailedAttempts
  all : ∀ userId last,
    within policy.rateWindowMs last (timesOf userId false past) ≤ policy.maxAttemptsPerWindow
  unlocked : ∀ later taken earlier, past = later ++ taken :: earlier →
    ∀ comparison ∈ comparedPin taken,
      ((timesOf comparison.userId true earlier).countP fun time =>
        comparison.now - policy.lockoutMs < time) < policy.maxFailedAttempts

/-- The records and what is in flight leave room for a comparison, in both windows that end with
it. -/
def HasRoom (policy : LockoutPolicy) (w : World PosDb PinRequest) (comparison : PinComparison) :
    Prop :=
  let lockedFrom := comparison.now - policy.lockoutMs
  let countedFrom := comparison.now - policy.rateWindowMs
  countFailuresSince w.store .pinAuth comparison.userId lockedFrom +
    (w.shown unrecorded).countP (countsFor comparison.userId true lockedFrom) <
      policy.maxFailedAttempts ∧
  countAttemptsSince w.store .pinAuth comparison.userId countedFrom +
    (w.shown unrecorded).countP (countsFor comparison.userId false countedFrom) <
      policy.maxAttemptsPerWindow

/-- A right PIN that was sent with a new one that will not do. -/
def Wasted (request : PinRequest) (comparison : PinComparison) : Prop :=
  match request with
  | .changePin call =>
    comparison.right = true ∧ newPinRejection call.newPin call.currentPin ≠ none
  | _ => False

/-- A request is at a write that comes between a comparison and its record. -/
def writing : PinRequest → Bool
  | .pos _ => true
  | .changePin { point := .hashing _, .. } => false
  | .changePin _ => true
  | .unlockWithPin _ => true

/-- A comparison finds room and will itself be recorded; what comes between it and its record is
not cut short. -/
def Budgeted (policy : LockoutPolicy) (taken : PinHappened) : Prop :=
  match taken.event with
  | .start _ => True
  | .act slot input => ∀ request ∈ taken.before.proc slot,
    (∀ comparison ∈ comparing request, HasRoom policy taken.before comparison ∧
      ¬ Wasted request comparison) ∧
    (unrecorded request ≠ none → writing request = true → input.busy = false)
  | .crash slot => ∀ request ∈ taken.before.proc slot, unrecorded request = none

/-- What a request had compared, or compares with its step, is on record or has still to be put
there. -/
def Accounts (pos : PosDb) (request : PinRequest) (pos' : PosDb) (request' : PinRequest) : Prop :=
  ∀ wanted, (comparing request).toList.countP wanted + (recorded pos).countP wanted +
      (unrecorded request).toList.countP wanted ≤
    (recorded pos').countP wanted + (unrecorded request').toList.countP wanted

/-- A request with nothing compared accounts for it by leaving the records as they are. -/
theorem Accounts.quiet (same : recorded pos' = recorded pos) (compares : comparing request = none)
    (owes : unrecorded request = none) : Accounts pos request pos' request' := by
  intro wanted
  rw [same, compares, owes]
  simp

theorem recorded_attempt (pos : PosDb) (scope : AttemptScope) (subject : String)
    (outcome : AttemptOutcome) (now : Timestamp) :
    recorded (recordAttempt pos scope subject outcome now) =
      recorded pos ++ (attemptOf ⟨scope, subject, outcome, now⟩).toList := by
  unfold recorded recordAttempt
  rw [List.filterMap_append]
  cases attempt : attemptOf ⟨scope, subject, outcome, now⟩ <;> simp [attempt]

theorem failures_recorded (pos : PosDb) (userId : MerchantUserId) (since : Timestamp) :
    countFailuresSince pos .pinAuth userId since =
      (recorded pos).countP (countsFor userId true since) := by
  unfold countFailuresSince recorded
  rw [← List.countP_eq_length_filter, List.countP_filterMap]
  refine List.countP_congr fun row _ => ?_
  unfold attemptOf countsFor
  by_cases pin : row.scope = .pinAuth
  · cases outcome : row.outcome <;> simp [pin, and_comm]
  · simp [pin]

theorem attempts_recorded (pos : PosDb) (userId : MerchantUserId) (since : Timestamp) :
    countAttemptsSince pos .pinAuth userId since =
      (recorded pos).countP (countsFor userId false since) := by
  unfold countAttemptsSince recorded
  rw [← List.countP_eq_length_filter, List.countP_filterMap]
  refine List.countP_congr fun row _ => ?_
  unfold attemptOf countsFor
  by_cases pin : row.scope = .pinAuth
  · simp [pin]
  · simp [pin]

/-- A unit of work that cannot fail goes through unless the database is busy. -/
theorem posUnit_certain {input : Input} (free : input.busy = false) (work : PosDb → PosDb × α)
    (pos : PosDb) :
    posUnit input (fun pos => .ok (work pos)) pos = ((work pos).1, .ok (work pos).2) :=
  posUnit_free free rfl

/-- What a piece of work leaves, a unit of it leaves, whether it goes through or not. -/
theorem posUnit_keeps (view : PosDb → β) {input : Input}
    {work : PosDb → Except Fault (PosDb × α)} {pos pos' : PosDb} {answer : Except Fault α}
    (keeps : ∀ next answer, work pos = .ok (next, answer) → view next = view pos)
    (done : posUnit input work pos = (pos', answer)) : view pos' = view pos := by
  rcases posUnit_cases input work pos with ⟨next, value, _, worked, same⟩ | ⟨fault, same⟩
  · cases same.symm.trans done
    exact keeps pos' value worked
  · cases same.symm.trans done
    rfl

theorem expiring_recorded (done : expiring input orderId pos = (pos', answer)) :
    recorded pos' = recorded pos := by
  refine posUnit_keeps recorded (fun next value worked => ?_) done
  cases worked
  rfl

section Steps

variable {input : Input} {pos pos' : PosDb}

theorem postSale_recorded {call : PostSale} (moved : call.step input pos = (pos', call')) :
    recorded pos' = recorded pos := by
  cases point : call.point with
  | recording request =>
    simp only [PostSale.step, point] at moved
    split at moved
    all_goals
      rename_i done
      cases moved
      refine posUnit_keeps recorded (fun next value worked => ?_) done
      cases worked
      rw [recorded_attempt]
      exact List.append_nil _
  | selling sale =>
    simp only [PostSale.step, point] at moved
    split at moved
    all_goals
      cases moved
      rfl
  | _ =>
    simp only [PostSale.step, point] at moved
    repeat' split at moved
    all_goals
      cases moved
      rfl

theorem postOrder_recorded {call : CreatePendingOrder}
    (moved : call.step input pos = (pos', call')) : recorded pos' = recorded pos := by
  cases point : call.point with
  | creating product amountMinor quantity supplied =>
    simp only [CreatePendingOrder.step, point] at moved
    split at moved
    all_goals
      rename_i done
      cases moved
      refine posUnit_keeps recorded (fun next value worked => ?_) done
      obtain ⟨_, _, rfl⟩ := createPendingOrder_ok worked
      rfl
  | _ =>
    simp only [CreatePendingOrder.step, point] at moved
    cases moved
    rfl

theorem getOrder_recorded {call : GetOrder} (moved : call.step input pos = (pos', call')) :
    recorded pos' = recorded pos := by
  cases point : call.point with
  | begin =>
    simp only [GetOrder.step, point] at moved
    split at moved
    all_goals
      rename_i done
      cases moved
      exact expiring_recorded done
  | _ =>
    simp only [GetOrder.step, point] at moved
    cases moved
    rfl

theorem cancelOrder_recorded {call : CancelOrder} (moved : call.step input pos = (pos', call')) :
    recorded pos' = recorded pos := by
  cases point : call.point with
  | begin =>
    simp only [CancelOrder.step, point] at moved
    split at moved
    all_goals
      rename_i done
      cases moved
      exact expiring_recorded done
  | cancelling =>
    simp only [CancelOrder.step, point] at moved
    split at moved
    all_goals
      rename_i done
      cases moved
      refine posUnit_keeps recorded (fun next value worked => ?_) done
      cases worked
      rfl
  | _ =>
    simp only [CancelOrder.step, point] at moved
    repeat' split at moved
    all_goals
      cases moved
      rfl

/-- An authorization that has answered nothing yet owes what it has compared. -/
theorem authorizeOrder_accounts {call : AuthorizeOrder}
    (moved : call.step input pos = (pos', call'))
    (through : unrecorded (.pos (.authorizeOrder call)) ≠ none → input.busy = false) :
    Accounts pos (.pos (.authorizeOrder call)) pos' (.pos (.authorizeOrder call')) := by
  intro wanted
  obtain ⟨deps, context, orderId, pin, correlationId, point⟩ := call
  cases point with
  | verifying order now user =>
    simp only [AuthorizeOrder.step] at moved
    cases user with
    | none =>
      cases moved
      simp [comparing, comparingOrder, unrecorded, AuthorizeOrder.at]
    | some user =>
      simp only [Option.any_some] at moved
      split at moved
      · rename_i right
        cases moved
        simp [comparing, comparingOrder, unrecorded, AuthorizeOrder.at, right]
        omega
      · rename_i wrong
        cases moved
        simp [comparing, comparingOrder, unrecorded, AuthorizeOrder.at, wrong]
        omega
  | refusing now | accepting order now =>
    have free := through (by simp [unrecorded])
    simp only [AuthorizeOrder.step, posUnit_certain free] at moved
    cases moved
    rw [recorded_attempt]
    simp [comparing, comparingOrder, unrecorded, AuthorizeOrder.at, attemptOf]
  | begin =>
    refine Accounts.quiet ?_ rfl rfl wanted
    simp only [AuthorizeOrder.step] at moved
    split at moved
    · cases moved
      rfl
    · split at moved
      all_goals
        rename_i done
        cases moved
        exact expiring_recorded done
  | selling order results sale =>
    refine Accounts.quiet ?_ rfl rfl wanted
    simp only [AuthorizeOrder.step] at moved
    split at moved
    all_goals
      cases moved
      rfl
  | claiming order results =>
    refine Accounts.quiet ?_ rfl rfl wanted
    cases results with
    | nil =>
      cases moved
      rfl
    | cons result results =>
      simp only [AuthorizeOrder.step] at moved
      split at moved
      · cases moved
        rfl
      · split at moved
        all_goals
          rename_i done
          cases moved
          refine posUnit_keeps recorded (fun next value worked => ?_) done
          cases worked
          rfl
  | _ =>
    refine Accounts.quiet ?_ rfl rfl wanted
    simp only [AuthorizeOrder.step] at moved
    repeat' split at moved
    all_goals
      cases moved
      rfl

theorem posRequest_accounts {request : PosRequest}
    (through : unrecorded (.pos request) ≠ none → input.busy = false) :
    Accounts pos (.pos request) (request.step input pos).1 (.pos (request.step input pos).2) := by
  cases request with
  | service process => exact .quiet rfl rfl rfl
  | postSale call => exact .quiet (postSale_recorded rfl) rfl rfl
  | postOrder call => exact .quiet (postOrder_recorded rfl) rfl rfl
  | getOrder call => exact .quiet (getOrder_recorded rfl) rfl rfl
  | cancelOrder call => exact .quiet (cancelOrder_recorded rfl) rfl rfl
  | authorizeOrder call => exact authorizeOrder_accounts rfl through

end Steps

/-- The operator whose PIN a request is changing has a row, and only one. -/
def RowThere (pos : PosDb) : PinRequest → Prop
  | .changePin call =>
    match call.point with
    | .verifying _ (some _) | .hashing _ | .changing _ _ =>
      changes (operatorRow call.context.userId call.context.merchantId) pos.merchantUsers = 1
    | _ => True
  | _ => True

section Steps

variable {input : PinInput} {pos pos' : PosDb}

theorem changePin_accounts {call : ChangePin} (moved : call.step input pos = (pos', call'))
    (there : RowThere pos (.changePin call))
    (used : ∀ comparison ∈ comparing (.changePin call), ¬ Wasted (.changePin call) comparison)
    (through : unrecorded (.changePin call) ≠ none → writing (.changePin call) = true →
      input.busy = false) :
    Accounts pos (.changePin call) pos' (.changePin call') := by
  intro wanted
  obtain ⟨deps, context, currentPin, newPin, point⟩ := call
  cases point with
  | verifying now user =>
    simp only [ChangePin.step] at moved
    cases user with
    | none =>
      cases moved
      simp [comparing, comparingChange, unrecorded, ChangePin.at]
    | some user =>
      simp only [Option.any_some] at moved
      split at moved
      · rename_i right
        have used := used _ rfl
        simp only [Wasted, right, true_and, not_not] at used
        rw [used] at moved
        cases moved
        simp [comparing, comparingChange, unrecorded, ChangePin.at, right]
        omega
      · rename_i wrong
        cases moved
        simp [comparing, comparingChange, unrecorded, ChangePin.at, wrong]
        omega
  | refusing now =>
    have free := through (by simp [unrecorded]) rfl
    simp only [ChangePin.step, posUnit_certain free] at moved
    cases moved
    rw [recorded_attempt]
    simp [comparing, comparingChange, unrecorded, ChangePin.at, attemptOf]
  | hashing now =>
    cases moved
    simp [comparing, comparingChange, unrecorded, ChangePin.at]
  | changing now derived =>
    have free := through (by simp [unrecorded]) rfl
    simp only [RowThere] at there
    simp only [ChangePin.step, posUnit_certain free, updateMerchantUserPin, there, decide_true]
      at moved
    cases moved
    simp [comparing, comparingChange, unrecorded, ChangePin.at, recorded]
  | recording now =>
    have free := through (by simp [unrecorded]) rfl
    simp only [ChangePin.step, posUnit_certain free] at moved
    cases moved
    rw [recorded_attempt]
    simp [comparing, comparingChange, unrecorded, ChangePin.at, attemptOf]
  | _ =>
    refine Accounts.quiet ?_ rfl rfl wanted
    simp only [ChangePin.step] at moved
    repeat' split at moved
    all_goals
      cases moved
      rfl

theorem unlockWithPin_accounts {call : UnlockWithPin}
    (moved : call.step input pos = (pos', call'))
    (through : unrecorded (.unlockWithPin call) ≠ none → input.busy = false) :
    Accounts pos (.unlockWithPin call) pos' (.unlockWithPin call') := by
  intro wanted
  obtain ⟨deps, context, pin, point⟩ := call
  cases point with
  | verifying now user =>
    simp only [UnlockWithPin.step] at moved
    cases user with
    | none =>
      cases moved
      simp [comparing, comparingUnlock, unrecorded, UnlockWithPin.at]
    | some user =>
      simp only [Option.any_some] at moved
      split at moved
      · rename_i right
        cases moved
        simp [comparing, comparingUnlock, unrecorded, UnlockWithPin.at, right]
        omega
      · rename_i wrong
        cases moved
        simp [comparing, comparingUnlock, unrecorded, UnlockWithPin.at, wrong]
        omega
  | recording now outcome =>
    have free := through (by simp [unrecorded])
    simp only [UnlockWithPin.step, posUnit_certain free] at moved
    cases moved
    rw [recorded_attempt]
    simp [comparing, comparingUnlock, unrecorded, UnlockWithPin.at, attemptOf]
  | _ =>
    refine Accounts.quiet ?_ rfl rfl wanted
    simp only [UnlockWithPin.step] at moved
    repeat' split at moved
    all_goals
      cases moved
      rfl

end Steps

/-- Whose operators' rows are there, by their ids. -/
def operatorKeys (pos : PosDb) : List (MerchantUserId × MerchantId) :=
  pos.merchantUsers.map fun user => (user.id, user.merchantId)

theorem changes_keys (pos : PosDb) (userId : MerchantUserId) (merchantId : MerchantId) :
    changes (operatorRow userId merchantId) pos.merchantUsers =
      (operatorKeys pos).countP fun key => key = (userId, merchantId) := by
  unfold changes operatorKeys
  rw [← List.countP_eq_length_filter, List.countP_map]
  refine List.countP_congr fun user _ => ?_
  simp [operatorRow]

/-- The row an operator was found by is the only one of theirs. -/
theorem found_once (unique : Unique (·.id) pos.merchantUsers)
    (found : findMerchantUser pos userId merchantId = some user) :
    changes (operatorRow userId merchantId) pos.merchantUsers = 1 := by
  have mem := List.mem_of_find?_eq_some found
  have wanted := List.find?_some found
  simp only [decide_eq_true_eq] at wanted
  obtain ⟨rfl, rfl⟩ := wanted
  have alone := unique.filter mem
  have both : pos.merchantUsers.filter (operatorRow user.id user.merchantId) =
      (pos.merchantUsers.filter fun other => other.id = user.id).filter fun other =>
        other.merchantId = user.merchantId := by
    rw [List.filter_filter]
    refine List.filter_congr fun other _ => ?_
    simp [operatorRow, Bool.and_comm]
  unfold changes
  rw [both, alone]
  simp

/-- A point of sale that nothing has been asked of yet. -/
structure PinShop (w : World PosDb PinRequest) : Prop where
  idle : w.procs = []
  operators : Unique (·.id) w.store.merchantUsers

/-- A request comes as the server was set up to serve it. -/
def PinServes (options : PinDeps) (_ : PosDb) (request : PinRequest) : Prop :=
  request.Starting ∧ request.given options

/-- Requests at the point of sale, any number of them at once. -/
abbrev PinServing (options : PinDeps) :=
  Pool pinServer (PinServes options) fun _ _ _ => True

abbrev PinRun (options : PinDeps) :=
  Run PinShop (PinServing options)

theorem PosTurn.operators (turn : PosTurn input pos pos' request) :
    pos'.merchantUsers = pos.merchantUsers := by
  cases turn with
  | created _ made =>
    obtain ⟨_, _, rfl⟩ := createPendingOrder_ok made
    rfl
  | nothing same | attempted same | expired _ same | cancelled _ same | authorized _ _ _ same
  | served _ same => exact same ▸ rfl

theorem changePin_keys {call : ChangePin} (moved : call.step input pos = (pos', call')) :
    operatorKeys pos' = operatorKeys pos := by
  cases point : call.point with
  | refusing now | recording now =>
    simp only [ChangePin.step, point] at moved
    split at moved
    all_goals
      rename_i done
      cases moved
      refine posUnit_keeps operatorKeys (fun next value worked => ?_) done
      cases worked
      rfl
  | changing now derived =>
    simp only [ChangePin.step, point] at moved
    split at moved
    all_goals
      rename_i done
      cases moved
      refine posUnit_keeps operatorKeys (fun next value worked => ?_) done
      cases worked
      exact map_update fun _ => rfl
  | _ =>
    simp only [ChangePin.step, point] at moved
    repeat' split at moved
    all_goals
      cases moved
      rfl

theorem unlockWithPin_keys {call : UnlockWithPin} (moved : call.step input pos = (pos', call')) :
    operatorKeys pos' = operatorKeys pos := by
  cases point : call.point with
  | recording now outcome =>
    simp only [UnlockWithPin.step, point] at moved
    split at moved
    all_goals
      rename_i done
      cases moved
      refine posUnit_keeps operatorKeys (fun next value worked => ?_) done
      cases worked
      rfl
  | _ =>
    simp only [UnlockWithPin.step, point] at moved
    repeat' split at moved
    all_goals
      cases moved
      rfl

/-- No request adds an operator or takes one away. -/
theorem pinStep_keys (input : PinInput) (pos : PosDb) (request : PinRequest) :
    operatorKeys (request.step input pos).1 = operatorKeys pos := by
  cases request with
  | pos request => exact congrArg (List.map _) (pos_turn input.toInput pos request).operators
  | changePin call => exact changePin_keys rfl
  | unlockWithPin call => exact unlockWithPin_keys rfl

theorem RowThere.keys (there : RowThere pos request)
    (same : operatorKeys pos' = operatorKeys pos) : RowThere pos' request := by
  have counted : ∀ userId merchantId, changes (operatorRow userId merchantId) pos'.merchantUsers =
      changes (operatorRow userId merchantId) pos.merchantUsers := by
    intro userId merchantId
    rw [changes_keys, changes_keys, same]
  cases request with
  | changePin call =>
    simp only [RowThere, counted]
    exact there
  | _ => trivial

theorem changePin_rowThere {call : ChangePin} (unique : Unique (·.id) pos.merchantUsers)
    (there : RowThere pos (.changePin call)) (moved : call.step input pos = (pos', call')) :
    RowThere pos' (.changePin call') := by
  have same := changePin_keys moved
  suffices RowThere pos (.changePin call') from this.keys same
  obtain ⟨deps, context, currentPin, newPin, point⟩ := call
  cases point with
  | user now =>
    cases moved
    cases found : findMerchantUser pos context.userId context.merchantId with
    | none => simp [RowThere, ChangePin.at, found]
    | some user =>
      simp only [RowThere, ChangePin.at, found]
      exact found_once unique found
  | verifying now user =>
    simp only [ChangePin.step] at moved
    cases user with
    | none =>
      cases moved
      trivial
    | some user =>
      repeat' split at moved
      all_goals cases moved
      · trivial
      · exact there
      · trivial
  | hashing now =>
    cases moved
    exact there
  | _ =>
    simp only [ChangePin.step] at moved
    repeat' split at moved
    all_goals
      cases moved
      trivial

theorem run_rowThere (run : PinRun options past w) :
    Secure (fun pos => Unique (·.id) pos.merchantUsers) RowThere w := by
  refine run.invariant ?_ ?_
  · intro w shop
    refine ⟨shop.operators, fun request mem => ?_⟩
    rw [shop.idle] at mem
    cases mem
  · refine Secure.step (R := fun pos pos' => operatorKeys pos' = operatorKeys pos) ?_ ?_ ?_
    · intro pos request _ serves
      cases request with
      | changePin call =>
        obtain ⟨starting, _⟩ := serves
        rw [RowThere, show call.point = .begin from starting]
        trivial
      | _ => trivial
    · intro input pos request unique there _
      have same := pinStep_keys input pos request
      have ids := congrArg (List.map Prod.fst) same
      simp only [operatorKeys, List.map_map] at ids
      refine ⟨?_, ?_, same⟩
      · unfold Library.Unique
        exact ids ▸ unique
      · cases request with
        | changePin call => exact changePin_rowThere unique there rfl
        | _ => trivial
    · intro pos pos' request _ there same
      exact there.keys same

/-- A step that is not cut short keeps account of what it compares. -/
theorem pinStep_accounts {input : PinInput} {request : PinRequest} (there : RowThere pos request)
    (used : ∀ comparison ∈ comparing request, ¬ Wasted request comparison)
    (through : unrecorded request ≠ none → writing request = true → input.busy = false) :
    Accounts pos request (request.step input pos).1 (request.step input pos).2 := by
  cases request with
  | pos request => exact posRequest_accounts fun owes => through owes rfl
  | changePin call => exact changePin_accounts rfl there used through
  | unlockWithPin call => exact unlockWithPin_accounts rfl fun owes => through owes rfl

theorem comparisons_cons (taken : PinHappened) (past : List PinHappened)
    (wanted : PinComparison → Bool) :
    (comparisons (taken :: past)).countP wanted =
      (comparedPin taken).toList.countP wanted + (comparisons past).countP wanted := by
  unfold comparisons
  rw [List.filterMap_cons]
  cases comparedPin taken with
  | none => simp
  | some comparison => simp [List.countP_cons, Nat.add_comm]

/-- What was compared is on record or in flight. -/
theorem run_accounted (run : PinRun options past w)
    (budgeted : ∀ taken ∈ past, Budgeted policy taken) (wanted : PinComparison → Bool) :
    (comparisons past).countP wanted ≤
      (recorded w.store).countP wanted + (w.shown unrecorded).countP wanted := by
  induction run with
  | start _ => exact Nat.zero_le _
  | @step past w event w' run step ih =>
    have before := ih fun taken mem => budgeted taken (List.mem_cons_of_mem _ mem)
    have now := budgeted _ (List.mem_cons_self ..)
    rw [comparisons_cons]
    cases step with
    | @start request serves =>
      rw [w.shown_start, List.countP_append]
      have nothing : comparedPin ⟨w, .start request, { w with procs := w.procs ++ [some request] }⟩ =
          none := rfl
      rw [nothing, Option.toList_none, List.countP_nil]
      dsimp only
      omega
    | @act request input store' request' _ slot here _ moved =>
      obtain ⟨compares, through⟩ := now request here
      have inFlight := w.shown_set unrecorded wanted store' (some request') (World.proc_lt here)
      have accounts := pinStep_accounts ((run_rowThere run).2 request (World.proc_mem here))
        (fun comparison mem => (compares comparison mem).2) through wanted
      rw [show request.step input w.store = (store', request') from moved] at accounts
      rw [comparedPin, ofActor_act here]
      rw [here, Option.bind_some, Option.bind_some] at inFlight
      dsimp only at accounts ⊢
      omega
    | @crash _ slot =>
      have inFlight := w.shown_crash unrecorded wanted slot
      have nothing : (w.proc slot).bind unrecorded = none := by
        cases here : w.proc slot with
        | none => rfl
        | some request => exact now request here
      have none : comparedPin ⟨w, .crash slot, { w with procs := w.procs.set slot none }⟩ =
          none := rfl
      rw [nothing, Option.toList_none, List.countP_nil, Nat.add_zero] at inFlight
      rw [none, inFlight, Option.toList_none, List.countP_nil, Nat.zero_add]
      exact before

theorem times_since (userId : MerchantUserId) (wrong : Bool) (since : Timestamp)
    (past : List PinHappened) :
    ((timesOf userId wrong past).countP fun time => since < time) =
      (comparisons past).countP (countsFor userId wrong since) := by
  unfold timesOf
  rw [List.countP_map, List.countP_filter]
  refine List.countP_congr fun comparison _ => ?_
  simp [countsFor, and_left_comm]

/-- Each comparison found fewer than a limit of its operator's earlier ones within a span. -/
def Roomy (wrong : Bool) (span : Int) (limit : Nat) (past : List PinHappened) : Prop :=
  ∀ later taken earlier, past = later ++ taken :: earlier → ∀ comparison ∈ comparedPin taken,
    ((timesOf comparison.userId wrong earlier).countP fun time => comparison.now - span < time) <
      limit

theorem Roomy.spaced (roomy : Roomy wrong span limit past) (userId : MerchantUserId) :
    Spaced span limit (timesOf userId wrong past) := by
  induction past with
  | nil => trivial
  | cons taken earlier ih =>
    have before := ih fun later other rest split =>
      roomy (taken :: later) other rest (by rw [split, List.cons_append])
    cases here : comparedPin taken with
    | none =>
      have same : timesOf userId wrong (taken :: earlier) = timesOf userId wrong earlier := by
        rw [timesOf, comparisons, List.filterMap_cons_none here]
        rfl
      rw [same]
      exact before
    | some comparison =>
      have all : comparisons (taken :: earlier) = comparison :: comparisons earlier :=
        List.filterMap_cons_some here
      rw [timesOf, all, List.filter_cons]
      split
      · rename_i counts
        obtain ⟨rfl, _⟩ := of_decide_eq_true counts
        exact ⟨roomy [] taken earlier rfl comparison here, before⟩
      · exact before

theorem Budgeted.room (budgeted : Budgeted policy taken) (here : comparedPin taken = some comparison) :
    HasRoom policy taken.before comparison := by
  obtain ⟨before, event, after⟩ := taken
  cases event with
  | act slot input =>
    cases found : before.proc slot with
    | none => simp [comparedPin, ofActor, found] at here
    | some request =>
      rw [comparedPin, ofActor_act found] at here
      exact ((budgeted request found).1 comparison here).1
  | _ => cases here

/-- In every run whose comparisons each find room in what is on record and in flight, and are all
recorded themselves, the budget of every operator is kept to. -/
theorem budget_kept (run : PinRun options past w)
    (budgeted : ∀ taken ∈ past, Budgeted options.pinLockout taken) :
    BudgetKept options.pinLockout past := by
  have accounted : ∀ later taken earlier, past = later ++ taken :: earlier →
      ∀ comparison ∈ comparedPin taken, HasRoom options.pinLockout taken.before comparison ∧
        ∀ wanted, (comparisons earlier).countP wanted ≤ (recorded taken.before.store).countP wanted +
          (taken.before.shown unrecorded).countP wanted := by
    intro later taken earlier split comparison here
    subst split
    obtain ⟨before, _⟩ := run.earlier
    refine ⟨(budgeted taken ?_).room here, run_accounted before fun other mem => budgeted other ?_⟩
    · exact List.mem_append_right _ (List.mem_cons_self ..)
    · exact List.mem_append_right _ (List.mem_cons_of_mem _ mem)
  have wrong : Roomy true options.pinLockout.lockoutMs options.pinLockout.maxFailedAttempts past := by
    intro later taken earlier split comparison here
    obtain ⟨⟨room, _⟩, accounted⟩ := accounted later taken earlier split comparison here
    rw [failures_recorded] at room
    rw [times_since]
    exact Nat.lt_of_le_of_lt (accounted _) room
  have all : Roomy false options.pinLockout.rateWindowMs options.pinLockout.maxAttemptsPerWindow past := by
    intro later taken earlier split comparison here
    obtain ⟨⟨_, room⟩, accounted⟩ := accounted later taken earlier split comparison here
    rw [attempts_recorded] at room
    rw [times_since]
    exact Nat.lt_of_le_of_lt (accounted _) room
  refine ⟨?_, ?_, wrong⟩
  · intro userId last
    exact (wrong.spaced userId).within_le
  · intro userId last
    exact (all.spaced userId).within_le

instance (policy : LockoutPolicy) (w : World PosDb PinRequest) (comparison : PinComparison) :
    Decidable (HasRoom policy w comparison) :=
  inferInstanceAs (Decidable (_ ∧ _))

instance (request : PinRequest) (comparison : PinComparison) :
    Decidable (Wasted request comparison) :=
  match request with
  | .changePin _ => inferInstanceAs (Decidable (_ ∧ _))
  | .pos _ | .unlockWithPin _ => isFalse id

instance (policy : LockoutPolicy) (taken : PinHappened) : Decidable (Budgeted policy taken) :=
  match taken with
  | ⟨_, .start _, _⟩ => isTrue trivial
  | ⟨before, .act slot input, _⟩ => inferInstanceAs (Decidable (∀ request ∈ before.proc slot,
      (∀ comparison ∈ comparing request, HasRoom policy before comparison ∧
        ¬ Wasted request comparison) ∧
      (unrecorded request ≠ none → writing request = true → input.busy = false)))
  | ⟨before, .crash slot, _⟩ =>
    inferInstanceAs (Decidable (∀ request ∈ before.proc slot, unrecorded request = none))

/-- A training server under the budget it is shipped with. -/
def pinOptions : PinDeps :=
  { optionsFrom { training with pinLockout := voucherPinLockoutPolicy } with
    deriveSecret := fun secret salt => ⟨secret, salt, "scrypt"⟩ }

def provedAt (now : Timestamp) : PinInput :=
  { drawing "" .confirmedSuccess .success now with salt := "salt" }

def unlocking (pin : String) : PinRequest :=
  .unlockWithPin { deps := pinOptions, context := cashier, pin, point := .begin }

def changingPin (currentPin newPin : String) : PinRequest :=
  .changePin { deps := pinOptions, context := cashier, currentPin, newPin, point := .begin }

/-- Requests that have come in, and the steps they take: whose it is, and at what time. -/
def pinEvents (requests : List PinRequest) (acts : List (Nat × Timestamp)) :
    List (Event PinInput PinRequest) :=
  requests.map .start ++ acts.map fun act => .act act.1 (provedAt act.2)

def pinPlayed (events : List (Event PinInput PinRequest)) :
    List PinHappened × World PosDb PinRequest :=
  played (World.next pinServer) events [] ⟨counter, []⟩

theorem pinPlayed_run {requests : List PinRequest} {acts : List (Nat × Timestamp)}
    (serves : ∀ request ∈ requests, ∀ pos, PinServes pinOptions pos request)
    (playable : Playable (World.May (fun _ _ => True) fun _ _ _ => True) (World.next pinServer)
      (pinEvents requests acts) ⟨counter, []⟩) :
    PinRun pinOptions (pinPlayed (pinEvents requests acts)).1
      (pinPlayed (pinEvents requests acts)).2 := by
  have shop : PinShop ⟨counter, []⟩ := ⟨rfl, List.nodup_singleton _⟩
  refine Run.play Pool.next (.start shop) (playable_admits ?_ playable)
  intro request mem
  rcases List.mem_append.mp mem with mem | mem
  · obtain ⟨_, there, same⟩ := List.mem_map.mp mem
    cases same
    exact serves request there
  · obtain ⟨_, _, same⟩ := List.mem_map.mp mem
    cases same

/-- The right PIN, eleven times within eleven seconds. -/
def elevenUnlocks : List (Event PinInput PinRequest) :=
  pinEvents (List.replicate 11 (unlocking "1234"))
    ((List.range 11).flatMap fun slot => List.replicate 5 (slot, slot * 1000))

theorem elevenUnlocks_run :
    PinRun pinOptions (pinPlayed elevenUnlocks).1 (pinPlayed elevenUnlocks).2 := by
  refine pinPlayed_run (fun request mem pos => ?_) (by decide +kernel)
  cases List.eq_of_mem_replicate mem
  exact ⟨rfl, rfl⟩

/-- The eleventh unlocking of a minute goes through like the ten before it. -/
theorem eleven_compared : ¬ ∀ options past w, PinRun options past w →
    BudgetKept options.pinLockout past := by
  intro always
  have kept := always _ _ _ elevenUnlocks_run
  have many := kept.all "cashier" 10000
  exact absurd many (by decide +kernel)

/-- A wrong PIN, two right ones in flight at once, a change of the PIN, and the old one once
more. -/
def mixedProofs : List (Event PinInput PinRequest) :=
  pinEvents [unlocking "4321", unlocking "1234", unlocking "1234", changingPin "1234" "204816",
      unlocking "1234"]
    (List.replicate 5 (0, 0) ++ (List.replicate 5 [(1, 1000), (2, 1000)]).flatten ++
      List.replicate 7 (3, 2000) ++ List.replicate 5 (4, 3000))

theorem mixedProofs_run :
    PinRun pinOptions (pinPlayed mixedProofs).1 (pinPlayed mixedProofs).2 := by
  refine pinPlayed_run (fun request mem pos => ?_) (by decide +kernel)
  simp only [List.mem_cons, List.not_mem_nil, or_false] at mem
  rcases mem with rfl | rfl | rfl | rfl | rfl
  all_goals exact ⟨rfl, rfl⟩

/-- Proofs of a PIN that find room stay within its budget, two at once among them. -/
theorem mixedProofs_kept : BudgetKept voucherPinLockoutPolicy (pinPlayed mixedProofs).1 :=
  budget_kept mixedProofs_run (by decide +kernel)

end Telga.Proofs
