import Telga.Application.PosRequests

namespace Telga.Application
open Domain Persistence Library

/-- What a training PIN must be: six digits, as provisioning issues them. -/
def pinLength : Nat := 6

inductive PinWeakness
  | wrongLength
  | notDigits
  | notDifferent
  | tooSimple
deriving DecidableEq, Repr

/-- Each digit is the one before it, moved on by a step. -/
def straightRun (step : Int) : List Int → Bool
  | first :: second :: rest => decide (second = first + step) && straightRun step (second :: rest)
  | _ => true

def digitsOf (pin : String) : List Int :=
  pin.toList.map fun c => (c.toNat : Int) - '0'.toNat

/-- Why a proposed PIN is unacceptable, if it is. All one digit and a straight run are the first
guesses anybody makes. -/
def newPinRejection (newPin currentPin : String) : Option PinWeakness :=
  if textLength newPin ≠ pinLength then some .wrongLength
  else if ¬ newPin.toList.all Char.isDigit then some .notDigits
  else if newPin = currentPin then some .notDifferent
  else if straightRun 0 (digitsOf newPin) ∨ straightRun 1 (digitsOf newPin) ∨
      straightRun (-1) (digitsOf newPin) then some .tooSimple
  else none

/-- The budget of a PIN that is proved after signing in, whichever way it is proved. -/
def voucherPinLockoutPolicy : LockoutPolicy :=
  { maxFailedAttempts := 5, lockoutMs := 5 * 60000, maxAttemptsPerWindow := 10,
    rateWindowMs := 60000 }

/-- What the requests that prove a PIN are given; how a secret is derived is the runtime's own. -/
structure PinDeps extends PosDeps where
  deriveSecret : String → String → StoredSecret

/-- What one atomic step of a request meets, the salt it may draw among it. -/
structure PinInput extends Input where
  salt : String

inductive ChangePinResult
  | changed
  | currentPinWrong
  | newPinWeak (reason : PinWeakness)
  | simulatedOnly
deriving DecidableEq

inductive ChangePinPoint
  | begin
  | failures (now : Timestamp)
  | user (now : Timestamp)
  | verifying (now : Timestamp) (user : Option MerchantUserRow)
  | refusing (now : Timestamp)
  | hashing (now : Timestamp)
  | changing (now : Timestamp) (derived : StoredSecret)
  | recording (now : Timestamp)
  | returned (result : ChangePinResult)
  | threw (fault : Fault)
deriving DecidableEq

/-- A running call of `changePin`. -/
structure ChangePin where
  deps : PinDeps
  context : AuthContext
  currentPin : String
  newPin : String
  point : ChangePinPoint

def ChangePin.at (call : ChangePin) (point : ChangePinPoint) : ChangePin :=
  { call with point }

/-- One atomic step of `changePin`. The rules for the new PIN are looked at only once the current
one is proven. -/
def ChangePin.step (input : PinInput) (pos : PosDb) (call : ChangePin) : PosDb × ChangePin :=
  let userId := call.context.userId
  match call.point with
  | .begin =>
    if call.deps.mode ≠ .training then (pos, call.at (.returned .simulatedOnly))
    else (pos, call.at (.failures (input.now 0)))
  | .failures now =>
    let policy := call.deps.pinLockout
    if policy.maxFailedAttempts ≤
        countFailuresSince pos .pinAuth userId (now - policy.lockoutMs) then
      (pos, call.at (.returned .currentPinWrong))
    else (pos, call.at (.user now))
  | .user now =>
    (pos, call.at (.verifying now (findMerchantUser pos userId call.context.merchantId)))
  | .verifying now user =>
    if user.any fun user => call.deps.verifySecret call.currentPin user.pin then
      match newPinRejection call.newPin call.currentPin with
      | some weak => (pos, call.at (.returned (.newPinWeak weak)))
      | none => (pos, call.at (.hashing now))
    else (pos, call.at (.refusing now))
  | .refusing now =>
    match posUnit input.toInput (fun pos =>
        .ok (recordAttempt pos .pinAuth userId .failure now, ())) pos with
    | (pos, .ok _) => (pos, call.at (.returned .currentPinWrong))
    | (pos, .error fault) => (pos, call.at (.threw fault))
  | .hashing now =>
    (pos, call.at (.changing now (call.deps.deriveSecret call.newPin input.salt)))
  | .changing now derived =>
    match posUnit input.toInput (fun pos =>
        .ok (updateMerchantUserPin pos userId call.context.merchantId derived)) pos with
    | (pos, .ok true) => (pos, call.at (.recording now))
    | (pos, .ok false) => (pos, call.at (.returned .currentPinWrong))
    | (pos, .error fault) => (pos, call.at (.threw fault))
  | .recording now =>
    match posUnit input.toInput (fun pos =>
        .ok (recordAttempt pos .pinAuth userId .success now, ())) pos with
    | (pos, .ok _) => (pos, call.at (.returned .changed))
    | (pos, .error fault) => (pos, call.at (.threw fault))
  | .returned _ => (pos, call)
  | .threw _ => (pos, call)

inductive UnlockResult
  | unlocked
  | pinInvalid
  | lockedOut
deriving DecidableEq

inductive UnlockPoint
  | begin
  | failures (now : Timestamp)
  | user (now : Timestamp)
  | verifying (now : Timestamp) (user : Option MerchantUserRow)
  | recording (now : Timestamp) (outcome : AttemptOutcome)
  | returned (result : UnlockResult)
  | threw (fault : Fault)
deriving DecidableEq

/-- A running call of `unlockWithPin`. -/
structure UnlockWithPin where
  deps : PinDeps
  context : AuthContext
  pin : String
  point : UnlockPoint

def UnlockWithPin.at (call : UnlockWithPin) (point : UnlockPoint) : UnlockWithPin :=
  { call with point }

/-- What an unlocking answers once its attempt is recorded. -/
def UnlockResult.of : AttemptOutcome → UnlockResult
  | .failure => .pinInvalid
  | .success => .unlocked

/-- One atomic step of `unlockWithPin`. -/
def UnlockWithPin.step (input : PinInput) (pos : PosDb) (call : UnlockWithPin) :
    PosDb × UnlockWithPin :=
  let userId := call.context.userId
  match call.point with
  | .begin => (pos, call.at (.failures (input.now 0)))
  | .failures now =>
    let policy := call.deps.pinLockout
    if policy.maxFailedAttempts ≤
        countFailuresSince pos .pinAuth userId (now - policy.lockoutMs) then
      (pos, call.at (.returned .lockedOut))
    else (pos, call.at (.user now))
  | .user now =>
    (pos, call.at (.verifying now (findMerchantUser pos userId call.context.merchantId)))
  | .verifying now user =>
    if user.any fun user => call.deps.verifySecret call.pin user.pin then
      (pos, call.at (.recording now .success))
    else (pos, call.at (.recording now .failure))
  | .recording now outcome =>
    match posUnit input.toInput (fun pos =>
        .ok (recordAttempt pos .pinAuth userId outcome now, ())) pos with
    | (pos, .ok _) => (pos, call.at (.returned (.of outcome)))
    | (pos, .error fault) => (pos, call.at (.threw fault))
  | .returned _ => (pos, call)
  | .threw _ => (pos, call)

/-- A request to the point of sale, the two that only prove a PIN among them. -/
inductive PinRequest
  | pos (request : PosRequest)
  | changePin (call : ChangePin)
  | unlockWithPin (call : UnlockWithPin)

/-- One atomic step of a request. -/
def PinRequest.step (input : PinInput) (pos : PosDb) : PinRequest → PosDb × PinRequest
  | .pos request => (request.step input.toInput pos).map id .pos
  | .changePin call => (call.step input pos).map id .changePin
  | .unlockWithPin call => (call.step input pos).map id .unlockWithPin

/-- A request that has not taken a step yet. -/
def PinRequest.Starting : PinRequest → Prop
  | .pos request => request.Starting
  | .changePin call => call.point = .begin
  | .unlockWithPin call => call.point = .begin

/-- A request that has answered or thrown. -/
def PinRequest.finished : PinRequest → Bool
  | .pos request => request.finished
  | .changePin { point := .returned _, .. } | .changePin { point := .threw _, .. } => true
  | .unlockWithPin { point := .returned _, .. } | .unlockWithPin { point := .threw _, .. } => true
  | _ => false

/-- What a request is given: the options the server was built with. -/
def PinRequest.given (options : PinDeps) : PinRequest → Prop
  | .pos request => request.given options.toPosDeps
  | .changePin call => call.deps = options
  | .unlockWithPin call => call.deps = options

/-- The requests at work on one database. -/
def pinServer : Machine PosDb PinInput PinRequest where
  advance := PinRequest.step
  finished request := request.finished = true

end Telga.Application
