import Telga.Application.Context

namespace Telga.Application
open Domain Persistence Library

def msPerDay : Int := 24 * 60 * 60 * 1000

/-- The calendar month an instant falls in, counted in UTC. Years are counted from March, so that
a leap day comes last. -/
def periodOf (now : Timestamp) : Period :=
  let days := now / msPerDay + 719468
  let era := days / 146097
  let dayOfEra := days - era * 146097
  let yearOfEra := (dayOfEra - dayOfEra / 1460 + dayOfEra / 36524 - dayOfEra / 146096) / 365
  let dayOfYear := dayOfEra - (365 * yearOfEra + yearOfEra / 4 - yearOfEra / 100)
  let marchMonth := (5 * dayOfYear + 2) / 153
  let month := if marchMonth < 10 then marchMonth + 3 else marchMonth - 9
  let year := yearOfEra + era * 400 + (if month ≤ 2 then 1 else 0)
  { year := year.toNat, month := month.toNat }

/-- The month before the one containing an instant. The fee is for a month that has finished. -/
def previousPeriod (now : Timestamp) : Period :=
  let current := periodOf now
  if current.month = 1 then { year := current.year - 1, month := 12 }
  else { year := current.year, month := current.month - 1 }

example : periodOf 1789430400000 = ⟨2026, 9⟩ := by decide

/-- Months in the order their names sort. -/
def earlier (a b : Period) : Bool :=
  decide (a.year < b.year) || (a.year == b.year && decide (a.month < b.month))

structure SoftwareFeeRunResult where
  period : Period
  charged : Nat := 0
  chargedMinor : Int := 0
  arrears : Nat := 0
  arrearsMinor : Int := 0
  alreadyCharged : Nat := 0
  recovered : Nat := 0
  recoveredMinor : Int := 0
deriving DecidableEq, Repr

/-- Where a run stands between two atomic steps. -/
inductive FeePoint
  | begin
  | starting (now : Timestamp)
  | settings
  | merchants (now : Timestamp) (amount : Money)
  | charging (now : Timestamp) (amount : Money) (todo : List MerchantId)
  | outstanding (now : Timestamp)
  | recovering (now : Timestamp) (todo : List SoftwareFeeCharge)
  | returned
  | threw (fault : Fault)
deriving DecidableEq

/-- A running call of `runDueSoftwareFees`. -/
structure RunDueSoftwareFees where
  result : SoftwareFeeRunResult
  point : FeePoint

def SoftwareFeeRunResult.charge (result : SoftwareFeeRunResult) : ChargeOutcome →
    SoftwareFeeRunResult
  | .charged amount =>
    { result with
      charged := result.charged + 1, chargedMinor := result.chargedMinor + amount.minor }
  | .arrears amount _ =>
    { result with
      arrears := result.arrears + 1, arrearsMinor := result.arrearsMinor + amount.minor }
  | .alreadyCharged => { result with alreadyCharged := result.alreadyCharged + 1 }

def SoftwareFeeRunResult.recover (result : SoftwareFeeRunResult) : ChargeOutcome →
    SoftwareFeeRunResult
  | .charged amount =>
    { result with
      recovered := result.recovered + 1, recoveredMinor := result.recoveredMinor + amount.minor }
  | _ => result

def RunDueSoftwareFees.at (run : RunDueSoftwareFees) (point : FeePoint) : RunDueSoftwareFees :=
  { run with point }

/-- One atomic step of `runDueSoftwareFees`: the fee begins with the month it was switched on;
then every active shop is charged for the month that ended, and older arrears are retried. -/
def RunDueSoftwareFees.step (input : Input) (db : Db) (run : RunDueSoftwareFees) :
    Db × RunDueSoftwareFees :=
  match run.point with
  | .begin =>
    let due := previousPeriod (input.now 0)
    let run := { run with result := { period := due } }
    match db.platformFeeSettings.softwareFeeFirstPeriod with
    | none => (db, run.at (.starting (input.now 0)))
    | some first =>
      if earlier due first then (db, run.at .returned) else (db, run.at .settings)
  | .starting now =>
    match unit input (fun db => (·, ()) <$> writePlatformFeeSettings db
        { softwareFeeFirstPeriod := some (periodOf now), adminId := "system", now }) db with
    | (db, .ok _) => (db, run.at .returned)
    | (db, .error fault) => (db, run.at (.threw fault))
  | .settings =>
    let fees := db.platformFeeSettings
    if fees.softwareFeeEnabled = false ∨ fees.softwareFee.minor ≤ 0 then (db, run.at .returned)
    else (db, run.at (.merchants (input.now 0) fees.softwareFee))
  | .merchants now amount => (db, run.at (.charging now amount (activeMerchantIds db)))
  | .charging now amount todo =>
    match todo with
    | [] => (db, run.at (.outstanding now))
    | merchantId :: rest =>
      match unit input (fun db => chargeSoftwareFee db
          { id := input.newId 0, merchantId, period := run.result.period, amount,
            postingId := input.newId 1, now }) db with
      | (db, .ok outcome) =>
        (db, { result := run.result.charge outcome, point := .charging now amount rest })
      | (db, .error fault) => (db, run.at (.threw fault))
  | .outstanding now => (db, run.at (.recovering now (outstandingCharges db)))
  | .recovering now todo =>
    match todo with
    | [] => (db, run.at .returned)
    | owed :: rest =>
      if owed.period = run.result.period then (db, run.at (.recovering now rest))
      else
        match unit input (fun db => chargeSoftwareFee db
            { id := owed.id, merchantId := owed.merchantId, period := owed.period,
              amount := owed.amount, postingId := input.newId 0, now }) db with
        | (db, .ok outcome) =>
          (db, { result := run.result.recover outcome, point := .recovering now rest })
        | (db, .error fault) => (db, run.at (.threw fault))
  | .returned => (db, run)
  | .threw _ => (db, run)

inductive AmountProblem
  | notANumber
  | belowMinimum
  | notWholeBirr
deriving DecidableEq, Repr

inductive ProfitTransferResult
  | transferred (amountMinor profitRemainingMinor availableAfterMinor : Int)
  | amountInvalid (reason : AmountProblem)
  | exceedsProfit (requestedMinor profitAvailableMinor : Int)
  | simulatedOnly
deriving DecidableEq, Repr

inductive ProfitPoint
  | begin
  | returned (result : ProfitTransferResult)
  | threw (fault : Fault)
deriving DecidableEq

/-- A running call of `transferProfit`. -/
structure TransferProfit where
  mode : OperatingMode
  merchantId : MerchantId
  actor : AuditActor
  amountMinor : Int
  correlationId : CorrelationId
  point : ProfitPoint

/-- Check and post together: the profit is read inside the unit of work. -/
def moveProfit (call : TransferProfit) (input : Input) (db : Db) :
    Except Fault (Db × ProfitTransferResult) := do
  let profitAvailable := profitAvailableMinor db call.merchantId
  if profitAvailable < call.amountMinor then
    return (db, .exceedsProfit call.amountMinor profitAvailable)
  else
    let amount ← money call.amountMinor
    let db ← transferProfitToBalance db
      { merchantId := call.merchantId, amount, now := input.now 0,
        correlationId := call.correlationId, postingId := input.newId 0 }
    let db ← saveAuditEvent db
      { event := { id := input.newId 1, occurredAt := input.now 0,
                   action := .profitTransferredToBalance, actor := call.actor,
                   merchantId := call.merchantId, transactionId := none }
        correlationId := call.correlationId
        entityType := "merchant"
        entityId := some call.merchantId }
    let view ← balanceFor db call.merchantId
    return (db, .transferred call.amountMinor (profitAvailableMinor db call.merchantId)
      view.available.minor)

def TransferProfit.at (call : TransferProfit) (point : ProfitPoint) : TransferProfit :=
  { call with point }

/-- One atomic step of `transferProfit`. -/
def TransferProfit.step (input : Input) (db : Db) (call : TransferProfit) : Db × TransferProfit :=
  match call.point with
  | .begin =>
    if call.mode ≠ .training then (db, call.at (.returned .simulatedOnly))
    else if ¬ SafeInteger call.amountMinor then
      (db, call.at (.returned (.amountInvalid .notANumber)))
    else if call.amountMinor < 100 then (db, call.at (.returned (.amountInvalid .belowMinimum)))
    else if call.amountMinor % 100 ≠ 0 then
      (db, call.at (.returned (.amountInvalid .notWholeBirr)))
    else
      match unit input (moveProfit call input) db with
      | (db, .ok result) => (db, call.at (.returned result))
      | (db, .error fault) => (db, call.at (.threw fault))
  | .returned _ => (db, call)
  | .threw _ => (db, call)

end Telga.Application
