import Telga.Application.CreateSale
import Telga.Application.RecoverInFlight
import Telga.Application.ResolvePending
import Telga.Application.Reversal
import Telga.Application.ReversalRequests
import Telga.Application.ShopTransfer
import Telga.Library.Pool

namespace Telga.Application
open Domain Persistence Library

/-- How far a call of a single unit of work has come. -/
inductive UnitPoint
  | begin
  | done
  | threw (fault : Fault)
deriving DecidableEq

/-- A verified deposit being credited. -/
structure Deposit where
  input : MovementInput
  point : UnitPoint

def Deposit.step (input : Input) (db : Db) (call : Deposit) : Db × Deposit :=
  match call.point with
  | .begin =>
    match unit input (fun db => (·, ()) <$> fundMerchant db call.input) db with
    | (db, .ok _) => (db, { call with point := .done })
    | (db, .error fault) => (db, { call with point := .threw fault })
  | .done => (db, call)
  | .threw _ => (db, call)

/-- What an administrator may configure about commissions. -/
inductive FeeChange
  | settings (update : FeeSettingsUpdate)
  | providerRate (rate : ProviderRateInput)

structure Configure where
  change : FeeChange
  point : UnitPoint

def FeeChange.write : FeeChange → Db → Except Fault Db
  | .settings update, db => writePlatformFeeSettings db update
  | .providerRate rate, db => saveProviderRate db rate

def Configure.step (input : Input) (db : Db) (call : Configure) : Db × Configure :=
  match call.point with
  | .begin =>
    match unit input (fun db => (·, ()) <$> call.change.write db) db with
    | (db, .ok _) => (db, { call with point := .done })
    | (db, .error fault) => (db, { call with point := .threw fault })
  | .done => (db, call)
  | .threw _ => (db, call)

/-- The services that write to the ledger and the sales. -/
inductive Service
  | createSale
  | resolvePending
  | recoverInFlight
  | requireReversal
  | completeReversal
  | transferProfit
  | runDueSoftwareFees
  | settleShopTransfer
  | decideTransfer
  | fileReversal
  | decideReversal
  | deposit
  | configure
deriving DecidableEq, Repr

/-- One running call of a service. -/
inductive Process
  | createSale (call : CreateSale)
  | resolvePending (call : ResolvePending)
  | recoverInFlight (call : RecoverInFlight)
  | requireReversal (call : RequireReversal)
  | completeReversal (call : CompleteReversal)
  | transferProfit (call : TransferProfit)
  | runDueSoftwareFees (call : RunDueSoftwareFees)
  | settleShopTransfer (call : SettleShopTransfer)
  | decideTransfer (call : DecideTransfer)
  | fileReversal (call : FileReversal)
  | decideReversal (call : DecideReversal)
  | deposit (call : Deposit)
  | configure (call : Configure)

def Process.service : Process → Service
  | .createSale _ => .createSale
  | .resolvePending _ => .resolvePending
  | .recoverInFlight _ => .recoverInFlight
  | .requireReversal _ => .requireReversal
  | .completeReversal _ => .completeReversal
  | .transferProfit _ => .transferProfit
  | .runDueSoftwareFees _ => .runDueSoftwareFees
  | .settleShopTransfer _ => .settleShopTransfer
  | .decideTransfer _ => .decideTransfer
  | .fileReversal _ => .fileReversal
  | .decideReversal _ => .decideReversal
  | .deposit _ => .deposit
  | .configure _ => .configure

/-- One atomic step of a call. -/
def Process.step (input : Input) (db : Db) : Process → Db × Process
  | .createSale call => (call.step input db).map id .createSale
  | .resolvePending call => (call.step input db).map id .resolvePending
  | .recoverInFlight call => (call.step input db).map id .recoverInFlight
  | .requireReversal call => (call.step input db).map id .requireReversal
  | .completeReversal call => (call.step input db).map id .completeReversal
  | .transferProfit call => (call.step input db).map id .transferProfit
  | .runDueSoftwareFees call => (call.step input db).map id .runDueSoftwareFees
  | .settleShopTransfer call => (call.step input db).map id .settleShopTransfer
  | .decideTransfer call => (call.step input db).map id .decideTransfer
  | .fileReversal call => (call.step input db).map id .fileReversal
  | .decideReversal call => (call.step input db).map id .decideReversal
  | .deposit call => (call.step input db).map id .deposit
  | .configure call => (call.step input db).map id .configure

/-- A call stays a call of its service. -/
theorem Process.step_service (input : Input) (db : Db) (process : Process) :
    (process.step input db).2.service = process.service := by
  cases process <;> rfl

/-- A call that has not taken a step yet. -/
def Process.Starting : Process → Prop
  | .createSale call => call.point = .begin
  | .resolvePending call => call.point = .begin
  | .recoverInFlight call => call.point = .begin
  | .requireReversal call => call.point = .begin
  | .completeReversal call => call.point = .begin
  | .transferProfit call => call.point = .begin
  | .runDueSoftwareFees call => call.point = .begin
  | .settleShopTransfer call => call.point = .begin
  | .decideTransfer call => call.point = .begin
  | .fileReversal call => call.point = .begin
  | .decideReversal call => call.point = .begin
  | .deposit call => call.point = .begin
  | .configure call => call.point = .begin

instance : DecidablePred Process.Starting := fun process => by
  cases process <;> exact inferInstanceAs (Decidable (_ = _))

/-- A call that has answered or thrown. -/
def Process.finished : Process → Bool
  | .createSale { point := .returned _, .. } | .createSale { point := .threw _, .. } => true
  | .resolvePending { point := .returned _, .. } | .resolvePending { point := .threw _, .. } => true
  | .recoverInFlight { point := .returned _, .. } | .recoverInFlight { point := .threw _, .. } =>
    true
  | .requireReversal { point := .returned _, .. } | .requireReversal { point := .threw _, .. } =>
    true
  | .completeReversal { point := .returned _, .. } | .completeReversal { point := .threw _, .. } =>
    true
  | .transferProfit { point := .returned _, .. } | .transferProfit { point := .threw _, .. } => true
  | .runDueSoftwareFees { point := .returned, .. }
  | .runDueSoftwareFees { point := .threw _, .. } => true
  | .settleShopTransfer { point := .returned _, .. }
  | .settleShopTransfer { point := .threw _, .. } => true
  | .decideTransfer { point := .returned _, .. } | .decideTransfer { point := .threw _, .. } => true
  | .fileReversal { point := .filed, .. } | .fileReversal { point := .refused _, .. } => true
  | .decideReversal { point := .returned _, .. } | .decideReversal { point := .threw _, .. } => true
  | .deposit { point := .done, .. } | .deposit { point := .threw _, .. } => true
  | .configure { point := .done, .. } | .configure { point := .threw _, .. } => true
  | _ => false

/-- The services at work on one database. -/
def services : Machine Db Input Process where
  advance := Process.step
  finished process := process.finished = true

instance : DecidablePred services.finished := fun process =>
  inferInstanceAs (Decidable (process.finished = true))

/-- Only calls of the given services are made, each from its beginning. -/
def Calls (allowed : List Service) (_ : Db) (process : Process) : Prop :=
  process.service ∈ allowed ∧ process.Starting

instance (allowed : List Service) (db : Db) (process : Process) :
    Decidable (Calls allowed db process) :=
  inferInstanceAs (Decidable (_ ∧ _))

/-- Ids are drawn fresh: the sale and the reservation a call opens were not stored before. -/
def Fresh (input : Input) (db : Db) : Process → Prop
  | .createSale call => call.point = .reserving →
    ¬ Present (·.id) (input.newId 0) db.transactions ∧
    ¬ Present (·.id) (input.newId 4) db.balanceReservations
  | _ => True

instance (input : Input) (db : Db) : DecidablePred (Fresh input db)
  | .createSale call => inferInstanceAs (Decidable (call.point = .reserving → _ ∧ _))
  | .resolvePending _ | .recoverInFlight _ | .requireReversal _ | .completeReversal _
  | .transferProfit _ | .runDueSoftwareFees _ | .settleShopTransfer _ | .decideTransfer _
  | .fileReversal _ | .decideReversal _ | .deposit _ | .configure _ => isTrue trivial

end Telga.Application
