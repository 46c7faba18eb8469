import Telga.Application.RecordDeposits
import Telga.Library.Pool

namespace Telga.Application
open Domain Persistence Library

/-- The requests that order, settle and record deposits. -/
inductive DepositService
  | startChapaDeposit
  | orderBankDeposit
  | cancelBankDeposit
  | expireTopupOrders
  | settleChapaDeposit
  | recordDeposit
  | approveDeposit
deriving DecidableEq, Repr

/-- One running request. -/
inductive DepositProcess
  | startChapaDeposit (call : StartChapaDeposit)
  | orderBankDeposit (call : OrderBankDeposit)
  | cancelBankDeposit (call : CancelBankDeposit)
  | expireTopupOrders (call : ExpireOrders)
  | settleChapaDeposit (call : SettleChapaDeposit)
  | recordDeposit (call : RecordDeposit)
  | approveDeposit (call : ApproveDeposit)

def DepositProcess.service : DepositProcess → DepositService
  | .startChapaDeposit _ => .startChapaDeposit
  | .orderBankDeposit _ => .orderBankDeposit
  | .cancelBankDeposit _ => .cancelBankDeposit
  | .expireTopupOrders _ => .expireTopupOrders
  | .settleChapaDeposit _ => .settleChapaDeposit
  | .recordDeposit _ => .recordDeposit
  | .approveDeposit _ => .approveDeposit

/-- One atomic step of a request. -/
def DepositProcess.step (input : DepositInput) (db : DepositDb) :
    DepositProcess → DepositDb × DepositProcess
  | .startChapaDeposit call => (call.step input db).map id .startChapaDeposit
  | .orderBankDeposit call => (call.step input db).map id .orderBankDeposit
  | .cancelBankDeposit call => (call.step input db).map id .cancelBankDeposit
  | .expireTopupOrders call => (call.step input db).map id .expireTopupOrders
  | .settleChapaDeposit call => (call.step input db).map id .settleChapaDeposit
  | .recordDeposit call => (call.step input db).map id .recordDeposit
  | .approveDeposit call => (call.step input db).map id .approveDeposit

/-- A request stays a request of its kind. -/
theorem DepositProcess.step_service (input : DepositInput) (db : DepositDb)
    (process : DepositProcess) : (process.step input db).2.service = process.service := by
  cases process <;> rfl

/-- A request that has not taken a step yet. -/
def DepositProcess.Starting : DepositProcess → Prop
  | .startChapaDeposit call => call.point = .begin
  | .orderBankDeposit call => call.point = .begin
  | .cancelBankDeposit call => call.point = .begin
  | .expireTopupOrders call => call.point = .begin
  | .settleChapaDeposit call => call.point = .begin
  | .recordDeposit call => call.point = .begin
  | .approveDeposit call => call.point = .begin

instance : DecidablePred DepositProcess.Starting := fun process => by
  cases process <;> exact inferInstanceAs (Decidable (_ = _))

/-- A request that has answered or thrown. -/
def DepositProcess.finished : DepositProcess → Bool
  | .startChapaDeposit { point := .returned _, .. } | .startChapaDeposit { point := .exhausted, .. }
  | .startChapaDeposit { point := .threw _, .. } => true
  | .orderBankDeposit { point := .returned _, .. } | .orderBankDeposit { point := .exhausted, .. }
  | .orderBankDeposit { point := .threw _, .. } => true
  | .cancelBankDeposit { point := .returned _, .. }
  | .cancelBankDeposit { point := .threw _, .. } => true
  | .expireTopupOrders { point := .done } | .expireTopupOrders { point := .threw _ } => true
  | .settleChapaDeposit { point := .returned _, .. }
  | .settleChapaDeposit { point := .threw _, .. } => true
  | .recordDeposit { point := .returned _, .. } | .recordDeposit { point := .refused _, .. } => true
  | .approveDeposit { point := .approved, .. } | .approveDeposit { point := .refused _, .. } => true
  | _ => false

/-- The point of sale, the gateway's deliveries and the consoles at work on one database. -/
def depositServer : Machine DepositDb DepositInput DepositProcess where
  advance := DepositProcess.step
  finished process := process.finished = true

/-- Only requests of the given kinds are made, each from its beginning. -/
def Requests (allowed : List DepositService) (_ : DepositDb) (process : DepositProcess) : Prop :=
  process.service ∈ allowed ∧ process.Starting

instance (allowed : List DepositService) (db : DepositDb) (process : DepositProcess) :
    Decidable (Requests allowed db process) :=
  inferInstanceAs (Decidable (_ ∧ _))

/-- Steps of the deposits' requests, whatever their surroundings answer. -/
abbrev DepositStep (allowed : List DepositService) :
    World DepositDb DepositProcess → Event DepositInput DepositProcess →
      World DepositDb DepositProcess → Prop :=
  Pool depositServer (Requests allowed) fun _ _ _ => True

end Telga.Application
