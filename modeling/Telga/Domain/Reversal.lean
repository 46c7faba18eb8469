import Telga.Domain.Ids
import Telga.Domain.States

namespace Telga.Domain

inductive TokenRedemption
  | redeemed
  | unredeemed
  | unknown
deriving DecidableEq, Repr

inductive ReversalRefusal
  | alreadyReversed
  | notAReversibleState
  | tokenAlreadyRedeemed
  | outsideReversalWindow
  | reversalAlreadyRequested
deriving DecidableEq, Repr

def ReversalRefusal.code : ReversalRefusal → String
  | .alreadyReversed => "ALREADY_REVERSED"
  | .notAReversibleState => "NOT_A_REVERSIBLE_STATE"
  | .tokenAlreadyRedeemed => "TOKEN_ALREADY_REDEEMED"
  | .outsideReversalWindow => "OUTSIDE_REVERSAL_WINDOW"
  | .reversalAlreadyRequested => "REVERSAL_ALREADY_REQUESTED"

structure ReversalPolicy where
  windowMs : Int
  approvalThresholdMinor : Int
  feeBasisPoints : Int
deriving DecidableEq

structure ReversalRequest where
  state : TransactionState
  amountMinor : Int
  soldAt : Timestamp
  now : Timestamp
  redemption : TokenRedemption
  alreadyRequested : Bool

inductive ReversalDecision
  | refused (refusal : ReversalRefusal)
  | accepted (needsApproval : Bool) (returnableMinor feeMinor : Int) (needsRedemptionCheck : Bool)
deriving DecidableEq, Repr

/-- States a reversal may be requested from. -/
def reversibleFrom : List TransactionState :=
  [.successful, .pending, .underReview, .reversalRequired]

/-- Withheld amount, rounded down, so rounding never costs the merchant. -/
def feeFor (amountMinor basisPoints : Int) : Int :=
  if basisPoints ≤ 0 then 0 else (amountMinor * basisPoints) / 10000

/-- May this reversal be requested, and for how much? Cheap, certain refusals come first. -/
def decideReversal (request : ReversalRequest) (policy : ReversalPolicy) : ReversalDecision :=
  let feeMinor := feeFor request.amountMinor policy.feeBasisPoints
  let returnableMinor := request.amountMinor - feeMinor
  if request.state = .reversed then .refused .alreadyReversed
  else if ¬ reversibleFrom.contains request.state then .refused .notAReversibleState
  else if request.alreadyRequested ∧ request.state ≠ .reversalRequired then
    .refused .reversalAlreadyRequested
  else if request.redemption = .redeemed then .refused .tokenAlreadyRedeemed
  else if request.now - request.soldAt > policy.windowMs then .refused .outsideReversalWindow
  else
    let needsRedemptionCheck := decide (request.redemption = .unknown)
    let needsApproval :=
      needsRedemptionCheck || decide (request.amountMinor > policy.approvalThresholdMinor)
    .accepted needsApproval returnableMinor feeMinor needsRedemptionCheck

/-- The training policy. -/
def trainingReversalPolicy : ReversalPolicy where
  windowMs := 24 * 60 * 60 * 1000
  approvalThresholdMinor := 100000
  feeBasisPoints := 0

end Telga.Domain
