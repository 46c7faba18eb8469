import Telga.Domain.Audit

namespace Telga.Domain

/-- Every decision the point of sale and its API can be asked to make. -/
inductive Permission
  | posViewHome
  | posCreateSale
  | posViewTransaction
  | posViewHistory
  | posViewPendingQueue
  | posViewUnderReviewQueue
  | posRequestSupportReview
  | posLogout
  | posManageSettings
  | posDepositTrainingFunds
  | deviceEnrol
  | deviceRevoke
  | reversalRequest
  | reversalApprove
  | transactionForceState
  | fundsRelease
  | recoveryConfigure
  | providerOverrideOutcome
  | adminDiagnostics
deriving DecidableEq, Repr

def permissions : List Permission :=
  [.posViewHome, .posCreateSale, .posViewTransaction, .posViewHistory, .posViewPendingQueue,
   .posViewUnderReviewQueue, .posRequestSupportReview, .posLogout, .posManageSettings,
   .posDepositTrainingFunds, .deviceEnrol, .deviceRevoke, .reversalRequest, .reversalApprove,
   .transactionForceState, .fundsRelease, .recoveryConfigure, .providerOverrideOutcome,
   .adminDiagnostics]

def operatorGrants : List Permission :=
  [.posViewHome, .posCreateSale, .posViewTransaction, .posViewHistory, .posViewPendingQueue,
   .posViewUnderReviewQueue, .posRequestSupportReview, .posLogout]

/-- The owner is an operator who may also enrol a device, change the settings and move the
shop's own funds. -/
def ownerGrants : List Permission :=
  operatorGrants ++ [.deviceEnrol, .posManageSettings, .posDepositTrainingFunds]

def rolePermissions : ActorRole → List Permission
  | .merchantOperator => operatorGrants
  | .merchantOwner => ownerGrants
  | .opsVerifier => [.posLogout]
  | .opsReconciler => [.posLogout]
  | .opsSupport => [.posLogout, .reversalRequest, .deviceRevoke]
  | .opsApprover =>
    [.posLogout, .reversalRequest, .reversalApprove, .fundsRelease, .deviceRevoke]
  | .admin => permissions
  | .system => []

/-- The money controls, which a merchant's role must never hold. -/
def forbiddenToMerchant : List Permission :=
  [.reversalApprove, .transactionForceState, .fundsRelease, .recoveryConfigure,
   .providerOverrideOutcome, .adminDiagnostics, .deviceRevoke]

def merchantRoles : List ActorRole :=
  [.merchantOperator, .merchantOwner]

def isMerchantRole (role : ActorRole) : Bool :=
  role ∈ merchantRoles

def can (role : ActorRole) (permission : Permission) : Bool :=
  permission ∈ rolePermissions role

/-- May a role perform this? The grants decide, and what is forbidden to merchants is consulted
beside them. -/
def authorize (role : ActorRole) (permission : Permission) : Bool :=
  ¬ (isMerchantRole role ∧ permission ∈ forbiddenToMerchant) ∧ can role permission

end Telga.Domain
