import Telga.Domain.Ids

namespace Telga.Domain

abbrev AdminId := String

inductive AdminRole
  | platformOwner
  | operationsAdmin
  | financeVerifier
  | supportAgent
  | auditor
  | securityAdmin
  | departmentAdmin
deriving DecidableEq, Repr

inductive AdminStatus
  | pending
  | active
  | suspended
  | deactivated
deriving DecidableEq, Repr

/-- Every decision the console can be asked to make. -/
inductive AdminPermission
  | viewMerchant
  | reviewApplication
  | approveMerchant
  | rejectMerchant
  | suspendMerchant
  | closeMerchant
  | viewDevice
  | registerDevice
  | issueEnrollmentToken
  | revokeDevice
  | remoteStopSales
  | viewOperator
  | createOperator
  | resetOperatorPin
  | suspendOperator
  | revokeSession
  | viewTransaction
  | reprintReceipt
  | viewStatement
  | exportData
  | reviewFunding
  | approveFunding
  | secondApproveFunding
  | reconcile
  | viewSupportCase
  | manageSupportCase
  | viewProviderHealth
  | viewAudit
  | changeFeatureFlag
  | viewFeePolicy
  | manageFeePolicy
  | manageAdmins
  | managePermissions
deriving DecidableEq, Repr

namespace AdminPermission

def all : List AdminPermission :=
  [viewMerchant, reviewApplication, approveMerchant, rejectMerchant, suspendMerchant,
   closeMerchant, viewDevice, registerDevice, issueEnrollmentToken, revokeDevice, remoteStopSales,
   viewOperator, createOperator, resetOperatorPin, suspendOperator, revokeSession,
   viewTransaction, reprintReceipt, viewStatement, exportData, reviewFunding, approveFunding,
   secondApproveFunding, reconcile, viewSupportCase, manageSupportCase, viewProviderHealth,
   viewAudit, changeFeatureFlag, viewFeePolicy, manageFeePolicy, manageAdmins, managePermissions]

def readOnly : List AdminPermission :=
  [viewMerchant, viewDevice, viewOperator, viewTransaction, viewStatement, viewSupportCase,
   viewProviderHealth, viewAudit, viewFeePolicy]

/-- Actions that need re-authentication no matter how recent the session is. -/
def stepUpRequired : List AdminPermission :=
  [approveMerchant, suspendMerchant, closeMerchant, registerDevice, issueEnrollmentToken,
   revokeDevice, remoteStopSales, resetOperatorPin, approveFunding, secondApproveFunding,
   exportData, changeFeatureFlag, manageFeePolicy, manageAdmins, managePermissions]

end AdminPermission

open AdminPermission in
/-- What each role carries by default. -/
def AdminRole.permissions : AdminRole → List AdminPermission
  | .platformOwner => AdminPermission.all
  | .operationsAdmin =>
    readOnly ++ [reviewApplication, approveMerchant, rejectMerchant, suspendMerchant,
      registerDevice, issueEnrollmentToken, revokeDevice, remoteStopSales, createOperator,
      resetOperatorPin, suspendOperator, reprintReceipt]
  | .financeVerifier => readOnly ++ [reviewFunding, approveFunding, reconcile, exportData]
  | .supportAgent => readOnly ++ [manageSupportCase, reprintReceipt]
  | .auditor => readOnly
  | .securityAdmin => readOnly ++ [revokeDevice, AdminPermission.revokeSession, suspendOperator,
      remoteStopSales]
  | .departmentAdmin => readOnly

structure AdminUser where
  id : AdminId
  email : String
  role : AdminRole
  status : AdminStatus
  mfaEnrolled : Bool
  grants : List AdminPermission
deriving DecidableEq

/-- What this admin may actually do. -/
def effectivePermissions (user : AdminUser) : List AdminPermission :=
  if user.status = .active then user.role.permissions ++ user.grants else []

structure AdminAuthContext where
  user : AdminUser
  mfaSatisfied : Bool
  steppedUpAt : Option Timestamp
deriving DecidableEq

/-- Which of the two identity checks are in force. A field left out means strict. -/
structure AdminAuthPolicy where
  requireMfa : Option Bool := none
  requireStepUp : Option Bool := none

inductive AdminDenial
  | notGranted
  | inactive
  | mfaRequired
  | stepUpRequired
deriving DecidableEq, Repr

def stepUpWindowMs : Int := 5 * 60 * 1000

/-- The single authorization decision: why an admin is refused a permission, if at all. -/
def requireAdmin (context : AdminAuthContext) (permission : AdminPermission) (now : Timestamp)
    (policy : AdminAuthPolicy) : Option AdminDenial :=
  if context.user.status ≠ .active then some .inactive
  else if policy.requireMfa ≠ some false ∧ context.mfaSatisfied = false then some .mfaRequired
  else if permission ∉ effectivePermissions context.user then some .notGranted
  else if policy.requireStepUp ≠ some false ∧ permission ∈ AdminPermission.stepUpRequired then
    match context.steppedUpAt with
    | none => some .stepUpRequired
    | some at' => if stepUpWindowMs < now - at' then some .stepUpRequired else none
  else none

/-- An auditor may look and change nothing: none of the role's permissions needs a step-up. -/
theorem auditor_reads (permission : AdminPermission)
    (held : permission ∈ AdminRole.auditor.permissions) :
    permission ∉ AdminPermission.stepUpRequired := by
  revert held
  cases permission <;> decide

end Telga.Domain
