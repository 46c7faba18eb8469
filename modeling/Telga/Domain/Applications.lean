import Telga.Domain.Ids
import Telga.Domain.Text

namespace Telga.Domain

abbrev ApplicationId := String

inductive ApplicationStatus
  | draft
  | submitted
  | underReview
  | approved
  | provisioning
  | devicePending
  | readyForTraining
  | activeTraining
  | liveEligible
  | suspended
  | closed
deriving DecidableEq, Repr

namespace ApplicationStatus

/-- Which moves are legal. Returned for correction goes back to a draft; rejected is closed. -/
def allowed : ApplicationStatus → List ApplicationStatus
  | draft => [submitted, closed]
  | submitted => [underReview, closed]
  | underReview => [approved, draft, closed]
  | approved => [provisioning, suspended]
  | provisioning => [devicePending, suspended]
  | devicePending => [readyForTraining, suspended]
  | readyForTraining => [activeTraining, suspended]
  | activeTraining => [liveEligible, suspended]
  | liveEligible => [suspended]
  | suspended => [activeTraining, closed]
  | closed => []

def canTransition (origin target : ApplicationStatus) : Bool :=
  (allowed origin).contains target

end ApplicationStatus

/-- Who typed an application in. -/
inductive SubmissionChannel
  | admin
  | selfService
deriving DecidableEq, Repr

/-- The papers a shop may produce. -/
inductive DocumentKind
  | tradeLicence
  | commercialRegistration
  | tinCertificate
  | ownerPhotoId
  | proofOfAddress
  | bankAccountProof
  | memorandumOfAssociation
  | signingAuthority
deriving DecidableEq, Repr

/-- What a reviewer can decide. -/
inductive ReviewOutcome
  | approve
  | reject
  | returnForCorrection
deriving DecidableEq, Repr

def ReviewOutcome.text : ReviewOutcome → String
  | .approve => "APPROVE"
  | .reject => "REJECT"
  | .returnForCorrection => "RETURN_FOR_CORRECTION"

def reviewOutcomes : List ReviewOutcome :=
  [.approve, .reject, .returnForCorrection]

/-- Read an outcome off a form, or refuse to guess. -/
def parseReviewOutcome (raw : Option String) : Option ReviewOutcome :=
  raw.bind fun raw => reviewOutcomes.find? fun outcome => outcome.text = raw

structure ReviewDecision where
  outcome : ReviewOutcome
  reason : String
  reviewedBy : String

inductive ReviewRefusal
  | reasonRequired
  | notUnderReview
  | illegalTransition
  | unknownOutcome
deriving DecidableEq, Repr

/-- Where a decision lands. -/
def statusAfterReview (decision : ReviewDecision) : ApplicationStatus :=
  match decision.outcome with
  | .approve => .approved
  | .returnForCorrection => .draft
  | .reject => .closed

/-- Why a decision is refused. Approving needs no reason; the other two do. -/
def reviewRefusal (current : ApplicationStatus) (decision : ReviewDecision) :
    Option ReviewRefusal :=
  if current ≠ .underReview then some .notUnderReview
  else if decision.outcome ≠ .approve ∧ trim decision.reason = "" then some .reasonRequired
  else if current.canTransition (statusAfterReview decision) then none
  else some .illegalTransition

/-- A decision that is not refused is of an application under review, and lands where the table
lets it. -/
theorem reviewRefusal_none (accepted : reviewRefusal current decision = none) :
    current = .underReview ∧ current.canTransition (statusAfterReview decision) = true := by
  unfold reviewRefusal at accepted
  split at accepted
  · cases accepted
  · rename_i review
    split at accepted
    · cases accepted
    · split at accepted
      · rename_i legal
        exact ⟨Decidable.not_not.mp review, legal⟩
      · cases accepted

inductive TenantStatus
  | provisioning
  | active
  | suspended
  | closed
  | migrating
  | failed
deriving DecidableEq, Repr

/-- The merchant an application becomes. Derived, not generated: two approvals of one application
collide on it. -/
def merchantIdFor (applicationId : ApplicationId) : MerchantId :=
  match applicationId.toList with
  | 'a' :: 'p' :: 'p' :: '_' :: rest => "mch_" ++ String.ofList rest
  | _ => "mch_" ++ applicationId

/-- The characters a database name may have. -/
def isSafe (c : Char) : Bool :=
  ('a' ≤ c && c ≤ 'z') || ('0' ≤ c && c ≤ '9') || c == '_' || c == '-'

/-- The database name for a merchant; an id that gives no safe name is refused, never rewritten.
What is lower case is the runtime's own. -/
def databaseNameFor (toLowerCase : String → String) (merchantId : MerchantId) : Option String :=
  let name := toLowerCase (trim merchantId)
  if name ≠ "" ∧ name.toList.all isSafe then some (name ++ ".sqlite") else none

inductive ProvisioningRefusal
  | notApproved
  | alreadyProvisioned
  | unsafeName
  | databaseFailed
  | merchantWriteFailed
deriving DecidableEq, Repr

/-- The statuses an application may be provisioned from. -/
def provisionable (status : ApplicationStatus) : Bool :=
  status = .approved || status = .provisioning

end Telga.Domain
