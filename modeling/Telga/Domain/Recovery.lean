import Telga.Domain.Provider

namespace Telga.Domain

/-- What a status lookup came to. -/
inductive ProviderLookupOutcome
  | confirmedSuccess
  | confirmedFailure
  | stillProcessing
  | unknown
  | providerUnavailable
  | malformedResponse
  | authOrConfigFailure
  | notAttempted
deriving DecidableEq, Repr

/-- True when this needs a human to look at the platform, not the sale. -/
def isOperationalFault (outcome : ProviderLookupOutcome) : Bool :=
  outcome == .authOrConfigFailure

def classifyStatus (status : ProviderStatus) : ProviderLookupOutcome :=
  match status.outcome with
  | .success => .confirmedSuccess
  | .failure => .confirmedFailure
  | .stillPending => .stillProcessing
  | .unknownReference => .unknown

def occurs (word : List Char) : List Char → Bool
  | [] => word.isEmpty
  | c :: rest => word.isPrefixOf (c :: rest) || occurs word rest

/-- Does one of the words occur in the token? -/
def mentions (words : List String) (token : String) : Bool :=
  words.any fun word => occurs word.toList token.toList

/-- What a thrown lookup comes to, from the error's name and code joined by a colon and put in
capitals. -/
def classifyLookupFailure (liveMoneyDisabled : Bool) (token : String) : ProviderLookupOutcome :=
  if liveMoneyDisabled then .authOrConfigFailure
  else if mentions ["AUTH", "CREDENTIAL", "FORBIDDEN", "UNAUTHORIZED", "CONFIG", "EACCES"] token then
    .authOrConfigFailure
  else if mentions ["MALFORMED", "PARSE", "SYNTAX", "DECODE", "JSON"] token then
    .malformedResponse
  else if mentions ["UNAVAILABLE", "ECONNREFUSED", "ECONNRESET", "ETIMEDOUT", "TIMEOUT", "NETWORK",
      "DNS", "ENOTFOUND"] token then
    .providerUnavailable
  else .unknown

/-- A lookup that threw confirms nothing. -/
theorem classifyLookupFailure_indeterminate (live : Bool) (token : String) :
    classifyLookupFailure live token ≠ .confirmedSuccess ∧
    classifyLookupFailure live token ≠ .confirmedFailure := by
  unfold classifyLookupFailure
  repeat' split
  all_goals exact ⟨by decide, by decide⟩

theorem classifyStatus_success :
    classifyStatus status = .confirmedSuccess ↔ status.outcome = .success := by
  unfold classifyStatus
  split <;> simp_all

theorem classifyStatus_failure :
    classifyStatus status = .confirmedFailure ↔ status.outcome = .failure := by
  unfold classifyStatus
  split <;> simp_all

structure RecoveryPolicy where
  recoveryAgeMs : Int
  pendingMaximumMs : Int
  maxStatusAttempts : Nat
  claimLeaseMs : Int
  statusCheckIntervalMs : Int
  batchLimit : Nat
deriving DecidableEq

/-- A provider's overrides; a field left out falls back to the base policy. -/
structure PolicyOverride where
  recoveryAgeMs : Option Int := none
  pendingMaximumMs : Option Int := none
  maxStatusAttempts : Option Nat := none
  claimLeaseMs : Option Int := none
  statusCheckIntervalMs : Option Int := none
  batchLimit : Option Nat := none
deriving DecidableEq

structure RecoveryConfig extends RecoveryPolicy where
  perProvider : List (String × PolicyOverride) := []
deriving DecidableEq

/-- Resolve the effective policy for one provider. -/
def policyFor (config : RecoveryConfig) (providerId : Option String) : RecoveryPolicy :=
  match providerId.bind fun id => config.perProvider.lookup id with
  | none => config.toRecoveryPolicy
  | some override =>
    { recoveryAgeMs := override.recoveryAgeMs.getD config.recoveryAgeMs
      pendingMaximumMs := override.pendingMaximumMs.getD config.pendingMaximumMs
      maxStatusAttempts := override.maxStatusAttempts.getD config.maxStatusAttempts
      claimLeaseMs := override.claimLeaseMs.getD config.claimLeaseMs
      statusCheckIntervalMs := override.statusCheckIntervalMs.getD config.statusCheckIntervalMs
      batchLimit := override.batchLimit.getD config.batchLimit }

/-- The youngest age any provider's policy sweeps at. -/
def minimumRecoveryAgeMs (config : RecoveryConfig) : Int :=
  config.perProvider.foldl
    (fun least entry => min least (entry.2.recoveryAgeMs.getD config.recoveryAgeMs))
    config.recoveryAgeMs

end Telga.Domain
