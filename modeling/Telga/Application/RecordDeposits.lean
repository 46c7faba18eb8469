import Telga.Application.ChapaDeposits

namespace Telga.Application
open Domain Persistence Library

/-- What an operator records of a deposit. -/
structure DepositClaimInput where
  quotedReference : String
  bankReference : String
  bankRecord : Option BankRecord
  claimedAmountMinor : Option Int
  evidence : Option String
  expectedAccount : String
  autoCreditCapMinor : Int
  recordedBy : String

structure DepositOutcome where
  submissionId : String
  decision : VerificationDecision
  status : FundingStatus
  postingId : Option PostingId
deriving DecidableEq

/-- The searchable form of a device key. -/
def depositLookupFor (deps : DepositDeps) (deviceKey : String) : String :=
  deps.sha256 (trim deviceKey)

/-- What a recorded deposit is judged on. -/
def verificationInput (deps : DepositDeps) (db : DepositDb) (claim : DepositClaimInput) :
    VerificationInput :=
  { claim :=
      { depositReference := claim.quotedReference, bankReference := claim.bankReference,
        claimedAmountMinor := claim.claimedAmountMinor }
    bankRecord := claim.bankRecord
    merchantForReference := merchantForReference db (deps.normalize claim.quotedReference)
      (depositLookupFor deps claim.quotedReference)
    alreadyCredited := alreadyCredited db claim.bankReference
    expectedAccount := claim.expectedAccount
    autoCreditCapMinor := claim.autoCreditCapMinor }

/-- The submission a deposit is stored as, whatever was decided about it. -/
def depositSubmission (claim : DepositClaimInput) (merchantId : Option MerchantId)
    (decision : VerificationDecision) (input : DepositInput) : FundingSubmissionRow :=
  { id := input.newId 0, merchantId, quotedReference := claim.quotedReference,
    bankReference := claim.bankReference, claimedAmountMinor := claim.claimedAmountMinor,
    bankAmountMinor := claim.bankRecord.map (·.amountMinor),
    status := statusAfterVerification decision, outcomeReason := outcomeReason decision,
    evidence := claim.evidence, recordedBy := some claim.recordedBy,
    decidedBy := some claim.recordedBy, decidedAt := some (input.now 0),
    createdAt := input.now 0, updatedAt := input.now 0 }

/-- The balanced, append-only credit of a deposit. -/
def creditMerchant (db : DepositDb) (merchantId : MerchantId) (amountMinor : Int)
    (correlationId : CorrelationId) (postingId : PostingId) (now : Timestamp) :
    Except Fault DepositDb := do
  let amount ← money amountMinor
  db.shared fun base => fundMerchant base { merchantId, amount, now, correlationId, postingId }

/-- Decide, record, and credit if the decision says so. -/
def recordDeposit (deps : DepositDeps) (claim : DepositClaimInput) (input : DepositInput)
    (db : DepositDb) : Except Fault (DepositDb × DepositOutcome) := do
  let asked := verificationInput deps db claim
  let decision := verifyDeposit asked
  let status := statusAfterVerification decision
  let submissionId := input.newId 0
  let db ← insertFundingSubmission db
    (depositSubmission claim asked.merchantForReference decision input)
  match decision with
  | .credit merchantId amountMinor _ _ =>
    let postingId := "posting_" ++ submissionId
    let db ← creditMerchant db merchantId amountMinor submissionId postingId (input.now 0)
    return (linkPosting db submissionId postingId (input.now 0),
      { submissionId, decision, status, postingId := some postingId })
  | _ => return (db, { submissionId, decision, status, postingId := none })

/-- What the console does about a recorded deposit in one transaction: record it, and when it
was credited close the order it quotes. -/
def recordAndClose (deps : DepositDeps) (claim : DepositClaimInput) (input : DepositInput)
    (db : DepositDb) : Except Fault (DepositDb × DepositOutcome) := do
  let (db, outcome) ← recordDeposit deps claim input db
  if outcome.status = .credited then
    let (db, _) ← markTopupOrderPaid db (deps.normalize claim.quotedReference)
      outcome.submissionId (input.now 1)
    return (db, outcome)
  else return (db, outcome)

/-- What an operator typed into the deposit form, trimmed, with the amounts it read as. -/
structure DepositForm where
  quotedReference : String
  bankReference : String
  bankAmountMinor : Option Int
  claimedAmountMinor : Option Int
  creditedAccount : String
  evidence : String

inductive RecordPoint
  | begin
  | returned (outcome : DepositOutcome)
  | refused (error : String)
deriving DecidableEq

/-- The console's request to record a deposit. -/
structure RecordDeposit where
  deps : DepositDeps
  form : DepositForm
  expectedAccount : String
  autoCreditCapMinor : Int
  recordedBy : String
  point : RecordPoint

def RecordDeposit.at (call : RecordDeposit) (point : RecordPoint) : RecordDeposit :=
  { call with point }

/-- The claim a form makes: a bank record only when the bank's fields are there. -/
def RecordDeposit.claim (call : RecordDeposit) : DepositClaimInput :=
  { quotedReference := trim call.form.quotedReference
    bankReference := trim call.form.bankReference
    bankRecord :=
      if 0 < textLength (trim call.form.creditedAccount) then
        call.form.bankAmountMinor.map fun amountMinor =>
          { bankReference := trim call.form.bankReference, amountMinor
            creditedAccount := trim call.form.creditedAccount }
      else none
    claimedAmountMinor := call.form.claimedAmountMinor
    evidence :=
      if textLength (trim call.form.evidence) = 0 then none else some (trim call.form.evidence)
    expectedAccount := call.expectedAccount
    autoCreditCapMinor := call.autoCreditCapMinor
    recordedBy := call.recordedBy }

/-- The one atomic step of recording a deposit. -/
def RecordDeposit.step (input : DepositInput) (db : DepositDb) (call : RecordDeposit) :
    DepositDb × RecordDeposit :=
  match call.point with
  | .begin =>
    if textLength call.claim.bankReference = 0 then
      (db, call.at (.refused "BANK_REFERENCE_REQUIRED"))
    else
      match depositUnit input (recordAndClose call.deps call.claim input) db with
      | (db, .ok outcome) => (db, call.at (.returned outcome))
      | (db, .error _) => (db, call.at (.refused "DEPOSIT_NOT_RECORDED"))
  | .returned _ => (db, call)
  | .refused _ => (db, call)

inductive ApprovalNotice
  | noSuchDeposit
  | alreadyDecided (status : FundingStatus)
  | resolvedToNoShop
  | recordedByYou
  | notPosted
deriving DecidableEq, Repr

/-- A waiting deposit as an approval reads it: the row, and its shop and amount. -/
structure WaitingDeposit where
  row : FundingSubmissionRow
  merchantId : MerchantId
  amountMinor : Int
deriving DecidableEq

inductive ApprovePoint
  | begin
  | posting (waiting : WaitingDeposit)
  | approved
  | refused (notice : ApprovalNotice)
deriving DecidableEq

/-- The second approval of a deposit. -/
structure ApproveDeposit where
  deps : DepositDeps
  id : String
  approver : String
  point : ApprovePoint

def ApproveDeposit.at (call : ApproveDeposit) (point : ApprovePoint) : ApproveDeposit :=
  { call with point }

/-- What an approval makes of the row it reads, before its transaction. -/
def ApproveDeposit.look (call : ApproveDeposit) (db : DepositDb) : ApprovePoint :=
  match db.fundingSubmissions.find? fun row => row.id = call.id with
  | none => .refused .noSuchDeposit
  | some row =>
    if row.status ≠ .matched then .refused (.alreadyDecided row.status)
    else
      match row.merchantId, row.bankAmountMinor with
      | some merchantId, some amountMinor =>
        if row.recordedBy = some call.approver then .refused .recordedByYou
        else .posting ⟨row, merchantId, amountMinor⟩
      | _, _ => .refused .resolvedToNoShop

/-- The one transaction of an approval: credit the shop, mark the deposit, close the order its
bank reference names. Whether the deposit was still waiting is not looked at. -/
def ApproveDeposit.post (call : ApproveDeposit) (waiting : WaitingDeposit) (input : DepositInput)
    (db : DepositDb) : Except Fault (DepositDb × Unit) := do
  let db ← creditMerchant db waiting.merchantId waiting.amountMinor (input.newId 1)
    (input.newId 0) (input.now 0)
  let db ← approveSubmission db call.id call.approver (input.newId 0) (input.now 0)
  let (db, _) ← markTopupOrderPaid db (call.deps.normalize waiting.row.bankReference)
    waiting.row.id (input.now 0)
  return (db, ())

/-- One atomic step of a second approval: read the row, then credit it. -/
def ApproveDeposit.step (input : DepositInput) (db : DepositDb) (call : ApproveDeposit) :
    DepositDb × ApproveDeposit :=
  match call.point with
  | .begin => (db, call.at (call.look db))
  | .posting waiting =>
    match depositUnit input (call.post waiting input) db with
    | (db, .ok _) => (db, call.at .approved)
    | (db, .error _) => (db, call.at (.refused .notPosted))
  | .approved => (db, call)
  | .refused _ => (db, call)

end Telga.Application
