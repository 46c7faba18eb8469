import Telga.Proofs.DepositTurns

namespace Telga.Proofs.DepositDecisions
open Domain Persistence Application Library

/-- A deposit as another shop would have claimed it: the same one, with another figure. -/
def claiming (input : VerificationInput) (claimedAmountMinor : Option Int) : VerificationInput :=
  { input with claim := { input.claim with claimedAmountMinor } }

/-- A decision without its note that the claimed amount differed. -/
def unflagged : VerificationDecision → VerificationDecision
  | .credit merchantId amountMinor bankReference _ =>
    .credit merchantId amountMinor bankReference false
  | decision => decision

/-- A decision gives a merchant an amount, at once or after a second approval. -/
def Gives (decision : VerificationDecision) (merchantId : MerchantId) (amountMinor : Int)
    (bankReference : String) : Prop :=
  (∃ differed, decision = .credit merchantId amountMinor bankReference differed) ∨
    decision = .needsApproval merchantId amountMinor bankReference

/-- How a deposit is decided: only what the bank vouches for is given, with the bank's amount, at
once up to the cap and after an approval above it. The claimed amount decides the note alone. -/
structure Judged (input : VerificationInput) : Prop where
  given : ∀ merchantId amountMinor bankReference,
    Gives (verifyDeposit input) merchantId amountMinor bankReference →
    ∃ record, Banked input merchantId record ∧ amountMinor = record.amountMinor ∧
      bankReference = input.claim.bankReference
  automatic : ∀ merchantId amountMinor bankReference differed,
    verifyDeposit input = .credit merchantId amountMinor bankReference differed →
    amountMinor ≤ input.autoCreditCapMinor
  approved : ∀ merchantId amountMinor bankReference,
    verifyDeposit input = .needsApproval merchantId amountMinor bankReference →
    input.autoCreditCapMinor < amountMinor
  blind : ∀ claimedAmountMinor,
    unflagged (verifyDeposit (claiming input claimedAmountMinor)) = unflagged (verifyDeposit input)
  noted : ∀ merchantId amountMinor bankReference differed,
    verifyDeposit input = .credit merchantId amountMinor bankReference differed →
    (differed = true ↔ ∃ claimed ∈ input.claim.claimedAmountMinor, claimed ≠ amountMinor)

/-- Two decisions on one deposit that was claimed at two figures part only where the credit notes
whether the figure differed. -/
theorem verifyDeposit_blind (input : VerificationInput) (claimedAmountMinor : Option Int) :
    unflagged (verifyDeposit (claiming input claimedAmountMinor)) =
      unflagged (verifyDeposit input) := by
  have parts : ∀ {c : Prop} [Decidable c] {a a' b b' : VerificationDecision},
      unflagged a = unflagged a' → unflagged b = unflagged b' →
      unflagged (if c then a else b) = unflagged (if c then a' else b') := by
    intro c _ a a' b b' same same'
    split
    · exact same
    · exact same'
  unfold verifyDeposit claiming
  cases input.merchantForReference with
  | none => rfl
  | some merchantId =>
    refine parts rfl (parts rfl ?_)
    cases input.bankRecord with
    | none => rfl
    | some record => exact parts rfl (parts rfl (parts rfl (parts rfl rfl)))

theorem verifyDeposit_noted
    (h : verifyDeposit input = .credit merchantId amountMinor bankReference differed) :
    differed = input.claim.claimedAmountMinor.any fun claimed => claimed ≠ amountMinor := by
  unfold verifyDeposit at h
  split at h
  · split at h <;> cases h
  split at h
  · cases h
  split at h
  · cases h
  split at h
  · cases h
  split at h
  · cases h
  split at h
  · cases h
  split at h
  · cases h
  split at h
  · cases h
  cases h
  rfl

theorem verifyDeposit_judged (input : VerificationInput) : Judged input where
  given := by
    have banked := verifyDeposit_banked (rfl : verifyDeposit input = verifyDeposit input)
    rintro merchantId amountMinor bankReference (⟨differed, credited⟩ | waiting)
    · obtain ⟨record, vouched, amount, reference, _⟩ := banked.1 _ _ _ _ credited
      exact ⟨record, vouched, amount, reference⟩
    · obtain ⟨record, vouched, amount, reference, _⟩ := banked.2 _ _ _ waiting
      exact ⟨record, vouched, amount, reference⟩
  automatic := by
    intro merchantId amountMinor bankReference differed credited
    obtain ⟨_, _, _, _, within⟩ := (verifyDeposit_banked credited).1 _ _ _ _ rfl
    exact within
  approved := by
    intro merchantId amountMinor bankReference waiting
    obtain ⟨_, _, _, _, above⟩ := (verifyDeposit_banked waiting).2 _ _ _ rfl
    exact above
  blind := verifyDeposit_blind input
  noted := by
    intro merchantId amountMinor bankReference differed credited
    rw [verifyDeposit_noted credited]
    cases input.claim.claimedAmountMinor with
    | none | some claimed => simp

/-- A merchant holds a quoted reference: it is an order's of its, its own standing one, or a
device key of its. -/
inductive Holds (deps : DepositDeps) (db : DepositDb) (quoted : String) : MerchantId → Prop
  | order : order ∈ db.topupOrders → order.reference = deps.normalize quoted →
    Holds deps db quoted order.merchantId
  | standing : (merchantId, deps.normalize quoted) ∈ db.depositReferences →
    Holds deps db quoted merchantId
  | device : (merchantId, depositLookupFor deps quoted) ∈ db.depositLookups →
    Holds deps db quoted merchantId

theorem merchantForReference_holds
    (found : merchantForReference db (deps.normalize quoted) (depositLookupFor deps quoted) =
      some merchantId) :
    Holds deps db quoted merchantId := by
  unfold merchantForReference at found
  cases ordered : findTopupOrderByReference db (deps.normalize quoted) with
  | some order =>
    rw [ordered] at found
    cases found
    exact .order (List.mem_of_find?_eq_some ordered) (by simpa using List.find?_some ordered)
  | none =>
    cases standing : db.depositReferences.find? fun shop => shop.2 = deps.normalize quoted with
    | some shop =>
      simp only [ordered, standing] at found
      cases found
      have own : shop.2 = deps.normalize quoted := by simpa using List.find?_some standing
      exact .standing (own ▸ List.mem_of_find?_eq_some standing)
    | none =>
      simp only [ordered, standing] at found
      obtain ⟨device, there, rfl⟩ := Option.map_eq_some_iff.mp found
      have own : device.2 = depositLookupFor deps quoted := by simpa using List.find?_some there
      exact .device (own ▸ List.mem_of_find?_eq_some there)

/-- What a decision puts on the books, and what it answers. -/
def settle (input : DepositInput) (base : Db) :
    VerificationDecision → Except Fault (Db × Option PostingId)
  | .credit merchantId amountMinor _ _ => do
    let amount ← money amountMinor
    let base ← fundMerchant base
      { merchantId, amount, now := input.now 0, correlationId := input.newId 0
        postingId := "posting_" ++ input.newId 0 }
    return (base, some ("posting_" ++ input.newId 0))
  | _ => .ok (base, none)

/-- The note on a decision settles nothing. -/
theorem settle_unflagged (input : DepositInput) (base : Db) (decision : VerificationDecision) :
    settle input base (unflagged decision) = settle input base decision := by
  cases decision with
  | _ => rfl

theorem statusAfterVerification_unflagged (decision : VerificationDecision) :
    statusAfterVerification (unflagged decision) = statusAfterVerification decision := by
  cases decision with
  | _ => rfl

/-- A recorded deposit answers what was decided, and puts on the books what that settles. -/
theorem recordDeposit_settled
    (h : recordDeposit deps claim input db = .ok (db', outcome)) :
    outcome.decision = verifyDeposit (verificationInput deps db claim) ∧
    outcome.status = statusAfterVerification outcome.decision ∧
    outcome.submissionId = input.newId 0 ∧
    settle input db.toDb outcome.decision = .ok (db'.toDb, outcome.postingId) := by
  simp only [recordDeposit, bind_ok] at h
  obtain ⟨inserted, kept, h⟩ := h
  obtain ⟨_, _, _, rfl⟩ := insertFundingSubmission_ok kept
  split at h
  · rename_i merchantId amountMinor bankReference differed decided
    simp only [bind_ok, pure_ok, Prod.mk.injEq] at h
    obtain ⟨credited, credit, rfl, rfl⟩ := h
    simp only [creditMerchant, bind_ok] at credit
    obtain ⟨amount, minor, shared⟩ := credit
    obtain ⟨base, funded, rfl⟩ := shared_ok shared
    refine ⟨rfl, rfl, rfl, ?_⟩
    simp only [settle, decided, minor, bind, Except.bind]
    simp only [funded]
    rfl
  · rename_i other
    simp only [pure_ok, Prod.mk.injEq] at h
    obtain ⟨rfl, rfl⟩ := h
    refine ⟨rfl, rfl, rfl, ?_⟩
    cases decided : verifyDeposit (verificationInput deps db claim) with
    | credit merchantId amountMinor bankReference differed =>
      exact absurd decided (other merchantId amountMinor bankReference differed)
    | _ => rfl

/-- What recording a deposit owes to the database it is recorded in. -/
structure Recorded (deps : DepositDeps) (db : DepositDb) (claim : DepositClaimInput) : Prop where
  decided : ∀ input db' outcome, recordDeposit deps claim input db = .ok (db', outcome) →
    outcome.decision = verifyDeposit (verificationInput deps db claim)
  held : ∀ merchantId amountMinor bankReference,
    Gives (verifyDeposit (verificationInput deps db claim)) merchantId amountMinor bankReference →
    Holds deps db claim.quotedReference merchantId ∧
    ∀ row ∈ db.fundingSubmissions, row.bankReference = claim.bankReference → row.status ≠ .credited
  blind : ∀ claimedAmountMinor input db' outcome db'' outcome',
    recordDeposit deps claim input db = .ok (db', outcome) →
    recordDeposit deps { claim with claimedAmountMinor } input db = .ok (db'', outcome') →
    db'.toDb = db''.toDb ∧ outcome.postingId = outcome'.postingId ∧
    outcome.submissionId = outcome'.submissionId ∧ outcome.status = outcome'.status ∧
    unflagged outcome.decision = unflagged outcome'.decision

/-- A deposit is decided by who holds its reference, by what was credited before and by what the
bank has on record, and by nothing the shop says it paid. -/
theorem deposit_decided : (∀ input, Judged input) ∧ ∀ deps db claim, Recorded deps db claim := by
  refine ⟨verifyDeposit_judged, fun deps db claim => ⟨?_, ?_, ?_⟩⟩
  · intro input db' outcome recorded
    exact (recordDeposit_settled recorded).1
  · intro merchantId amountMinor bankReference gives
    obtain ⟨record, banked, _, _⟩ :=
      (verifyDeposit_judged (verificationInput deps db claim)).given _ _ _ gives
    refine ⟨merchantForReference_holds banked.merchant, fun row mem same credited => ?_⟩
    have once := List.any_eq_false.mp banked.uncredited row mem
    simp only [decide_eq_true_eq] at once
    exact once ⟨same, credited⟩
  · intro claimedAmountMinor input db' outcome db'' outcome' recorded recorded'
    obtain ⟨decided, status, id, settled⟩ := recordDeposit_settled recorded
    obtain ⟨decided', status', id', settled'⟩ := recordDeposit_settled recorded'
    have same : unflagged outcome.decision = unflagged outcome'.decision := by
      rw [decided, decided']
      exact (verifyDeposit_blind (verificationInput deps db claim) claimedAmountMinor).symm
    rw [← settle_unflagged, same, settle_unflagged, settled'] at settled
    simp only [Except.ok.injEq, Prod.mk.injEq] at settled
    refine ⟨settled.1.symm, settled.2.symm, id.trans id'.symm, ?_, same⟩
    rw [status, status', ← statusAfterVerification_unflagged, same,
      statusAfterVerification_unflagged]

end Telga.Proofs.DepositDecisions
