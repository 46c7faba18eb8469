import Telga.Application.DepositServices

namespace Telga.Proofs
open Domain Persistence Application Library

/-- A verified amount put on a shop's balance: a balanced pair under the movement's posting, any
accounts that were missing, and nothing else. -/
def Funded (funding : MovementInput) (db db' : Db) : Prop :=
  0 < funding.amount.minor ∧ ∃ rows, (∀ row ∈ rows, Named row) ∧
    db' = { db with
      ledgerAccounts := db.ledgerAccounts ++ rows
      ledgerEntries := db.ledgerEntries ++
        entryRows (movementPosting funding (fundingLegs funding)) (db.ledgerAccounts ++ rows) 0
          (fundingLegs funding) }

theorem fundMerchant_ok (h : fundMerchant db funding = .ok db') : Funded funding db db' := by
  obtain ⟨rows, named, _, positive, _, eq⟩ := postMovement_ok h
  exact ⟨positive _ (List.mem_cons_self ..), rows, named, eq⟩

theorem creditMerchant_ok {db db' : DepositDb}
    (h : creditMerchant db merchantId amountMinor correlationId postingId now = .ok db') :
    ∃ amount base, amount.minor = amountMinor ∧
      Funded { merchantId, amount, now, correlationId, postingId } db.toDb base ∧
      db' = { db with toDb := base } := by
  simp only [creditMerchant, bind_ok, money_ok] at h
  obtain ⟨amount, minor, h⟩ := h
  obtain ⟨base, funded, rfl⟩ := shared_ok h
  exact ⟨amount, base, minor, fundMerchant_ok funded, rfl⟩

theorem markTopupOrderPaid_ok {db db' : DepositDb}
    (h : markTopupOrderPaid db reference submissionId now = .ok (db', changed)) :
    db' = { db with
      topupOrders := update (openTopup reference)
        (fun row => { row with
          status := .paid, fundingSubmissionId := some submissionId, updatedAt := now })
        db.topupOrders } := by
  simp only [markTopupOrderPaid, bind_ok, demand_ok, pure_ok, Prod.mk.injEq] at h
  obtain ⟨_, _, rfl, _⟩ := h
  rfl

/-- An order as it was stored before: the same order, whatever became of it. -/
structure SameTopup (old row : TopupOrderRow) : Prop where
  id : row.id = old.id
  reference : row.reference = old.reference
  merchant : row.merchantId = old.merchantId
  amount : row.amountMinor = old.amountMinor

theorem SameTopup.refl (row : TopupOrderRow) : SameTopup row row :=
  ⟨rfl, rfl, rfl, rfl⟩

theorem SameTopup.trans (first : SameTopup a b) (second : SameTopup b c) : SameTopup a c :=
  ⟨second.id.trans first.id, second.reference.trans first.reference,
    second.merchant.trans first.merchant, second.amount.trans first.amount⟩

/-- A submission as it was stored before, whatever was decided about it. -/
structure SameSubmission (old row : FundingSubmissionRow) : Prop where
  id : row.id = old.id
  merchant : row.merchantId = old.merchantId
  quoted : row.quotedReference = old.quotedReference
  bank : row.bankReference = old.bankReference
  amount : row.bankAmountMinor = old.bankAmountMinor
  recorded : row.recordedBy = old.recordedBy

theorem SameSubmission.refl (row : FundingSubmissionRow) : SameSubmission row row :=
  ⟨rfl, rfl, rfl, rfl, rfl, rfl⟩

theorem SameSubmission.trans (first : SameSubmission a b) (second : SameSubmission b c) :
    SameSubmission a c :=
  ⟨second.id.trans first.id, second.merchant.trans first.merchant,
    second.quoted.trans first.quoted, second.bank.trans first.bank,
    second.amount.trans first.amount, second.recorded.trans first.recorded⟩

/-- What the keys of the two tables and the writes to them keep true: no id, order reference or
credited bank reference twice, and no submission named by an order that is open. -/
structure DepositSound (db : DepositDb) : Prop where
  orders : Unique (·.id) db.topupOrders
  references : Unique (·.reference) db.topupOrders
  submissions : Unique (·.id) db.fundingSubmissions
  unlinked : ∀ row ∈ db.topupOrders, row.status = .opened → row.fundingSubmissionId = none
  credited : ∀ a ∈ db.fundingSubmissions, ∀ b ∈ db.fundingSubmissions,
    a.status = .credited → b.status = .credited → a.bankReference = b.bankReference → a = b

/-- What an order that is credited becomes. -/
def paidBy (submissionId : String) (now : Timestamp) (row : TopupOrderRow) : TopupOrderRow :=
  { row with status := .paid, fundingSubmissionId := some submissionId, updatedAt := now }

/-- What one step does to the tables of the deposits. -/
inductive Filing
  | still
  | opened (row : TopupOrderRow)
  | closed (status : TopupOrderStatus)
  | noted (reference : String)
  | recorded (submission : FundingSubmissionRow)
  | credited (reference : String) (submission : FundingSubmissionRow) (funding : MovementInput)
  | approved (waiting : WaitingDeposit) (reference approver : String) (funding : MovementInput)

/-- How a filing writes them. A credit opens a submission of its own and pays the open order of a
reference; an approval turns a waiting submission, if it still is, into a credited one. -/
inductive Filed (db : DepositDb) : Filing → DepositDb → Prop
  | still : Filed db .still db
  | opened (fresh : ∀ old ∈ db.topupOrders, old.id ≠ row.id ∧ old.reference ≠ row.reference)
      (opened : row.status = .opened) (unlinked : row.fundingSubmissionId = none) :
      Filed db (.opened row) { db with topupOrders := db.topupOrders ++ [row] }
  | closed (hits : ∀ row, hit row = true → row.status = .opened)
      (ended : status = .cancelled ∨ status = .expired) :
      Filed db (.closed status) { db with
        topupOrders := update hit (fun row => { row with status, updatedAt := now })
          db.topupOrders }
  | noted : Filed db (.noted reference)
      (recordTopupProviderOutcome db reference providerReference providerStatus now)
  | recorded (uncredited : submission.status ≠ .credited)
      (fresh : ¬ Present (·.id) submission.id db.fundingSubmissions) :
      Filed db (.recorded submission)
        { db with fundingSubmissions := db.fundingSubmissions ++ [submission] }
  | credited (status : submission.status = .credited)
      (fresh : ¬ Present (·.id) submission.id db.fundingSubmissions)
      (once : ∀ other ∈ db.fundingSubmissions,
        ¬ (other.bankReference = submission.bankReference ∧ other.status = .credited))
      (funded : Funded funding db.toDb base) :
      Filed db (.credited reference submission funding) { db with
        toDb := base
        fundingSubmissions := db.fundingSubmissions ++ [submission]
        topupOrders := update (openTopup reference) (paidBy submission.id now) db.topupOrders }
  | approved (once : ∀ row ∈ db.fundingSubmissions, stillMatched waiting.row.id row →
        ∀ other ∈ db.fundingSubmissions,
          ¬ (other.bankReference = row.bankReference ∧ other.status = .credited))
      (funded : Funded funding db.toDb base) :
      Filed db (.approved waiting reference approver funding) { db with
        toDb := base
        fundingSubmissions := update (stillMatched waiting.row.id)
          (approvedRow approver funding.postingId now) db.fundingSubmissions
        topupOrders := update (openTopup reference) (paidBy waiting.row.id now) db.topupOrders }

/-- An order after a step: as it was, or no longer open. -/
structure TopupMoved (old row : TopupOrderRow) : Prop extends SameTopup old row where
  status : row.status = old.status ∧ row.fundingSubmissionId = old.fundingSubmissionId ∨
    old.status = .opened ∧ row.status ≠ .opened

theorem TopupMoved.refl (row : TopupOrderRow) : TopupMoved row row :=
  { SameTopup.refl row with status := .inl ⟨rfl, rfl⟩ }

theorem Filed.same_topups (filed : Filed db filing db') :
    (∀ old ∈ db.topupOrders, ∃ row ∈ db'.topupOrders, TopupMoved old row) ∧
    ∀ row ∈ db'.topupOrders, (∃ old ∈ db.topupOrders, TopupMoved old row) ∨
      filing = .opened row := by
  have kept : ∀ {rows : List TopupOrderRow} (hit : TopupOrderRow → Bool) (change),
      (∀ row, hit row = true → TopupMoved row (change row)) →
      (∀ old ∈ rows, ∃ row ∈ update hit change rows, TopupMoved old row) ∧
      ∀ row ∈ update hit change rows, (∃ old ∈ rows, TopupMoved old row) ∨
        filing = .opened row := by
    intro rows hit change moves
    obtain ⟨later, earlier⟩ := update_related rows TopupMoved.refl moves
    exact ⟨later, fun row mem => .inl (earlier row mem)⟩
  have pays : ∀ reference submissionId now row, openTopup reference row = true →
      TopupMoved row (paidBy submissionId now row) := by
    intro reference submissionId now row hit
    simp only [openTopup, Bool.decide_and, Bool.and_eq_true, decide_eq_true_eq] at hit
    exact { SameTopup.refl row with status := .inr ⟨hit.2, by simp [paidBy]⟩ }
  cases filed with
  | still | recorded =>
    exact ⟨fun old mem => ⟨old, mem, .refl old⟩, fun row mem => .inl ⟨row, mem, .refl row⟩⟩
  | opened =>
    refine ⟨fun old mem => ⟨old, List.mem_append_left _ mem, .refl old⟩, fun row mem => ?_⟩
    rcases List.mem_append.mp mem with mem | mem
    · exact .inl ⟨row, mem, .refl row⟩
    · cases List.mem_singleton.mp mem
      exact .inr rfl
  | closed hits ended =>
    refine kept _ _ fun row hit => { SameTopup.refl row with status := .inr ⟨hits row hit, ?_⟩ }
    rcases ended with rfl | rfl <;> simp
  | noted =>
    exact kept _ _ fun row _ => { SameTopup.refl row with status := .inl ⟨rfl, rfl⟩ }
  | credited | approved => exact kept _ _ (pays _ _ _)

/-- A submission after a step: as it was, or credited by a second person. -/
structure SubmissionMoved (old row : FundingSubmissionRow) : Prop extends
    SameSubmission old row where
  status : row.status = old.status ∨ old.status = .matched ∧ row.status = .credited

theorem SubmissionMoved.refl (row : FundingSubmissionRow) : SubmissionMoved row row :=
  { SameSubmission.refl row with status := .inl rfl }

theorem Filed.same_submissions (filed : Filed db filing db') :
    (∀ old ∈ db.fundingSubmissions, ∃ row ∈ db'.fundingSubmissions, SubmissionMoved old row) ∧
    ∀ row ∈ db'.fundingSubmissions, (∃ old ∈ db.fundingSubmissions, SubmissionMoved old row) ∨
      filing = .recorded row ∨ ∃ reference funding, filing = .credited reference row funding := by
  cases filed with
  | still | opened | closed | noted =>
    exact ⟨fun old mem => ⟨old, mem, .refl old⟩, fun row mem => .inl ⟨row, mem, .refl row⟩⟩
  | recorded =>
    refine ⟨fun old mem => ⟨old, List.mem_append_left _ mem, .refl old⟩, fun row mem => ?_⟩
    rcases List.mem_append.mp mem with mem | mem
    · exact .inl ⟨row, mem, .refl row⟩
    · cases List.mem_singleton.mp mem
      exact .inr (.inl rfl)
  | credited =>
    refine ⟨fun old mem => ⟨old, List.mem_append_left _ mem, .refl old⟩, fun row mem => ?_⟩
    rcases List.mem_append.mp mem with mem | mem
    · exact .inl ⟨row, mem, .refl row⟩
    · cases List.mem_singleton.mp mem
      exact .inr (.inr ⟨_, _, rfl⟩)
  | approved =>
    have moves : ∀ id approver postingId now row, stillMatched id row = true →
        SubmissionMoved row (approvedRow approver postingId now row) := by
      intro id approver postingId now row hit
      simp only [stillMatched, Bool.decide_and, Bool.and_eq_true, decide_eq_true_eq] at hit
      exact { SameSubmission.refl row with status := .inr ⟨hit.2, rfl⟩ }
    obtain ⟨later, earlier⟩ := update_related db.fundingSubmissions
      SubmissionMoved.refl (moves _ _ _ _)
    exact ⟨later, fun row mem => .inl (earlier row mem)⟩

/-- How a credited submission comes to be so: it was, it is added so, or it is approved. -/
theorem Filed.credited_by (filed : Filed db filing db') (mem : row ∈ db'.fundingSubmissions)
    (credited : row.status = .credited) :
    (∃ old ∈ db.fundingSubmissions, SameSubmission old row ∧ old.status = .credited) ∨
    (∃ reference funding, filing = .credited reference row funding) ∨
    ∃ waiting reference approver funding,
      filing = .approved waiting reference approver funding ∧ row.id = waiting.row.id := by
  cases filed with
  | still | opened | closed | noted => exact .inl ⟨row, mem, .refl row, credited⟩
  | recorded uncredited =>
    rcases List.mem_append.mp mem with mem | mem
    · exact .inl ⟨row, mem, .refl row, credited⟩
    · cases List.mem_singleton.mp mem
      exact absurd credited uncredited
  | credited =>
    rcases List.mem_append.mp mem with mem | mem
    · exact .inl ⟨row, mem, .refl row, credited⟩
    · cases List.mem_singleton.mp mem
      exact .inr (.inl ⟨_, _, rfl⟩)
  | approved =>
    obtain ⟨old, there, rfl⟩ := mem_update.mp mem
    split at credited
    · rename_i hit
      rw [if_pos hit]
      simp only [stillMatched, Bool.decide_and, Bool.and_eq_true, decide_eq_true_eq] at hit
      exact .inr (.inr ⟨_, _, _, _, rfl, hit.1⟩)
    · rename_i missed
      rw [if_neg missed]
      exact .inl ⟨old, there, .refl old, credited⟩

/-- Approving a waiting submission whose bank reference is not credited leaves one credited
submission a bank reference. -/
theorem credited_approved (sound : DepositSound db)
    (once : ∀ row ∈ db.fundingSubmissions, stillMatched submissionId row →
      ∀ other ∈ db.fundingSubmissions,
        ¬ (other.bankReference = row.bankReference ∧ other.status = .credited)) :
    let rows := update (stillMatched submissionId) (approvedRow approver postingId now)
      db.fundingSubmissions
    ∀ a ∈ rows, ∀ b ∈ rows,
      a.status = .credited → b.status = .credited → a.bankReference = b.bankReference → a = b := by
  intro rows a ha b hb creditedA creditedB same
  obtain ⟨oldA, thereA, rfl⟩ := mem_update.mp ha
  obtain ⟨oldB, thereB, rfl⟩ := mem_update.mp hb
  by_cases hitA : stillMatched submissionId oldA
  · by_cases hitB : stillMatched submissionId oldB
    · simp only [stillMatched, Bool.decide_and, Bool.and_eq_true, decide_eq_true_eq] at hitA hitB
      rw [sound.submissions.eq thereA thereB (hitA.1.trans hitB.1.symm)]
    · simp only [hitA, hitB, if_true, if_false, Bool.false_eq_true, approvedRow] at creditedB same
      exact absurd ⟨same.symm, creditedB⟩ (once oldA thereA hitA oldB thereB)
  · by_cases hitB : stillMatched submissionId oldB
    · simp only [hitA, hitB, if_true, if_false, Bool.false_eq_true, approvedRow] at creditedA same
      exact absurd ⟨same, creditedA⟩ (once oldB thereB hitB oldA thereA)
    · simp only [hitA, hitB, if_false, Bool.false_eq_true] at creditedA creditedB same ⊢
      exact sound.credited oldA thereA oldB thereB creditedA creditedB same

/-- Every step keeps the tables' keys. -/
theorem Filed.sound (sound : DepositSound db) (filed : Filed db filing db') :
    DepositSound db' := by
  have paid : ∀ reference submissionId now, ∀ row ∈
      update (openTopup reference) (paidBy submissionId now) db.topupOrders,
      row.status = .opened → row.fundingSubmissionId = none := by
    intro reference submissionId now row mem opened
    obtain ⟨old, there, rfl⟩ := mem_update.mp mem
    split at opened
    · simp [paidBy] at opened
    · rename_i missed
      simpa [missed] using sound.unlinked old there opened
  cases filed with
  | still => exact sound
  | opened fresh opened unlinked =>
    refine { sound with orders := ?_, references := ?_, unlinked := ?_ }
    · exact sound.orders.append fun old mem => (fresh old mem).1
    · exact sound.references.append fun old mem => (fresh old mem).2
    · intro other mem _
      rcases List.mem_append.mp mem with mem | mem
      · exact sound.unlinked other mem ‹_›
      · cases List.mem_singleton.mp mem
        exact unlinked
  | closed hits ended =>
    refine { sound with
      orders := sound.orders.update fun _ => rfl
      references := sound.references.update fun _ => rfl
      unlinked := ?_ }
    intro row mem opened
    obtain ⟨old, there, rfl⟩ := mem_update.mp mem
    split at opened
    · rcases ended with rfl | rfl <;> simp at opened
    · rename_i missed
      simpa [missed] using sound.unlinked old there opened
  | noted =>
    refine { sound with
      orders := sound.orders.update fun _ => rfl
      references := sound.references.update fun _ => rfl
      unlinked := ?_ }
    intro row mem opened
    obtain ⟨old, there, rfl⟩ := mem_update.mp mem
    split at opened
    · rename_i struck
      simpa [struck] using sound.unlinked old there opened
    · rename_i missed
      simpa [missed] using sound.unlinked old there opened
  | recorded uncredited fresh =>
    refine { sound with submissions := ?_, credited := ?_ }
    · exact sound.submissions.append fun old mem same => fresh ⟨old, mem, same⟩
    · intro a ha b hb creditedA creditedB same
      rcases List.mem_append.mp ha with ha | ha
      · rcases List.mem_append.mp hb with hb | hb
        · exact sound.credited a ha b hb creditedA creditedB same
        · cases List.mem_singleton.mp hb
          exact absurd creditedB uncredited
      · cases List.mem_singleton.mp ha
        exact absurd creditedA uncredited
  | credited status fresh once funded =>
    refine {
      orders := sound.orders.update fun _ => rfl
      references := sound.references.update fun _ => rfl
      submissions := sound.submissions.append fun old mem same => fresh ⟨old, mem, same⟩
      unlinked := paid _ _ _
      credited := ?_ }
    intro a ha b hb creditedA creditedB same
    rcases List.mem_append.mp ha with ha | ha
    · rcases List.mem_append.mp hb with hb | hb
      · exact sound.credited a ha b hb creditedA creditedB same
      · cases List.mem_singleton.mp hb
        exact absurd ⟨same, creditedA⟩ (once a ha)
    · cases List.mem_singleton.mp ha
      rcases List.mem_append.mp hb with hb | hb
      · exact absurd ⟨same.symm, creditedB⟩ (once b hb)
      · cases List.mem_singleton.mp hb
        rfl
  | approved once funded =>
    refine {
      orders := sound.orders.update fun _ => rfl
      references := sound.references.update fun _ => rfl
      submissions := sound.submissions.update fun _ => rfl
      unlinked := paid _ _ _
      credited := ?_ }
    exact credited_approved sound once

/-- The settlement of a payment: it pays the open order of its reference and credits the order's
shop, as a submission of its own. -/
structure SettledBy (input : DepositInput) (db : DepositDb) (call : SettleChapaDeposit)
    (reference : String) (submission : FundingSubmissionRow) (funding : MovementInput) : Prop where
  reference : reference = call.reference
  opened : ∃ row ∈ db.topupOrders, row.reference = call.reference ∧ row.status = .opened
  settles : ∃ order payment amount, call.point = .settling order payment amount.minor ∧
    submission = call.submission order payment amount.minor input ∧
    funding = { merchantId := order.merchantId, amount, now := input.now 0,
                correlationId := call.reference, postingId := chapaPosting call.reference }

/-- The submission a recorded deposit is kept as. -/
structure RecordedBy (input : DepositInput) (db : DepositDb) (call : RecordDeposit)
    (submission : FundingSubmissionRow) : Prop where
  here : call.point = .begin
  id : submission.id = input.newId 0
  quoted : submission.quotedReference = call.claim.quotedReference
  bank : submission.bankReference = call.claim.bankReference
  recorded : submission.recordedBy = some call.recordedBy
  merchant : submission.merchantId = (verificationInput call.deps db call.claim).merchantForReference
  amount : submission.bankAmountMinor = call.claim.bankRecord.map (·.amountMinor)
  status : submission.status =
    statusAfterVerification (verifyDeposit (verificationInput call.deps db call.claim))

/-- A deposit credited as it is recorded: to the shop it belongs to, with the bank's amount,
closing the order it quotes. -/
structure CreditedBy (input : DepositInput) (db : DepositDb) (call : RecordDeposit)
    (reference : String) (submission : FundingSubmissionRow) (funding : MovementInput) : Prop
    extends RecordedBy input db call submission where
  reference : reference = call.deps.normalize call.claim.quotedReference
  banked : ∃ record, Banked (verificationInput call.deps db call.claim) funding.merchantId record ∧
    funding.amount.minor = record.amountMinor ∧ record.amountMinor ≤ call.claim.autoCreditCapMinor
  posting : funding.postingId = "posting_" ++ input.newId 0

/-- A second approval: it credits the shop and the amount of the row it read, and closes the order
that row's bank reference names. -/
structure ApprovedBy (input : DepositInput) (call : ApproveDeposit) (waiting : WaitingDeposit)
    (reference approver : String) (funding : MovementInput) : Prop where
  here : call.point = .posting waiting
  reference : reference = call.deps.normalize waiting.row.bankReference
  approver : approver = call.approver
  merchant : funding.merchantId = waiting.merchantId
  amount : funding.amount.minor = waiting.amountMinor
  posting : funding.postingId = input.newId 0

/-- Whose step does what. -/
def Filing.By (input : DepositInput) (db : DepositDb) (process : DepositProcess) : Filing → Prop
  | .still | .opened _ | .closed _ => True
  | .noted reference => ∃ call, process = .settleChapaDeposit call ∧ reference = call.reference
  | .recorded submission => ∃ call, process = .recordDeposit call ∧
      RecordedBy input db call submission
  | .credited reference submission funding =>
    (∃ call, process = .settleChapaDeposit call ∧
      SettledBy input db call reference submission funding) ∨
    ∃ call, process = .recordDeposit call ∧
      CreditedBy input db call reference submission funding
  | .approved waiting reference approver funding => ∃ call, process = .approveDeposit call ∧
      ApprovedBy input call waiting reference approver funding

/-- The order a settlement read is still on record, whatever became of it. -/
def TopupKept (db : DepositDb) (order : TopupOrderRow) : Prop :=
  ∃ row ∈ db.topupOrders, SameTopup order row

/-- The submission an approval read waiting is still on record, waiting or credited since. -/
def SubmissionKept (db : DepositDb) (submission : FundingSubmissionRow) : Prop :=
  ∃ row ∈ db.fundingSubmissions, SameSubmission submission row ∧
    (row.status = .matched ∨ row.status = .credited)

/-- What a settlement knows about the order it read. -/
def KnownSettlement (db : DepositDb) (call : SettleChapaDeposit) : Prop :=
  match call.point with
  | .verifying order => TopupKept db order ∧ order.reference = call.reference
  | .recording order _ => TopupKept db order ∧ order.reference = call.reference
  | .settling order payment amountMinor => TopupKept db order ∧ order.reference = call.reference ∧
    call.decision order payment = .credit amountMinor
  | _ => True

/-- What an approval knows about the row it read. -/
def KnownApproval (db : DepositDb) (call : ApproveDeposit) : Prop :=
  match call.point with
  | .posting waiting => SubmissionKept db waiting.row ∧ waiting.row.id = call.id ∧
    waiting.row.status = .matched ∧ waiting.row.merchantId = some waiting.merchantId ∧
    waiting.row.bankAmountMinor = some waiting.amountMinor ∧
    waiting.row.recordedBy ≠ some call.approver
  | _ => True

/-- What a request at work knows about the rows it read. -/
def KnownDeposit (db : DepositDb) : DepositProcess → Prop
  | .settleChapaDeposit call => KnownSettlement db call
  | .approveDeposit call => KnownApproval db call
  | _ => True

theorem TopupKept.filed (kept : TopupKept db order) (filed : Filed db filing db') :
    TopupKept db' order := by
  obtain ⟨old, mem, same⟩ := kept
  obtain ⟨row, there, moved⟩ := filed.same_topups.1 old mem
  exact ⟨row, there, same.trans moved.toSameTopup⟩

theorem SubmissionKept.filed (kept : SubmissionKept db submission) (filed : Filed db filing db') :
    SubmissionKept db' submission := by
  obtain ⟨old, mem, same, status⟩ := kept
  obtain ⟨row, there, moved⟩ := filed.same_submissions.1 old mem
  refine ⟨row, there, same.trans moved.toSameSubmission, ?_⟩
  rcases moved.status with still | ⟨_, credited⟩
  · rw [still]
    exact status
  · exact .inr credited

/-- What a request knows survives the steps of the others. -/
theorem known_others (known : KnownDeposit db process) (filed : Filed db filing db') :
    KnownDeposit db' process := by
  cases process with
  | settleChapaDeposit call =>
    simp only [KnownDeposit, KnownSettlement] at known ⊢
    split
    all_goals rename_i point
    all_goals simp only [point] at known
    · exact ⟨known.1.filed filed, known.2⟩
    · exact ⟨known.1.filed filed, known.2⟩
    · exact ⟨known.1.filed filed, known.2⟩
    · trivial
  | approveDeposit call =>
    simp only [KnownDeposit, KnownApproval] at known ⊢
    split
    · rename_i point
      simp only [point] at known
      exact ⟨known.1.filed filed, known.2⟩
    · trivial
  | _ => trivial

theorem known_starting (start : process.Starting) : KnownDeposit db process := by
  cases process with
  | settleChapaDeposit call =>
    simp only [DepositProcess.Starting] at start
    simp [KnownDeposit, KnownSettlement, start]
  | approveDeposit call =>
    simp only [DepositProcess.Starting] at start
    simp [KnownDeposit, KnownApproval, start]
  | _ => trivial

/-- What a step that saves, cancels or expires orders may do. -/
def Filing.Keeping : Filing → Prop
  | .still | .opened _ | .closed _ => True
  | _ => False

theorem saveOrder_filed (h : saveOrder deps order input db = .ok (db', reference)) :
    Filed db (.opened (topupOrderRow order reference)) db' := by
  unfold saveOrder at h
  split at h
  · cases h
  · obtain ⟨_, fresh, _, rfl⟩ := saveTopupOrder_ok h
    exact .opened fresh rfl rfl

theorem cancel_filed (db : DepositDb) (orderId : String) (now : Timestamp) :
    Filed db (.closed .cancelled) (cancelTopupOrder db orderId now).1 := by
  refine .closed (fun row hit => ?_) (.inl rfl)
  simp only [openTopupId, Bool.decide_and, Bool.and_eq_true, decide_eq_true_eq] at hit
  exact hit.2

theorem expire_filed (db : DepositDb) (now : Timestamp) :
    Filed db (.closed .expired) (expireTopupOrders db now) := by
  refine .closed (fun row hit => ?_) (.inr rfl)
  simp only [overdue, Bool.decide_and, Bool.and_eq_true, decide_eq_true_eq] at hit
  exact hit.1

theorem start_turn (input : DepositInput) (db : DepositDb) (call : StartChapaDeposit) :
    ∃ filing : Filing, filing.Keeping ∧ Filed db filing (call.step input db).1 := by
  unfold StartChapaDeposit.step
  cases call.point with
  | begin => exact ⟨.still, trivial, .still⟩
  | saving now =>
    simp only
    split
    · rename_i saved
      exact ⟨.opened _, trivial, saveOrder_filed saved⟩
    · exact ⟨.still, trivial, .still⟩
    · exact ⟨.still, trivial, .still⟩
  | initializing reference now =>
    simp only
    split <;> exact ⟨.still, trivial, .still⟩
  | cancelling detail now =>
    simp only
    rcases depositUnit_cases input (fun db =>
        .ok (cancelTopupOrder db (call.order now).id now)) db with
      ⟨next, answer, _, done, same⟩ | ⟨fault, same⟩
    · cases done
      rw [same]
      exact ⟨.closed .cancelled, trivial, cancel_filed db (call.order now).id now⟩
    · rw [same]
      exact ⟨.still, trivial, .still⟩
  | returned result | exhausted | threw fault => exact ⟨.still, trivial, .still⟩

theorem order_turn (input : DepositInput) (db : DepositDb) (call : OrderBankDeposit) :
    ∃ filing : Filing, filing.Keeping ∧ Filed db filing (call.step input db).1 := by
  unfold OrderBankDeposit.step
  cases call.point with
  | begin => exact ⟨.still, trivial, .still⟩
  | saving now =>
    simp only
    split
    · rename_i saved
      exact ⟨.opened _, trivial, saveOrder_filed saved⟩
    · exact ⟨.still, trivial, .still⟩
    · exact ⟨.still, trivial, .still⟩
  | returned result | exhausted | threw fault => exact ⟨.still, trivial, .still⟩

theorem cancel_turn (input : DepositInput) (db : DepositDb) (call : CancelBankDeposit) :
    ∃ filing : Filing, filing.Keeping ∧ Filed db filing (call.step input db).1 := by
  unfold CancelBankDeposit.step
  cases call.point with
  | begin =>
    simp only
    split <;> exact ⟨.still, trivial, .still⟩
  | cancelling orderId now =>
    simp only
    rcases depositUnit_cases input (fun db => .ok (cancelTopupOrder db orderId now)) db with
      ⟨next, answer, _, done, same⟩ | ⟨fault, same⟩
    · cases done
      rw [same]
      exact ⟨.closed .cancelled, trivial, cancel_filed db orderId now⟩
    · rw [same]
      exact ⟨.still, trivial, .still⟩
  | returned cancelled | threw fault => exact ⟨.still, trivial, .still⟩

theorem expire_turn (input : DepositInput) (db : DepositDb) (call : ExpireOrders) :
    ∃ filing : Filing, filing.Keeping ∧ Filed db filing (call.step input db).1 := by
  unfold ExpireOrders.step
  cases call.point with
  | begin =>
    simp only
    rcases depositUnit_cases input (fun db => .ok (expireTopupOrders db (input.now 0), ())) db with
      ⟨next, answer, _, done, same⟩ | ⟨fault, same⟩
    · cases done
      rw [same]
      exact ⟨.closed .expired, trivial, expire_filed db (input.now 0)⟩
    · rw [same]
      exact ⟨.still, trivial, .still⟩
  | done | threw fault => exact ⟨.still, trivial, .still⟩

/-- A reference has one open order or none. -/
theorem open_one_or_none (sound : DepositSound db) (reference : String) :
    changes (openTopup reference) db.topupOrders = 1 ∨
    ∀ row ∈ db.topupOrders, openTopup reference row = false := by
  by_cases none_open : ∀ row ∈ db.topupOrders, openTopup reference row = false
  · exact .inr none_open
  · left
    simp only [not_forall, Bool.not_eq_false] at none_open
    obtain ⟨row, mem, hit⟩ := none_open
    have narrowed : db.topupOrders.filter (openTopup reference) =
        (db.topupOrders.filter fun other => other.reference = row.reference).filter
          fun other => other.status = .opened := by
      rw [List.filter_filter]
      refine List.filter_congr fun other _ => ?_
      simp only [openTopup, Bool.decide_and, Bool.and_eq_true, decide_eq_true_eq] at hit ⊢
      rw [hit.1, Bool.and_comm]
    rw [sound.references.filter mem] at narrowed
    simp only [openTopup, Bool.decide_and, Bool.and_eq_true, decide_eq_true_eq] at hit
    simp [changes, narrowed, hit.2]

/-- Claiming the one open order of a reference and linking it pays it in one go. -/
theorem claim_link (submissionId : String) (now : Timestamp) (sound : DepositSound db)
    (one : changes (openTopup reference) db.topupOrders = 1) :
    (∃ row ∈ db.topupOrders, row.reference = reference ∧ row.status = .opened) ∧
    update (unlinked reference)
      (fun row => { row with fundingSubmissionId := some submissionId, updatedAt := now })
      (update (openTopup reference) (fun row => { row with status := .paid, updatedAt := now })
        db.topupOrders) =
    update (openTopup reference) (paidBy submissionId now) db.topupOrders := by
  obtain ⟨row, only⟩ := List.length_eq_one_iff.mp one
  have hit : row ∈ db.topupOrders.filter (openTopup reference) := by simp [only]
  obtain ⟨mem, hit⟩ := List.mem_filter.mp hit
  simp only [openTopup, Bool.decide_and, Bool.and_eq_true, decide_eq_true_eq] at hit
  refine ⟨⟨row, mem, hit⟩, ?_⟩
  unfold update
  rw [List.map_map]
  refine List.map_congr_left fun old there => ?_
  by_cases same : old.reference = reference
  · -- The references are unique, so this is the order that was open.
    have here : old = row := sound.references.eq there mem (same.trans hit.1.symm)
    subst here
    have free := sound.unlinked old there hit.2
    simp [openTopup, unlinked, hit, free, paidBy]
  · simp [openTopup, unlinked, same]

/-- A settlement's transaction pays the open order of its reference and credits the shop, or finds
no such order and writes nothing. -/
theorem settle_filed (sound : DepositSound db)
    (here : call.point = .settling order payment amountMinor)
    (h : call.settle order payment amountMinor input db = .ok (db', won)) :
    (won = false ∧ db' = db ∧ ∀ row ∈ db.topupOrders, openTopup call.reference row = false) ∨
    won = true ∧ ∃ reference submission funding,
      SettledBy input db call reference submission funding ∧
      Filed db (.credited reference submission funding) db' := by
  simp only [SettleChapaDeposit.settle, claimTopupOrderForSettlement] at h
  rcases open_one_or_none sound call.reference with one | none_open
  case inr =>
    simp only [changes_of_no_hit none_open, ne_eq, Nat.zero_ne_one, not_false_eq_true, if_true,
      pure_ok, Prod.mk.injEq] at h
    obtain ⟨rfl, rfl⟩ := h
    exact .inl ⟨rfl, by rw [update_of_no_hit none_open], none_open⟩
  case inl =>
    simp only [one, ne_eq, not_true_eq_false, if_false] at h
    simp only [bind_ok, money_ok, pure_ok, Prod.mk.injEq] at h
    obtain ⟨amount, minor, second, posted, third, inserted, fourth, linked, rfl, rfl⟩ := h
    obtain ⟨base, funded, rfl⟩ := shared_ok posted
    obtain ⟨_, fresh, once, rfl⟩ := insertFundingSubmission_ok inserted
    simp only [linkTopupOrderSubmission, bind_ok, demand_ok, pure_ok] at linked
    obtain ⟨_, _, rfl⟩ := linked
    subst minor
    obtain ⟨opened, paid⟩ := claim_link (input.newId 0) (input.now 0) sound one
    refine .inr ⟨rfl, call.reference, call.submission order payment amount.minor input, _,
      ⟨rfl, opened, order, payment, amount, here, rfl, rfl⟩, ?_⟩
    rw [paid]
    exact .credited rfl fresh (once rfl) (fundMerchant_ok funded)

/-- A settlement looks its order up, asks the gateway, notes what it said, and settles. -/
theorem settle_turn (sound : DepositSound db) (known : KnownSettlement db call)
    (input : DepositInput) :
    ∃ filing : Filing, Filed db filing (call.step input db).1 ∧
      filing.By input db (.settleChapaDeposit call) ∧
      KnownSettlement (call.step input db).1 (call.step input db).2 := by
  unfold SettleChapaDeposit.step
  cases here : call.point with
  | begin =>
    simp only
    split
    · exact ⟨.still, .still, trivial, trivial⟩
    · cases found : findTopupOrderByReference db call.reference with
      | none => exact ⟨.still, .still, trivial, trivial⟩
      | some order =>
        have same := List.find?_some found
        simp only [decide_eq_true_eq] at same
        exact ⟨.still, .still, trivial,
          ⟨order, List.mem_of_find?_eq_some found, .refl order⟩, same⟩
  | verifying order =>
    simp only [KnownSettlement, here] at known
    simp only
    split
    · exact ⟨.still, .still, trivial, trivial⟩
    · exact ⟨.still, .still, trivial, trivial⟩
    · exact ⟨.still, .still, trivial, known⟩
  | recording order payment =>
    simp only [KnownSettlement, here] at known
    simp only
    rcases depositUnit_cases input (fun db => .ok (recordTopupProviderOutcome db call.reference
        payment.providerReference payment.status (input.now 0), ())) db with
      ⟨next, answer, _, done, same⟩ | ⟨fault, same⟩
    · cases done
      rw [same]
      have noted : Filed db (.noted call.reference) (recordTopupProviderOutcome db call.reference
          payment.providerReference payment.status (input.now 0)) := .noted
      simp only
      cases decided : call.decision order payment with
      | refuse reason => exact ⟨_, noted, ⟨call, rfl, rfl⟩, trivial⟩
      | credit amountMinor =>
        exact ⟨_, noted, ⟨call, rfl, rfl⟩, known.1.filed noted, known.2, decided⟩
    · rw [same]
      exact ⟨.still, .still, trivial, trivial⟩
  | settling order payment amountMinor =>
    simp only
    rcases depositUnit_cases input (call.settle order payment amountMinor input) db with
      ⟨next, won, _, done, same⟩ | ⟨fault, same⟩
    · rw [same]
      rcases settle_filed sound here done with ⟨rfl, rfl, _⟩ | ⟨rfl, _, _, _, settled, filed⟩
      · exact ⟨.still, .still, trivial, trivial⟩
      · exact ⟨_, filed, .inl ⟨call, rfl, settled⟩, trivial⟩
    · rw [same]
      exact ⟨.still, .still, trivial, trivial⟩
  | returned result | threw fault =>
    exact ⟨.still, .still, trivial, by simp [KnownSettlement, here]⟩

/-- A submission with the posting that credited it. -/
def posted (submission : FundingSubmissionRow) (postingId : PostingId) (now : Timestamp) :
    FundingSubmissionRow :=
  { submission with postingId := some postingId, updatedAt := now }

theorem linkPosting_last {db : DepositDb} {submission : FundingSubmissionRow}
    (fresh : ¬ Present (·.id) submission.id db.fundingSubmissions) (base : Db) :
    linkPosting { db with
        toDb := base, fundingSubmissions := db.fundingSubmissions ++ [submission] }
      submission.id postingId now =
    { db with
      toDb := base
      fundingSubmissions := db.fundingSubmissions ++ [posted submission postingId now] } := by
  have linked := update_last (fun row : FundingSubmissionRow => row.id = submission.id)
    (fun row => posted row postingId now) db.fundingSubmissions submission (fun old mem => decide_eq_false fun same => fresh ⟨old, mem, same⟩)
    (decide_eq_true rfl)
  simp only [linkPosting, ← linked]
  rfl

/-- The submission a deposit is kept as, with the decision about it. -/
def kept (deps : DepositDeps) (claim : DepositClaimInput) (input : DepositInput) (db : DepositDb) :
    FundingSubmissionRow :=
  depositSubmission claim (verificationInput deps db claim).merchantForReference
    (verifyDeposit (verificationInput deps db claim)) input

/-- Recording a deposit keeps it as a new submission, and puts the bank's amount on the balance of
its shop when it was decided so. -/
theorem recordDeposit_ok (h : recordDeposit deps claim input db = .ok (db', outcome)) :
    ¬ Present (·.id) (kept deps claim input db).id db.fundingSubmissions ∧
    ((kept deps claim input db).status = .credited → ∀ other ∈ db.fundingSubmissions,
      ¬ (other.bankReference = (kept deps claim input db).bankReference ∧
        other.status = .credited)) ∧
    outcome.status = (kept deps claim input db).status ∧ outcome.submissionId = input.newId 0 ∧
    (((kept deps claim input db).status ≠ .credited ∧
      db' = { db with
        fundingSubmissions := db.fundingSubmissions ++ [kept deps claim input db] }) ∨
    (kept deps claim input db).status = .credited ∧ ∃ record merchantId amount base,
      Banked (verificationInput deps db claim) merchantId record ∧
      amount.minor = record.amountMinor ∧ record.amountMinor ≤ claim.autoCreditCapMinor ∧
      Funded
        { merchantId, amount, now := input.now 0, correlationId := input.newId 0,
          postingId := "posting_" ++ input.newId 0 } db.toDb base ∧
      db' = { db with
        toDb := base
        fundingSubmissions := db.fundingSubmissions ++
          [posted (kept deps claim input db) ("posting_" ++ input.newId 0) (input.now 0)] }) := by
  simp only [recordDeposit, bind_ok] at h
  obtain ⟨first, inserted, h⟩ := h
  obtain ⟨_, fresh, once, rfl⟩ := insertFundingSubmission_ok inserted
  refine ⟨fresh, once, ?_⟩
  have status : (kept deps claim input db).status =
    statusAfterVerification (verifyDeposit (verificationInput deps db claim)) := rfl
  rw [status]
  split at h
  · rename_i merchantId amountMinor bankReference differed decided
    simp only [bind_ok, pure_ok, Prod.mk.injEq] at h
    obtain ⟨second, credited, eq, rfl⟩ := h
    obtain ⟨amount, base, minor, funded, rfl⟩ := creditMerchant_ok credited
    obtain ⟨record, banked, same, _, within⟩ :=
      (verifyDeposit_banked decided).1 merchantId amountMinor bankReference differed rfl
    rw [same] at within
    refine ⟨rfl, rfl, .inr ⟨by rw [decided]; rfl, record, merchantId, amount, base, banked,
      minor.trans same, within, funded, ?_⟩⟩
    rw [← eq]
    exact linkPosting_last fresh base
  · rename_i other
    simp only [pure_ok, Prod.mk.injEq] at h
    obtain ⟨rfl, rfl⟩ := h
    refine ⟨rfl, rfl, .inl ⟨?_, rfl⟩⟩
    cases decided : verifyDeposit (verificationInput deps db claim) with
    | credit merchantId amountMinor bankReference differed =>
      exact absurd decided (other merchantId amountMinor bankReference differed)
    | _ => simp [statusAfterVerification]

theorem kept_amount (claim : DepositClaimInput) :
    (kept deps claim input db).bankAmountMinor = claim.bankRecord.map (·.amountMinor) := rfl

theorem kept_recordedBy (here : call.point = .begin) :
    RecordedBy input db call (kept call.deps call.claim input db) :=
  { here, id := rfl, quoted := rfl, bank := rfl, recorded := rfl, merchant := rfl,
    amount := kept_amount call.claim, status := rfl }

theorem RecordedBy.posted (recorded : RecordedBy input db call submission) :
    RecordedBy input db call (posted submission postingId now) :=
  { here := recorded.here, id := recorded.id, quoted := recorded.quoted, bank := recorded.bank,
    recorded := recorded.recorded, merchant := recorded.merchant, amount := recorded.amount,
    status := recorded.status }

/-- Recording a deposit keeps it as a submission of its own, and when it is credited closes the
order it quotes. -/
theorem record_filed (here : call.point = .begin)
    (h : recordAndClose call.deps call.claim input db = .ok (db', outcome)) :
    (∃ submission, RecordedBy input db call submission ∧
      Filed db (.recorded submission) db') ∨
    ∃ reference submission funding, CreditedBy input db call reference submission funding ∧
      Filed db (.credited reference submission funding) db' := by
  simp only [recordAndClose, bind_ok] at h
  obtain ⟨⟨second, told⟩, recorded, closed⟩ := h
  obtain ⟨fresh, once, status, id, ⟨uncredited, rfl⟩ | ⟨credited, record, merchantId, amount, base,
    banked, minor, within, funded, rfl⟩⟩ := recordDeposit_ok recorded
  · simp only [status, uncredited, if_false, pure_ok, Prod.mk.injEq] at closed
    obtain ⟨rfl, rfl⟩ := closed
    exact .inl ⟨_, kept_recordedBy here, .recorded uncredited fresh⟩
  · simp only [status, credited, if_true, bind_ok, pure_ok, Prod.mk.injEq] at closed
    obtain ⟨⟨third, changed⟩, marked, rfl, rfl⟩ := closed
    have paid := markTopupOrderPaid_ok marked
    refine .inr ⟨call.deps.normalize call.claim.quotedReference,
      posted (kept call.deps call.claim input db) ("posting_" ++ input.newId 0) (input.now 0),
      { merchantId, amount, now := input.now 0, correlationId := input.newId 0,
        postingId := "posting_" ++ input.newId 0 },
      { (kept_recordedBy here).posted with
        reference := rfl, banked := ⟨record, banked, minor, within⟩, posting := rfl }, ?_⟩
    rw [paid, id]
    exact .credited credited fresh (once credited) funded

theorem record_turn (input : DepositInput) (db : DepositDb) (call : RecordDeposit) :
    ∃ filing : Filing, Filed db filing (call.step input db).1 ∧
      filing.By input db (.recordDeposit call) := by
  unfold RecordDeposit.step
  cases here : call.point with
  | begin =>
    simp only
    split
    · exact ⟨.still, .still, trivial⟩
    · rcases depositUnit_cases input (recordAndClose call.deps call.claim input) db with
        ⟨next, outcome, _, done, same⟩ | ⟨fault, same⟩
      · rw [same]
        rcases record_filed here done with ⟨submission, recorded, filed⟩ |
          ⟨reference, submission, funding, credited, filed⟩
        · exact ⟨.recorded submission, filed, call, rfl, recorded⟩
        · exact ⟨.credited reference submission funding, filed, .inr ⟨call, rfl, credited⟩⟩
      · rw [same]
        exact ⟨.still, .still, trivial⟩
  | returned outcome | refused error => exact ⟨.still, .still, trivial⟩

/-- A waiting deposit an approval goes on with is on record, waiting, has a shop and an amount, and
was not recorded by the approver. -/
theorem look_known (db : DepositDb) (call : ApproveDeposit) :
    KnownApproval db (call.at (call.look db)) := by
  unfold ApproveDeposit.look
  cases found : db.fundingSubmissions.find? fun row => row.id = call.id with
  | none => trivial
  | some row =>
    have same := List.find?_some found
    simp only [decide_eq_true_eq] at same
    simp only
    split
    · trivial
    rename_i matched
    split
    · rename_i merchantId amountMinor merchant amount
      split
      · trivial
      rename_i apart
      have matched := Decidable.not_not.mp matched
      exact ⟨⟨row, List.mem_of_find?_eq_some found, .refl row, .inl matched⟩, same, matched,
        merchant, amount, apart⟩
    · trivial

theorem post_filed (known : KnownApproval db call) (here : call.point = .posting waiting)
    (h : call.post waiting input db = .ok (db', answer)) :
    ∃ reference approver funding, ApprovedBy input call waiting reference approver funding ∧
      Filed db (.approved waiting reference approver funding) db' := by
  simp only [KnownApproval, here] at known
  simp only [ApproveDeposit.post, bind_ok, pure_ok, Prod.mk.injEq] at h
  obtain ⟨first, credited, second, approved, ⟨third, changed⟩, marked, rfl, _⟩ := h
  obtain ⟨amount, base, minor, funded, rfl⟩ := creditMerchant_ok credited
  obtain ⟨once, rfl⟩ := approveSubmission_ok approved
  have paid := markTopupOrderPaid_ok marked
  refine ⟨call.deps.normalize waiting.row.bankReference, call.approver,
    { merchantId := waiting.merchantId, amount, now := input.now 0,
      correlationId := input.newId 1, postingId := input.newId 0 },
    ⟨here, rfl, rfl, rfl, minor, rfl⟩, ?_⟩
  rw [paid, ← known.2.1]
  rw [← known.2.1] at once
  exact .approved (fun row mem hit => (once row mem hit).2) funded

theorem approve_turn (known : KnownApproval db call) (input : DepositInput) :
    ∃ filing : Filing, Filed db filing (call.step input db).1 ∧
      filing.By input db (.approveDeposit call) ∧
      KnownApproval (call.step input db).1 (call.step input db).2 := by
  unfold ApproveDeposit.step
  cases here : call.point with
  | begin => exact ⟨.still, .still, trivial, look_known db call⟩
  | posting waiting =>
    simp only
    rcases depositUnit_cases input (call.post waiting input) db with
      ⟨next, answer, _, done, same⟩ | ⟨fault, same⟩
    · rw [same]
      obtain ⟨reference, approver, funding, approved, filed⟩ := post_filed known here done
      exact ⟨_, filed, ⟨call, rfl, approved⟩, trivial⟩
    · rw [same]
      exact ⟨.still, .still, trivial, trivial⟩
  | approved | refused notice => exact ⟨.still, .still, trivial, by simp [KnownApproval, here]⟩

/-- What a step that saves, cancels or expires orders does is anyone's. -/
theorem Filing.Keeping.anyone {filing : Filing} (keeping : filing.Keeping) :
    filing.By input db process := by
  cases filing <;> first | trivial | exact keeping.elim

/-- Everything one step of a request can do, and what the request knows then. -/
theorem deposit_turn (sound : DepositSound db) (known : KnownDeposit db process)
    (input : DepositInput) :
    ∃ filing : Filing, Filed db filing (process.step input db).1 ∧ filing.By input db process ∧
      KnownDeposit (process.step input db).1 (process.step input db).2 := by
  cases process with
  | startChapaDeposit call =>
    obtain ⟨filing, keeping, filed⟩ := start_turn input db call
    exact ⟨filing, filed, keeping.anyone, trivial⟩
  | orderBankDeposit call =>
    obtain ⟨filing, keeping, filed⟩ := order_turn input db call
    exact ⟨filing, filed, keeping.anyone, trivial⟩
  | cancelBankDeposit call =>
    obtain ⟨filing, keeping, filed⟩ := cancel_turn input db call
    exact ⟨filing, filed, keeping.anyone, trivial⟩
  | expireTopupOrders call =>
    obtain ⟨filing, keeping, filed⟩ := expire_turn input db call
    exact ⟨filing, filed, keeping.anyone, trivial⟩
  | settleChapaDeposit call => exact settle_turn sound known input
  | recordDeposit call =>
    obtain ⟨filing, filed, done⟩ := record_turn input db call
    exact ⟨filing, filed, done, trivial⟩
  | approveDeposit call => exact approve_turn known input

end Telga.Proofs
