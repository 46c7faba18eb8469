import Telga.Proofs.Balances

namespace Telga.Proofs.Balances
open Domain Persistence Library

/-- The posting an operation writes its entries under. -/
def Operation.postingId : Operation → PostingId
  | .fundMerchant input => input.postingId
  | .reserve context _ => context.postingId
  | .release context => context.postingId
  | .finalizeSuccess context _ _ => context.postingId
  | .moveToUnderReview context => context.postingId
  | .releaseFromUnderReview context => context.postingId
  | .transferProfitToBalance input => input.postingId
  | .postReversalAdjustment input => input.postingId
  | .postShopTransfer input => input.postingId
  | .chargeSoftwareFee input => input.postingId

/-- The reservation stored for a sale is left in a status. -/
def Reserved (context : OperationContext) (status : ReservationState)
    (before after : List ReservationRow) : Prop :=
  ∃ row ∈ before, row.transactionId = context.transactionId ∧
    row.merchantId = context.merchantId ∧ ∃ kept ∈ after, kept.id = row.id ∧ kept.status = status

/-- What an operation leaves of the reservations: the sale's own in its new status, or all of them
as they were. -/
def Operation.Reserves (before after : List ReservationRow) : Operation → Prop
  | .reserve context reservationId =>
    ∃ row ∈ after, row.id = (holdFor context reservationId).id ∧ row.status = .held
  | .release context => Reserved context .released before after
  | .finalizeSuccess context _ _ => Reserved context .settled before after
  | .moveToUnderReview context => Reserved context .underReview before after
  | .releaseFromUnderReview context => Reserved context .released before after
  | _ => after = before

/-- An operation on a sale appends its audit event, any other appends none. -/
def Operation.Audits (before after : List AuditEventRow) (operation : Operation) : Prop :=
  match operation.context with
  | some context => ∃ row, row.event.id = context.auditId ∧ after = before ++ [row]
  | none => after = before

/-- Charging a fee leaves the month paid under its posting, any other operation leaves every
charge alone. -/
def Operation.Charges (before after : List SoftwareFeeCharge) : Operation → Prop
  | .chargeSoftwareFee input => ∃ row ∈ after, row.merchantId = input.merchantId ∧
      row.period = input.period ∧ row.status = .paid ∧ row.postingId = some input.postingId
  | _ => after = before

def debitMinor (row : LedgerEntryRow) : Int :=
  if row.direction = .debit then row.amount.minor else 0

def creditMinor (row : LedgerEntryRow) : Int :=
  if row.direction = .credit then row.amount.minor else 0

/-- The operation went through: a balanced posting of its own, and with it the reservation, audit
and charge rows it is about. Nothing else is written but accounts that were missing. -/
structure Posted (operation : Operation) (db db' : Db) : Prop where
  entries : ∃ rows, rows ≠ [] ∧ (∀ row ∈ rows, row.postingId = operation.postingId) ∧
    total debitMinor rows = total creditMinor rows ∧
    db'.ledgerEntries = db.ledgerEntries ++ rows
  reservations : operation.Reserves db.balanceReservations db'.balanceReservations
  audits : operation.Audits db.auditEvents db'.auditEvents
  charges : operation.Charges db.softwareFeeCharges db'.softwareFeeCharges
  others : db' = { db with
    ledgerAccounts := db'.ledgerAccounts, ledgerEntries := db'.ledgerEntries,
    balanceReservations := db'.balanceReservations, auditEvents := db'.auditEvents,
    softwareFeeCharges := db'.softwareFeeCharges }

/-- The operation threw and left every table as it was. -/
def Threw (operation : Operation) (db db' : Db) : Prop :=
  (∃ fault, operation.unit db = .error fault) ∧ db' = db

/-- A fee was not taken: its month is already charged or waived and nothing is written, or the
shop has too little and only the arrears are. -/
inductive Declined (db : Db) : Operation → Db → Prop
  | alreadyCharged : chargeSoftwareFee db input = .ok (db, .alreadyCharged) →
      Declined db (.chargeSoftwareFee input) db
  | arrears :
      netMinor db input.merchantId [.merchantAvailable, .merchantFunds] < input.amount.minor →
      Charged db.softwareFeeCharges charges (arrearsRow input) id →
      Declined db (.chargeSoftwareFee input) { db with softwareFeeCharges := charges }

/-- A caller's unit of work: operations, writes of its own that spare the ledger, and nested units
whose throw it catches. -/
inductive Work
  | operation (operation : Operation)
  | elsewhere (change : Db → Except Fault Db)
      (spares : ∀ db db', change db = .ok db' → db'.ledgerEntries = db.ledgerEntries)
  | attempt (work : Work)
  | both (first next : Work)

def Work.run : Work → Db → Except Fault Db
  | .operation step, db => step.unit db
  | .elsewhere change _, db => change db
  | .attempt work, db => .ok (commit (fun db => (·, ()) <$> work.run db) db).1
  | .both first next, db => do
    let db ← first.run db
    next.run db

/-- One unit of work, whatever it does and whether or not it throws. -/
def Works (db : Db) (work : Work) (db' : Db) : Prop :=
  db' = (commit (fun db => (·, ()) <$> work.run db) db).1

/-- A database in which nothing has been posted. -/
def Unposted (db : Db) : Prop :=
  db.ledgerEntries = []

theorem rowMinor_split (rows : List LedgerEntryRow) :
    total rowMinor rows = total creditMinor rows - total debitMinor rows := by
  induction rows with
  | nil => rfl
  | cons row rest ih =>
    rw [total_cons, total_cons, total_cons, ih]
    cases side : row.direction with
    | debit =>
      simp only [rowMinor, creditMinor, debitMinor, signed, side]
      simp
      omega
    | credit =>
      simp only [rowMinor, creditMinor, debitMinor, signed, side]
      simp
      omega

/-- The rows of a balanced posting are balanced and carry its id. -/
theorem entryRows_posted (posting : PostingInput) (accounts : List LedgerAccountRow)
    (some : entries ≠ []) (balanced : residualMinor entries = 0) :
    entryRows posting accounts 0 entries ≠ [] ∧
    (∀ row ∈ entryRows posting accounts 0 entries, row.postingId = posting.postingId) ∧
    total debitMinor (entryRows posting accounts 0 entries) =
      total creditMinor (entryRows posting accounts 0 entries) := by
  refine ⟨?_, ?_, ?_⟩
  · cases entries with
    | nil => exact absurd rfl some
    | cons entry rest => simp [entryRows]
  · intro row mem
    obtain ⟨_, _, _, rfl⟩ := mem_entryRows.mp mem
    rfl
  · have split := rowMinor_split (entryRows posting accounts 0 entries)
    rw [total_rowMinor_entryRows, balanced] at split
    omega

/-- A movement outside the reservations posts and writes nothing else. -/
theorem postMovement_posted {operation : Operation} (outside : operation.context = none)
    (under : operation.postingId = input.postingId) (some : entries ≠ [])
    (untouched : ∀ rows, operation.Reserves rows rows) (unpaid : ∀ rows, operation.Charges rows rows)
    (h : postMovement db input entries = .ok db') : Posted operation db db' := by
  obtain ⟨rows, _, balanced, _, _, rfl⟩ := postMovement_ok h
  obtain ⟨nonempty, carry, equal⟩ := entryRows_posted (movementPosting input entries)
    (db.ledgerAccounts ++ rows) some balanced
  refine ⟨⟨_, nonempty, ?_, equal, rfl⟩, untouched _, ?_, unpaid _, rfl⟩
  · rw [under]
    exact carry
  · unfold Operation.Audits
    rw [outside]

/-- A movement of a sale's value posts, moves its reservation on and is audited. -/
theorem moveValue_posted {operation : Operation} (on : operation.context = some context)
    (under : operation.postingId = context.postingId) (some : entries ≠ [])
    (moves : ∀ before after, Reserved context target before after →
      operation.Reserves before after)
    (unpaid : ∀ rows, operation.Charges rows rows)
    (h : moveValue origin target entries action entityType db context = .ok db') :
    Posted operation db db' := by
  obtain ⟨balanced, _, audit, event, trail⟩ := moveValue_recorded h
  obtain ⟨row, hit, audits, found, one, mem, same, status, _, rfl⟩ := moveValue_ok h
  obtain ⟨nonempty, carry, equal⟩ := entryRows_posted (postingFor context entries)
    db.ledgerAccounts some balanced
  obtain ⟨stored, sale, merchant⟩ := findReservation_ok found
  refine ⟨⟨_, nonempty, ?_, equal, rfl⟩, moves _ _ ?_, ?_, unpaid _, rfl⟩
  · rw [under]
    exact carry
  · refine ⟨row, stored, sale, merchant, setStatus target context.now hit, ?_, same, rfl⟩
    have moved := update_mem (guarded row.id origin) (setStatus target context.now) mem
    simpa [guarded, same, status] using moved
  · unfold Operation.Audits
    rw [on]
    exact ⟨audit, event, trail⟩

theorem reserve_posted (h : reserve db context reservationId = .ok db') :
    Posted (.reserve context reservationId) db db' := by
  obtain ⟨balanced, _, audit, event, trail⟩ := reserve_recorded h
  obtain ⟨rows, reservations, audits, _, _, _, _, saved, rfl⟩ := reserve_ok h
  obtain ⟨nonempty, carry, equal⟩ := entryRows_posted
    (postingFor context (holdLegs context)) (db.ledgerAccounts ++ rows)
    (by simp [holdLegs, bucketTransfer]) balanced
  refine ⟨⟨_, nonempty, carry, equal, rfl⟩, ?_, ⟨audit, event, trail⟩, rfl, rfl⟩
  rcases saved with ⟨⟨row, mem, same⟩, rfl⟩ | ⟨_, _, rfl⟩
  · refine ⟨_, update_mem _ _ mem, ?_⟩
    simp only [same, decide_true, if_true]
    exact ⟨same, rfl⟩
  · exact ⟨_, List.mem_append_right _ (List.mem_singleton.mpr rfl), rfl, rfl⟩

/-- Where a fee was taken, its month is paid under the posting that took it. -/
theorem charged_paid (owed : (findCharge db input.merchantId input.period).all
      (fun charge => charge.status = .arrears) = true)
    (charged : Charged db.softwareFeeCharges charges (paidRow input) (payArrears input)) :
    ∃ row ∈ charges, row.merchantId = input.merchantId ∧ row.period = input.period ∧
      row.status = .paid ∧ row.postingId = some input.postingId := by
  rcases charged with ⟨⟨row, mem, merchant, period⟩, rfl⟩ | ⟨_, rfl⟩
  · cases found : findCharge db input.merchantId input.period with
    | none =>
      have missed := List.find?_eq_none.mp found row mem
      simp only [decide_eq_true_eq] at missed
      exact absurd ⟨merchant, period⟩ missed
    | some charge =>
      rw [found] at owed
      have arrears : charge.status = .arrears := by simpa using owed
      have fits := List.find?_some found
      simp only [decide_eq_true_eq] at fits
      refine ⟨_, update_mem _ _ (List.mem_of_find?_eq_some found), ?_⟩
      simp only [owing, fits, arrears, and_self, decide_true, if_true]
  · exact ⟨_, List.mem_append_right _ (List.mem_singleton.mpr rfl), rfl, rfl, rfl, rfl⟩

/-- Charging a fee posts it, or declines. -/
theorem chargeSoftwareFee_posted (h : chargeSoftwareFee db input = .ok (db', outcome)) :
    Posted (.chargeSoftwareFee input) db db' ∨ Declined db (.chargeSoftwareFee input) db' := by
  rcases chargeSoftwareFee_cases h with ⟨rfl, rfl⟩ | ⟨owed, ⟨_, charges, _, short, charged, rfl⟩ |
    ⟨rows, charges, _, _, _, _, balanced, _, charged, rfl⟩⟩
  · exact .inr (.alreadyCharged h)
  · exact .inr (.arrears short charged)
  · obtain ⟨nonempty, carry, equal⟩ := entryRows_posted (feePosting input)
      (db.ledgerAccounts ++ rows) (by simp [feeLegs]) balanced
    exact .inl ⟨⟨_, nonempty, carry, equal, rfl⟩, rfl, rfl, charged_paid owed charged, rfl⟩

theorem postShopTransfer_posted (h : postShopTransfer db input = .ok db') :
    Posted (.postShopTransfer input) db db' := by
  obtain ⟨rows, debit, _, _, balanced, _, rfl⟩ := postShopTransfer_ok h
  obtain ⟨nonempty, carry, equal⟩ := entryRows_posted (transferPosting input debit)
    (db.ledgerAccounts ++ rows) (by simp [transferLegs]) balanced
  exact ⟨⟨_, nonempty, carry, equal, rfl⟩, rfl, rfl, rfl, rfl⟩

/-- An operation that went through posted, or was a fee that was declined. -/
theorem unit_posted {operation : Operation} (h : operation.unit db = .ok db') :
    Posted operation db db' ∨ Declined db operation db' := by
  cases operation with
  | fundMerchant input =>
    exact .inl (postMovement_posted rfl rfl (by simp [fundingLegs]) (fun _ => rfl) (fun _ => rfl) h)
  | reserve context reservationId => exact .inl (reserve_posted h)
  | release context =>
    exact .inl (moveValue_posted rfl rfl (by simp [releaseLegs, bucketTransfer])
      (fun _ _ moved => moved) (fun _ => rfl) h)
  | finalizeSuccess context profitMinor profitBps =>
    exact .inl (moveValue_posted rfl rfl (by simp [settlementLegs])
      (fun _ _ moved => moved) (fun _ => rfl) h)
  | moveToUnderReview context =>
    exact .inl (moveValue_posted rfl rfl (by simp [reviewLegs, bucketTransfer])
      (fun _ _ moved => moved) (fun _ => rfl) h)
  | releaseFromUnderReview context =>
    exact .inl (moveValue_posted rfl rfl (by simp [reviewReleaseLegs, bucketTransfer])
      (fun _ _ moved => moved) (fun _ => rfl) h)
  | transferProfitToBalance input =>
    exact .inl (postMovement_posted rfl rfl (by simp [profitLegs]) (fun _ => rfl) (fun _ => rfl) h)
  | postReversalAdjustment input =>
    exact .inl
      (postMovement_posted rfl rfl (by simp [reversalLegs]) (fun _ => rfl) (fun _ => rfl) h)
  | postShopTransfer input => exact .inl (postShopTransfer_posted h)
  | chargeSoftwareFee input =>
    obtain ⟨⟨next, outcome⟩, charged, rfl⟩ := map_ok.mp h
    exact chargeSoftwareFee_posted charged

/-- An operation other than a fee's posts entries of no fee's, under a posting id that was not used
before, and leaves every charge alone. -/
theorem unit_entries {operation : Operation} (other : ∀ input, operation ≠ .chargeSoftwareFee input)
    (h : operation.unit db = .ok db') :
    ∃ posting accounts entries, entries ≠ [] ∧
      ¬ Present (·.id) (posting.postingId, 0) db.ledgerEntries ∧
      (∀ entry ∈ entries, ∀ period, entry.ruleVersion ≠ some (.softwareFee period)) ∧
      db'.ledgerEntries = db.ledgerEntries ++ entryRows posting accounts 0 entries ∧
      db'.softwareFeeCharges = db.softwareFeeCharges := by
  have movement : ∀ {input : MovementInput} {entries : List DraftEntry},
      postMovement db input entries = .ok db' → entries ≠ [] →
      (∀ entry ∈ entries, ∀ period, entry.ruleVersion ≠ some (.softwareFee period)) →
      ∃ posting accounts entries, entries ≠ [] ∧
        ¬ Present (·.id) (posting.postingId, 0) db.ledgerEntries ∧
        (∀ entry ∈ entries, ∀ period, entry.ruleVersion ≠ some (.softwareFee period)) ∧
        db'.ledgerEntries = db.ledgerEntries ++ entryRows posting accounts 0 entries ∧
        db'.softwareFeeCharges = db.softwareFeeCharges := by
    intro input entries posted some feeless
    have fresh := postMovement_fresh some posted
    obtain ⟨rows, _, _, _, _, rfl⟩ := postMovement_ok posted
    exact ⟨movementPosting input entries, _, entries, some, fresh, feeless, rfl, rfl⟩
  have value : ∀ {origin target entries action entityType context},
      moveValue origin target entries action entityType db context = .ok db' → entries ≠ [] →
      (∀ entry ∈ entries, ∀ period, entry.ruleVersion ≠ some (.softwareFee period)) →
      ∃ posting accounts entries, entries ≠ [] ∧
        ¬ Present (·.id) (posting.postingId, 0) db.ledgerEntries ∧
        (∀ entry ∈ entries, ∀ period, entry.ruleVersion ≠ some (.softwareFee period)) ∧
        db'.ledgerEntries = db.ledgerEntries ++ entryRows posting accounts 0 entries ∧
        db'.softwareFeeCharges = db.softwareFeeCharges := by
    intro origin target entries action entityType context moved some feeless
    obtain ⟨_, fresh, _⟩ := moveValue_recorded moved
    obtain ⟨_, _, _, _, _, _, _, _, _, rfl⟩ := moveValue_ok moved
    exact ⟨postingFor context entries, _, entries, some, fresh some, feeless, rfl, rfl⟩
  cases operation with
  | fundMerchant input =>
    exact movement h (by simp [fundingLegs]) (by simp [fundingLegs, merchantLeg, platformLeg])
  | reserve context reservationId =>
    obtain ⟨_, fresh, _⟩ := reserve_recorded h
    obtain ⟨_, _, _, _, _, _, _, _, rfl⟩ := reserve_ok h
    exact ⟨postingFor context (holdLegs context), _, holdLegs context,
      by simp [holdLegs, bucketTransfer], fresh, by simp [holdLegs, bucketTransfer, merchantLeg],
      rfl, rfl⟩
  | release context =>
    exact value h (by simp [releaseLegs, bucketTransfer])
      (by simp [releaseLegs, bucketTransfer, merchantLeg])
  | finalizeSuccess context profitMinor profitBps =>
    refine value h (by simp [settlementLegs]) ?_
    unfold settlementLegs
    split <;> simp [merchantLeg, platformLeg]
  | moveToUnderReview context =>
    exact value h (by simp [reviewLegs, bucketTransfer])
      (by simp [reviewLegs, bucketTransfer, merchantLeg])
  | releaseFromUnderReview context =>
    exact value h (by simp [reviewReleaseLegs, bucketTransfer])
      (by simp [reviewReleaseLegs, bucketTransfer, merchantLeg])
  | transferProfitToBalance input =>
    exact movement h (by simp [profitLegs]) (by simp [profitLegs, merchantLeg, platformLeg])
  | postReversalAdjustment input =>
    exact movement h (by simp [reversalLegs]) (by simp [reversalLegs, merchantLeg, platformLeg])
  | postShopTransfer input =>
    have fresh := postShopTransfer_fresh h
    obtain ⟨_, debit, _, _, _, _, rfl⟩ := postShopTransfer_ok h
    refine ⟨transferPosting input debit, _, transferLegs input debit, by simp [transferLegs],
      fresh, ?_, rfl, rfl⟩
    unfold transferLegs
    split <;> simp [merchantLeg, platformLeg]
  | chargeSoftwareFee input => exact absurd rfl (other input)

/-- Whatever went through added balanced rows to the ledger, or none. -/
theorem unit_residual {operation : Operation} (h : operation.unit db = .ok db') :
    ledgerResidualMinor db' = ledgerResidualMinor db := by
  rcases unit_posted h with posted | declined
  · obtain ⟨rows, _, _, equal, grown⟩ := posted.entries
    unfold ledgerResidualMinor
    rw [grown, total_append, rowMinor_split rows]
    omega
  · cases declined <;> rfl

theorem run_residual {work : Work} (h : work.run db = .ok db') :
    ledgerResidualMinor db' = ledgerResidualMinor db := by
  induction work generalizing db db' with
  | operation step => exact unit_residual h
  | elsewhere change spares =>
    unfold ledgerResidualMinor
    rw [spares db db' h]
  | attempt work ih =>
    simp only [Work.run, Except.ok.injEq] at h
    rcases commit_cases (fun db => (·, ()) <$> work.run db) db with
      ⟨next, _, done, same⟩ | ⟨_, _, same⟩
    · obtain ⟨_, ran, eq⟩ := map_ok.mp done
      cases eq
      rw [same] at h
      exact h ▸ ih ran
    · rw [same] at h
      rw [← h]
  | both first next ihFirst ihNext =>
    simp only [Work.run, bind_ok] at h
    obtain ⟨middle, began, ended⟩ := h
    rw [ihNext ended, ihFirst began]

theorem works_residual {work : Work} (works : Works db work db') :
    ledgerResidualMinor db' = ledgerResidualMinor db := by
  have ran : (Work.attempt work).run db = .ok db' := congrArg Except.ok works.symm
  exact run_residual ran

/-- An operation, run as one unit of work, posts with all its rows, or declines a fee, or throws
and leaves every table as it was; so double entry holds in every state that any units of work,
nested and failing in any way, lead to. -/
theorem posts_or_throws :
    (∀ (operation : Operation) (db : Db),
      Posted operation db (perform db operation) ∨ Declined db operation (perform db operation) ∨
      Threw operation db (perform db operation)) ∧
    ∀ (past : List (Taken Db Work)) (db : Db),
      Run Unposted Works past db → ledgerResidualMinor db = 0 := by
  constructor
  · intro operation db
    unfold perform
    rcases commit_cases (fun db => (·, ()) <$> operation.unit db) db with
      ⟨next, _, done, same⟩ | ⟨fault, thrown, same⟩
    · obtain ⟨_, ran, eq⟩ := map_ok.mp done
      cases eq
      rw [same]
      rcases unit_posted ran with posted | declined
      · exact .inl posted
      · exact .inr (.inl declined)
    · rw [same]
      refine .inr (.inr ⟨⟨fault, ?_⟩, rfl⟩)
      cases ended : operation.unit db with
      | ok next =>
        rw [ended] at thrown
        cases thrown
      | error other =>
        rw [ended] at thrown
        cases thrown
        rfl
  · intro past db run
    refine run.invariant (I := fun db => ledgerResidualMinor db = 0) ?_ ?_
    · intro db unposted
      unfold ledgerResidualMinor
      rw [unposted]
      rfl
    · intro db work db' zero works
      rw [works_residual works]
      exact zero

/-- A shop with nothing to take a fee from. -/
def penniless : Db :=
  { migrated with merchants := [⟨"shop", .active⟩] }

/-- A hundred santim of fee. -/
def fee : Operation :=
  .chargeSoftwareFee
    { id := "fee", merchantId := "shop", period := ⟨2026, 9⟩, amount := ⟨100, safe_hundred⟩,
      postingId := "posting", now := 0 }

theorem fee_residual : ledgerResidualMinor (perform penniless fee) = 0 := by
  have start : Unposted penniless := rfl
  have works : Works penniless (.operation fee) (perform penniless fee) := rfl
  exact posts_or_throws.2 _ _ (.step (.start start) works)

/-- A fee that cannot be taken neither posts nor throws: it leaves a debt on record. -/
theorem arrears_neither_posts_nor_throws : ¬ ∀ (operation : Operation) (db : Db),
    Posted operation db (perform db operation) ∨ Threw operation db (perform db operation) := by
  intro always
  rcases always fee penniless with posted | thrown
  · obtain ⟨rows, some, _, _, grown⟩ := posted.entries
    have nothing : (perform penniless fee).ledgerEntries = [] := by decide
    rw [nothing] at grown
    exact some (List.append_eq_nil_iff.mp grown.symm).2
  · have recorded : (perform penniless fee).softwareFeeCharges ≠ [] := by decide
    rw [thrown.2] at recorded
    exact recorded rfl

end Telga.Proofs.Balances
