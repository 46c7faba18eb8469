import Telga.Proofs.Postings
import Telga.Proofs.Runs

namespace Telga.Proofs.SoftwareFees
open Domain Persistence Application Library

/-- A change that posts nothing and leaves every charge alone. -/
def Spares (db db' : Db) : Prop :=
  db'.ledgerEntries = db.ledgerEntries ∧ db'.softwareFeeCharges = db.softwareFeeCharges

/-- What works on the database while fees are charged: sweeps, waivers, the other operations that
post, and whatever else: fees changed, shops opened and closed. -/
inductive FeeProcess
  | sweep (run : RunDueSoftwareFees)
  | waiver (merchantId : MerchantId) (period : Period) (reason : String)
  | operation (operation : Balances.Operation)
      (other : ∀ input, operation ≠ .chargeSoftwareFee input)
  | elsewhere (change : Db → Db) (spares : ∀ db, Spares db (change db))

/-- One atomic step of any of them. -/
def FeeProcess.step (input : Input) (db : Db) (process : FeeProcess) : Db × FeeProcess :=
  match process with
  | .sweep run => (run.step input db).map id .sweep
  | .waiver merchantId period reason => ((waiveCharge db merchantId period reason).1, process)
  | .operation work _ => (Balances.perform db work, process)
  | .elsewhere change _ => (change db, process)

/-- A sweep begins at its beginning, or at the settings when its month is named. -/
def FeeProcess.Starting : FeeProcess → Prop
  | .sweep run => run.point = .begin ∨ run.point = .settings
  | _ => True

instance : DecidablePred FeeProcess.Starting
  | .sweep run => inferInstanceAs (Decidable (run.point = .begin ∨ run.point = .settings))
  | .waiver .. | .operation .. | .elsewhere .. => isTrue trivial

/-- Sweeps and everything around them at work on one database. -/
def feeServices : Machine Db Input FeeProcess where
  advance := FeeProcess.step
  finished _ := False

/-- Any number of sweeps, of any months, interleaved with one another and with everything else. -/
abbrev Charging :=
  Pool feeServices (fun _ => FeeProcess.Starting) fun _ _ _ => True

/-- A database no fee was ever charged on, and in which nothing was posted. -/
structure Uncharged (db : Db) : Prop where
  charges : db.softwareFeeCharges = []
  entries : db.ledgerEntries = []

def Begins (w : World Db FeeProcess) : Prop :=
  Uncharged w.store ∧ w.procs = []

abbrev FeeStep := Taken (World Db FeeProcess) (Event Input FeeProcess)

/-- The debits of one month's fee from one shop. -/
def feeDebits (db : Db) (merchantId : MerchantId) (period : Period) : List LedgerEntryRow :=
  db.ledgerEntries.filter fun row =>
    row.merchantId = some merchantId ∧ row.direction = .debit ∧
      row.ruleVersion = some (.softwareFee period)

/-- What a posting debits a shop. -/
def debitedBy (db : Db) (merchantId : MerchantId) (postingId : PostingId) : Int :=
  total (·.amount.minor) (db.ledgerEntries.filter fun row =>
    row.postingId = postingId ∧ row.merchantId = some merchantId ∧ row.direction = .debit)

/-- Every paid charge records what the posting it names debited. -/
def Exact (db : Db) : Prop :=
  ∀ charge ∈ db.softwareFeeCharges, charge.status = .paid → ∃ postingId,
    charge.postingId = some postingId ∧
      debitedBy db charge.merchantId postingId = charge.amount.minor

/-- Every month is debited from a shop at most once and not at all once it was waived, and every
paid charge is exact. -/
structure Rightly (taken : FeeStep) : Prop where
  once : ∀ merchantId period, (feeDebits taken.after.store merchantId period).length ≤ 1
  waived : ∀ charge ∈ taken.before.store.softwareFeeCharges, charge.status = .waived →
    charge ∈ taken.after.store.softwareFeeCharges ∧
      feeDebits taken.after.store charge.merchantId charge.period = []
  exact : Exact taken.after.store

/-- The charge a sweep is about to make. -/
def due (input : Input) (run : RunDueSoftwareFees) : Option ChargeInput :=
  match run.point with
  | .charging now amount (merchantId :: _) =>
    some { id := input.newId 0, merchantId, period := run.result.period, amount,
           postingId := input.newId 1, now }
  | .recovering now (owed :: _) =>
    if owed.period = run.result.period then none
    else
      some { id := owed.id, merchantId := owed.merchantId, period := owed.period,
             amount := owed.amount, postingId := input.newId 0, now }
  | _ => none

/-- A sweep takes a fee that goes through, from a balance that covers it. -/
def Takes (input : Input) (db : Db) (run : RunDueSoftwareFees) (charge : ChargeInput) : Prop :=
  due input run = some charge ∧
  charge.amount.minor ≤
    netMinor db charge.merchantId [.merchantAvailable, .merchantFunds] ∧
  Commits input (fun db => chargeSoftwareFee db charge) db

/-- When the fee taken is for a month in arrears, it is the amount that is owed. -/
def TakesWhatIsOwed (taken : FeeStep) : Prop :=
  ∀ slot input run charge, taken.event = .act slot input →
    taken.before.proc slot = some (.sweep run) → Takes input taken.before.store run charge →
    ∀ owed, findCharge taken.before.store charge.merchantId charge.period = some owed →
      owed.status = .arrears → owed.amount.minor = charge.amount.minor

/-- What one step does to the charges and to the ledger. -/
inductive FeeDeed (input : Input) (db : Db) : FeeProcess → Db → Prop
  | spared : Spares db db' → FeeDeed input db process db'
  | posted : entries ≠ [] → ¬ Present (·.id) (posting.postingId, 0) db.ledgerEntries →
      (∀ entry ∈ entries, ∀ period, entry.ruleVersion ≠ some (.softwareFee period)) →
      db'.ledgerEntries = db.ledgerEntries ++ entryRows posting accounts 0 entries →
      db'.softwareFeeCharges = db.softwareFeeCharges → FeeDeed input db process db'
  | waived : db'.ledgerEntries = db.ledgerEntries →
      db'.softwareFeeCharges = update (owing merchantId period)
        (fun row => { row with status := .waived }) db.softwareFeeCharges →
      FeeDeed input db process db'
  | owed : db'.ledgerEntries = db.ledgerEntries →
      Charged db.softwareFeeCharges db'.softwareFeeCharges (arrearsRow charge) id →
      FeeDeed input db process db'
  | charged : Takes input db run charge →
      (findCharge db charge.merchantId charge.period).all
        (fun row => row.status = .arrears) = true →
      ¬ Present (·.id) (charge.postingId, 0) db.ledgerEntries →
      Charged db.softwareFeeCharges db'.softwareFeeCharges (paidRow charge) (payArrears charge) →
      db'.ledgerEntries = db.ledgerEntries ++
        entryRows (feePosting charge) accounts 0 (feeLegs charge) →
      FeeDeed input db (.sweep run) db'

theorem spares_refl (db : Db) : Spares db db :=
  ⟨rfl, rfl⟩

/-- Charging what is due spares the ledger, owes the fee or takes it. -/
theorem charge_deed (here : due input run = some charge)
    (went : unit input (fun db => chargeSoftwareFee db charge) db = (db', .ok outcome)) :
    FeeDeed input db (.sweep run) db' := by
  rcases chargeSoftwareFee_cases (unit_ok went) with ⟨_, rfl⟩ | ⟨owed, ⟨_, charges, _, _, charged,
    rfl⟩ | ⟨rows, charges, _, _, covered, _, _, fresh, charged, rfl⟩⟩
  · exact .spared (spares_refl _)
  · exact .owed rfl charged
  · exact .charged ⟨here, covered, ⟨_, _, went⟩⟩ owed fresh charged rfl

theorem sweep_deed (input : Input) (db : Db) (run : RunDueSoftwareFees) :
    FeeDeed input db (.sweep run) (run.step input db).1 := by
  unfold RunDueSoftwareFees.step
  split
  · simp only
    split
    · exact .spared (spares_refl db)
    · split <;> exact .spared (spares_refl db)
  · rename_i now _
    split
    · rename_i same
      obtain ⟨_, wrote, eq⟩ := map_ok.mp (unit_ok same)
      cases eq
      obtain ⟨_, rfl⟩ := writePlatformFeeSettings_ok wrote
      exact .spared (spares_refl _)
    · rename_i same
      cases unit_error same
      exact .spared (spares_refl _)
  · simp only
    split <;> exact .spared (spares_refl db)
  · exact .spared (spares_refl db)
  · rename_i now amount todo point
    split
    · exact .spared (spares_refl db)
    · rename_i merchantId rest
      split
      · rename_i same
        exact charge_deed (by simp only [due, point]) same
      · rename_i same
        cases unit_error same
        exact .spared (spares_refl _)
  · exact .spared (spares_refl db)
  · rename_i now todo point
    split
    · exact .spared (spares_refl db)
    · rename_i owed rest
      split
      · exact .spared (spares_refl db)
      · rename_i other
        split
        · rename_i same
          exact charge_deed (by simp only [due, point, other, if_false]) same
        · rename_i same
          cases unit_error same
          exact .spared (spares_refl _)
  · exact .spared (spares_refl db)
  · exact .spared (spares_refl db)

theorem fee_deed (moved : process.step input db = (db', process')) :
    FeeDeed input db process db' := by
  have after : (process.step input db).1 = db' := congrArg Prod.fst moved
  cases process with
  | sweep run =>
    rw [← after]
    exact sweep_deed input db run
  | waiver merchantId period reason =>
    rw [← after]
    simp only [FeeProcess.step, waiveCharge]
    split
    · exact .spared (spares_refl db)
    · exact .waived rfl rfl
  | operation operation other =>
    rw [← after]
    simp only [FeeProcess.step, Balances.perform]
    rcases commit_cases (fun db => (·, ()) <$> operation.unit db) db with
      ⟨next, _, done, same⟩ | ⟨_, _, same⟩
    · obtain ⟨_, ran, eq⟩ := map_ok.mp done
      cases eq
      rw [same]
      obtain ⟨_, _, _, some, fresh, feeless, grown, charges⟩ := Balances.unit_entries other ran
      exact .posted some fresh feeless grown charges
    · rw [same]
      exact .spared (spares_refl db)
  | elsewhere change spares =>
    rw [← after]
    exact .spared (spares db)

/-- Every posting has a first entry. -/
def Rooted (db : Db) : Prop :=
  ∀ row ∈ db.ledgerEntries, Present (·.id) (row.postingId, 0) db.ledgerEntries

/-- What holds of the charges and the ledger after every step: a month has one row, a posting has a
first entry, and a month is debited by the posting its paid row names and by no other. -/
structure Books (db : Db) : Prop where
  keys : Unique (fun charge => (charge.merchantId, charge.period)) db.softwareFeeCharges
  rooted : Rooted db
  paid : ∀ charge ∈ db.softwareFeeCharges, charge.status = .paid → ∃ entry,
    feeDebits db charge.merchantId charge.period = [entry] ∧
      charge.postingId = some entry.postingId
  unpaid : ∀ merchantId period, (∀ charge ∈ db.softwareFeeCharges,
    charge.merchantId = merchantId → charge.period = period → charge.status ≠ .paid) →
    feeDebits db merchantId period = []

theorem feeDebits_grown (grown : db'.ledgerEntries = db.ledgerEntries ++ rows)
    (merchantId : MerchantId) (period : Period) :
    feeDebits db' merchantId period = feeDebits db merchantId period ++ rows.filter fun row =>
      row.merchantId = some merchantId ∧ row.direction = .debit ∧
        row.ruleVersion = some (.softwareFee period) := by
  unfold feeDebits
  rw [grown, List.filter_append]

/-- Entries of no fee debit no month. -/
theorem feeDebits_feeless
    (grown : db'.ledgerEntries = db.ledgerEntries ++ entryRows posting accounts 0 entries)
    (feeless : ∀ entry ∈ entries, ∀ period, entry.ruleVersion ≠ some (.softwareFee period))
    (merchantId : MerchantId) (period : Period) :
    feeDebits db' merchantId period = feeDebits db merchantId period := by
  rw [feeDebits_grown grown]
  have none : (entryRows posting accounts 0 entries).filter (fun row =>
      row.merchantId = some merchantId ∧ row.direction = .debit ∧
        row.ruleVersion = some (.softwareFee period)) = [] := by
    refine List.filter_eq_nil_iff.mpr fun row mem => ?_
    obtain ⟨offset, entry, found, rfl⟩ := mem_entryRows.mp mem
    have other := feeless entry (List.mem_of_getElem? found) period
    simp [entryRow, other]
  rw [none, List.append_nil]

/-- The row that debits a shop its fee. -/
def debitRow (charge : ChargeInput) (accounts : List LedgerAccountRow) : LedgerEntryRow :=
  entryRow (feePosting charge) accounts 0
    { merchantLeg charge.merchantId .merchantAvailable none .debit charge.amount .feeDebit with
      ruleVersion := some (.softwareFee charge.period) }

/-- A fee debits the month it is for, once, and no other. -/
theorem feeDebits_charged
    (grown : db'.ledgerEntries = db.ledgerEntries ++
      entryRows (feePosting charge) accounts 0 (feeLegs charge))
    (merchantId : MerchantId) (period : Period) :
    feeDebits db' merchantId period = feeDebits db merchantId period ++
      if charge.merchantId = merchantId ∧ charge.period = period then
        [debitRow charge accounts] else [] := by
  rw [feeDebits_grown grown]
  congr 1
  by_cases here : charge.merchantId = merchantId ∧ charge.period = period
  · simp [feeLegs, entryRows, entryRow, debitRow, merchantLeg, platformLeg, here]
  · have apart : charge.merchantId = merchantId → charge.period ≠ period :=
      fun merchant same => here ⟨merchant, same⟩
    simp only [feeLegs, entryRows, entryRow, merchantLeg, platformLeg, List.filter_cons,
      List.filter_nil, owner_some, Option.some.injEq, RuleVersion.softwareFee.injEq, true_and,
      decide_eq_true_eq, here, if_false]
    simp

/-- A posting under a new id leaves what every posting there was debits as it was. -/
theorem debitedBy_old (posting : PostingInput) (rooted : Rooted db)
    (fresh : ¬ Present (·.id) (posting.postingId, 0) db.ledgerEntries)
    (grown : db'.ledgerEntries = db.ledgerEntries ++ entryRows posting accounts 0 entries)
    (old : ∃ row ∈ db.ledgerEntries, row.postingId = postingId) (merchantId : MerchantId) :
    debitedBy db' merchantId postingId = debitedBy db merchantId postingId := by
  obtain ⟨first, mem, same⟩ := old
  have apart : posting.postingId ≠ postingId := by
    intro hit
    rw [hit, ← same] at fresh
    exact fresh (rooted first mem)
  unfold debitedBy
  rw [grown, List.filter_append, total_append]
  have none : (entryRows posting accounts 0 entries).filter (fun row =>
      row.postingId = postingId ∧ row.merchantId = some merchantId ∧ row.direction = .debit) =
      [] := by
    refine List.filter_eq_nil_iff.mpr fun row mem => ?_
    obtain ⟨_, _, _, rfl⟩ := mem_entryRows.mp mem
    simp [entryRow, apart]
  rw [none, total_nil, Int.add_zero]

/-- The posting that takes a fee debits the shop the fee. -/
theorem debitedBy_charged (rooted : Rooted db)
    (fresh : ¬ Present (·.id) (charge.postingId, 0) db.ledgerEntries)
    (grown : db'.ledgerEntries = db.ledgerEntries ++
      entryRows (feePosting charge) accounts 0 (feeLegs charge)) :
    debitedBy db' charge.merchantId charge.postingId = charge.amount.minor := by
  have none : db.ledgerEntries.filter (fun row => row.postingId = charge.postingId ∧
      row.merchantId = some charge.merchantId ∧ row.direction = .debit) = [] := by
    refine List.filter_eq_nil_iff.mpr fun row mem => ?_
    simp only [decide_eq_true_eq]
    intro ⟨same, _⟩
    exact fresh (same ▸ rooted row mem)
  unfold debitedBy
  rw [grown, List.filter_append, none]
  simp [feeLegs, feePosting, entryRows, entryRow, merchantLeg, platformLeg]

theorem rooted_grown (rooted : Rooted db) (some : entries ≠ [])
    (grown : db'.ledgerEntries = db.ledgerEntries ++ entryRows posting accounts 0 entries) :
    Rooted db' := by
  intro row mem
  rw [grown] at mem ⊢
  rcases List.mem_append.mp mem with mem | mem
  · obtain ⟨first, found, same⟩ := rooted row mem
    exact ⟨first, List.mem_append_left _ found, same⟩
  · obtain ⟨_, _, _, rfl⟩ := mem_entryRows.mp mem
    cases entries with
    | nil => exact absurd rfl some
    | cons entry rest =>
      exact ⟨entryRow posting accounts 0 entry,
        List.mem_append_right _ (List.mem_cons_self ..), rfl⟩

/-- When a month's row is owed, every row of the month is. -/
theorem owed_arrears {db : Db}
    (keys : Unique (fun row => (row.merchantId, row.period)) db.softwareFeeCharges)
    (owed : (findCharge db merchantId period).all (fun row => row.status = .arrears) = true)
    (mem : row ∈ db.softwareFeeCharges) (merchant : row.merchantId = merchantId)
    (month : row.period = period) : row.status = .arrears := by
  unfold findCharge at owed
  cases found : db.softwareFeeCharges.find?
      (fun row => row.merchantId = merchantId ∧ row.period = period) with
  | none =>
    have missed := List.find?_eq_none.mp found row mem
    simp only [decide_eq_true_eq] at missed
    exact absurd ⟨merchant, month⟩ missed
  | some other =>
    have fits := List.find?_some found
    simp only [decide_eq_true_eq] at fits
    have one : other = row := keys.eq (List.mem_of_find?_eq_some found) mem
      (by rw [fits.1, fits.2, merchant, month])
    rw [found, one] at owed
    simpa using owed

/-- The rows a charge leaves: the ones there were, the month's own paid if it was owed, and the
charge's own if the month had none. -/
theorem mem_charged {charge : ChargeInput}
    (charged : Charged old new (paidRow charge) (payArrears charge)) (mem : row ∈ new) :
    (row ∈ old ∧ owing charge.merchantId charge.period row = false) ∨
    (row.merchantId = charge.merchantId ∧ row.period = charge.period ∧ row.status = .paid ∧
      row.postingId = some charge.postingId ∧
      ((∃ owed ∈ old, owed.merchantId = charge.merchantId ∧ owed.period = charge.period ∧
          owed.status = .arrears ∧ row.amount = owed.amount) ∨
        (∀ other ∈ old, ¬ (other.merchantId = charge.merchantId ∧ other.period = charge.period)) ∧
          row.amount = charge.amount)) := by
  rcases charged with ⟨_, rfl⟩ | ⟨absent, rfl⟩
  · obtain ⟨before, found, rfl⟩ := mem_update.mp mem
    by_cases hit : owing charge.merchantId charge.period before
    · have fits := hit
      simp only [owing, decide_eq_true_eq] at fits
      refine .inr ?_
      simp only [hit, if_true]
      exact ⟨fits.1, fits.2.1, trivial, trivial,
        .inl ⟨before, found, fits.1, fits.2.1, fits.2.2, rfl⟩⟩
    · refine .inl ?_
      simp only [hit, Bool.false_eq_true, if_false]
      exact ⟨found, by simpa using hit⟩
  · rcases List.mem_append.mp mem with mem | mem
    · refine .inl ⟨mem, ?_⟩
      have apart : ¬ (row.merchantId = charge.merchantId ∧ row.period = charge.period) :=
        absent row mem
      simp only [owing, decide_eq_false_iff_not]
      exact fun fits => apart ⟨fits.1, fits.2.1⟩
    · rw [List.mem_singleton.mp mem]
      exact .inr ⟨rfl, rfl, rfl, rfl, .inr ⟨absent, rfl⟩⟩

/-- Rewriting the month that is owed keeps every month's row its own. -/
theorem keys_charged {charges : List SoftwareFeeCharge} {conflict : List SoftwareFeeCharge →
      List SoftwareFeeCharge}
    (keys : Unique (fun row => (row.merchantId, row.period)) charges)
    (keeps : Unique (fun row => (row.merchantId, row.period)) (conflict charges))
    (charged : Charged charges new charge conflict) :
    Unique (fun row => (row.merchantId, row.period)) new := by
  rcases charged with ⟨_, rfl⟩ | ⟨absent, rfl⟩
  · exact keeps
  · refine keys.append fun old mem same => absent old mem ?_
    simpa using same

/-- The charges and the ledger stay in step when the debits and the paid rows do not change. -/
theorem Books.kept (books : Books db)
    (keys : Unique (fun row => (row.merchantId, row.period)) db'.softwareFeeCharges)
    (rooted : Rooted db')
    (debits : ∀ merchantId period, feeDebits db' merchantId period = feeDebits db merchantId period)
    (paid : ∀ row, row.status = .paid →
      (row ∈ db'.softwareFeeCharges ↔ row ∈ db.softwareFeeCharges)) : Books db' where
  keys := keys
  rooted := rooted
  paid := by
    intro charge mem status
    rw [debits]
    exact books.paid charge ((paid charge status).mp mem) status
  unpaid := by
    intro merchantId period none
    rw [debits]
    refine books.unpaid merchantId period fun charge mem merchant month status => ?_
    exact none charge ((paid charge status).mpr mem) merchant month status

theorem Rooted.same (rooted : Rooted db) (same : db'.ledgerEntries = db.ledgerEntries) :
    Rooted db' := by
  unfold Rooted
  rw [same]
  exact rooted

theorem feeDebits_same (same : db'.ledgerEntries = db.ledgerEntries) (merchantId : MerchantId)
    (period : Period) : feeDebits db' merchantId period = feeDebits db merchantId period := by
  unfold feeDebits
  rw [same]

/-- Waiving touches no paid row. -/
theorem paid_waived (status : row.status = .paid) :
    row ∈ update (owing merchantId period)
      (fun charge => { charge with status := .waived }) charges ↔ row ∈ charges := by
  constructor
  · intro mem
    obtain ⟨old, found, rfl⟩ := mem_update.mp mem
    by_cases hit : owing merchantId period old
    · simp [hit] at status
    · simpa [hit] using found
  · intro mem
    have kept := update_mem (owing merchantId period)
      (fun charge => { charge with status := .waived }) mem
    have missed : owing merchantId period row = false := by simp [owing, status]
    simpa [missed] using kept

/-- Recording arrears touches no paid row. -/
theorem paid_owed {charges : List SoftwareFeeCharge} {charge : ChargeInput}
    (charged : Charged charges new (arrearsRow charge) id) (status : row.status = .paid) :
    row ∈ new ↔ row ∈ charges := by
  rcases charged with ⟨_, rfl⟩ | ⟨_, rfl⟩
  · rfl
  · rw [List.mem_append, List.mem_singleton]
    constructor
    · rintro (mem | rfl)
      · exact mem
      · cases status
    · exact .inl

/-- Every step keeps the charges and the ledger in step. -/
theorem Books.deed (books : Books db) (deed : FeeDeed input db process db') : Books db' := by
  cases deed with
  | spared spares =>
    obtain ⟨ledger, charges⟩ := spares
    refine books.kept (charges ▸ books.keys) (books.rooted.same ledger) (feeDebits_same ledger) ?_
    intro row _
    rw [charges]
  | posted some fresh feeless grown charges =>
    refine books.kept (charges ▸ books.keys) (rooted_grown books.rooted some grown)
      (feeDebits_feeless grown feeless) ?_
    intro row _
    rw [charges]
  | waived ledger charges =>
    refine books.kept ?_ (books.rooted.same ledger) (feeDebits_same ledger) ?_
    · rw [charges]
      exact books.keys.update fun _ => rfl
    · intro row status
      rw [charges]
      exact paid_waived status
  | owed ledger charged =>
    refine books.kept (keys_charged books.keys books.keys charged) (books.rooted.same ledger)
      (feeDebits_same ledger) ?_
    intro row status
    exact paid_owed charged status
  | charged takes owed fresh charged grown =>
    rename_i run charge accounts
    have arrears : ∀ row ∈ db.softwareFeeCharges, row.merchantId = charge.merchantId →
        row.period = charge.period → row.status = .arrears := by
      intro row mem merchant month
      exact owed_arrears books.keys owed mem merchant month
    have none : feeDebits db charge.merchantId charge.period = [] := by
      refine books.unpaid _ _ fun row mem merchant month status => ?_
      rw [arrears row mem merchant month] at status
      cases status
    refine ⟨?_, rooted_grown books.rooted (by simp [feeLegs]) grown, ?_, ?_⟩
    · have keeps : Unique (fun row => (row.merchantId, row.period))
          (payArrears charge db.softwareFeeCharges) := books.keys.update fun _ => rfl
      exact keys_charged books.keys keeps charged
    · intro row mem status
      rcases mem_charged charged mem with ⟨old, other⟩ | ⟨merchant, month, _, named, _⟩
      · have apart : ¬ (charge.merchantId = row.merchantId ∧ charge.period = row.period) := by
          rintro ⟨merchant, month⟩
          rw [arrears row old merchant.symm month.symm] at status
          cases status
        obtain ⟨entry, only, posting⟩ := books.paid row old status
        refine ⟨entry, ?_, posting⟩
        rw [feeDebits_charged grown, if_neg apart, List.append_nil, only]
      · refine ⟨debitRow charge accounts, ?_, named⟩
        rw [feeDebits_charged grown, merchant, month, none, if_pos ⟨rfl, rfl⟩, List.nil_append]
    · intro merchantId period unpaid
      obtain ⟨row, mem, merchant, month, status, _⟩ := Balances.charged_paid owed charged
      have apart : ¬ (charge.merchantId = merchantId ∧ charge.period = period) := by
        rintro ⟨same, same'⟩
        exact unpaid row mem (merchant.trans same) (month.trans same') status
      rw [feeDebits_charged grown, if_neg apart, List.append_nil]
      refine books.unpaid merchantId period fun old found here here' status => ?_
      refine unpaid old ?_ here here' status
      rcases charged with ⟨_, after⟩ | ⟨_, after⟩
      · rw [after, payArrears]
        have kept := update_mem (owing charge.merchantId charge.period)
          (fun row => { row with
            status := .paid, postingId := some charge.postingId, chargedAt := some charge.now })
          found
        have missed : owing charge.merchantId charge.period old = false := by
          simp [owing, status]
        simpa [missed] using kept
      · rw [after]
        exact List.mem_append_left _ found

/-- A paid row names a posting that is in the ledger. -/
theorem Books.posted (books : Books db) (mem : charge ∈ db.softwareFeeCharges)
    (status : charge.status = .paid) (named : charge.postingId = some postingId) :
    ∃ row ∈ db.ledgerEntries, row.postingId = postingId := by
  obtain ⟨entry, only, posting⟩ := books.paid charge mem status
  rw [posting, Option.some.injEq] at named
  have found : entry ∈ feeDebits db charge.merchantId charge.period := by simp [only]
  exact ⟨entry, (List.mem_filter.mp found).1, named⟩

/-- Paid charges stay exact when they stay the same and so does what their postings debited. -/
theorem Exact.kept (exact : Exact db) (books : Books db)
    (paid : ∀ row ∈ db'.softwareFeeCharges, row.status = .paid → row ∈ db.softwareFeeCharges)
    (debits : ∀ merchantId postingId, (∃ row ∈ db.ledgerEntries, row.postingId = postingId) →
      debitedBy db' merchantId postingId = debitedBy db merchantId postingId) : Exact db' := by
  intro charge mem status
  have old := paid charge mem status
  obtain ⟨postingId, named, amount⟩ := exact charge old status
  refine ⟨postingId, named, ?_⟩
  rw [debits _ _ (books.posted old status named)]
  exact amount

theorem debitedBy_same (same : db'.ledgerEntries = db.ledgerEntries) (merchantId : MerchantId)
    (postingId : PostingId) :
    debitedBy db' merchantId postingId = debitedBy db merchantId postingId := by
  unfold debitedBy
  rw [same]

/-- Taking a fee leaves paid charges exact exactly when a month that is owed is owed that amount. -/
theorem exact_charged {charge : ChargeInput} (books : Books db) (exact : Exact db)
    (owed : (findCharge db charge.merchantId charge.period).all
      (fun row => row.status = .arrears) = true)
    (fresh : ¬ Present (·.id) (charge.postingId, 0) db.ledgerEntries)
    (charged : Charged db.softwareFeeCharges db'.softwareFeeCharges (paidRow charge)
      (payArrears charge))
    (grown : db'.ledgerEntries = db.ledgerEntries ++
      entryRows (feePosting charge) accounts 0 (feeLegs charge)) :
    Exact db' ↔ ∀ row, findCharge db charge.merchantId charge.period = some row →
      row.amount.minor = charge.amount.minor := by
  have here := debitedBy_charged books.rooted fresh grown
  constructor
  · intro after row found
    have fits := List.find?_some found
    simp only [decide_eq_true_eq] at fits
    have mem := List.mem_of_find?_eq_some found
    have arrears := owed_arrears books.keys owed mem fits.1 fits.2
    have kept : { row with
        status := .paid, postingId := some charge.postingId, chargedAt := some charge.now } ∈
        db'.softwareFeeCharges := by
      rcases charged with ⟨_, eq⟩ | ⟨absent, _⟩
      · rw [eq, payArrears]
        have moved := update_mem (owing charge.merchantId charge.period)
          (fun row => { row with
            status := .paid, postingId := some charge.postingId,
            chargedAt := some charge.now }) mem
        have hit : owing charge.merchantId charge.period row = true := by
          simp [owing, fits, arrears]
        simpa [hit] using moved
      · exact absurd fits (absent row mem)
    obtain ⟨postingId, named, amount⟩ := after _ kept rfl
    cases named
    rw [← amount]
    simp only [fits.1]
    exact here
  · intro same row mem status
    rcases mem_charged charged mem with ⟨old, _⟩ | ⟨merchant, _, _, named, owes⟩
    · obtain ⟨postingId, named, amount⟩ := exact row old status
      refine ⟨postingId, named, ?_⟩
      rw [debitedBy_old (feePosting charge) books.rooted fresh grown
        (books.posted old status named)]
      exact amount
    · refine ⟨_, named, ?_⟩
      rw [merchant, here]
      rcases owes with ⟨before, mem', merchant', month', _, amount⟩ | ⟨_, amount⟩
      · cases found : findCharge db charge.merchantId charge.period with
        | none =>
          have missed := List.find?_eq_none.mp found before mem'
          simp only [decide_eq_true_eq] at missed
          exact absurd ⟨merchant', month'⟩ missed
        | some other =>
          have fits := List.find?_some found
          simp only [decide_eq_true_eq] at fits
          have one : before = other := books.keys.eq mem' (List.mem_of_find?_eq_some found)
            (by rw [merchant', month', fits.1, fits.2])
          rw [amount, one, same other found]
      · rw [amount]

/-- A step leaves paid charges exact, or takes a fee. -/
theorem exact_deed (books : Books db) (exact : Exact db) (deed : FeeDeed input db process db') :
    Exact db' ∨ ∃ run charge, process = .sweep run ∧ Takes input db run charge ∧
      (findCharge db charge.merchantId charge.period).all
        (fun row => row.status = .arrears) = true ∧
      (Exact db' ↔ ∀ row, findCharge db charge.merchantId charge.period = some row →
        row.amount.minor = charge.amount.minor) := by
  cases deed with
  | spared spares =>
    obtain ⟨ledger, charges⟩ := spares
    exact .inl (exact.kept books (fun _ mem _ => charges ▸ mem)
      fun _ _ _ => debitedBy_same ledger _ _)
  | posted some fresh feeless grown charges =>
    exact .inl (exact.kept books (fun _ mem _ => charges ▸ mem) fun _ _ old =>
      debitedBy_old _ books.rooted fresh grown old _)
  | waived ledger charges =>
    refine .inl (exact.kept books (fun row mem status => ?_) fun _ _ _ => debitedBy_same ledger _ _)
    rw [charges] at mem
    exact (paid_waived status).mp mem
  | owed ledger charged =>
    exact .inl (exact.kept books (fun row mem status => (paid_owed charged status).mp mem)
      fun _ _ _ => debitedBy_same ledger _ _)
  | charged takes owed fresh charged grown =>
    exact .inr ⟨_, _, rfl, takes, owed, exact_charged books exact owed fresh charged grown⟩

/-- A sweep with a charge due makes it. -/
theorem step_due (here : due input run = some charge) (db : Db) :
    (run.step input db).1 = (unit input (fun db => chargeSoftwareFee db charge) db).1 := by
  unfold due at here
  unfold RunDueSoftwareFees.step
  split at here
  · rename_i point
    cases here
    simp only [point]
    split <;> (rename_i same; rw [same])
  · rename_i point
    split at here
    · cases here
    · rename_i other
      cases here
      simp only [point, other, if_false]
      split <;> (rename_i same; rw [same])
  · cases here

/-- A fee that is taken for a month in arrears is paid. -/
theorem takes_charged (takes : Takes input db run charge)
    (found : findCharge db charge.merchantId charge.period = some owed)
    (arrears : owed.status = .arrears) :
    ∃ accounts, ¬ Present (·.id) (charge.postingId, 0) db.ledgerEntries ∧
      Charged db.softwareFeeCharges (run.step input db).1.softwareFeeCharges (paidRow charge)
        (payArrears charge) ∧
      (run.step input db).1.ledgerEntries = db.ledgerEntries ++
        entryRows (feePosting charge) accounts 0 (feeLegs charge) := by
  obtain ⟨here, covered, next, outcome, went⟩ := takes
  have after : (run.step input db).1 = next := by rw [step_due here, went]
  rw [after]
  have owes : (findCharge db charge.merchantId charge.period).any
      (fun row => row.status ≠ .arrears) = false := by simp [found, arrears]
  rcases chargeSoftwareFee_cases (unit_ok went) with ⟨told, _⟩ | ⟨_, ⟨_, _, _, short, _⟩ |
    ⟨rows, charges, _, _, _, _, _, fresh, charged, rfl⟩⟩
  · have done := unit_ok went
    unfold chargeSoftwareFee at done
    rw [owes, told] at done
    simp only [Bool.false_eq_true, if_false, bind_ok] at done
    obtain ⟨_, _, done⟩ := done
    split at done
    · simp only [bind_ok, pure_ok, Prod.mk.injEq] at done
      obtain ⟨_, _, _, other⟩ := done
      cases other
    · simp only [bind_ok, pure_ok, Prod.mk.injEq] at done
      obtain ⟨_, _, _, _, _, _, _, other⟩ := done
      cases other
  · omega
  · exact ⟨_, fresh, charged, rfl⟩

/-- A step leaves the database alone, because something started or died, or is one atomic step. -/
theorem charging_deed (step : Charging w event w') :
    w'.store = w.store ∨ ∃ slot input process, event = .act slot input ∧
      w.proc slot = some process ∧ FeeDeed input w.store process w'.store := by
  cases step with
  | start _ => exact .inl rfl
  | act here _ moved => exact .inr ⟨_, _, _, rfl, here, fee_deed moved⟩
  | crash => exact .inl rfl

theorem books_step (w : World Db FeeProcess) (event : Event Input FeeProcess)
    (w' : World Db FeeProcess) (books : Books w.store) (step : Charging w event w') :
    Books w'.store := by
  rcases charging_deed step with same | ⟨slot, input, process, _, _, deed⟩
  · rw [same]
    exact books
  · exact books.deed deed

theorem begins_books (w : World Db FeeProcess) (begins : Begins w) : Books w.store := by
  obtain ⟨⟨charges, entries⟩, _⟩ := begins
  refine ⟨?_, ?_, ?_, ?_⟩
  · rw [charges]
    exact List.nodup_nil
  · simp [Rooted, entries]
  · simp [charges]
  · simp [feeDebits, entries]

/-- A month is debited at most once. -/
theorem Books.once (books : Books db) (merchantId : MerchantId) (period : Period) :
    (feeDebits db merchantId period).length ≤ 1 := by
  by_cases paid : ∃ charge ∈ db.softwareFeeCharges,
      charge.merchantId = merchantId ∧ charge.period = period ∧ charge.status = .paid
  · obtain ⟨charge, mem, rfl, rfl, status⟩ := paid
    obtain ⟨entry, only, _⟩ := books.paid charge mem status
    rw [only]
    exact Nat.le_refl 1
  · rw [books.unpaid merchantId period fun charge mem merchant month status =>
      paid ⟨charge, mem, merchant, month, status⟩]
    exact Nat.zero_le 1

/-- A month that is waived is not debited. -/
theorem Books.waived (books : Books db) (mem : charge ∈ db.softwareFeeCharges)
    (status : charge.status = .waived) :
    feeDebits db charge.merchantId charge.period = [] := by
  refine books.unpaid _ _ fun other found merchant month paid => ?_
  have one : other = charge := books.keys.eq found mem (by rw [merchant, month])
  rw [one, status] at paid
  cases paid

/-- A waived charge stays as it is. -/
theorem waived_stays (deed : FeeDeed input db process db') (mem : row ∈ db.softwareFeeCharges)
    (status : row.status = .waived) : row ∈ db'.softwareFeeCharges := by
  have missed : ∀ merchantId period, owing merchantId period row = false := by
    simp [owing, status]
  cases deed with
  | spared spares =>
    rw [spares.2]
    exact mem
  | posted _ _ _ _ charges =>
    rw [charges]
    exact mem
  | waived _ charges =>
    rw [charges]
    refine mem_update.mpr ⟨row, mem, ?_⟩
    simp [missed]
  | owed _ charged =>
    rcases charged with ⟨_, after⟩ | ⟨_, after⟩
    · rw [after]
      exact mem
    · rw [after]
      exact List.mem_append_left _ mem
  | charged takes owed fresh charged grown =>
    rcases charged with ⟨_, after⟩ | ⟨_, after⟩
    · rw [after, payArrears]
      refine mem_update.mpr ⟨row, mem, ?_⟩
      simp [missed]
    · rw [after]
      exact List.mem_append_left _ mem

/-- A step keeps paid charges exact exactly when it takes what is owed. -/
theorem exact_step (books : Books w.store) (exact : Exact w.store) (step : Charging w event w') :
    Exact w'.store ↔ TakesWhatIsOwed ⟨w, event, w'⟩ := by
  constructor
  · intro after slot input run charge acted there takes owed found arrears
    dsimp only at acted there takes found
    subst acted
    cases step with
    | act here _ moved =>
      rw [here] at there
      cases there
      have left : (run.step input w.store).1 =
          (feeServices.advance input w.store (.sweep run)).1 := rfl
      rw [moved] at left
      obtain ⟨accounts, fresh, charged, grown⟩ := takes_charged takes found arrears
      rw [left] at charged grown
      have owes : (findCharge w.store charge.merchantId charge.period).all
          (fun row => row.status = .arrears) = true := by simp [found, arrears]
      exact (exact_charged books exact owes fresh charged grown).mp after owed found
  · intro owes
    rcases charging_deed step with same | ⟨slot, input, process, acted, here, deed⟩
    · rw [same]
      exact exact
    · rcases exact_deed books exact deed with after | ⟨run, charge, rfl, takes, arrears, iff⟩
      · exact after
      · refine iff.mpr fun row found => ?_
        rw [found] at arrears
        exact owes slot input run charge acted here takes row found (by simpa using arrears)

/-- Every month is debited from a shop at most once and never after it was waived; and every paid
charge records what its posting debited exactly as long as no fee is taken, for a month in
arrears, at another amount than the one owed. -/
theorem rightly_iff {past : List FeeStep} (run : Run Begins Charging past w) :
    (∀ taken ∈ past, Rightly taken) ↔ ∀ taken ∈ past, TakesWhatIsOwed taken := by
  have exact : (∀ taken ∈ past, Exact taken.after.store) ↔
      ∀ taken ∈ past, TakesWhatIsOwed taken := by
    refine run.always_iff (I := fun w => Exact w.store) begins_books books_step ?_ ?_
    · intro w begins charge mem
      rw [begins.1.charges] at mem
      cases mem
    · exact fun w event w' books exact step => exact_step books exact step
  constructor
  · intro rightly
    exact exact.mp fun taken mem => (rightly taken mem).exact
  · intro owes taken mem
    obtain ⟨before, step, after⟩ := run.taken begins_books books_step taken mem
    refine ⟨after.once, fun charge found status => ?_, exact.mpr owes taken mem⟩
    have stays : charge ∈ taken.after.store.softwareFeeCharges := by
      rcases charging_deed step with same | ⟨_, _, _, _, _, deed⟩
      · rw [same]
        exact found
      · exact waived_stays deed found status
    exact ⟨stays, after.waived stays status⟩

/-- September's fee, charged to every active shop. -/
def september : FeeProcess :=
  .sweep { result := { period := ⟨2026, 9⟩ }, point := .settings }

/-- Two thousand birr deposited for the shop. -/
def topUp : FeeProcess :=
  .operation
    (.fundMerchant { merchantId := "shop", amount := ⟨200000, by decide⟩, now := 0,
                     correlationId := "deposit", postingId := "deposit" })
    (by intro input same; cases same)

/-- The fee raised to fifteen hundred birr. -/
def raise : FeeProcess :=
  .elsewhere
    (fun db => { db with
      platformFeeSettings := { db.platformFeeSettings with softwareFee := ⟨150000, by decide⟩ } })
    fun _ => ⟨rfl, rfl⟩

/-- A shop that cannot pay falls into arrears; the fee is raised; the shop is funded, and the same
month is charged again. -/
def raisedMeanwhile : List (Event Input FeeProcess) :=
  let drawn := fun tag => drawing tag .indeterminate .success 0
  [.start september, .act 0 (drawn "a"), .act 0 (drawn "b"), .act 0 (drawn "c"),
   .start raise, .act 1 (drawn "d"), .start topUp, .act 2 (drawn "e"),
   .start september, .act 3 (drawn "f"), .act 3 (drawn "g"), .act 3 (drawn "h")]

def oneShop : Db :=
  { migrated with merchants := [⟨"shop", .active⟩] }

def raisedMeanwhileRun : List FeeStep × World Db FeeProcess :=
  played (World.next feeServices) raisedMeanwhile [] ⟨oneShop, []⟩

theorem raisedMeanwhile_runs : Run Begins Charging raisedMeanwhileRun.1 raisedMeanwhileRun.2 := by
  have opening : Run Begins Charging [] ⟨oneShop, []⟩ := .start ⟨⟨rfl, rfl⟩, rfl⟩
  have playable : Playable (World.May (fun _ => FeeProcess.Starting) fun _ _ _ => True)
      (World.next feeServices) raisedMeanwhile ⟨oneShop, []⟩ := by decide
  exact opening.play Pool.next playable

theorem raisedMeanwhile_misstates : ∃ taken ∈ raisedMeanwhileRun.1, ¬ Rightly taken := by
  refine ⟨_, List.mem_cons_self .., fun rightly => ?_⟩
  have misstated : ∃ charge ∈ raisedMeanwhileRun.2.store.softwareFeeCharges,
      charge.status = .paid ∧ charge.amount.minor = 125000 ∧
      charge.postingId = some "h1" ∧
      debitedBy raisedMeanwhileRun.2.store charge.merchantId "h1" = 150000 := by
    decide +kernel
  obtain ⟨charge, mem, status, amount, named, debited⟩ := misstated
  obtain ⟨postingId, named', exact⟩ := rightly.exact charge mem status
  rw [named, Option.some.injEq] at named'
  have same : debitedBy raisedMeanwhileRun.2.store charge.merchantId "h1" =
    charge.amount.minor := named' ▸ exact
  omega

/-- A month in arrears charged again at a new fee is recorded as paid at the old one. -/
theorem raised_fee_misstated : ¬ ∀ past w,
    Run Begins Charging past w → ∀ taken ∈ past, Rightly taken := by
  intro always
  obtain ⟨taken, mem, misstated⟩ := raisedMeanwhile_misstates
  exact misstated (always _ _ raisedMeanwhile_runs taken mem)

theorem raisedMeanwhile_not_owed : ¬ ∀ taken ∈ raisedMeanwhileRun.1, TakesWhatIsOwed taken := by
  intro owes
  obtain ⟨taken, mem, misstated⟩ := raisedMeanwhile_misstates
  exact misstated ((rightly_iff raisedMeanwhile_runs).mpr owes taken mem)

end Telga.Proofs.SoftwareFees
