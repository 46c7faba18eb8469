import Telga.Proofs.DepositTurns

namespace Telga.Proofs
open Domain Persistence Application Library

/-- A database of deposits with the requests at work on it. -/
abbrev DepositWorld := World DepositDb DepositProcess

/-- A step of the deposits as it was taken. -/
abbrev DepositTaken := Taken DepositWorld (Event DepositInput DepositProcess)

/-- The tables' keys hold, and every request at work is of an allowed kind and right about what it
read. -/
abbrev DepositSecure (allowed : List DepositService) : DepositWorld → Prop :=
  Secure DepositSound fun db process => process.service ∈ allowed ∧ KnownDeposit db process

theorem deposit_secure (w : DepositWorld) (event : Event DepositInput DepositProcess)
    (w' : DepositWorld) (secure : DepositSecure allowed w)
    (step : DepositStep allowed w event w') : DepositSecure allowed w' := by
  refine Secure.step (R := fun db db' => ∃ filing, Filed db filing db') ?_ ?_ ?_ w event w' secure
    step
  · intro db process _ starting
    exact ⟨starting.1, known_starting starting.2⟩
  · intro input db process sound known _
    obtain ⟨filing, filed, _, after⟩ := deposit_turn sound known.2 input
    exact ⟨filed.sound sound, ⟨by rw [depositServer, DepositProcess.step_service]; exact known.1,
      after⟩, filing, filed⟩
  · intro db db' process _ known ⟨filing, filed⟩
    exact ⟨known.1, known_others known.2 filed⟩

/-- A step of the deposits files something, on behalf of the request that takes it, or leaves the
database alone. -/
theorem deposit_filed (secure : DepositSecure allowed w)
    (step : DepositStep allowed w event w') :
    (w'.store = w.store ∧ ∀ slot input, event ≠ .act slot input) ∨
    ∃ slot input process filing, event = .act slot input ∧ w.proc slot = some process ∧
      process.service ∈ allowed ∧ KnownDeposit w.store process ∧
      w'.store = (process.step input w.store).1 ∧
      Filed w.store filing w'.store ∧ filing.By input w.store process := by
  rcases step.acted with still | ⟨slot, input, process, rfl, here, _, rfl⟩
  · exact .inl still
  · obtain ⟨allowed, known⟩ := secure.2 process (World.proc_mem here)
    obtain ⟨filing, filed, done, _⟩ := deposit_turn secure.1 known input
    exact .inr ⟨slot, input, process, filing, rfl, here, allowed, known, rfl, filed, done⟩

/-- The requests that order, call off and settle deposits. -/
def ordering : List DepositService :=
  [.startChapaDeposit, .orderBankDeposit, .cancelBankDeposit, .expireTopupOrders,
    .settleChapaDeposit]

/-- What the ledger holds under a payment's posting. -/
def postedFor (db : DepositDb) (reference : String) : List LedgerEntryRow :=
  db.ledgerEntries.filter fun row => row.postingId = chapaPosting reference

/-- The credited submissions that quote a reference. -/
def creditedFor (db : DepositDb) (reference : String) : List FundingSubmissionRow :=
  db.fundingSubmissions.filter fun row => row.quotedReference = reference ∧ row.status = .credited

/-- The two entries a deposit of an order is: the shop's balance up by its amount, the bank
clearing account down by as much. -/
structure BalancedPair (order : TopupOrderRow) (credit debit : LedgerEntryRow) : Prop where
  merchant : credit.merchantId = some order.merchantId
  available : credit.accountType = .merchantAvailable
  up : credit.direction = .credit
  amount : credit.amount.minor = order.amountMinor
  clearing : debit.accountType = .bankClearing
  down : debit.direction = .debit
  balanced : debit.amount = credit.amount
  reasons : credit.entryType = .fundingCredit ∧ debit.entryType = .fundingCredit

/-- All three are there: the pair in the ledger, the order paid and linked, the submission
credited. -/
structure AllPresent (db : DepositDb) (order : TopupOrderRow) : Prop where
  paid : order.status = .paid
  pair : ∃ credit debit, postedFor db order.reference = [credit, debit] ∧
    BalancedPair order credit debit
  submission : ∃ row, creditedFor db order.reference = [row] ∧
    order.fundingSubmissionId = some row.id ∧ row.merchantId = some order.merchantId ∧
    row.bankAmountMinor = some order.amountMinor

/-- None of the three is there. -/
structure AllAbsent (db : DepositDb) (order : TopupOrderRow) : Prop where
  unpaid : order.status ≠ .paid
  unlinked : order.fundingSubmissionId = none
  unposted : postedFor db order.reference = []
  unsubmitted : creditedFor db order.reference = []

/-- Before the first order: no orders, no submissions, nothing posted for a payment, and nobody at
work. -/
structure BeforeOrders (w : DepositWorld) : Prop where
  orders : w.store.topupOrders = []
  submissions : w.store.fundingSubmissions = []
  unposted : ∀ row ∈ w.store.ledgerEntries, ∀ reference, row.postingId ≠ chapaPosting reference
  idle : w.procs = []

/-- Every order has all of its credit or none of it, and no credit is without its order. -/
structure Whole (db : DepositDb) : Prop where
  each : ∀ order ∈ db.topupOrders, AllPresent db order ∨ AllAbsent db order
  posted : ∀ row ∈ db.ledgerEntries, ∀ reference, row.postingId = chapaPosting reference →
    ∃ order ∈ db.topupOrders, order.reference = reference
  submitted : ∀ row ∈ db.fundingSubmissions, row.status = .credited →
    ∃ order ∈ db.topupOrders, order.reference = row.quotedReference

theorem chapaPosting_inj (same : chapaPosting a = chapaPosting b) : a = b := by
  unfold chapaPosting at same
  exact String.append_right_inj _ |>.mp same

/-- The rows a deposit adds to the ledger. -/
def fundingRows (funding : MovementInput) (accounts : List LedgerAccountRow) :
    List LedgerEntryRow :=
  entryRows (movementPosting funding (fundingLegs funding)) accounts 0 (fundingLegs funding)

theorem Funded.entries (funded : Funded funding db db') :
    ∃ accounts, db'.ledgerEntries = db.ledgerEntries ++ fundingRows funding accounts := by
  obtain ⟨_, rows, _, rfl⟩ := funded
  exact ⟨db.ledgerAccounts ++ rows, rfl⟩

theorem fundingRows_posting (funding : MovementInput) (accounts : List LedgerAccountRow) :
    ∀ row ∈ fundingRows funding accounts, row.postingId = funding.postingId := by
  intro row mem
  simp only [fundingRows, fundingLegs, entryRows, List.mem_cons, List.not_mem_nil, or_false] at mem
  rcases mem with rfl | rfl <;> rfl

theorem fundingRows_pair (accounts : List LedgerAccountRow)
    (merchant : funding.merchantId = order.merchantId)
    (amount : funding.amount.minor = order.amountMinor) :
    ∃ credit debit, fundingRows funding accounts = [credit, debit] ∧
      BalancedPair order credit debit := by
  refine ⟨_, _, rfl, ?_⟩
  exact { merchant := congrArg some merchant, available := rfl, up := rfl, amount,
          clearing := rfl, down := rfl, balanced := rfl, reasons := ⟨rfl, rfl⟩ }

theorem whole_before {w : DepositWorld} (before : BeforeOrders w) :
    Whole w.store ∧ DepositSecure ordering w := by
  have sound : DepositSound w.store :=
    { orders := by simp [before.orders, Library.Unique]
      references := by simp [before.orders, Library.Unique]
      submissions := by simp [before.submissions, Library.Unique]
      unlinked := by simp [before.orders]
      credited := by simp [before.submissions] }
  refine ⟨⟨?_, ?_, ?_⟩, sound, ?_⟩
  · simp [before.orders]
  · exact fun row mem reference same => absurd same (before.unposted row mem reference)
  · simp [before.submissions]
  · simp [before.idle]

theorem BalancedPair.same (pair : BalancedPair order credit debit) (same : SameTopup order row) :
    BalancedPair row credit debit :=
  { pair with
    merchant := by rw [same.merchant]; exact pair.merchant
    amount := by rw [same.amount]; exact pair.amount }

/-- Neither moving the row of an order nor other payments' rows come between an order and its
credit. -/
theorem AllPresent.moved (present : AllPresent db order) (moved : TopupMoved order row)
    (link : row.fundingSubmissionId = order.fundingSubmissionId)
    (posted : postedFor db' order.reference = postedFor db order.reference)
    (submitted : creditedFor db' order.reference = creditedFor db order.reference) :
    AllPresent db' row := by
  obtain ⟨paid, ⟨credit, debit, rows, pair⟩, submission⟩ := present
  have status : row.status = .paid := by
    rcases moved.status with same | ⟨opened, _⟩
    · exact same.1.trans paid
    · rw [paid] at opened
      cases opened
  refine ⟨status, ⟨credit, debit, ?_, ?_⟩, ?_⟩
  · rw [moved.reference, posted, rows]
  · exact pair.same moved.toSameTopup
  · rw [moved.reference, moved.merchant, moved.amount, link, submitted]
    exact submission

theorem AllAbsent.moved (absent : AllAbsent db order) (moved : TopupMoved order row)
    (unpaid : row.status ≠ .paid) (link : row.fundingSubmissionId = order.fundingSubmissionId)
    (posted : postedFor db' order.reference = postedFor db order.reference)
    (submitted : creditedFor db' order.reference = creditedFor db order.reference) :
    AllAbsent db' row := by
  refine ⟨unpaid, link.trans absent.unlinked, ?_, ?_⟩
  · rw [moved.reference, posted, absent.unposted]
  · rw [moved.reference, submitted, absent.unsubmitted]

/-- A row rewritten without becoming paid keeps all of its credit or none of it. -/
theorem all_or_none_moved (either : AllPresent db order ∨ AllAbsent db order)
    (moved : TopupMoved order row) (link : row.fundingSubmissionId = order.fundingSubmissionId)
    (unpaid : order.status ≠ .paid → row.status ≠ .paid)
    (posted : postedFor db' order.reference = postedFor db order.reference)
    (submitted : creditedFor db' order.reference = creditedFor db order.reference) :
    AllPresent db' row ∨ AllAbsent db' row := by
  rcases either with present | absent
  · exact .inl (present.moved moved link posted submitted)
  · exact .inr (absent.moved moved (unpaid absent.unpaid) link posted submitted)

/-- Steps that leave the ledger and the submissions alone and pay no order. -/
theorem whole_rewritten (whole : Whole db) {hit : TopupOrderRow → Bool}
    {change : TopupOrderRow → TopupOrderRow}
    (moves : ∀ row, hit row = true → TopupMoved row (change row) ∧
      (change row).fundingSubmissionId = row.fundingSubmissionId ∧
      (row.status ≠ .paid → (change row).status ≠ .paid)) :
    Whole { db with topupOrders := update hit change db.topupOrders } := by
  have moved : ∀ row, TopupMoved row (if hit row then change row else row) ∧
      (if hit row then change row else row).fundingSubmissionId = row.fundingSubmissionId ∧
      (row.status ≠ .paid → (if hit row then change row else row).status ≠ .paid) := by
    intro row
    split
    · rename_i struck
      exact moves row struck
    · exact ⟨.refl row, rfl, id⟩
  have still : ∀ reference, (∃ order ∈ db.topupOrders, order.reference = reference) →
      ∃ order ∈ update hit change db.topupOrders, order.reference = reference := by
    rintro _ ⟨order, mem, rfl⟩
    exact ⟨_, update_mem hit change mem, (moved order).1.reference⟩
  refine ⟨fun row mem => ?_, fun row mem reference same => still _ (whole.posted row mem _ same),
    fun row mem credited => still _ (whole.submitted row mem credited)⟩
  obtain ⟨order, there, rfl⟩ := mem_update.mp mem
  obtain ⟨same, link, unpaid⟩ := moved order
  exact all_or_none_moved (whole.each order there) same link unpaid rfl rfl

theorem whole_opened (whole : Whole db)
    (fresh : ∀ old ∈ db.topupOrders, old.id ≠ row.id ∧ old.reference ≠ row.reference)
    (opened : row.status = .opened) (unlinked : row.fundingSubmissionId = none) :
    Whole { db with topupOrders := db.topupOrders ++ [row] } := by
  have still : ∀ reference, (∃ order ∈ db.topupOrders, order.reference = reference) →
      ∃ order ∈ db.topupOrders ++ [row], order.reference = reference := by
    rintro _ ⟨order, mem, rfl⟩
    exact ⟨order, List.mem_append_left _ mem, rfl⟩
  refine ⟨fun order mem => ?_, fun row mem reference same => still _ (whole.posted row mem _ same),
    fun row mem credited => still _ (whole.submitted row mem credited)⟩
  rcases List.mem_append.mp mem with mem | mem
  · exact all_or_none_moved (whole.each order mem) (.refl order) rfl id rfl rfl
  · cases List.mem_singleton.mp mem
    refine .inr ⟨by simp [opened], unlinked, ?_, ?_⟩
    · refine List.filter_eq_nil_iff.mpr fun entry there same => ?_
      simp only [decide_eq_true_eq] at same
      obtain ⟨order, mem, taken⟩ := whole.posted entry there _ same
      exact (fresh order mem).2 taken
    · refine List.filter_eq_nil_iff.mpr fun submission there same => ?_
      simp only [decide_eq_true_eq] at same
      obtain ⟨order, mem, taken⟩ := whole.submitted submission there same.2
      exact (fresh order mem).2 (taken.trans same.1)

/-- A credit that is an open order's: its shop, its amount, its posting, its reference. -/
structure Answers (order : TopupOrderRow) (reference : String) (submission : FundingSubmissionRow)
    (funding : MovementInput) : Prop where
  reference : order.reference = reference
  opened : order.status = .opened
  merchant : funding.merchantId = order.merchantId
  amount : funding.amount.minor = order.amountMinor
  posting : funding.postingId = chapaPosting order.reference
  quoted : submission.quotedReference = order.reference
  credited : submission.status = .credited
  shop : submission.merchantId = some order.merchantId
  banked : submission.bankAmountMinor = some order.amountMinor

/-- A settlement answers the order it read, and the gateway vouched for it. -/
theorem settled_answers (sound : DepositSound db) (known : KnownSettlement db call)
    (settled : SettledBy input db call reference submission funding) :
    ∃ order ∈ db.topupOrders, Answers order reference submission funding ∧
      ∃ copy payment, call.point = .settling copy payment order.amountMinor ∧
        call.reference = order.reference ∧
        Vouched call.deps.toUpperCase payment order.reference order.amountMinor := by
  obtain ⟨rfl, ⟨order, mem, named, opened⟩, copy, payment, amount, here, rfl, rfl⟩ := settled
  simp only [KnownSettlement, here] at known
  obtain ⟨⟨row, there, same⟩, asked, decided⟩ := known
  -- The references are unique, so the open order is the one that was read.
  have one : row = order := by
    refine sound.references.eq there mem ?_
    rw [same.reference, asked, named]
  subst one
  obtain ⟨_, minor, vouched⟩ := decideChapaCredit_credit.mp decided
  simp only at minor vouched
  rw [← same.amount] at minor
  refine ⟨row, mem, ⟨named, opened, same.merchant.symm, minor, congrArg chapaPosting named.symm,
    named.symm, rfl, congrArg some same.merchant.symm, congrArg some minor⟩, copy, payment, ?_,
    named.symm, ?_⟩
  · rw [← minor]
    exact here
  · rw [same.reference, same.amount]
    exact vouched

theorem postedFor_funded (db : DepositDb) (orders : List TopupOrderRow)
    (submissions : List FundingSubmissionRow) (funded : Funded funding db.toDb base)
    (reference : String) :
    ∃ accounts, postedFor { db with
        toDb := base, fundingSubmissions := submissions, topupOrders := orders } reference =
      postedFor db reference ++
        if funding.postingId = chapaPosting reference then fundingRows funding accounts else [] := by
  obtain ⟨accounts, entries⟩ := funded.entries
  refine ⟨accounts, ?_⟩
  have postings := fundingRows_posting funding accounts
  simp only [postedFor, entries, List.filter_append]
  congr 1
  split
  · rename_i same
    refine List.filter_eq_self.mpr fun row mem => ?_
    simp [postings row mem, same]
  · rename_i apart
    refine List.filter_eq_nil_iff.mpr fun row mem => ?_
    simp [postings row mem, apart]

theorem creditedFor_added (db : DepositDb) (base : Db) (orders : List TopupOrderRow)
    (credited : submission.status = .credited) (reference : String) :
    creditedFor { db with
        toDb := base
        fundingSubmissions := db.fundingSubmissions ++ [submission], topupOrders := orders }
      reference =
    creditedFor db reference ++
      if submission.quotedReference = reference then [submission] else [] := by
  simp only [creditedFor, List.filter_append]
  congr 1
  split
  · rename_i same
    simp [same, credited]
  · rename_i apart
    simp [apart]

/-- Crediting an open order brings the three parts of its credit at once, and no other order's. -/
theorem whole_credited (sound : DepositSound db) (whole : Whole db) (mem : order ∈ db.topupOrders)
    (answers : Answers order reference submission funding)
    (funded : Funded funding db.toDb base) :
    Whole { db with
      toDb := base
      fundingSubmissions := db.fundingSubmissions ++ [submission]
      topupOrders := update (openTopup reference) (paidBy submission.id now) db.topupOrders } := by
  have hit : openTopup reference order = true := by
    simp [openTopup, answers.reference, answers.opened]
  have still : ∀ wanted, (∃ old ∈ db.topupOrders, old.reference = wanted) →
      ∃ old ∈ update (openTopup reference) (paidBy submission.id now) db.topupOrders,
        old.reference = wanted := by
    rintro _ ⟨old, there, rfl⟩
    refine ⟨_, update_mem _ _ there, ?_⟩
    split <;> rfl
  refine ⟨fun row there => ?_, fun row there wanted same => ?_, fun row there credited => ?_⟩
  · obtain ⟨old, stored, rfl⟩ := mem_update.mp there
    by_cases here : old.reference = reference
    · -- The references are unique, so this is the order that is credited.
      have one : old = order :=
        sound.references.eq stored mem (here.trans answers.reference.symm)
      subst one
      rw [if_pos hit]
      rcases whole.each old stored with present | absent
      · have paid := present.paid
        rw [answers.opened] at paid
        cases paid
      obtain ⟨accounts, rows⟩ := postedFor_funded db (update (openTopup reference)
        (paidBy submission.id now) db.topupOrders)
        (db.fundingSubmissions ++ [submission]) funded old.reference
      obtain ⟨credit, debit, pair, balanced⟩ := fundingRows_pair accounts
        answers.merchant answers.amount
      refine .inl ⟨rfl, ⟨credit, debit, ?_, balanced.same ⟨rfl, rfl, rfl, rfl⟩⟩, submission, ?_, rfl, answers.shop,
        answers.banked⟩
      · rw [if_pos answers.posting, absent.unposted, pair] at rows
        exact rows
      · have added := creditedFor_added db base
          (update (openTopup reference) (paidBy submission.id now) db.topupOrders)
          answers.credited old.reference
        rw [if_pos answers.quoted, absent.unsubmitted] at added
        exact added
    · have missed : openTopup reference old = false := by simp [openTopup, here]
      rw [missed]
      simp only [Bool.false_eq_true, if_false]
      refine all_or_none_moved (whole.each old stored) (.refl old) rfl id ?_ ?_
      · obtain ⟨accounts, rows⟩ := postedFor_funded db (update
          (openTopup reference) (paidBy submission.id now) db.topupOrders)
          (db.fundingSubmissions ++ [submission]) funded old.reference
        have apart : funding.postingId ≠ chapaPosting old.reference := by
          rw [answers.posting, answers.reference]
          exact fun same => here (chapaPosting_inj same).symm
        rw [if_neg apart, List.append_nil] at rows
        exact rows
      · have added := creditedFor_added db base
          (update (openTopup reference) (paidBy submission.id now) db.topupOrders)
          answers.credited old.reference
        have apart : submission.quotedReference ≠ old.reference := by
          rw [answers.quoted, answers.reference]
          exact fun same => here same.symm
        rw [if_neg apart, List.append_nil] at added
        exact added
  · obtain ⟨accounts, entries⟩ := funded.entries
    simp only [entries] at there
    rcases List.mem_append.mp there with there | there
    · exact still wanted (whole.posted row there wanted same)
    · rw [fundingRows_posting funding accounts row there, answers.posting] at same
      exact still wanted ⟨order, mem, chapaPosting_inj same⟩
  · rcases List.mem_append.mp there with there | there
    · exact still _ (whole.submitted row there credited)
    · cases List.mem_singleton.mp there
      exact still _ ⟨order, mem, answers.quoted.symm⟩

/-- Among the requests that order and settle deposits, only a settlement credits anything. -/
theorem ordering_filing {filing : Filing} (allowed : process.service ∈ ordering)
    (done : filing.By input db process) :
    (∃ row, filing = .opened row) ∨ filing = .still ∨ (∃ status, filing = .closed status) ∨
    (∃ reference, filing = .noted reference) ∨
    ∃ call reference submission funding, process = .settleChapaDeposit call ∧
      filing = .credited reference submission funding ∧
      SettledBy input db call reference submission funding := by
  cases filing with
  | still => exact .inr (.inl rfl)
  | opened row => exact .inl ⟨row, rfl⟩
  | closed status => exact .inr (.inr (.inl ⟨status, rfl⟩))
  | noted reference => exact .inr (.inr (.inr (.inl ⟨reference, rfl⟩)))
  | recorded submission | approved waiting reference approver funding =>
    obtain ⟨call, rfl, _⟩ := done
    simp [DepositProcess.service, ordering] at allowed
  | credited reference submission funding =>
    rcases done with ⟨call, rfl, settled⟩ | ⟨call, rfl, _⟩
    · exact .inr (.inr (.inr (.inr ⟨call, reference, submission, funding, rfl, rfl, settled⟩)))
    · simp [DepositProcess.service, ordering] at allowed

/-- The step keeps every order whole, whatever it is. -/
theorem whole_step (w : DepositWorld) (event : Event DepositInput DepositProcess)
    (w' : DepositWorld) (holds : Whole w.store ∧ DepositSecure ordering w)
    (step : DepositStep ordering w event w') : Whole w'.store ∧ DepositSecure ordering w' := by
  obtain ⟨whole, secure⟩ := holds
  refine ⟨?_, deposit_secure w event w' secure step⟩
  rcases deposit_filed secure step with ⟨same, _⟩ |
    ⟨slot, input, process, filing, _, _, allowed, known, _, filed, done⟩
  · rw [same]
    exact whole
  · generalize w'.store = after at filed
    rcases ordering_filing allowed done with ⟨row, rfl⟩ | rfl | ⟨status, rfl⟩ | ⟨reference, rfl⟩ |
      ⟨call, reference, submission, funding, rfl, rfl, settled⟩
    · cases filed with
      | opened fresh opened unlinked => exact whole_opened whole fresh opened unlinked
    · cases filed with
      | still => exact whole
    · cases filed with
      | closed hits ended =>
        refine whole_rewritten whole fun row hit => ⟨?_, rfl, fun _ => ?_⟩
        · refine { SameTopup.refl row with status := .inr ⟨hits row hit, ?_⟩ }
          rcases ended with rfl | rfl <;> simp
        · rcases ended with rfl | rfl <;> simp
    · cases filed with
      | noted =>
        exact whole_rewritten whole fun row _ =>
          ⟨{ SameTopup.refl row with status := .inl ⟨rfl, rfl⟩ }, rfl, id⟩
    · cases filed with
      | credited status fresh once funded =>
        obtain ⟨order, mem, answers, _⟩ := settled_answers secure.1 known settled
        exact whole_credited secure.1 whole mem answers funded

/-- How a settlement comes to hold a payment: the gateway answered with it, or it held it before. -/
theorem settle_came (call : SettleChapaDeposit) (input : DepositInput) (db : DepositDb) :
    (∃ point, (call.step input db).2 = call.at point) ∧
    match (call.step input db).2.point with
    | .recording order payment =>
      call.point = .verifying order ∧ input.verified = .answered payment
    | .settling order payment _ => call.point = .recording order payment
    | _ => True := by
  unfold SettleChapaDeposit.step
  cases here : call.point with
  | begin =>
    simp only
    split
    · exact ⟨⟨_, rfl⟩, trivial⟩
    · split <;> exact ⟨⟨_, rfl⟩, trivial⟩
  | verifying order =>
    simp only
    split
    · exact ⟨⟨_, rfl⟩, trivial⟩
    · exact ⟨⟨_, rfl⟩, trivial⟩
    · rename_i payment answered
      exact ⟨⟨_, rfl⟩, rfl, answered⟩
  | recording order payment =>
    simp only
    split
    · split
      · exact ⟨⟨_, rfl⟩, trivial⟩
      · exact ⟨⟨_, rfl⟩, rfl⟩
    · exact ⟨⟨_, rfl⟩, trivial⟩
  | settling order payment amountMinor =>
    simp only
    split
    · exact ⟨⟨_, rfl⟩, trivial⟩
    · exact ⟨⟨_, rfl⟩, trivial⟩
    · exact ⟨⟨_, rfl⟩, trivial⟩
  | returned result | threw fault =>
    simp only [here]
    exact ⟨⟨call.point, rfl⟩, trivial⟩

/-- The gateway answered a settlement's question about an order with this payment. -/
def GatewayAnswered (past : List DepositTaken) (slot : Nat) (call : SettleChapaDeposit)
    (order : TopupOrderRow) (payment : ChapaPayment) : Prop :=
  ∃ t ∈ past, ∃ input, t.event = .act slot input ∧ input.verified = .answered payment ∧
    t.before.proc slot = some (.settleChapaDeposit (call.at (.verifying order)))

/-- A settlement that holds a payment of an order. -/
def SettlePoint.Holds (order : TopupOrderRow) (payment : ChapaPayment) : SettlePoint → Prop
  | .recording read given => read = order ∧ given = payment
  | .settling read given _ => read = order ∧ given = payment
  | _ => False

/-- Every payment a settlement holds is one the gateway answered it with. -/
def PaymentsAnswered (past : List DepositTaken) (w : DepositWorld) : Prop :=
  ∀ slot call order payment, w.proc slot = some (.settleChapaDeposit call) →
    SettlePoint.Holds order payment call.point → GatewayAnswered past slot call order payment

theorem GatewayAnswered.later (answered : GatewayAnswered past slot call order payment) (t : DepositTaken) :
    GatewayAnswered (t :: past) slot call order payment := by
  obtain ⟨taken, mem, rest⟩ := answered
  exact ⟨taken, List.mem_cons_of_mem _ mem, rest⟩

/-- A settlement that holds a payment after a step was just answered with it or held it before. -/
theorem holds_came {process : DepositProcess}
    (went : (process.step input db).2 = .settleChapaDeposit call)
    (holds : SettlePoint.Holds order payment call.point) :
    ∃ old, process = .settleChapaDeposit old ∧ (∀ point, call.at point = old.at point) ∧
      (old.point = .verifying order ∧ input.verified = .answered payment ∨
        SettlePoint.Holds order payment old.point) := by
  cases process with
  | settleChapaDeposit old =>
    simp only [DepositProcess.step, Prod.map, DepositProcess.settleChapaDeposit.injEq] at went
    obtain ⟨⟨point, same⟩, came⟩ := settle_came old input db
    rw [went] at same came
    subst same
    refine ⟨old, rfl, fun _ => rfl, ?_⟩
    cases point with
    | recording read given =>
      obtain ⟨rfl, rfl⟩ := holds
      exact .inl came
    | settling read given amountMinor =>
      obtain ⟨rfl, rfl⟩ := holds
      have recording : old.point = .recording read given := came
      exact .inr (by rw [recording]; exact ⟨rfl, rfl⟩)
    | _ => exact holds.elim
  | _ => cases went

theorem paymentsAnswered_step (past : List DepositTaken) (w : DepositWorld)
    (event : Event DepositInput DepositProcess) (w' : DepositWorld)
    (answered : PaymentsAnswered past w) (step : DepositStep allowed w event w') :
    PaymentsAnswered (⟨w, event, w'⟩ :: past) w' := by
  intro slot call order payment there holds
  cases step with
  | start starting =>
    rw [World.proc_start] at there
    split at there
    · cases there
      have begun : call.point = .begin := starting.2
      rw [begun] at holds
      exact holds.elim
    · exact (answered slot call order payment there holds).later _
  | crash =>
    rw [World.proc_crash] at there
    split at there
    · cases there
    · exact (answered slot call order payment there holds).later _
  | act here permitted moved =>
    rw [World.proc_act here] at there
    split at there
    · rename_i same
      subst same
      cases there
      have went := congrArg Prod.snd moved
      obtain ⟨old, rfl, same, ⟨verifying, answer⟩ | held⟩ := holds_came went holds
      · refine ⟨_, List.mem_cons_self .., _, rfl, answer, ?_⟩
        rw [here, same, ← verifying]
        rfl
      · obtain ⟨t, mem, input, event, answer, asked⟩ := answered slot old order payment here held
        exact ⟨t, List.mem_cons_of_mem _ mem, input, event, answer, by rw [same]; exact asked⟩
    · exact (answered slot call order payment there holds).later _

/-- An order is paid between two states of the database, and its balanced pair posted, and nothing
else is. -/
structure PaidInto (db db' : DepositDb) (order : TopupOrderRow) : Prop where
  paid : ∃ row ∈ db'.topupOrders, SameTopup order row ∧ row.status = .paid
  posted : ∃ credit debit, db'.ledgerEntries = db.ledgerEntries ++ [credit, debit] ∧
    BalancedPair order credit debit ∧ credit.postingId = chapaPosting order.reference ∧
    debit.postingId = chapaPosting order.reference

theorem settled_pays (filed : Filed db (.credited reference submission funding) db')
    (mem : order ∈ db.topupOrders) (answers : Answers order reference submission funding) :
    PaidInto db db' order := by
  cases filed with
  | credited status fresh once funded =>
    rename_i base now
    have hit : openTopup reference order = true := by
      simp [openTopup, answers.reference, answers.opened]
    have paid := update_mem (openTopup reference) (paidBy submission.id now) mem
    rw [if_pos hit] at paid
    obtain ⟨accounts, entries⟩ := funded.entries
    obtain ⟨credit, debit, pair, balanced⟩ := fundingRows_pair accounts
      answers.merchant answers.amount
    have postings := fundingRows_posting funding accounts
    rw [pair] at entries postings
    exact
      { paid := ⟨paidBy submission.id now order, paid, ⟨rfl, rfl, rfl, rfl⟩, rfl⟩
        posted := ⟨credit, debit, entries, balanced,
          (postings credit (by simp)).trans answers.posting,
          (postings debit (by simp)).trans answers.posting⟩ }

/-- The step pays an open order: it becomes paid and the balanced pair is posted, and nothing else
is. -/
structure Pays (t : DepositTaken) (order : TopupOrderRow) : Prop where
  stored : order ∈ t.before.store.topupOrders
  opened : order.status = .opened
  paid : ∃ row ∈ t.after.store.topupOrders, SameTopup order row ∧ row.status = .paid
  posted : ∃ credit debit,
    t.after.store.ledgerEntries = t.before.store.ledgerEntries ++ [credit, debit] ∧
    BalancedPair order credit debit ∧ credit.postingId = chapaPosting order.reference ∧
    debit.postingId = chapaPosting order.reference

/-- The step is the settlement of an open order, and the gateway had answered that it was paid in
birr, under its reference and for its amount. -/
structure SettlesOrder (earlier : List DepositTaken) (t : DepositTaken) (order : TopupOrderRow) : Prop
    extends Pays t order where
  vouched : ∃ slot input call copy payment, t.event = .act slot input ∧
    t.before.proc slot = some (.settleChapaDeposit call) ∧
    GatewayAnswered earlier slot call copy payment ∧ call.reference = order.reference ∧
    Vouched call.deps.toUpperCase payment order.reference order.amountMinor

/-- The step posts something for the payment of an order. -/
def Credits (reference : String) (t : DepositTaken) : Prop :=
  ∃ row ∈ t.after.store.ledgerEntries, row ∉ t.before.store.ledgerEntries ∧
    row.postingId = chapaPosting reference

/-- A step that posts anything pays an order, for a settlement that holds a payment of it. -/
theorem posting_pays {w w' : DepositWorld} (secure : DepositSecure ordering w)
    (step : DepositStep ordering w event w')
    (posts : w'.store.ledgerEntries ≠ w.store.ledgerEntries) :
    ∃ order slot input call copy payment, Pays ⟨w, event, w'⟩ order ∧ event = .act slot input ∧
      w.proc slot = some (.settleChapaDeposit call) ∧
      call.point = .settling copy payment order.amountMinor ∧ call.reference = order.reference ∧
      Vouched call.deps.toUpperCase payment order.reference order.amountMinor := by
  rcases deposit_filed secure step with ⟨same, _⟩ |
    ⟨slot, input, process, filing, rfl, here, allowed, known, _, filed, done⟩
  · rw [same] at posts
    exact absurd rfl posts
  · generalize eq : w'.store = after at filed posts
    rcases ordering_filing allowed done with ⟨row, rfl⟩ | rfl | ⟨status, rfl⟩ | ⟨reference, rfl⟩ |
      ⟨call, reference, submission, funding, rfl, rfl, settled⟩
    · cases filed with
      | opened => exact absurd rfl posts
    · cases filed with
      | still => exact absurd rfl posts
    · cases filed with
      | closed => exact absurd rfl posts
    · cases filed with
      | noted => exact absurd rfl posts
    · obtain ⟨order, mem, answers, copy, payment, point, named, vouched⟩ :=
        settled_answers secure.1 known settled
      obtain ⟨paid, posted⟩ := settled_pays filed mem answers
      subst eq
      exact ⟨order, slot, input, call, copy, payment, ⟨mem, answers.opened, paid, posted⟩, rfl,
        here, point, named, vouched⟩

/-- A step that posts anything is the settlement of an order. -/
theorem posting_settles {w w' : DepositWorld} (secure : DepositSecure ordering w)
    (answered : PaymentsAnswered past w) (step : DepositStep ordering w event w')
    (posts : w'.store.ledgerEntries ≠ w.store.ledgerEntries) :
    ∃ order, SettlesOrder past ⟨w, event, w'⟩ order := by
  obtain ⟨order, slot, input, call, copy, payment, pays, event, here, point, named, vouched⟩ :=
    posting_pays secure step posts
  have held := answered slot call copy payment here (by rw [point]; exact ⟨rfl, rfl⟩)
  exact ⟨order,
    { pays with vouched := ⟨slot, input, call, copy, payment, event, here, held, named, vouched⟩ }⟩

/-- A payment for which something is posted. -/
def PostedFor (reference : String) (w : DepositWorld) : Prop :=
  ∃ row ∈ w.store.ledgerEntries, row.postingId = chapaPosting reference

theorem posted_stays (secure : DepositSecure allowed w) (posted : PostedFor reference w)
    (step : DepositStep allowed w event w') : PostedFor reference w' := by
  obtain ⟨row, mem, named⟩ := posted
  rcases deposit_filed secure step with ⟨same, _⟩ | ⟨_, _, _, filing, _, _, _, _, _, filed, _⟩
  · exact ⟨row, same ▸ mem, named⟩
  · refine ⟨row, ?_, named⟩
    generalize w'.store = after at filed
    cases filed with
    | credited status fresh once funded | approved once funded =>
      obtain ⟨accounts, entries⟩ := funded.entries
      exact entries ▸ List.mem_append_left _ mem
    | _ => exact mem

/-- A payment is posted by a step that finds nothing posted for it. -/
theorem credits_once {w w' : DepositWorld} (whole : Whole w.store)
    (secure : DepositSecure ordering w) (step : DepositStep ordering w event w')
    (credits : Credits reference ⟨w, event, w'⟩) :
    ¬ PostedFor reference w ∧ PostedFor reference w' := by
  obtain ⟨row, mem, new, named⟩ := credits
  refine ⟨?_, row, mem, named⟩
  rintro ⟨old, there, same⟩
  have posts : w'.store.ledgerEntries ≠ w.store.ledgerEntries := fun eq => new (eq ▸ mem)
  obtain ⟨order, _, _, _, _, _, pays, _⟩ := posting_pays secure step posts
  obtain ⟨credit, debit, entries, _, creditOf, debitOf⟩ := pays.posted
  have own : row.postingId = chapaPosting order.reference := by
    have found : row ∈ w.store.ledgerEntries ++ [credit, debit] := entries ▸ mem
    rcases List.mem_append.mp found with stored | added
    · exact absurd stored new
    · simp only [List.mem_cons, List.not_mem_nil, or_false] at added
      rcases added with rfl | rfl
      · exact creditOf
      · exact debitOf
  rcases whole.each order pays.stored with present | absent
  · have paid := present.paid
    rw [pays.opened] at paid
    cases paid
  · have none := List.filter_eq_nil_iff.mp absent.unposted old there
    simp only [decide_eq_true_eq] at none
    exact none (same.trans (named.symm.trans own))

/-- Whatever settlements, cancellations and expiries come in whatever order: after every step each
order has all of its credit or none of it; anything posted is posted by a step that settles an open
order the gateway vouched for; and nothing is posted twice for one order. -/
theorem one_credit_per_order {past : List DepositTaken} {w : DepositWorld}
    (run : Run BeforeOrders (DepositStep ordering) past w) :
    (∀ t ∈ past, ∀ order ∈ t.after.store.topupOrders,
      AllPresent t.after.store order ∨ AllAbsent t.after.store order) ∧
    (∀ later t earlier, past = later ++ t :: earlier →
      t.after.store.ledgerEntries ≠ t.before.store.ledgerEntries →
      ∃ order, SettlesOrder earlier t order) ∧
    ∀ reference, past.Pairwise fun later earlier =>
      ¬ (Credits reference later ∧ Credits reference earlier) := by
  have start : ∀ w, BeforeOrders w → Whole w.store ∧ DepositSecure ordering w :=
    fun w before => whole_before before
  have history : ∀ {past w}, Run BeforeOrders (DepositStep ordering) past w →
      PaymentsAnswered past w := by
    intro past w run
    refine run.history (fun w before slot call order payment there => ?_)
      fun past w event w' answered step => paymentsAnswered_step past w event w' answered step
    simp [World.proc, before.idle] at there
  refine ⟨fun t mem order stored => ?_, ?_, fun reference => ?_⟩
  · exact ((run.taken start whole_step) t mem).2.2.1.each order stored
  · rintro later ⟨before, event, after⟩ earlier rfl posts
    obtain ⟨ran, step⟩ := run.earlier
    exact posting_settles (ran.invariant start whole_step).2 (history ran) step posts
  · -- What is posted for a payment stays posted, and only what is not is posted.
    refine run.at_most_once (PostedFor reference) _ start whole_step ?_ ?_
    · exact fun w event w' holds posted step => posted_stays holds.2 posted step
    · exact fun w event w' holds step credits => credits_once holds.1 holds.2 step credits

/-- Upper casing of the plain alphabet. -/
def upperCase (text : String) : String :=
  String.ofList (text.toList.map Char.toUpper)

/-- A training server with a sandbox key. The digests are those of the two quotes it is asked for. -/
def sandbox : DepositDeps where
  mode := .training
  policy := trainingTopupPolicy
  secretKey := "CHASECK_TEST-key"
  toUpperCase := upperCase
  sha256 text :=
    if text = "ABC-DEF-GHJ" then "35c7bf1a7ef6c5a224297be2afab7363a2795fe434fa65256477614c0727a399"
    else "6c51840bae517bd5ac19d74a7788bc2994b9c214c60db2ba68edcdfae6f5ab8f"

/-- One shop with its till and its standing reference, and three administrators. -/
def depositDesk : DepositDb :=
  { migrated with
    merchants := [⟨"shop", .active⟩]
    devices := [⟨"till", "shop", .active⟩]
    depositReferences := [("shop", "QRSTUVWXY")]
    depositLookups := []
    adminUsers := ["clerk", "checker", "chief"]
    topupOrders := []
    fundingSubmissions := [] }

/-- Surroundings in which the gateway opens a checkout page, and answers about a payment of a
hundred birr. -/
def answering (tag txRef : String) (now : Timestamp) : DepositInput where
  now _ := now
  newId index := tag ++ ["0", "1"].getD index "2"
  newReference _ := "ABC-DEF-GHJ"
  busy := false
  initialized := .started "checkout"
  verified := .answered ⟨.success, 10000, "ETB", txRef, "chapa-" ++ txRef⟩

/-- A shop asking to pay in a hundred birr through the gateway. -/
def hundredBirr : DepositProcess :=
  .startChapaDeposit
    { deps := sandbox, context := ⟨"shop", "till", "cashier"⟩, amountMinor := 10000,
      correlationId := "pay", point := .begin }

/-- A delivery of the gateway's event about a payment. -/
def delivery (txRef : String) : DepositProcess :=
  .settleChapaDeposit { deps := sandbox, txRef, point := .begin }

/-- Two deliveries about one payment, each asking the gateway before either settles. -/
def deliveredTwice : List (Event DepositInput DepositProcess) :=
  let now := fun tag => answering tag "ABC-DEF-GHJ" 0
  [.start hundredBirr, .act 0 (now "a"), .act 0 (now "b"), .act 0 (now "c"),
   .start (delivery "abc-def-ghj"), .start (delivery "ABCDEFGHJ"),
   .act 1 (now "d"), .act 2 (now "e"), .act 1 (now "f"), .act 2 (now "g"), .act 1 (now "h"),
   .act 2 (now "i"), .act 1 (now "j"), .act 2 (now "k")]

def deliveredTwiceRun : List DepositTaken × DepositWorld :=
  played (World.next depositServer) deliveredTwice [] ⟨depositDesk, []⟩

theorem deliveredTwice_run :
    Run BeforeOrders (DepositStep ordering) deliveredTwiceRun.1 deliveredTwiceRun.2 := by
  have opening : Run BeforeOrders (DepositStep ordering) [] ⟨depositDesk, []⟩ :=
    .start ⟨rfl, rfl, by simp [depositDesk, migrated], rfl⟩
  have playable : Playable (World.May (Requests ordering) fun _ _ _ => True)
      (World.next depositServer) deliveredTwice ⟨depositDesk, []⟩ := by
    decide +kernel
  exact opening.play Pool.next playable

/-- Both find the order open when they read it, and it is credited once. -/
theorem deliveredTwice_credits_once :
    (∃ t ∈ deliveredTwiceRun.1, Credits "ABCDEFGHJ" t) ∧
    deliveredTwiceRun.1.Pairwise fun later earlier =>
      ¬ (Credits "ABCDEFGHJ" later ∧ Credits "ABCDEFGHJ" earlier) := by
  refine ⟨?_, (one_credit_per_order deliveredTwice_run).2.2 "ABCDEFGHJ"⟩
  unfold Credits
  decide +kernel

end Telga.Proofs
