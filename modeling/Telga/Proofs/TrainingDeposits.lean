import Telga.Proofs.CounterTurns

namespace Telga.Proofs.TrainingDeposits
open Domain Persistence Application Library

/-- The deposits into the training floats, all at work on one database. -/
def floatServer : Machine PosDb Input PostDeposit where
  advance input pos call := call.step input pos
  finished call := (call.point matches .returned _ | .threw _) = true

abbrev FloatWorld := World PosDb PostDeposit

abbrev FloatEvent := Option (Event Input PostDeposit)

abbrev FloatTaken := Taken FloatWorld FloatEvent

/-- Calls of any merchants, interleaved, while the others post what is no training deposit. -/
inductive FloatStep : FloatWorld → FloatEvent → FloatWorld → Prop
  | call : Pool floatServer (fun _ call => (call.point matches .begin) = true) (fun _ _ _ => True)
      w event w' → FloatStep w (some event) w'
  | elsewhere {rows : List LedgerEntryRow} :
      store.ledgerEntries = w.store.ledgerEntries ++ rows →
      (∀ row ∈ rows, ∀ body, row.postingId ≠ depositPosting body) →
      FloatStep w none ⟨store, w.procs⟩

/-- No training deposit has been made, and none is being made. -/
def OpensFloat (w : FloatWorld) : Prop :=
  w.procs = [] ∧ ∀ row ∈ w.store.ledgerEntries, ∀ body, row.postingId ≠ depositPosting body

/-- An entry puts value on a merchant's selling balance, under a posting. -/
def Credits (postingId : PostingId) (merchantId : MerchantId) (row : LedgerEntryRow) : Prop :=
  row.postingId = postingId ∧ row.accountType = .merchantAvailable ∧ row.direction = .credit ∧
    row.merchantId = some merchantId

instance (postingId : PostingId) (merchantId : MerchantId) (row : LedgerEntryRow) :
    Decidable (Credits postingId merchantId row) :=
  inferInstanceAs (Decidable (_ ∧ _))

/-- A posting credited its merchant with exactly the amount on a slip. -/
def Describes (db : Db) (receipt : DepositReceiptDto) : Prop :=
  ∃ row ∈ db.ledgerEntries, Credits receipt.depositId receipt.merchantId row ∧
    row.amount.minor = receipt.amountMinor

instance (db : Db) (receipt : DepositReceiptDto) : Decidable (Describes db receipt) :=
  inferInstanceAs (Decidable (∃ row ∈ _, _))

/-- What is promised of the training deposits: every slip describes a posting of its amount to its
merchant, and nobody is credited twice under one request id. -/
structure Promised (w : FloatWorld) : Prop where
  described : ∀ call, some call ∈ w.procs → ∀ receipt ∈ call.receipt,
    Describes w.store.toDb receipt
  once : ∀ merchantId body,
    w.store.ledgerEntries.countP (fun row => Credits (depositPosting body) merchantId row) ≤ 1

/-- The call that looks whether its deposit was posted already. -/
def checks (taken : FloatTaken) : Option PostDeposit :=
  match taken.event with
  | some (.act slot _) =>
    (taken.before.proc slot).filter fun call => (call.point matches .checking _ _)
  | _ => none

/-- Whatever was posted under a call's request id went to its merchant, and is what it asks for. -/
def SameDeposit (db : Db) (call : PostDeposit) : Prop :=
  ∀ row ∈ db.ledgerEntries, row.postingId = depositPosting call.body →
    row.accountType = .merchantAvailable →
    row.merchantId = some call.context.merchantId ∧
      row.amount.minor = call.body.amountMinor.getD 0

instance (db : Db) (call : PostDeposit) : Decidable (SameDeposit db call) :=
  inferInstanceAs (Decidable (∀ row ∈ db.ledgerEntries, _ → _ → _))

/-- No request id is used again by another merchant or for another amount. -/
def UsedAgainAlike (past : List FloatTaken) : Prop :=
  ∀ taken ∈ past, ∀ call ∈ checks taken, SameDeposit taken.before.store.toDb call

instance (past : List FloatTaken) : Decidable (UsedAgainAlike past) :=
  inferInstanceAs (Decidable (∀ taken ∈ past, ∀ call ∈ checks taken, _))

/-- The entries of a posting. -/
def entriesOf (db : Db) (postingId : PostingId) : List LedgerEntryRow :=
  db.ledgerEntries.filter fun row => row.postingId = postingId

/-- The entries of a training deposit: one credit of one merchant, and its counterpart. -/
def depositRows (funding : MovementInput) (accounts : List LedgerAccountRow) :
    List LedgerEntryRow :=
  entryRows (movementPosting funding (fundingLegs funding)) accounts 0 (fundingLegs funding)

/-- The entry that credits the merchant of a deposit. -/
def creditRow (funding : MovementInput) : LedgerEntryRow where
  id := (funding.postingId, 0)
  postingId := funding.postingId
  transactionId := none
  accountId := merchantAccountId funding.merchantId .merchantAvailable
  merchantId := some funding.merchantId
  accountType := .merchantAvailable
  direction := .credit
  amount := funding.amount
  entryType := .fundingCredit
  correlationId := funding.correlationId
  ruleVersion := none
  createdAt := funding.now

/-- Under the id of a training deposit nothing has been posted, or one deposit. -/
def Kept (db : Db) : Prop :=
  ∀ body, entriesOf db (depositPosting body) = [] ∨ ∃ funding accounts,
    funding.postingId = depositPosting body ∧
    entriesOf db (depositPosting body) = depositRows funding accounts

/-- What a call knows at a point of it. -/
def Known (db : Db) (call : PostDeposit) : Prop :=
  match call.point with
  | .checking amount _ => amount.minor = call.body.amountMinor.getD 0
  | .funding deposit =>
    deposit.point = .begin ∧ deposit.input.postingId = depositPosting call.body ∧
      deposit.input.merchantId = call.context.merchantId ∧
      deposit.input.amount.minor = call.body.amountMinor.getD 0
  | .balance _ | .returned (.credited _) | .returned (.alreadyCredited _) =>
    ∃ row ∈ db.ledgerEntries, Credits (depositPosting call.body) call.context.merchantId row ∧
      row.amount.minor = call.body.amountMinor.getD 0
  | _ => True

/-- The ledger has grown by some entries, or not at all. -/
def Grown (db db' : Db) : Prop :=
  ∃ rows, db'.ledgerEntries = db.ledgerEntries ++ rows

section Rows

variable {db db' : Db} {funding : MovementInput}

theorem depositRows_eq (funding : MovementInput) (accounts : List LedgerAccountRow) :
    ∃ debit : LedgerEntryRow, debit.accountType = .bankClearing ∧
      debit.postingId = funding.postingId ∧
      depositRows funding accounts = [creditRow funding, debit] :=
  ⟨_, rfl, rfl, rfl⟩

/-- A merchant is credited at most once under the id of a training deposit. -/
theorem Kept.once (kept : Kept db) (merchantId : MerchantId) (body : DepositBody) :
    db.ledgerEntries.countP (fun row => Credits (depositPosting body) merchantId row) ≤ 1 := by
  have inside : db.ledgerEntries.countP (fun row => Credits (depositPosting body) merchantId row) =
      (entriesOf db (depositPosting body)).countP
        fun row => Credits (depositPosting body) merchantId row := by
    rw [entriesOf, List.countP_filter]
    refine List.countP_congr fun row _ => ?_
    simp only [Credits, Bool.and_eq_true, decide_eq_true_eq]
    refine ⟨fun credits => ⟨credits, ?_⟩, fun both => both.1⟩
    exact (of_decide_eq_true credits).1
  rw [inside]
  rcases kept body with none | ⟨funding, accounts, _, one⟩
  · simp [none]
  · obtain ⟨debit, clearing, _, rows⟩ := depositRows_eq funding accounts
    rw [one, rows]
    simp only [List.countP_cons, List.countP_nil]
    have apart : ¬ Credits (depositPosting body) merchantId debit := by
      rintro ⟨_, selling, _⟩
      rw [clearing] at selling
      cases selling
    simp only [apart, decide_false, Bool.false_eq_true, if_false]
    split <;> omega

theorem Known.grown (known : Known db call) (grown : Grown db db') : Known db' call := by
  obtain ⟨rows, same⟩ := grown
  have stays : ∀ P : LedgerEntryRow → Prop, (∃ row ∈ db.ledgerEntries, P row) →
      ∃ row ∈ db'.ledgerEntries, P row := by
    intro P ⟨row, mem, holds⟩
    refine ⟨row, ?_, holds⟩
    rw [same]
    exact List.mem_append_left _ mem
  obtain ⟨deps, context, body, point⟩ := call
  cases point with
  | balance new => exact stays _ known
  | returned result =>
    cases result with
    | credited availableMinor => exact stays _ known
    | alreadyCredited availableMinor => exact stays _ known
    | _ => trivial
  | checking amount now | funding deposit => exact known
  | _ => trivial

/-- A deposit is posted once: the ledger takes no second entry of one id. -/
theorem fundMerchant_fresh (funded : fundMerchant db funding = .ok db') :
    ¬ Present (·.id) (funding.postingId, 0) db.ledgerEntries := by
  simp only [fundMerchant, postMovement, appendEntries, bind_ok] at funded
  obtain ⟨next, accounts, _, _, appended⟩ := funded
  obtain ⟨rows, _, rfl⟩ := ensureAccounts_ok accounts
  simp only [fundingLegs, movementPosting, appendFrom, bind_ok] at appended
  obtain ⟨_, first, _⟩ := appended
  simp only [appendEntry, bind_ok, demand_ok] at first
  obtain ⟨_, _, _, _, _, _, _, fresh, _⟩ := first
  exact fresh

theorem fundMerchant_rows (funded : fundMerchant db funding = .ok db') :
    ∃ accounts, db'.ledgerEntries = db.ledgerEntries ++ depositRows funding accounts := by
  obtain ⟨rows, _, _, _, _, rfl⟩ := postMovement_ok funded
  exact ⟨_, rfl⟩

/-- Entries of other postings leave a posting as it was. -/
theorem entriesOf_other {rows : List LedgerEntryRow}
    (grown : db'.ledgerEntries = db.ledgerEntries ++ rows)
    (others : ∀ row ∈ rows, row.postingId ≠ postingId) :
    entriesOf db' postingId = entriesOf db postingId := by
  have none : rows.filter (fun row => row.postingId = postingId) = [] := by
    refine List.filter_eq_nil_iff.mpr fun row mem => ?_
    simpa using others row mem
  rw [entriesOf, grown, List.filter_append, none, List.append_nil]
  rfl

theorem depositRows_posting (mem : row ∈ depositRows funding accounts) :
    row.postingId = funding.postingId := by
  obtain ⟨debit, _, own, rows⟩ := depositRows_eq funding accounts
  rw [rows] at mem
  rcases List.mem_cons.mp mem with rfl | mem
  · rfl
  · rw [List.mem_singleton.mp mem]
    exact own

/-- A posting that is credited stays one deposit, and a new one is one. -/
theorem Kept.funded (kept : Kept db) (funded : fundMerchant db funding = .ok db') : Kept db' := by
  obtain ⟨accounts, grown⟩ := fundMerchant_rows funded
  intro body
  by_cases own : funding.postingId = depositPosting body
  · refine .inr ⟨funding, accounts, own, ?_⟩
    have before : entriesOf db (depositPosting body) = [] := by
      rcases kept body with none | ⟨earlier, others, same, one⟩
      · exact none
      · obtain ⟨debit, _, _, rows⟩ := depositRows_eq earlier others
        have mem : creditRow earlier ∈ entriesOf db (depositPosting body) := by
          rw [one, rows]
          exact List.mem_cons_self
        refine absurd ⟨_, (List.mem_filter.mp mem).1, ?_⟩ (fundMerchant_fresh funded)
        rw [own, ← same]
        rfl
    have after : (depositRows funding accounts).filter
        (fun row => row.postingId = depositPosting body) = depositRows funding accounts := by
      refine List.filter_eq_self.mpr fun row mem => ?_
      rw [depositRows_posting mem, own]
      exact decide_eq_true rfl
    rw [entriesOf] at before ⊢
    rw [grown, List.filter_append, before, after, List.nil_append]
  · rw [entriesOf_other grown fun row mem => by rw [depositRows_posting mem]; exact own]
    exact kept body

end Rows

section Steps

variable {input : Input} {pos : PosDb} {call : PostDeposit}

/-- What is posted under a call's own id describes its slip, when the id was used alike. -/
theorem SameDeposit.credited (same : SameDeposit db call) (kept : Kept db)
    (posted : postingExists db (depositPosting call.body) = true) :
    ∃ row ∈ db.ledgerEntries, Credits (depositPosting call.body) call.context.merchantId row ∧
      row.amount.minor = call.body.amountMinor.getD 0 := by
  obtain ⟨row, mem, own⟩ := List.any_eq_true.mp posted
  have inside : row ∈ entriesOf db (depositPosting call.body) := List.mem_filter.mpr ⟨mem, own⟩
  rcases kept call.body with none | ⟨funding, accounts, named, one⟩
  · rw [none] at inside
    cases inside
  · obtain ⟨debit, _, _, rows⟩ := depositRows_eq funding accounts
    have credit : creditRow funding ∈ entriesOf db (depositPosting call.body) := by
      rw [one, rows]
      exact List.mem_cons_self
    have there := (List.mem_filter.mp credit).1
    obtain ⟨merchant, amount⟩ := same _ there named rfl
    exact ⟨_, there, ⟨named, rfl, rfl, merchant⟩, amount⟩

/-- What a step of a call does: it posts nothing, or its own deposit, and keeps what it knows. -/
theorem postDeposit_step (kept : Kept pos.toDb) (known : Known pos.toDb call)
    (alike : (call.point matches .checking _ _) = true → SameDeposit pos.toDb call) :
    Kept (call.step input pos).1.toDb ∧ Known (call.step input pos).1.toDb (call.step input pos).2 ∧
      Grown pos.toDb (call.step input pos).1.toDb := by
  have idle : Grown pos.toDb pos.toDb := ⟨[], (List.append_nil _).symm⟩
  obtain ⟨deps, context, body, point⟩ := call
  cases point with
  | begin =>
    simp only [PostDeposit.step]
    split
    · exact ⟨kept, trivial, idle⟩
    split
    · exact ⟨kept, trivial, idle⟩
    split
    · exact ⟨kept, trivial, idle⟩
    split
    · exact ⟨kept, trivial, idle⟩
    split
    · rename_i priced
      exact ⟨kept, money_ok.mp priced, idle⟩
    · exact ⟨kept, trivial, idle⟩
  | checking amount now =>
    simp only [PostDeposit.step]
    split
    · rename_i posted
      exact ⟨kept, (alike rfl).credited kept posted, idle⟩
    · exact ⟨kept, ⟨rfl, rfl, rfl, known⟩, idle⟩
  | funding deposit =>
    obtain ⟨begins, named, own, amount⟩ := known
    simp only [PostDeposit.step, Deposit.step, begins]
    rcases unit_cases input (fun db => (·, ()) <$> fundMerchant db deposit.input) pos.toDb with
      ⟨next, answer, _, worked, done⟩ | ⟨fault, done⟩
    · obtain ⟨_, funded, same⟩ := map_ok.mp worked
      cases same
      obtain ⟨accounts, grown⟩ := fundMerchant_rows funded
      rw [done]
      refine ⟨kept.funded funded, ?_, _, grown⟩
      obtain ⟨debit, _, _, rows⟩ := depositRows_eq deposit.input accounts
      refine ⟨creditRow deposit.input, ?_, ⟨named, rfl, rfl, congrArg some own⟩, amount⟩
      rw [grown, rows]
      exact List.mem_append_right _ List.mem_cons_self
    · rw [done]
      exact ⟨kept, trivial, idle⟩
  | balance new =>
    simp only [PostDeposit.step]
    split
    · refine ⟨kept, ?_, idle⟩
      cases new <;> exact known
    · exact ⟨kept, trivial, idle⟩
  | returned result | threw fault => exact ⟨kept, known, idle⟩

end Steps

section Runs

variable {w w' : FloatWorld} {past : List FloatTaken}

abbrev FloatSecure (w : FloatWorld) :=
  Secure (fun pos : PosDb => Kept pos.toDb) (fun pos call => Known pos.toDb call) w

theorem float_start (opens : OpensFloat w) : FloatSecure w := by
  obtain ⟨idle, none⟩ := opens
  refine ⟨fun body => .inl ?_, fun call mem => ?_⟩
  · refine List.filter_eq_nil_iff.mpr fun row mem => ?_
    simpa using none row mem body
  · rw [idle] at mem
    cases mem

theorem float_step (secure : FloatSecure w) (step : FloatStep w event w')
    (alike : ∀ call ∈ checks ⟨w, event, w'⟩, SameDeposit w.store.toDb call) : FloatSecure w' := by
  cases step with
  | elsewhere grown others =>
    refine ⟨fun body => ?_, fun call mem => ?_⟩
    · rw [entriesOf_other grown fun row mem => others row mem body]
      exact secure.1 body
    · exact (secure.2 call mem).grown ⟨_, grown⟩
  | call step =>
    rename_i event
    have permitted : Pool floatServer (fun _ call => (call.point matches .begin) = true)
        (fun _ pos call => (call.point matches .checking _ _) = true → SameDeposit pos.toDb call)
        w event w' := by
      cases step with
      | start begins => exact .start begins
      | crash => exact .crash
      | act here _ moved =>
        refine .act here (fun checking => alike _ ?_) moved
        simp only [checks, here]
        exact Option.mem_filter_iff.mpr ⟨rfl, checking⟩
    refine Secure.step (R := fun pos pos' : PosDb => Grown pos.toDb pos'.toDb) ?_ ?_ ?_ w event w'
      secure permitted
    · intro pos call _ begins
      obtain ⟨deps, context, body, point⟩ := call
      cases point with
      | begin => trivial
      | _ => cases begins
    · intro input pos call kept known own
      exact postDeposit_step kept known own
    · intro pos pos' call _ known grown
      exact known.grown grown

theorem float_run (run : Run OpensFloat FloatStep past w) (alike : UsedAgainAlike past) :
    FloatSecure w := by
  induction run with
  | start opens => exact float_start opens
  | @step past w event w' run step ih =>
    have earlier : UsedAgainAlike past := fun taken mem => alike taken (List.mem_cons_of_mem _ mem)
    exact float_step (ih earlier) step (alike _ List.mem_cons_self)

/-- Where no request id is used again by another merchant or for another amount, every slip
describes a posting of its amount to its merchant. -/
theorem slips_described (run : Run OpensFloat FloatStep past w) (alike : UsedAgainAlike past) :
    Promised w := by
  have ⟨kept, known⟩ := float_run run alike
  refine ⟨fun call mem receipt answered => ?_, fun merchantId body => kept.once merchantId body⟩
  have knows := known call mem
  obtain ⟨deps, context, body, point⟩ := call
  cases point with
  | returned result =>
    cases result with
    | credited availableMinor | alreadyCredited availableMinor =>
      cases answered
      exact knows
    | _ => cases answered
  | _ => cases answered

end Runs

/-- A call to credit a shop's float, under a request id. -/
def topUp (merchantId : MerchantId) (amountMinor : Int) (clientRequestId : String) : PostDeposit :=
  { deps := trainingOptions.toPosDeps, context := { cashier with merchantId }
    body := ⟨some amountMinor, "TAP", clientRequestId⟩, point := .begin }

/-- Two calls, one after the other. -/
def twoTopUps (first second : PostDeposit) : List FloatEvent :=
  [some (.start first), some (.start second)] ++
    [0, 0, 0, 0, 1, 1, 1, 1].map fun slot => some (.act slot (drawing "id" .confirmedSuccess .success 0))

/-- What an event makes of the floats. -/
def FloatEvent.next (w : FloatWorld) (event : FloatEvent) : FloatWorld :=
  (event.map (w.next floatServer)).getD w

def topUpsPlayed (first second : PostDeposit) : List FloatTaken × FloatWorld :=
  played FloatEvent.next (twoTopUps first second) [] ⟨counter, []⟩

/-- An event is a step when a process may take it. -/
def FloatEvent.May (w : FloatWorld) : FloatEvent → Prop
  | some event => w.May (fun _ call => (call.point matches .begin) = true) (fun _ _ _ => True) event
  | none => False

instance (w : FloatWorld) (event : FloatEvent) : Decidable (event.May w) :=
  match event with
  | some event =>
    inferInstanceAs (Decidable (w.May (fun _ call => (call.point matches .begin) = true)
      (fun _ _ _ => True) event))
  | none => isFalse id

theorem topUpsPlayed_run {first second : PostDeposit}
    (playable : Playable FloatEvent.May FloatEvent.next (twoTopUps first second) ⟨counter, []⟩) :
    Run OpensFloat FloatStep (topUpsPlayed first second).1 (topUpsPlayed first second).2 := by
  have steps : ∀ w event, FloatEvent.May w event → FloatStep w event (FloatEvent.next w event) := by
    intro w event may
    cases event with
    | some event => exact .call (Pool.next w event may)
    | none => cases may
  have opens : OpensFloat ⟨counter, []⟩ := by
    refine ⟨rfl, fun row mem => ?_⟩
    cases mem
  exact Run.play steps (.start opens) playable

/-- Whether every slip describes a posting. -/
def allDescribed (w : FloatWorld) : Bool :=
  w.procs.all fun held => held.all fun call => call.receipt.all fun receipt =>
    Describes w.store.toDb receipt

theorem Promised.allDescribed (promised : Promised w) : allDescribed w = true := by
  simp only [TrainingDeposits.allDescribed, List.all_eq_true, Option.all_eq_true, decide_eq_true_eq]
  rintro _ mem call rfl receipt answered
  exact promised.described call mem receipt answered

/-- A second press for twice the amount is told that it was credited with twice the amount. -/
theorem slip_of_another_amount :
    ¬ ∀ past w, Run OpensFloat FloatStep past w → Promised w := by
  intro promised
  have run := topUpsPlayed_run
    (show Playable FloatEvent.May FloatEvent.next
      (twoTopUps (topUp "shop" 10000 "press") (topUp "shop" 20000 "press")) ⟨counter, []⟩
      by decide +kernel)
  have described := (promised _ _ run).allDescribed
  revert described
  decide +kernel

/-- The shop that presses twice for one amount has two slips, and was credited once. -/
theorem slips_described_again :
    Promised (topUpsPlayed (topUp "shop" 10000 "press") (topUp "shop" 10000 "press")).2 ∧
    (topUpsPlayed (topUp "shop" 10000 "press") (topUp "shop" 10000 "press")).2.procs.map
      (fun held => held.bind fun call => call.receipt.map (·.availableAfterMinor)) =
        [some 10000, some 10000] :=
  ⟨slips_described (topUpsPlayed_run (by decide +kernel)) (by decide +kernel), by decide +kernel⟩

end Telga.Proofs.TrainingDeposits
