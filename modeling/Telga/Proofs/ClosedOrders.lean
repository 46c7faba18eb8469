import Telga.Proofs.SecondApprovals

namespace Telga.Proofs
open Domain Persistence Application Library

/-- Every request about deposits. -/
def depositing : List DepositService :=
  ordering ++ consoles

/-- A console that normalises references as the others do. -/
def DepositProcess.Under (deps : DepositDeps) : DepositProcess → Prop
  | .recordDeposit call => call.deps.normalize = deps.normalize
  | .approveDeposit call => call.deps.normalize = deps.normalize
  | _ => True

/-- Deliveries, orders and consoles interleaved, all normalising references alike. -/
abbrev Depositing (deps : DepositDeps) :
    DepositWorld → Event DepositInput DepositProcess → DepositWorld → Prop :=
  Pool depositServer
    (fun db process => Requests depositing db process ∧ DepositProcess.Under deps process)
    fun _ _ _ => True

/-- The reference of the order whose money a request credits, if it gets so far. -/
def DepositProcess.quoted : DepositProcess → Option String
  | .settleChapaDeposit call => some call.reference
  | .recordDeposit call => some (call.deps.normalize call.claim.quotedReference)
  | .approveDeposit { deps, point := .posting waiting, .. } =>
    some (deps.normalize waiting.row.quotedReference)
  | _ => none

/-- The step credits a deposit that quotes a reference. -/
def CreditsQuoted (reference : String) (t : DepositTaken) : Prop :=
  MovesBalance t ∧ ∃ input process, Took t input process ∧
    DepositProcess.quoted process = some reference

/-- The step is a console's. -/
def AtConsole (t : DepositTaken) : Prop :=
  ∃ input process, Took t input process ∧ process.service ∈ consoles

/-- The step credits the money of an order. -/
def CreditsOrder (reference : String) (t : DepositTaken) : Prop :=
  CreditsQuoted reference t ∧ ∃ order ∈ t.before.store.topupOrders, order.reference = reference

/-- The step pays one order, and leaves every other as it was. -/
def PaysOnly (order : TopupOrderRow) (t : DepositTaken) : Prop :=
  (∃ row ∈ t.after.store.topupOrders, SameTopup order row ∧ row.status = .paid) ∧
  ∀ other ∈ t.before.store.topupOrders, other.id ≠ order.id → other ∈ t.after.store.topupOrders

/-- A console that credits a deposit quoting an open order pays that order and no other. -/
def Closes (t : DepositTaken) : Prop :=
  AtConsole t → ∀ reference, CreditsQuoted reference t →
    ∀ order ∈ t.before.store.topupOrders, order.reference = reference → order.status = .opened →
      PaysOnly order t

/-- An approval that credits a deposit quoting an open order finds the bank's own reference to be
that order's too. -/
def KeysAgree (t : DepositTaken) : Prop :=
  ∀ input call waiting, Took t input (.approveDeposit call) → call.point = .posting waiting →
    MovesBalance t →
    (∃ order ∈ t.before.store.topupOrders, order.status = .opened ∧
      order.reference = call.deps.normalize waiting.row.quotedReference) →
    call.deps.normalize waiting.row.bankReference =
      call.deps.normalize waiting.row.quotedReference

/-- A console that credits a deposit quoting an order finds the order not paid, and no credited
submission that quotes it. -/
def FirstCredit (deps : DepositDeps) (t : DepositTaken) : Prop :=
  AtConsole t → ∀ reference, CreditsQuoted reference t →
    ∀ order ∈ t.before.store.topupOrders, order.reference = reference →
      order.status ≠ .paid ∧ ∀ row ∈ t.before.store.fundingSubmissions, row.status = .credited →
        deps.normalize row.quotedReference ≠ reference

theorem depositing_step {deps : DepositDeps} (step : Depositing deps w event w') :
    DepositStep depositing w event w' :=
  step.widen fun _ _ admitted => admitted.1

theorem Took.unique {t : DepositTaken} (took : Took t input process)
    (took' : Took t input' process') : input = input' ∧ process = process' := by
  obtain ⟨slot, event, here⟩ := took
  obtain ⟨slot', event', here'⟩ := took'
  cases event.symm.trans event'
  cases here.symm.trans here'
  exact ⟨rfl, rfl⟩

/-- Paying the open order of a reference pays it alone. -/
theorem pays_only (sound : DepositSound w.store) (mem : order ∈ w.store.topupOrders)
    (named : order.reference = reference) (opened : order.status = .opened)
    (paid : w'.store.topupOrders =
      update (openTopup reference) (paidBy submissionId now) w.store.topupOrders) :
    PaysOnly order ⟨w, event, w'⟩ := by
  have hit : openTopup reference order = true := by simp [openTopup, named, opened]
  refine ⟨⟨paidBy submissionId now order, ?_, ⟨rfl, rfl, rfl, rfl⟩, rfl⟩, ?_⟩
  · have struck := update_mem (openTopup reference) (paidBy submissionId now) mem
    rw [if_pos hit, ← paid] at struck
    exact struck
  · intro other there apart
    have kept := update_mem (openTopup reference) (paidBy submissionId now) there
    have missed : openTopup reference other = false := by
      by_contra struck
      simp only [Bool.not_eq_false, openTopup, Bool.decide_and, Bool.and_eq_true,
        decide_eq_true_eq] at struck
      exact apart (congrArg _ (sound.references.eq there mem (struck.1.trans named.symm)))
    simp only [missed, Bool.false_eq_true, if_false, ← paid] at kept
    exact kept

theorem Filed.credited_orders (filed : Filed db (.credited reference submission funding) db') :
    ∃ now, db'.topupOrders =
      update (openTopup reference) (paidBy submission.id now) db.topupOrders := by
  cases filed with
  | credited status fresh once funded => exact ⟨_, rfl⟩

theorem Filed.approved_orders
    (filed : Filed db (.approved waiting reference approver funding) db') :
    ∃ now, db'.topupOrders =
      update (openTopup reference) (paidBy waiting.row.id now) db.topupOrders := by
  cases filed with
  | approved once funded => exact ⟨_, rfl⟩

/-- A console closes the order a credited deposit quotes exactly when the keys agree. -/
theorem closes_iff {w w' : DepositWorld} (secure : DepositSecure allowed w)
    (step : DepositStep allowed w event w') :
    Closes ⟨w, event, w'⟩ ↔ KeysAgree ⟨w, event, w'⟩ := by
  constructor
  · rintro closes input call waiting took here moves ⟨order, mem, opened, named⟩
    have console : AtConsole ⟨w, event, w'⟩ := ⟨input, _, took, by simp [DepositProcess.service, consoles]⟩
    have quotes : DepositProcess.quoted (.approveDeposit call) =
        some (call.deps.normalize waiting.row.quotedReference) := by
      obtain ⟨deps, id, approver, point⟩ := call
      cases here
      rfl
    obtain ⟨⟨row, there, same, paid⟩, _⟩ :=
      closes console _ ⟨moves, input, _, took, quotes⟩ order mem named opened
    rcases balance_moves secure step moves with ⟨_, _, _, _, _, took', _⟩ |
      ⟨_, _, _, _, _, took', _⟩ | ⟨_, _, waiting', reference, _, _, took', _, approved, filed⟩
    · cases (took.unique took').2
    · cases (took.unique took').2
    · obtain ⟨rfl, eq⟩ := took.unique took'
      cases eq
      cases here.symm.trans approved.here
      obtain ⟨now, orders⟩ := filed.approved_orders
      simp only [orders] at there
      obtain ⟨old, stored, rfl⟩ := mem_update.mp there
      have one : old = order := by
        refine secure.1.orders.eq stored mem ?_
        have id := same.id
        split at id <;> exact id
      subst one
      split at paid
      · rename_i hit
        simp only [openTopup, Bool.decide_and, Bool.and_eq_true, decide_eq_true_eq] at hit
        rw [← approved.reference, ← hit.1, named]
      · rw [opened] at paid
        cases paid
  · rintro agree _ reference ⟨moves, input, process, took, quotes⟩ order mem named opened
    rcases balance_moves secure step moves with ⟨_, call, _, _, _, took', _, known, settled, filed⟩ |
      ⟨_, call, _, _, _, took', credited, filed⟩ |
      ⟨_, call, waiting, _, _, _, took', _, approved, filed⟩
    all_goals
      obtain ⟨rfl, rfl⟩ := took.unique took'
    · cases quotes
      obtain ⟨now, orders⟩ := filed.credited_orders
      rw [settled.reference] at orders
      exact pays_only secure.1 mem named opened orders
    · cases quotes
      obtain ⟨now, orders⟩ := filed.credited_orders
      rw [credited.reference] at orders
      exact pays_only secure.1 mem named opened orders
    · have quoted : call.deps.normalize waiting.row.quotedReference = reference := by
        obtain ⟨deps, id, approver, point⟩ := call
        cases approved.here
        exact Option.some.inj quotes
      obtain ⟨now, orders⟩ := filed.approved_orders
      have same := agree input call waiting took approved.here moves
        ⟨order, mem, opened, named.trans quoted.symm⟩
      rw [approved.reference, same, quoted] at orders
      exact pays_only secure.1 mem named opened orders

/-- A request never changes how it normalises references. -/
theorem under_step {process : DepositProcess} (under : DepositProcess.Under deps process)
    (input : DepositInput) (db : DepositDb) :
    DepositProcess.Under deps (process.step input db).2 := by
  cases process with
  | recordDeposit call =>
    simp only [DepositProcess.step, Prod.map, id, RecordDeposit.step]
    split
    · split
      · exact under
      · split <;> exact under
    · exact under
    · exact under
  | approveDeposit call =>
    simp only [DepositProcess.step, Prod.map, id, ApproveDeposit.step]
    split
    · exact under
    · split <;> exact under
    · exact under
    · exact under
  | _ => trivial

/-- The tables are sound, every request right about what it read, and references are normalised
alike. -/
abbrev DepositingSecure (deps : DepositDeps) (w : DepositWorld) : Prop :=
  DepositSecure depositing w ∧ Secure (fun _ => True) (fun _ => DepositProcess.Under deps) w

theorem depositing_secure (w : DepositWorld) (event : Event DepositInput DepositProcess)
    (w' : DepositWorld) (secure : DepositingSecure deps w) (step : Depositing deps w event w') :
    DepositingSecure deps w' := by
  refine ⟨deposit_secure w event w' secure.1 (depositing_step step), ?_⟩
  refine Secure.step (R := fun _ _ => True) ?_ ?_ ?_ w event w' secure.2 step
  · intro db process _ admitted
    exact admitted.2
  · intro input db process _ under _
    exact ⟨trivial, under_step under input db, trivial⟩
  · intro db db' process _ under _
    exact under

/-- An order that was paid, or closed with a credited deposit on record that quotes it. -/
def OrderSpent (deps : DepositDeps) (reference : String) (w : DepositWorld) : Prop :=
  ∃ order ∈ w.store.topupOrders, order.reference = reference ∧ order.status ≠ .opened ∧
    (order.status = .paid ∨ ∃ row ∈ w.store.fundingSubmissions, row.status = .credited ∧
      deps.normalize row.quotedReference = reference)

theorem TopupMoved.closed (moved : TopupMoved old row) (closed : old.status ≠ .opened) :
    row.status = old.status := by
  rcases moved.status with ⟨same, _⟩ | ⟨opened, _⟩
  · exact same
  · exact absurd opened closed

theorem SubmissionMoved.credited (moved : SubmissionMoved old row)
    (credited : old.status = .credited) : row.status = .credited := by
  rcases moved.status with same | ⟨_, credited⟩
  · exact same.trans credited
  · exact credited

theorem spent_stays (secure : DepositSecure allowed w) (spent : OrderSpent deps reference w)
    (step : DepositStep allowed w event w') : OrderSpent deps reference w' := by
  rcases deposit_filed secure step with ⟨same, _⟩ | ⟨_, _, _, filing, _, _, _, _, _, filed, _⟩
  · unfold OrderSpent
    rw [same]
    exact spent
  · obtain ⟨old, mem, named, closed, why⟩ := spent
    obtain ⟨order, there, moved⟩ := filed.same_topups.1 old mem
    have status := moved.closed closed
    refine ⟨order, there, moved.reference.trans named, status ▸ closed, ?_⟩
    rcases why with paid | ⟨row, stored, credited, quotes⟩
    · exact .inl (status.trans paid)
    · obtain ⟨later, kept, moved⟩ := filed.same_submissions.1 row stored
      exact .inr ⟨later, kept, moved.credited credited, by rw [moved.quoted, quotes]⟩

/-- The row an approval read is on record still, waiting or credited. -/
theorem read_row (known : KnownApproval db call) (here : call.point = .posting waiting) :
    ∃ row ∈ db.fundingSubmissions, SameSubmission waiting.row row ∧
      (row.status = .matched ∨ row.status = .credited) := by
  simp only [KnownApproval, here] at known
  exact known.1

theorem Filed.approves_row (filed : Filed db (.approved waiting reference approver funding) db')
    (mem : row ∈ db.fundingSubmissions) (hit : stillMatched waiting.row.id row = true) :
    ∃ later ∈ db'.fundingSubmissions, SameSubmission row later ∧ later.status = .credited := by
  cases filed with
  | approved once funded =>
    rename_i base now
    have approved := update_mem (stillMatched waiting.row.id)
      (approvedRow approver funding.postingId now) mem
    rw [if_pos hit] at approved
    exact ⟨_, approved, ⟨rfl, rfl, rfl, rfl, rfl, rfl⟩, rfl⟩

/-- A console that credits a deposit quoting a reference leaves a credited submission that quotes
it. -/
theorem console_credits {w w' : DepositWorld} (secure : DepositingSecure deps w)
    (step : DepositStep depositing w event w') (console : AtConsole ⟨w, event, w'⟩)
    (credits : CreditsQuoted reference ⟨w, event, w'⟩)
    (fresh : ∀ row ∈ w.store.fundingSubmissions, row.status = .credited →
      deps.normalize row.quotedReference ≠ reference) :
    ∃ row ∈ w'.store.fundingSubmissions, row.status = .credited ∧
      deps.normalize row.quotedReference = reference := by
  obtain ⟨moves, input, process, took, quotes⟩ := credits
  have under : DepositProcess.Under deps process := by
    obtain ⟨slot, _, here⟩ := took
    exact secure.2.2 process (World.proc_mem here)
  rcases balance_moves secure.1 step moves with
    ⟨_, call, _, _, _, took', _, known, settled, filed⟩ |
    ⟨_, call, _, submission, _, took', credited, filed⟩ |
    ⟨_, call, waiting, _, _, _, took', known, approved, filed⟩
  · obtain ⟨_, _, took'', service⟩ := console
    obtain ⟨_, rfl⟩ := took''.unique took'
    simp [DepositProcess.service, consoles] at service
  · obtain ⟨rfl, rfl⟩ := took.unique took'
    cases quotes
    obtain ⟨_, added, status⟩ := filed.credits_under
    refine ⟨submission, added, status, ?_⟩
    rw [credited.quoted, under]
  · obtain ⟨rfl, rfl⟩ := took.unique took'
    have quoted : deps.normalize waiting.row.quotedReference = reference := by
      obtain ⟨deps, asked, person, point⟩ := call
      cases approved.here
      simp only [DepositProcess.Under] at under
      rw [← under]
      exact Option.some.inj quotes
    obtain ⟨row, mem, same, matched | already⟩ := read_row known approved.here
    · have hit : stillMatched waiting.row.id row = true := by
        simp [stillMatched, same.id, matched]
      obtain ⟨later, stored, kept, status⟩ := filed.approves_row mem hit
      exact ⟨later, stored, status, by rw [kept.quoted, same.quoted, quoted]⟩
    · exact absurd (by rw [same.quoted, quoted]) (fresh row mem already)

/-- Whoever moves a balance is a console or settles a payment. -/
theorem mover {w w' : DepositWorld} (secure : DepositSecure depositing w)
    (step : DepositStep depositing w event w') (moves : MovesBalance ⟨w, event, w'⟩) :
    AtConsole ⟨w, event, w'⟩ ∨ ∃ input call submission funding,
      Took ⟨w, event, w'⟩ input (.settleChapaDeposit call) ∧
      (∃ row ∈ w.store.topupOrders, row.reference = call.reference ∧ row.status = .opened) ∧
      Filed w.store (.credited call.reference submission funding) w'.store := by
  rcases balance_moves secure step moves with
    ⟨input, call, reference, submission, funding, took, _, _, settled, filed⟩ |
    ⟨input, call, _, _, _, took, _⟩ | ⟨input, call, _, _, _, _, took, _⟩
  · rw [settled.reference] at filed
    exact .inr ⟨input, call, submission, funding, took, settled.opened, filed⟩
  · exact .inl ⟨input, _, took, by simp [DepositProcess.service, consoles]⟩
  · exact .inl ⟨input, _, took, by simp [DepositProcess.service, consoles]⟩

theorem PaysOnly.spent (pays : PaysOnly order ⟨w, event, w'⟩)
    (named : order.reference = reference) : OrderSpent deps reference w' := by
  obtain ⟨⟨row, there, same, paid⟩, _⟩ := pays
  exact ⟨row, there, same.reference.trans named, by simp [paid], .inl paid⟩

/-- A credit of an order whose money was not credited spends it. -/
theorem credit_spends {w w' : DepositWorld} (secure : DepositingSecure deps w)
    (step : DepositStep depositing w event w') (credits : CreditsOrder reference ⟨w, event, w'⟩)
    (agree : KeysAgree ⟨w, event, w'⟩) (first : FirstCredit deps ⟨w, event, w'⟩) :
    ¬ OrderSpent deps reference w ∧ OrderSpent deps reference w' := by
  obtain ⟨quoted, order, mem, named⟩ := credits
  have one : ∀ other ∈ w.store.topupOrders, other.reference = reference → other = order :=
    fun other there same => secure.1.1.references.eq there mem (same.trans named.symm)
  rcases mover secure.1 step quoted.1 with console | ⟨input, call, submission, funding, took,
    ⟨row, there, of_call, opened⟩, filed⟩
  · obtain ⟨unpaid, fresh⟩ := first console reference quoted order mem named
    constructor
    · rintro ⟨other, there, same, _, paid | ⟨row, stored, credited, quotes⟩⟩
      · exact unpaid (one other there same ▸ paid)
      · exact fresh row stored credited quotes
    · by_cases opened : order.status = .opened
      · have closes := (closes_iff secure.1 step).mpr agree
        exact (closes console reference quoted order mem named opened).spent named
      · -- It was closed already: the submission tells that its money came.
        obtain ⟨row, stored, credited, quotes⟩ := console_credits secure step console quoted fresh
        rcases deposit_filed secure.1 step with ⟨same, _⟩ |
          ⟨_, _, _, filing, _, _, _, _, _, filed, _⟩
        · exact absurd (congrArg (fun db : DepositDb => db.ledgerEntries) same) quoted.1
        · obtain ⟨later, kept, moved⟩ := filed.same_topups.1 order mem
          have status := moved.closed opened
          exact ⟨later, kept, moved.reference.trans named, status ▸ opened,
            .inr ⟨row, stored, credited, quotes⟩⟩
  · have same : call.reference = reference := by
      obtain ⟨_, _, _, took', quotes⟩ := quoted
      obtain ⟨_, rfl⟩ := took.unique took'
      exact Option.some.inj quotes
    rw [same] at filed of_call
    cases one row there of_call
    constructor
    · rintro ⟨other, stored, same, closed, _⟩
      exact closed (one other stored same ▸ opened)
    · obtain ⟨now, orders⟩ := filed.credited_orders
      have paid : PaysOnly _ ⟨w, event, w'⟩ := pays_only secure.1.1 mem named opened orders
      exact paid.spent named

/-- The consoles close what they credit exactly when the keys of the approvals agree; and when
they do, and no console credits an order whose money came already, none is credited twice. -/
theorem orders_closed_by_credits {past : List DepositTaken} {w : DepositWorld}
    (run : Run BeforeDeposits (Depositing deps) past w) :
    ((∀ t ∈ past, Closes t) ↔ ∀ t ∈ past, KeysAgree t) ∧
    ((∀ t ∈ past, KeysAgree t ∧ FirstCredit deps t) →
      ∀ reference, past.Pairwise fun later earlier =>
        ¬ (CreditsOrder reference later ∧ CreditsOrder reference earlier)) := by
  have start : ∀ w, BeforeDeposits w → DepositingSecure deps w :=
    fun w before => ⟨⟨before.sound, by simp [before.idle]⟩, trivial, by simp [before.idle]⟩
  have taken := run.taken start depositing_secure
  constructor
  · refine forall₂_congr fun t mem => ?_
    obtain ⟨secure, step, _⟩ := taken t mem
    exact closes_iff secure.1 (depositing_step step)
  · intro careful reference
    have once := run.at_most_once (OrderSpent deps reference)
      (fun t => CreditsOrder reference t ∧ KeysAgree t ∧ FirstCredit deps t) start
      depositing_secure
      (fun w event w' secure spent step => spent_stays secure.1 spent (depositing_step step))
      (fun w event w' secure step kind =>
        credit_spends secure (depositing_step step) kind.1 kind.2.1 kind.2.2)
    refine once.imp_of_mem fun {later earlier} mem mem' apart both => ?_
    exact apart ⟨⟨both.1, careful later mem⟩, both.2, careful earlier mem'⟩

instance (reference : String) (t : DepositTaken) : Decidable (CreditsQuoted reference t) :=
  inferInstanceAs (Decidable (_ ∧ _))

instance (t : DepositTaken) : Decidable (AtConsole t) :=
  inferInstanceAs (Decidable (∃ _, _))

instance (reference : String) (t : DepositTaken) : Decidable (CreditsOrder reference t) :=
  inferInstanceAs (Decidable (_ ∧ _))

/-- A shop orders a deposit, pays sixty thousand birr in at the bank under a bank reference, and a
second person approves it; then the gateway delivers the payment of the order. -/
def orderedAndPaidIn (bankReference : String) : List (Event DepositInput DepositProcess) :=
  let now := fun tag => answering tag "ABC-DEF-GHJ" 0
  [.start hundredBirr, .act 0 (now "a"), .act 0 (now "b"), .act 0 (now "c"),
   .start (slip "ABC-DEF-GHJ" bankReference 6000000), .act 1 (now "d"),
   .start (approval "d0" "checker"), .act 2 (now "e"), .act 2 (now "f"),
   .start (delivery "ABCDEFGHJ"), .act 3 (now "g"), .act 3 (now "h"), .act 3 (now "i"),
   .act 3 (now "j")]

def orderedAndPaidInRun (bankReference : String) : List DepositTaken × DepositWorld :=
  played (World.next depositServer) (orderedAndPaidIn bankReference) [] ⟨depositDesk, []⟩

theorem orderedAndPaidIn_run (bankReference : String)
    (playable : Playable (World.May (fun _ _ => True) fun _ _ _ => True)
      (World.next depositServer) (orderedAndPaidIn bankReference) ⟨depositDesk, []⟩) :
    Run BeforeDeposits (Depositing sandbox) (orderedAndPaidInRun bankReference).1
      (orderedAndPaidInRun bankReference).2 := by
  have sound : DepositSound depositDesk := by
    constructor <;> simp [depositDesk, Library.Unique]
  have opening : Run BeforeDeposits (Depositing sandbox) [] ⟨depositDesk, []⟩ :=
    .start ⟨sound, rfl, rfl⟩
  refine opening.play Pool.next (playable_admits ?_ playable)
  intro process mem _
  simp only [orderedAndPaidIn, List.mem_cons, List.not_mem_nil, or_false, reduceCtorEq, false_or,
    Event.start.injEq] at mem
  rcases mem with rfl | rfl | rfl | rfl
  all_goals refine ⟨⟨?_, rfl⟩, ?_⟩
  all_goals first | trivial | rfl | simp [depositing, ordering, consoles, DepositProcess.service,
    slip]

/-- Both credits quote the order, and the console's leaves every order as it was. -/
theorem paidIn_twice :
    (¬ (orderedAndPaidInRun "FT100").1.Pairwise fun later earlier =>
      ¬ (CreditsOrder "ABCDEFGHJ" later ∧ CreditsOrder "ABCDEFGHJ" earlier)) ∧
    ∃ t ∈ (orderedAndPaidInRun "FT100").1, AtConsole t ∧ CreditsQuoted "ABCDEFGHJ" t ∧
      (∃ order ∈ t.before.store.topupOrders,
        order.reference = "ABCDEFGHJ" ∧ order.status = .opened) ∧
      ∀ row ∈ t.after.store.topupOrders, row.status ≠ .paid := by
  decide +kernel

/-- The approval looks for an order under the bank's own reference, leaves the one the deposit
quotes open, and its payment through the gateway is credited as well. -/
theorem approval_leaves_order_open :
    Run BeforeDeposits (Depositing sandbox) (orderedAndPaidInRun "FT100").1
      (orderedAndPaidInRun "FT100").2 ∧
    (¬ ∀ t ∈ (orderedAndPaidInRun "FT100").1, Closes t) ∧
    ¬ ∀ reference, (orderedAndPaidInRun "FT100").1.Pairwise fun later earlier =>
      ¬ (CreditsOrder reference later ∧ CreditsOrder reference earlier) := by
  obtain ⟨twice, t, mem, console, credits, ⟨order, there, named, opened⟩, unpaid⟩ := paidIn_twice
  refine ⟨orderedAndPaidIn_run "FT100" (by decide +kernel), ?_, fun once => twice (once _)⟩
  intro closes
  obtain ⟨⟨row, after, _, paid⟩, _⟩ := closes t mem console _ credits order there named opened
  exact unpaid row after paid

theorem sameKey_agrees : ∀ t ∈ (orderedAndPaidInRun "abc def ghj").1, ∀ process ∈ taker t,
    (match process with
    | .approveDeposit { deps, point := .posting waiting, .. } =>
      decide (deps.normalize waiting.row.bankReference =
        deps.normalize waiting.row.quotedReference)
    | _ => true) = true ∧
    (process.service ∈ consoles →
      (∀ order ∈ t.before.store.topupOrders, order.status ≠ .paid) ∧
      ∀ row ∈ t.before.store.fundingSubmissions, row.status ≠ .credited) := by
  decide +kernel

/-- Where the bank's own reference is the order's, the approval closes the order and the gateway's
delivery is refused. -/
theorem sameKey_closes :
    (∀ t ∈ (orderedAndPaidInRun "abc def ghj").1, Closes t) ∧
    (orderedAndPaidInRun "abc def ghj").1.Pairwise fun later earlier =>
      ¬ (CreditsOrder "ABCDEFGHJ" later ∧ CreditsOrder "ABCDEFGHJ" earlier) := by
  have run := orderedAndPaidIn_run "abc def ghj" (by decide +kernel)
  have agree : ∀ t ∈ (orderedAndPaidInRun "abc def ghj").1, KeysAgree t := by
    intro t mem input call waiting took here _ _
    have same := (sameKey_agrees t mem _ (took_taker.mp ⟨input, took⟩)).1
    obtain ⟨deps, id, approver, point⟩ := call
    cases here
    exact of_decide_eq_true same
  have first : ∀ t ∈ (orderedAndPaidInRun "abc def ghj").1, FirstCredit sandbox t := by
    intro t mem ⟨input, process, took, console⟩ reference _ order there _
    obtain ⟨unpaid, uncredited⟩ :=
      (sameKey_agrees t mem _ (took_taker.mp ⟨input, took⟩)).2 console
    exact ⟨unpaid order there, fun row stored credited => absurd credited (uncredited row stored)⟩
  obtain ⟨closes, once⟩ := orders_closed_by_credits run
  exact ⟨closes.mpr agree, once (fun t mem => ⟨agree t mem, first t mem⟩) "ABCDEFGHJ"⟩

end Telga.Proofs
