import Telga.Proofs.ChapaSettlements

namespace Telga.Proofs
open Domain Persistence Application Library

/-- The consoles recording deposits and approving the ones that wait. -/
def consoles : List DepositService :=
  [.recordDeposit, .approveDeposit]

/-- Before the first deposit: the tables' keys hold, nothing was submitted, nobody is at work. -/
structure BeforeDeposits (w : DepositWorld) : Prop where
  sound : DepositSound w.store
  submissions : w.store.fundingSubmissions = []
  idle : w.procs = []

/-- The step was an atomic step of a request. -/
def Took (t : DepositTaken) (input : DepositInput) (process : DepositProcess) : Prop :=
  ∃ slot, t.event = .act slot input ∧ t.before.proc slot = some process

/-- The request whose atomic step it was, if it was one. -/
def taker (t : DepositTaken) : Option DepositProcess :=
  match t.event with
  | .act slot _ => t.before.proc slot
  | _ => none

theorem took_taker {t : DepositTaken} : (∃ input, Took t input process) ↔ taker t = some process := by
  constructor
  · rintro ⟨input, slot, event, here⟩
    simp only [taker, event]
    exact here
  · intro taken
    unfold taker at taken
    split at taken
    · rename_i slot input event
      exact ⟨input, slot, event, taken⟩
    · cases taken

instance tookBy (P : DepositProcess → Prop) [DecidablePred P] (t : DepositTaken) :
    Decidable (∃ input process, Took t input process ∧ P process) :=
  decidable_of_iff (∃ process ∈ taker t, P process)
    ⟨fun ⟨process, taken, holds⟩ =>
        have ⟨input, took⟩ := took_taker.mpr taken
        ⟨input, process, took, holds⟩,
      fun ⟨input, process, took, holds⟩ => ⟨process, took_taker.mp ⟨input, took⟩, holds⟩⟩

/-- The step moves some balance. -/
def MovesBalance (t : DepositTaken) : Prop :=
  t.after.store.ledgerEntries ≠ t.before.store.ledgerEntries

instance (t : DepositTaken) : Decidable (MovesBalance t) :=
  inferInstanceAs (Decidable (_ ≠ _))

/-- The bank reference a request credits a deposit under, if it gets so far. -/
def DepositProcess.bankReference : DepositProcess → Option String
  | .recordDeposit call => some call.claim.bankReference
  | .approveDeposit { point := .posting waiting, .. } => some waiting.row.bankReference
  | _ => none

/-- The step credits a deposit of a bank reference. -/
def CreditsDeposit (bankReference : String) (t : DepositTaken) : Prop :=
  MovesBalance t ∧ ∃ input process, Took t input process ∧
    DepositProcess.bankReference process = some bankReference

instance (bankReference : String) (t : DepositTaken) :
    Decidable (CreditsDeposit bankReference t) :=
  inferInstanceAs (Decidable (_ ∧ _))

/-- The step puts an amount on the balance of a shop, and nothing else. -/
def CreditsShop (t : DepositTaken) (merchantId : MerchantId) (amountMinor : Int) : Prop :=
  ∃ credit debit, t.after.store.ledgerEntries = t.before.store.ledgerEntries ++ [credit, debit] ∧
    credit.merchantId = some merchantId ∧ credit.accountType = .merchantAvailable ∧
    credit.direction = .credit ∧ credit.amount.minor = amountMinor ∧
    debit.accountType = .bankClearing ∧ debit.direction = .debit ∧ debit.amount = credit.amount

/-- A submission was entered by an operator who read the bank's record of it. -/
def Entered (past : List DepositTaken) (call : RecordDeposit) (row : FundingSubmissionRow) : Prop :=
  ∃ t ∈ past, ∃ input, Took t input (.recordDeposit call) ∧ row.id = input.newId 0 ∧
    row.bankReference = call.claim.bankReference ∧ row.recordedBy = some call.recordedBy ∧
    row.bankAmountMinor = call.claim.bankRecord.map (·.amountMinor)

/-- A deposit within the cap that its recorder credits at once with the bank's amount. -/
def CreditedAtOnce (t : DepositTaken) : Prop :=
  ∃ input call record merchantId, Took t input (.recordDeposit call) ∧
    call.claim.bankRecord = some record ∧ record.amountMinor ≤ call.autoCreditCapMinor ∧
    (verificationInput call.deps t.before.store call.claim).merchantForReference =
      some merchantId ∧
    CreditsShop t merchantId record.amountMinor

/-- A deposit that somebody else than its recorder approves, credited with the bank's amount to the
shop it was entered for. -/
def CreditedBySecond (earlier : List DepositTaken) (t : DepositTaken) : Prop :=
  ∃ input call waiting entry record, Took t input (.approveDeposit call) ∧
    call.point = .posting waiting ∧ Entered earlier entry waiting.row ∧
    entry.claim.bankRecord = some record ∧ entry.recordedBy ≠ call.approver ∧
    CreditsShop t waiting.merchantId record.amountMinor

/-- A request that was refused or failed. -/
def DepositProcess.Refused : DepositProcess → Prop
  | .recordDeposit { point := .refused _, .. } => True
  | .approveDeposit { point := .refused _, .. } => True
  | _ => False

/-- The step ends a request as refused or failed. -/
def EndsRefused (t : DepositTaken) : Prop :=
  ∃ slot input process, t.event = .act slot input ∧ t.after.proc slot = some process ∧
    DepositProcess.Refused process

/-- Each bank reference credits a shop at most once, with the bank's amount, on one person's word up
to the cap and on two people's above it, and what is refused changes nothing. -/
structure CreditedRightly (past : List DepositTaken) : Prop where
  once : ∀ bankReference, past.Pairwise fun later earlier =>
    ¬ (CreditsDeposit bankReference later ∧ CreditsDeposit bankReference earlier)
  banked : ∀ later t earlier, past = later ++ t :: earlier → MovesBalance t →
    CreditedAtOnce t ∨ CreditedBySecond earlier t
  refused : ∀ t ∈ past, EndsRefused t → t.after.store = t.before.store

/-- An approval goes through that finds its deposit no longer waiting. -/
def Stale (t : DepositTaken) : Prop :=
  ∃ input call waiting next, Took t input (.approveDeposit call) ∧ call.point = .posting waiting ∧
    depositUnit input (call.post waiting input) t.before.store = (next, .ok ()) ∧
    ¬ ∃ row ∈ t.before.store.fundingSubmissions, stillMatched call.id row = true

theorem beforeDeposits_secure {w : DepositWorld} (before : BeforeDeposits w) :
    DepositSecure allowed w :=
  ⟨before.sound, by simp [before.idle]⟩

/-- Only recording and approving put anything on a balance. -/
theorem Filed.balances (filed : Filed db filing db')
    (moves : db'.ledgerEntries ≠ db.ledgerEntries) :
    (∃ reference submission funding, filing = .credited reference submission funding) ∨
    ∃ waiting reference approver funding, filing = .approved waiting reference approver funding := by
  cases filed with
  | credited => exact .inl ⟨_, _, _, rfl⟩
  | approved => exact .inr ⟨_, _, _, _, rfl⟩
  | _ => exact absurd rfl moves

theorem funded_credits {t : DepositTaken} (funded : Funded funding t.before.store.toDb base)
    (eq : t.after.store.ledgerEntries = base.ledgerEntries)
    (amount : funding.amount.minor = amountMinor) :
    CreditsShop t funding.merchantId amountMinor := by
  obtain ⟨accounts, entries⟩ := funded.entries
  rw [← eq] at entries
  exact ⟨_, _, entries, rfl, rfl, rfl, amount, rfl, rfl, rfl⟩

/-- A step that moves a balance settles a payment, records a deposit that is credited at once, or
approves one. -/
theorem balance_moves {w w' : DepositWorld} (secure : DepositSecure allowed w)
    (step : DepositStep allowed w event w') (moves : MovesBalance ⟨w, event, w'⟩) :
    (∃ input call reference submission funding,
      Took ⟨w, event, w'⟩ input (.settleChapaDeposit call) ∧
      DepositService.settleChapaDeposit ∈ allowed ∧ KnownSettlement w.store call ∧
      SettledBy input w.store call reference submission funding ∧
      Filed w.store (.credited reference submission funding) w'.store) ∨
    (∃ input call reference submission funding,
      Took ⟨w, event, w'⟩ input (.recordDeposit call) ∧
      CreditedBy input w.store call reference submission funding ∧
      Filed w.store (.credited reference submission funding) w'.store) ∨
    ∃ input call waiting reference approver funding,
      Took ⟨w, event, w'⟩ input (.approveDeposit call) ∧ KnownApproval w.store call ∧
      ApprovedBy input call waiting reference approver funding ∧
      Filed w.store (.approved waiting reference approver funding) w'.store := by
  rcases deposit_filed secure step with ⟨same, _⟩ |
    ⟨slot, input, process, filing, rfl, here, allowed, known, _, filed, done⟩
  · exact absurd (congrArg (fun db : DepositDb => db.ledgerEntries) same) moves
  · rcases filed.balances moves with ⟨reference, submission, funding, rfl⟩ |
      ⟨waiting, reference, approver, funding, rfl⟩
    · rcases done with ⟨call, rfl, settled⟩ | ⟨call, rfl, credited⟩
      · exact .inl ⟨input, call, reference, submission, funding, ⟨slot, rfl, here⟩, allowed, known,
          settled, filed⟩
      · exact .inr (.inl ⟨input, call, reference, submission, funding, ⟨slot, rfl, here⟩, credited,
          filed⟩)
    · obtain ⟨call, rfl, approved⟩ := done
      exact .inr (.inr ⟨input, call, waiting, reference, approver, funding, ⟨slot, rfl, here⟩,
        known, approved, filed⟩)

/-- A step of the consoles that moves a balance records a deposit that is credited at once, or
approves one. -/
theorem console_moves {w w' : DepositWorld} (secure : DepositSecure consoles w)
    (step : DepositStep consoles w event w') (moves : MovesBalance ⟨w, event, w'⟩) :
    (∃ input call reference submission funding,
      Took ⟨w, event, w'⟩ input (.recordDeposit call) ∧
      CreditedBy input w.store call reference submission funding ∧
      Filed w.store (.credited reference submission funding) w'.store) ∨
    ∃ input call waiting reference approver funding,
      Took ⟨w, event, w'⟩ input (.approveDeposit call) ∧ KnownApproval w.store call ∧
      ApprovedBy input call waiting reference approver funding ∧
      Filed w.store (.approved waiting reference approver funding) w'.store := by
  rcases balance_moves secure step moves with ⟨_, _, _, _, _, _, allowed, _⟩ | console
  · simp [consoles] at allowed
  · exact console

/-- Everything credited adds to the ledger. -/
theorem Funded.moves (funded : Funded funding db base) : base.ledgerEntries ≠ db.ledgerEntries := by
  obtain ⟨accounts, entries⟩ := funded.entries
  rw [entries]
  intro same
  have grown := congrArg List.length same
  simp [fundingRows, fundingLegs, entryRows] at grown

theorem Filed.funded_by_credit (filed : Filed db (.credited reference submission funding) db') :
    ∃ base, Funded funding db.toDb base ∧ db'.toDb = base := by
  cases filed with
  | credited status fresh once funded => exact ⟨_, funded, rfl⟩

theorem Filed.funded_by_approval
    (filed : Filed db (.approved waiting reference approver funding) db') :
    ∃ base, Funded funding db.toDb base ∧ db'.toDb = base := by
  cases filed with
  | approved once funded => exact ⟨_, funded, rfl⟩

theorem Entered.same (entered : Entered past call old) (same : SameSubmission old row) :
    Entered past call row := by
  obtain ⟨t, mem, input, took, id, bank, recorded, amount⟩ := entered
  exact ⟨t, mem, input, took, same.id.trans id, same.bank.trans bank,
    same.recorded.trans recorded, same.amount.trans amount⟩

theorem SameSubmission.symm (same : SameSubmission old row) : SameSubmission row old :=
  ⟨same.id.symm, same.merchant.symm, same.quoted.symm, same.bank.symm, same.amount.symm,
    same.recorded.symm⟩

theorem Entered.later (entered : Entered past call row) (t : DepositTaken) :
    Entered (t :: past) call row := by
  obtain ⟨taken, mem, rest⟩ := entered
  exact ⟨taken, List.mem_cons_of_mem _ mem, rest⟩

theorem RecordedBy.entered (recorded : RecordedBy input db call row)
    (took : Took t input (.recordDeposit call)) : Entered (t :: past) call row :=
  ⟨t, List.mem_cons_self .., input, took, recorded.id, recorded.bank, recorded.recorded,
    recorded.amount⟩

/-- The row of an approved deposit, before and after. -/
theorem approved_bank (sound : DepositSound db) (known : KnownApproval db call)
    (here : call.point = .posting waiting) (filed : Filed db filing db')
    (mem : row ∈ db'.fundingSubmissions) (id : row.id = waiting.row.id) :
    waiting.row.bankReference = row.bankReference := by
  simp only [KnownApproval, here] at known
  obtain ⟨⟨read, there, same, _⟩, _⟩ := known
  obtain ⟨later, stored, moved⟩ := filed.same_submissions.1 read there
  have one : row = later := by
    refine (filed.sound sound).submissions.eq mem stored ?_
    rw [moved.id, same.id, id]
  rw [one, moved.bank, same.bank]

/-- Every submission was entered by somebody, and every credited one was credited by a step. -/
structure Documented (past : List DepositTaken) (w : DepositWorld) : Prop where
  entered : ∀ row ∈ w.store.fundingSubmissions, ∃ call, Entered past call row
  credited : ∀ row ∈ w.store.fundingSubmissions, row.status = .credited →
    ∃ t ∈ past, CreditsDeposit row.bankReference t

theorem documented_step (past : List DepositTaken) (w : DepositWorld)
    (event : Event DepositInput DepositProcess) (w' : DepositWorld)
    (holds : DepositSecure consoles w ∧ Documented past w)
    (step : DepositStep consoles w event w') :
    DepositSecure consoles w' ∧ Documented (⟨w, event, w'⟩ :: past) w' := by
  obtain ⟨secure, documented⟩ := holds
  refine ⟨deposit_secure w event w' secure step, ?_⟩
  rcases deposit_filed secure step with ⟨same, _⟩ |
    ⟨slot, input, process, filing, rfl, here, allowed, known, _, filed, done⟩
  · constructor
    · intro row mem
      obtain ⟨call, entered⟩ := documented.entered row (same ▸ mem)
      exact ⟨call, entered.later _⟩
    · intro row mem credited
      obtain ⟨t, earlier, credits⟩ := documented.credited row (same ▸ mem) credited
      exact ⟨t, List.mem_cons_of_mem _ earlier, credits⟩
  · have took : Took ⟨w, .act slot input, w'⟩ input process := ⟨slot, rfl, here⟩
    constructor
    · intro row mem
      rcases filed.same_submissions.2 row mem with ⟨old, there, moved⟩ | rfl |
        ⟨reference, funding, rfl⟩
      · obtain ⟨call, entered⟩ := documented.entered old there
        exact ⟨call, (entered.same moved.toSameSubmission).later _⟩
      · obtain ⟨call, rfl, recorded⟩ := done
        exact ⟨call, recorded.entered took⟩
      · rcases done with ⟨call, rfl, _⟩ | ⟨call, rfl, credited⟩
        · simp [DepositProcess.service, consoles] at allowed
        · exact ⟨call, credited.toRecordedBy.entered took⟩
    · intro row mem credited
      have moves : ∀ {funding base}, Funded funding w.store.toDb base → w'.store.toDb = base →
          MovesBalance ⟨w, .act slot input, w'⟩ := by
        intro funding base funded same
        unfold MovesBalance
        rw [same]
        exact funded.moves
      rcases filed.credited_by mem credited with ⟨old, there, same, earlier⟩ |
        ⟨reference, funding, rfl⟩ | ⟨waiting, reference, approver, funding, rfl, id⟩
      · obtain ⟨t, found, credits⟩ := documented.credited old there earlier
        exact ⟨t, List.mem_cons_of_mem _ found, same.bank ▸ credits⟩
      · rcases done with ⟨call, rfl, _⟩ | ⟨call, rfl, entry⟩
        · simp [DepositProcess.service, consoles] at allowed
        · obtain ⟨base, funded, same⟩ := filed.funded_by_credit
          exact ⟨_, List.mem_cons_self .., moves funded same, input, _, took,
            congrArg some entry.bank.symm⟩
      · obtain ⟨call, rfl, approved⟩ := done
        obtain ⟨base, funded, same⟩ := filed.funded_by_approval
        have bank := approved_bank secure.1 known approved.here filed mem id
        refine ⟨_, List.mem_cons_self .., moves funded same, input, _, took, ?_⟩
        obtain ⟨deps, id, approver, point⟩ := call
        cases approved.here
        exact congrArg some bank

/-- A step that a request took is what its code makes of the database. -/
theorem Took.store {w w' : DepositWorld} (step : DepositStep allowed w event w')
    (took : Took ⟨w, event, w'⟩ input process) : w'.store = (process.step input w.store).1 := by
  obtain ⟨slot, rfl, here⟩ := took
  rcases step.acted with ⟨_, other⟩ | ⟨_, _, found, event, there, _, rfl⟩
  · exact absurd rfl (other slot input)
  · cases event
    cases here.symm.trans there
    rfl

/-- An approval that moves a balance has gone through. -/
theorem approval_commits {w w' : DepositWorld} (step : DepositStep allowed w event w')
    (took : Took ⟨w, event, w'⟩ input (.approveDeposit call))
    (here : call.point = .posting waiting) :
    (∃ next, depositUnit input (call.post waiting input) w.store = (next, .ok ()) ∧
      call.post waiting input w.store = .ok (next, ()) ∧ w'.store = next) ∨
    w'.store = w.store := by
  have store := took.store step
  simp only [DepositProcess.step, Prod.map, id, ApproveDeposit.step, here] at store
  rcases depositUnit_cases input (call.post waiting input) w.store with
    ⟨next, ⟨⟩, _, done, same⟩ | ⟨fault, same⟩
  · rw [same] at store
    exact .inl ⟨next, same, done, store⟩
  · rw [same] at store
    exact .inr store

/-- A bank reference under which something is credited. -/
def CreditedUnder (bankReference : String) (w : DepositWorld) : Prop :=
  ∃ row ∈ w.store.fundingSubmissions, row.bankReference = bankReference ∧ row.status = .credited

theorem credited_stays (secure : DepositSecure allowed w)
    (credited : CreditedUnder bankReference w) (step : DepositStep allowed w event w') :
    CreditedUnder bankReference w' := by
  obtain ⟨old, mem, bank, status⟩ := credited
  rcases deposit_filed secure step with ⟨same, _⟩ | ⟨_, _, _, filing, _, _, _, _, _, filed, _⟩
  · exact ⟨old, same ▸ mem, bank, status⟩
  · obtain ⟨row, there, moved⟩ := filed.same_submissions.1 old mem
    refine ⟨row, there, moved.bank.trans bank, ?_⟩
    rcases moved.status with still | ⟨_, credited⟩
    · exact still.trans status
    · exact credited

theorem Filed.credits_under (filed : Filed db (.credited reference submission funding) db') :
    (∀ other ∈ db.fundingSubmissions,
      ¬ (other.bankReference = submission.bankReference ∧ other.status = .credited)) ∧
    submission ∈ db'.fundingSubmissions ∧ submission.status = .credited := by
  cases filed with
  | credited status fresh once funded =>
    exact ⟨once, List.mem_append_right _ (List.mem_singleton_self _), status⟩

theorem Filed.approves_under (filed : Filed db (.approved waiting reference approver funding) db')
    (mem : row ∈ db.fundingSubmissions) (hit : stillMatched waiting.row.id row = true) :
    (∀ other ∈ db.fundingSubmissions,
      ¬ (other.bankReference = row.bankReference ∧ other.status = .credited)) ∧
    ∃ later ∈ db'.fundingSubmissions, later.bankReference = row.bankReference ∧
      later.status = .credited := by
  cases filed with
  | approved once funded =>
    rename_i base now
    have approved := update_mem (stillMatched waiting.row.id)
      (approvedRow approver funding.postingId now) mem
    rw [if_pos hit] at approved
    exact ⟨once row mem hit, _, approved, rfl, rfl⟩

/-- The row an approval read is the only one of its id. -/
theorem read_bank (sound : DepositSound db) (known : KnownApproval db call)
    (here : call.point = .posting waiting) (mem : row ∈ db.fundingSubmissions)
    (id : row.id = call.id) : row.bankReference = waiting.row.bankReference := by
  simp only [KnownApproval, here] at known
  obtain ⟨⟨read, there, same, _⟩, asked, _⟩ := known
  have one : row = read := by
    refine sound.submissions.eq mem there ?_
    rw [same.id, asked, id]
  rw [one, same.bank]

/-- A deposit is credited under a bank reference that was not credited, unless an approval finds it
no longer waiting. -/
theorem credits_fresh {w w' : DepositWorld} (secure : DepositSecure consoles w)
    (step : DepositStep consoles w event w')
    (credits : CreditsDeposit bankReference ⟨w, event, w'⟩) (waited : ¬ Stale ⟨w, event, w'⟩) :
    ¬ CreditedUnder bankReference w ∧ CreditedUnder bankReference w' := by
  obtain ⟨moves, input, process, took, named⟩ := credits
  rcases console_moves secure step moves with
    ⟨input', call, reference, submission, funding, took', credited, filed⟩ |
    ⟨input', call, waiting, reference, approver, funding, took', known, approved, filed⟩
  all_goals
    obtain ⟨slot, event, here⟩ := took
    obtain ⟨slot', event', here'⟩ := id took'
    cases event.symm.trans event'
    cases here.symm.trans here'
  · cases named
    obtain ⟨once, added, status⟩ := filed.credits_under
    rw [credited.bank] at once
    refine ⟨?_, submission, added, credited.bank, status⟩
    rintro ⟨other, mem, bank, already⟩
    exact once other mem ⟨bank, already⟩
  · have bank : waiting.row.bankReference = bankReference := by
      obtain ⟨deps, asked, person, point⟩ := call
      cases approved.here
      exact Option.some.inj named
    rcases approval_commits step took' approved.here with ⟨next, went, _, _⟩ | still
    · -- It went through, so it found its deposit still waiting.
      have found : ∃ row ∈ w.store.fundingSubmissions, stillMatched call.id row = true := by
        by_contra gone
        exact waited ⟨input, call, waiting, next, took', approved.here, went, gone⟩
      obtain ⟨row, mem, hit⟩ := found
      have asked : waiting.row.id = call.id := by
        simp only [KnownApproval, approved.here] at known
        exact known.2.1
      have same : row.bankReference = bankReference := by
        simp only [stillMatched, Bool.decide_and, Bool.and_eq_true, decide_eq_true_eq] at hit
        rw [read_bank secure.1 known approved.here mem hit.1, bank]
      obtain ⟨once, later, stored, banked, status⟩ :=
        filed.approves_under mem (asked.symm ▸ hit)
      rw [same] at once banked
      refine ⟨?_, later, stored, banked, status⟩
      rintro ⟨other, there, under, already⟩
      exact once other there ⟨under, already⟩
    · exact absurd (congrArg (fun db : DepositDb => db.ledgerEntries) still) moves

/-- An approval that finds its deposit no longer waiting credits it, and it was credited before. -/
theorem stale_credits {w w' : DepositWorld} (secure : DepositSecure consoles w)
    (documented : Documented past w) (step : DepositStep consoles w event w')
    (stale : Stale ⟨w, event, w'⟩) :
    ∃ bankReference, CreditsDeposit bankReference ⟨w, event, w'⟩ ∧
      ∃ t ∈ past, CreditsDeposit bankReference t := by
  obtain ⟨input, call, waiting, next, took, here, went, gone⟩ := stale
  obtain ⟨slot, rfl, there⟩ := id took
  have known : KnownApproval w.store call := (secure.2 _ (World.proc_mem there)).2
  have moves : MovesBalance ⟨w, .act slot input, w'⟩ := by
    rcases depositUnit_cases input (call.post waiting input) w.store with
      ⟨after, answer, _, done, same⟩ | ⟨fault, same⟩
    · obtain ⟨_, _, _, _, filed⟩ := post_filed known here done
      obtain ⟨base, funded, eq⟩ := filed.funded_by_approval
      have store := took.store step
      simp only [DepositProcess.step, Prod.map, id, ApproveDeposit.step, here, same] at store
      unfold MovesBalance
      rw [store, eq]
      exact funded.moves
    · rw [same] at went
      cases went
  refine ⟨waiting.row.bankReference, ⟨moves, input, _, took, ?_⟩, ?_⟩
  · obtain ⟨deps, asked, person, point⟩ := call
    cases here
    rfl
  · -- The row was read waiting, and all that becomes of such a row is being credited.
    simp only [KnownApproval, here] at known
    obtain ⟨⟨row, mem, same, matched | credited⟩, asked, _⟩ := known
    · refine absurd ⟨row, mem, ?_⟩ gone
      simp [stillMatched, same.id, asked, matched]
    · obtain ⟨t, earlier, credits⟩ := documented.credited row mem credited
      exact ⟨t, earlier, same.bank ▸ credits⟩

/-- A request that was refused or failed in a step left the database as it was. -/
theorem refused_still {process : DepositProcess}
    (refused : DepositProcess.Refused (process.step input db).2) :
    (process.step input db).1 = db := by
  cases process with
  | recordDeposit call =>
    simp only [DepositProcess.step, Prod.map, id, RecordDeposit.step] at refused ⊢
    cases here : call.point with
    | begin =>
      simp only [here] at refused ⊢
      split
      · rfl
      · rename_i filled
        simp only [filled, if_false] at refused
        rcases depositUnit_cases input (recordAndClose call.deps call.claim input) db with
          ⟨next, outcome, _, _, same⟩ | ⟨fault, same⟩
        · rw [same] at refused
          exact refused.elim
        · rw [same]
    | returned outcome => rfl
    | refused error => rfl
  | approveDeposit call =>
    simp only [DepositProcess.step, Prod.map, id, ApproveDeposit.step] at refused ⊢
    cases here : call.point with
    | posting waiting =>
      simp only [here] at refused ⊢
      rcases depositUnit_cases input (call.post waiting input) db with
        ⟨next, answer, _, _, same⟩ | ⟨fault, same⟩
      · rw [same] at refused
        exact refused.elim
      · rw [same]
    | _ => rfl
  | _ => exact refused.elim

/-- A step that ends a request as refused or failed leaves the database as it was. -/
theorem refused_ends {t : DepositTaken} (step : DepositStep allowed t.before t.event t.after)
    (refused : EndsRefused t) : t.after.store = t.before.store := by
  obtain ⟨before, event, after⟩ := t
  obtain ⟨slot, input, process, rfl, there, refused⟩ := refused
  simp only at step there ⊢
  rcases step.acted with ⟨_, other⟩ | ⟨_, _, old, event, here, _, rfl⟩
  · exact absurd rfl (other slot input)
  · cases event
    rw [World.proc_act here, if_pos rfl] at there
    cases there
    exact refused_still refused

theorem verificationInput_record (deps : DepositDeps) (db : DepositDb)
    (claim : DepositClaimInput) :
    (verificationInput deps db claim).bankRecord = claim.bankRecord := rfl

/-- Whatever moves a balance is a deposit within the cap credited as it is recorded, or one that
somebody else approves, and it is the bank's amount. -/
theorem moves_banked {w w' : DepositWorld} (secure : DepositSecure consoles w)
    (documented : Documented past w) (step : DepositStep consoles w event w')
    (moves : MovesBalance ⟨w, event, w'⟩) :
    CreditedAtOnce ⟨w, event, w'⟩ ∨ CreditedBySecond past ⟨w, event, w'⟩ := by
  rcases console_moves secure step moves with
    ⟨input, call, reference, submission, funding, took, credited, filed⟩ |
    ⟨input, call, waiting, reference, approver, funding, took, known, approved, filed⟩
  · obtain ⟨base, funded, same⟩ := filed.funded_by_credit
    obtain ⟨record, banked, minor, within⟩ := credited.banked
    have credits : CreditsShop ⟨w, event, w'⟩ funding.merchantId record.amountMinor :=
      funded_credits funded (congrArg Db.ledgerEntries same) minor
    have recorded := (verificationInput_record call.deps w.store call.claim).symm.trans
      banked.recorded
    exact .inl ⟨input, call, record, funding.merchantId, took, recorded, within, banked.merchant,
      credits⟩
  · obtain ⟨base, funded, same⟩ := filed.funded_by_approval
    simp only [KnownApproval, approved.here] at known
    obtain ⟨⟨row, mem, kept, _⟩, _, _, _, amount, apart⟩ := known
    obtain ⟨entry, entered⟩ := documented.entered row mem
    have entered := entered.same kept.symm
    obtain ⟨t, there, entering, entrant, _, _, recorded, banked⟩ := id entered
    rw [amount] at banked
    obtain ⟨record, found, minor⟩ := Option.map_eq_some_iff.mp banked.symm
    have credits : CreditsShop ⟨w, event, w'⟩ funding.merchantId record.amountMinor :=
      funded_credits funded (congrArg Db.ledgerEntries same) (approved.amount.trans minor.symm)
    rw [approved.merchant] at credits
    refine .inr ⟨input, call, waiting, entry, record, took, approved.here, entered, found, ?_,
      credits⟩
    intro person
    exact apart (by rw [recorded, person])

/-- The deposits recorded and approved in any number of consoles are each credited at most once and
rightly, exactly when no approval goes through that finds its deposit no longer waiting. -/
theorem credited_rightly_iff {past : List DepositTaken} {w : DepositWorld}
    (run : Run BeforeDeposits (DepositStep consoles) past w) :
    CreditedRightly past ↔ ∀ t ∈ past, ¬ Stale t := by
  have start : ∀ w, BeforeDeposits w → DepositSecure consoles w :=
    fun w before => beforeDeposits_secure before
  have history : ∀ {past w}, Run BeforeDeposits (DepositStep consoles) past w →
      DepositSecure consoles w ∧ Documented past w := by
    intro past w run
    refine run.history (H := fun past w => DepositSecure consoles w ∧ Documented past w)
      (fun w before => ⟨start w before, ?_, ?_⟩)
      fun past w event w' holds step => documented_step past w event w' holds step
    · simp [before.submissions]
    · simp [before.submissions]
  constructor
  · intro rightly t mem stale
    obtain ⟨later, earlier, rfl⟩ := List.append_of_mem mem
    obtain ⟨ran, step⟩ := run.earlier
    obtain ⟨secure, documented⟩ := history ran
    obtain ⟨bankReference, now, before, there, credits⟩ := stale_credits secure documented step stale
    have apart := (List.pairwise_append.mp (rightly.once bankReference)).2.1
    exact (List.pairwise_cons.mp apart).1 before there ⟨now, credits⟩
  · intro waited
    refine ⟨fun bankReference => ?_, ?_, ?_⟩
    · -- A bank reference once credited stays so, and only one that is not is credited.
      have once := run.at_most_once (CreditedUnder bankReference)
        (fun t => CreditsDeposit bankReference t ∧ ¬ Stale t) start
        (fun w event w' secure step => deposit_secure w event w' secure step)
        (fun w event w' secure credited step => credited_stays secure credited step)
        (fun w event w' secure step kind => credits_fresh secure step kind.1 kind.2)
      refine once.imp_of_mem fun {later earlier} mem mem' apart both => ?_
      exact apart ⟨⟨both.1, waited later mem⟩, both.2, waited earlier mem'⟩
    · rintro later ⟨before, event, after⟩ earlier rfl moves
      obtain ⟨ran, step⟩ := run.earlier
      obtain ⟨secure, documented⟩ := history ran
      exact moves_banked secure documented step moves
    · intro t mem refused
      obtain ⟨_, step, _⟩ := run.taken start
        (fun w event w' secure step => deposit_secure w event w' secure step) t mem
      exact refused_ends step refused

/-- An operator recording a deposit that the bank has on its statement. -/
def slip (quotedReference bankReference : String) (amountMinor : Int) : DepositProcess :=
  .recordDeposit
    { deps := sandbox
      form := { quotedReference, bankReference, bankAmountMinor := some amountMinor,
                claimedAmountMinor := none, creditedAccount := "1000", evidence := "" }
      expectedAccount := "1000", autoCreditCapMinor := 5000000, recordedBy := "clerk"
      point := .begin }

/-- A second person approving a deposit. -/
def approval (id approver : String) : DepositProcess :=
  .approveDeposit { deps := sandbox, id, approver, point := .begin }

/-- Sixty thousand birr recorded, and two people who press approve at once. -/
def pressedTwice : List (Event DepositInput DepositProcess) :=
  let now := fun tag => answering tag "" 0
  [.start (slip "QRS-TUV-WXY" "FT100" 6000000), .act 0 (now "a"),
   .start (approval "a0" "checker"), .start (approval "a0" "chief"),
   .act 1 (now "b"), .act 2 (now "c"), .act 1 (now "d"), .act 2 (now "e")]

def pressedTwiceRun : List DepositTaken × DepositWorld :=
  played (World.next depositServer) pressedTwice [] ⟨depositDesk, []⟩

theorem pressedTwice_run :
    Run BeforeDeposits (DepositStep consoles) pressedTwiceRun.1 pressedTwiceRun.2 := by
  have sound : DepositSound depositDesk := by
    constructor <;> simp [depositDesk, Library.Unique]
  have opening : Run BeforeDeposits (DepositStep consoles) [] ⟨depositDesk, []⟩ :=
    .start ⟨sound, rfl, rfl⟩
  have playable : Playable (World.May (Requests consoles) fun _ _ _ => True)
      (World.next depositServer) pressedTwice ⟨depositDesk, []⟩ := by
    decide +kernel
  exact opening.play Pool.next playable

theorem pressedTwice_twice : ¬ pressedTwiceRun.1.Pairwise fun later earlier =>
    ¬ (CreditsDeposit "FT100" later ∧ CreditsDeposit "FT100" earlier) := by
  decide +kernel

/-- Both approvals credit the one deposit. -/
theorem pressedTwice_credits_twice :
    Run BeforeDeposits (DepositStep consoles) pressedTwiceRun.1 pressedTwiceRun.2 ∧
    ¬ CreditedRightly pressedTwiceRun.1 :=
  ⟨pressedTwice_run, fun rightly => pressedTwice_twice (rightly.once "FT100")⟩

/-- One of them found it no longer waiting. -/
theorem pressedTwice_stale : ∃ t ∈ pressedTwiceRun.1, Stale t := by
  by_contra none
  have rightly := (credited_rightly_iff pressedTwice_run).mpr
    fun t mem stale => none ⟨t, mem, stale⟩
  exact pressedTwice_twice (rightly.once "FT100")

end Telga.Proofs
