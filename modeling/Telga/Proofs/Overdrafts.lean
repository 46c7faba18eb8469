import Telga.Proofs.Nets

namespace Telga.Proofs
open Domain Persistence Application Library

/-- What is on a merchant's available account. -/
def spendable (db : Db) (merchantId : MerchantId) : Int :=
  netMinor db merchantId [.merchantAvailable]

/-- No merchant's available account is overdrawn. -/
def Covered (db : Db) : Prop :=
  ∀ merchantId, 0 ≤ spendable db merchantId

/-- A unit of work that goes through posts a transfer: it takes so much from this sender, whatever
the balance is by then. -/
inductive Sends (input : Input) (db : Db) : Process → MerchantId → Int → Prop
  | settles : call.point = .settling recipient feeMinor creditMinor →
      Commits input (postSettlement call recipient feeMinor creditMinor input) db →
      Sends input db (.settleShopTransfer call) call.attempt.senderMerchantId
        (creditMinor + feeMinor)
  | approves : call.point = .approving row → Claims call input db →
      Commits input (approveTransfer call row input) db →
      Sends input db (.decideTransfer call) row.senderMerchantId (row.amountMinor + row.feeMinor)

/-- Every transfer the step posts is still covered by its sender's balance. -/
def StillCovered (taken : Happened) : Prop :=
  ∀ input process, Acted taken input process → ∀ sender debitMinor,
    Sends input taken.before.store process sender debitMinor →
    debitMinor ≤ spendable taken.before.store sender

/-- Nothing is kept on an undivided account, so the balance the guards read is what is on the
available account. -/
def Divided (db : Db) : Prop :=
  ∀ merchantId, netMinor db merchantId [.merchantAvailable, .merchantFunds] =
    spendable db merchantId

theorem Turn.divided (turn : Turn db process deed) :
    ∀ leg ∈ deed.legs, leg.accountKind ≠ .merchantFunds := by
  have transfers : ∀ input debit, ∀ leg ∈ transferLegs input debit,
      leg.accountKind ≠ .merchantFunds := by
    intro input debit
    unfold transferLegs
    split <;> simp [merchantLeg, platformLeg]
  cases deed with
  | opened row hold record context => simp [Deed.legs, holdLegs, bucketTransfer, merchantLeg]
  | moved state disposal context commission =>
    cases disposal with
    | release => simp [Deed.legs, Disposal.legs, releaseLegs, bucketTransfer, merchantLeg]
    | settle profitMinor profitBps =>
      simp only [Deed.legs, Disposal.legs, settlementLegs]
      split <;> simp [merchantLeg, platformLeg]
    | review => simp [Deed.legs, Disposal.legs, reviewLegs, bucketTransfer, merchantLeg]
    | reviewRelease =>
      simp [Deed.legs, Disposal.legs, reviewReleaseLegs, bucketTransfer, merchantLeg]
  | posted legs =>
    cases turn with
    | takesProfit => simp [Deed.legs, profitLegs, merchantLeg, platformLeg]
    | charges => simp [Deed.legs, feeLegs, merchantLeg, platformLeg]
    | deposits => simp [Deed.legs, fundingLegs, merchantLeg, platformLeg]
  | sent row legs =>
    cases turn with
    | records => simp [Deed.legs]
    | sends => exact transfers _ _
  | approved id legs =>
    cases turn with
    | approves => exact transfers _ _
    | late => simp [Deed.legs]
  | reversed id movement t => simp [Deed.legs, reversalLegs, merchantLeg, platformLeg]
  | _ => simp [Deed.legs]

theorem Divided.act (divided : Divided db) (act : Act db db' input process deed) :
    Divided db' := by
  intro merchantId
  have same : ∀ legs : List DraftEntry, (∀ leg ∈ legs, leg.accountKind ≠ .merchantFunds) →
      total (legNet merchantId [.merchantAvailable, .merchantFunds]) legs =
        total (legNet merchantId [.merchantAvailable]) legs := by
    intro legs apart
    induction legs with
    | nil => rfl
    | cons leg rest ih =>
      have here := apart leg (List.mem_cons_self ..)
      have later := ih fun leg mem => apart leg (List.mem_cons_of_mem _ mem)
      simp [legNet, here, later]
  unfold spendable
  rw [act.net, act.net, same _ act.turn.divided]
  have before := divided merchantId
  unfold spendable at before
  omega

/-- What a transfer takes and gives. -/
theorem net_transferLegs (merchantId : MerchantId) (input : ShopTransferInput) (debit : Money) :
    total (legNet merchantId [.merchantAvailable]) (transferLegs input debit) =
      (if input.senderMerchantId = merchantId then -debit.minor else 0) +
      (if input.recipientMerchantId = merchantId then input.amount.minor else 0) := by
  have fee : total (legNet merchantId [.merchantAvailable])
      (if 0 < input.fee.minor then
        [platformLeg .telgaRevenue none .credit input.fee .adjustment] else []) = 0 := by
    split <;> simp [platformLeg, legNet]
  unfold transferLegs
  rw [total_append, fee]
  simp [merchantLeg, legNet, signedMinor, signed]

/-- Moving a sale's value on takes nothing from a merchant's available account. -/
theorem net_disposal (merchantId : MerchantId) (context : OperationContext) (disposal : Disposal)
    (positive : ∀ leg ∈ disposal.legs context, 0 < leg.amount.minor) :
    0 ≤ total (legNet merchantId [.merchantAvailable]) (disposal.legs context) := by
  cases disposal with
  | release =>
    have worth : 0 < context.amount.minor := positive _ (List.mem_cons_self ..)
    simp only [Disposal.legs, releaseLegs, bucketTransfer, merchantLeg, total_cons, total_nil,
      legNet, signedMinor, signed]
    by_cases own : context.merchantId = merchantId
    · simp [own]
      omega
    · simp [own]
  | settle profitMinor profitBps =>
    simp only [Disposal.legs, settlementLegs]
    split <;> simp [merchantLeg, platformLeg, legNet]
  | review =>
    simp [Disposal.legs, reviewLegs, bucketTransfer, merchantLeg, legNet]
  | reviewRelease =>
    have worth : 0 < context.amount.minor := positive _ (List.mem_cons_self ..)
    simp only [Disposal.legs, reviewReleaseLegs, bucketTransfer, merchantLeg, total_cons,
      total_nil, legNet, signedMinor, signed]
    by_cases own : context.merchantId = merchantId
    · simp [own]
      omega
    · simp [own]

theorem spendable_quiet (act : Act db db' input process deed) (none : deed.legs = [])
    (merchantId : MerchantId) : spendable db' merchantId = spendable db merchantId := by
  unfold spendable
  rw [act.net, none, total_nil, Int.add_zero]

/-- A step on a transfer posted it, or left every available account as it was. -/
theorem Act.transfers (act : Act db db' input process deed)
    (transfer : (∃ row legs, deed = .sent row legs) ∨ ∃ id legs, deed = .approved id legs) :
    (∀ merchantId, spendable db' merchantId = spendable db merchantId) ∨
    ∃ given debit, Sends input db process given.senderMerchantId debit.minor ∧
      Transferring given debit ∧ deed.legs = transferLegs given debit := by
  have turn := act.turn
  rcases transfer with ⟨row, legs, rfl⟩ | ⟨id, legs, rfl⟩
  · cases turn with
    | records => exact .inl (spendable_quiet act rfl)
    | sends point transferring able sender worth charge =>
      rename_i given debit creditMinor feeMinor call recipient
      have moved := act.moved
      simp only [Process.step, SettleShopTransfer.step, point] at moved
      rcases unit_cases input (postSettlement call recipient feeMinor creditMinor input) db with
        ⟨next, result, _, _, went⟩ | ⟨fault, went⟩
      · refine .inr ⟨given, debit, ?_, transferring, rfl⟩
        rw [sender, transferring.sum, worth, charge]
        exact .settles point ⟨next, result, went⟩
      · simp only [went, SettleShopTransfer.finish, Prod.map] at moved
        have same : db = db' := moved
        exact .inl fun _ => by rw [same]
  · cases turn with
    | late => exact .inl (spendable_quiet act rfl)
    | approves point transferring sender worth charge =>
      rename_i given debit call row
      have moved := act.moved
      simp only [Process.step, DecideTransfer.step, point] at moved
      rcases unit_cases input (approveTransfer call row input) db with
        ⟨next, result, _, done, went⟩ | ⟨fault, went⟩
      · by_cases claims : Claims call input db
        · refine .inr ⟨given, debit, ?_, transferring, rfl⟩
          rw [sender, transferring.sum, worth, charge]
          exact .approves point claims ⟨next, result, went⟩
        · obtain ⟨turn, did⟩ := lateApproval_turn point claims done
          simp only [went, Prod.map] at moved
          have same : next = db' := moved
          rw [same] at did
          exact .inl (spendable_quiet ⟨act.sound, act.known, act.fresh, act.moved, turn, did⟩ rfl)
      · simp only [went, Prod.map] at moved
        have same : db = db' := moved
        exact .inl fun _ => by rw [same]

/-- A deed takes no merchant's available account below zero, provided a transfer it posts is
still covered. -/
theorem covered_step (divided : Divided db) (covered : Covered db)
    (act : Act db db' input process deed)
    (still : ∀ sender debitMinor, Sends input db process sender debitMinor →
      debitMinor ≤ spendable db sender) : Covered db' := by
  have turn := act.turn
  have adds : (∀ merchantId, 0 ≤ spendable db merchantId +
      total (legNet merchantId [.merchantAvailable]) deed.legs) → Covered db' := by
    intro enough merchantId
    unfold spendable
    rw [act.net]
    exact enough merchantId
  have transfers : ((∃ row legs, deed = .sent row legs) ∨ ∃ id legs, deed = .approved id legs) →
      Covered db' := by
    intro transfer
    rcases act.transfers transfer with same | ⟨given, debit, sends, transferring, legs⟩
    · intro merchantId
      rw [same]
      exact covered merchantId
    · refine adds fun merchantId => ?_
      have afford := still _ _ sends
      have before := covered merchantId
      have amount := transferring.amount
      rw [legs, net_transferLegs]
      by_cases sender : given.senderMerchantId = merchantId
      · rw [sender] at afford
        simp only [sender, if_true]
        split <;> omega
      · simp only [sender, if_false]
        split <;> omega
  have positive := act.did.positive
  cases deed with
  | opened row hold record context =>
    cases turn with
    | opens _ opening =>
      refine adds fun merchantId => ?_
      have before := covered merchantId
      have afford := opening.covered
      rw [divided] at afford
      obtain ⟨_, merchant, amount⟩ := opening.operation
      simp only [Deed.legs, holdLegs, bucketTransfer, merchantLeg, total_cons, total_nil, legNet,
        signedMinor, signed, merchant, amount]
      by_cases own : row.merchantId = merchantId
      · rw [own] at afford
        simp [own]
        omega
      · simp [own]
        omega
  | moved state disposal context commission =>
    refine adds fun merchantId => ?_
    have before := covered merchantId
    have gives := net_disposal merchantId context disposal positive
    exact Int.add_nonneg before gives
  | posted legs =>
    cases turn with
    | takesProfit =>
      refine adds fun merchantId => ?_
      have before := covered merchantId
      have worth := positive _ (List.mem_cons_self ..)
      simp only [merchantLeg] at worth
      simp only [Deed.legs, profitLegs, merchantLeg, platformLeg, total_cons, total_nil, legNet,
        signedMinor, signed]
      split <;> simp <;> omega
    | charges afford =>
      refine adds fun merchantId => ?_
      have before := covered merchantId
      rw [divided] at afford
      simp only [Deed.legs, feeLegs, merchantLeg, platformLeg, total_cons, total_nil, legNet,
        signedMinor, signed]
      rename_i _ charge
      by_cases own : charge.merchantId = merchantId
      · rw [own] at afford
        simp [own]
        omega
      · simp [own]
        omega
    | deposits =>
      refine adds fun merchantId => ?_
      have before := covered merchantId
      have worth := positive _ (List.mem_cons_self ..)
      simp only [merchantLeg] at worth
      simp only [Deed.legs, fundingLegs, merchantLeg, platformLeg, total_cons, total_nil, legNet,
        signedMinor, signed]
      split <;> simp <;> omega
  | sent row legs => exact transfers (.inl ⟨_, _, rfl⟩)
  | approved id legs => exact transfers (.inr ⟨_, _, rfl⟩)
  | reversed id movement t =>
    refine adds fun merchantId => ?_
    have before := covered merchantId
    have worth := positive _ (List.mem_cons_self ..)
    simp only [merchantLeg] at worth
    simp only [Deed.legs, reversalLegs, merchantLeg, platformLeg, total_cons, total_nil, legNet,
      signedMinor, signed]
    split <;> simp <;> omega
  | _ =>
    refine adds fun merchantId => ?_
    simpa [Deed.legs] using covered merchantId

/-- A transfer that went through took its amount and fee from the sender, and its sender is not
its recipient. -/
theorem Sends.takes (sends : Sends input db process sender debitMinor)
    (act : Act db db' input process deed) :
    spendable db' sender = spendable db sender - debitMinor := by
  have takes : ∀ {deed given debit}, Act db db' input process deed →
      deed.legs = transferLegs given debit → Transferring given debit →
      given.senderMerchantId = sender → debit.minor = debitMinor →
      spendable db' sender = spendable db sender - debitMinor := by
    intro deed given debit act legs transferring from_ worth
    have apart : given.recipientMerchantId ≠ sender := from_ ▸ transferring.apart.symm
    unfold spendable
    rw [act.net, legs, net_transferLegs, if_pos from_, if_neg apart, worth]
    omega
  have known := act.known
  have moved := act.moved
  cases sends with
  | settles point commits =>
    obtain ⟨next, result, went⟩ := commits
    simp only [Process.step, SettleShopTransfer.step, point, went, SettleShopTransfer.finish,
      Prod.map] at moved
    have same : next = db' := moved
    obtain ⟨row, given, debit, turn, did, transferring, from_, worth⟩ :=
      postSettlement_turn point (unit_ok went)
    rw [same] at did
    exact takes ⟨act.sound, act.known, act.fresh, act.moved, turn, did⟩ rfl transferring from_ worth
  | approves point claims commits =>
    obtain ⟨next, result, went⟩ := commits
    simp only [Known, KnownTransfer, point] at known
    simp only [Process.step, DecideTransfer.step, point, went, Prod.map] at moved
    have same : next = db' := moved
    obtain ⟨given, debit, turn, did, transferring, from_, worth⟩ :=
      approveTransfer_turn point known.2 claims (unit_ok went)
    rw [same] at did
    exact takes ⟨act.sound, act.known, act.fresh, act.moved, turn, did⟩ rfl transferring from_ worth

theorem divided_step (w : World Db Process) (event : Event Input Process) (w' : World Db Process)
    (secure : Secure Sound (Enlisted allowed) w ∧ Divided w.store)
    (step : Interleaved allowed w event w') :
    Secure Sound (Enlisted allowed) w' ∧ Divided w'.store := by
  refine ⟨secure_step w event w' secure.1 step, ?_⟩
  rcases secure_act secure.1 step with aside | ⟨input, process, deed, _, _, act⟩
  · rw [aside]
    exact secure.2
  · exact secure.2.act act

theorem Blank.net (blank : Blank db) (merchantId : MerchantId)
    (accountTypes : List LedgerAccountKind) : netMinor db merchantId accountTypes = 0 := by
  unfold netMinor
  rw [blank.ledgerEntries]
  rfl

/-- No available account is ever overdrawn exactly as long as every transfer that is posted, by
the shop's own call or by the console's approval, is still covered when it is posted. -/
theorem covered_iff {past : List Happened} (run : Run Begins (Interleaved allowed) past w) :
    (∀ taken ∈ past, Covered taken.after.store) ↔ ∀ taken ∈ past, StillCovered taken := by
  refine run.always_iff (I := fun w => Covered w.store) ?_ divided_step ?_ ?_
  · intro w begins
    refine ⟨begins_secure w begins, fun merchantId => ?_⟩
    unfold spendable
    rw [begins.1.net, begins.1.net]
  · intro w begins merchantId
    exact Int.le_of_eq (begins.1.net merchantId _).symm
  · intro w event w' secure covered step
    constructor
    · intro after input process acted sender debitMinor sends
      obtain ⟨deed, act⟩ := acted_act secure.1 step acted
      have kept := after sender
      have takes := sends.takes act
      omega
    · intro still
      rcases secure_act secure.1 step with aside | ⟨input, process, deed, acted, _, act⟩
      · rw [aside]
        exact covered
      · exact covered_step secure.2 covered act (still _ _ acted)

/-- The services that debit an available account, and deposits. -/
def debitingServices : List Service :=
  [.deposit, .createSale, .transferProfit, .runDueSoftwareFees, .settleShopTransfer,
   .decideTransfer]

/-- Ninety-five of the first shop's hundred santim, sent to the other. -/
def sending : Process :=
  .settleShopTransfer
    { policy := { maxPerTransferMinor := 1000, maxPerDayMinor := 1000,
                  approvalThresholdMinor := 1000, feeBasisPoints := 0 }
      attempt := { senderMerchantId := "shop", senderDeviceId := "till",
                   senderOperatorId := "operator", recipientDeviceId := "stand",
                   amountMinor := 95 }
      now := 0, correlationId := "", point := .begin }

/-- A transfer is decided on the balance it reads; a sale reserves some of it; the transfer is
posted. -/
def spentMeanwhile : List (Event Input Process) :=
  let answered := fun tag => drawing tag .confirmedSuccess .success 0
  [.start (funds "shop"), .act 0 (answered "a"),
   .start sending, .act 1 (answered "b"), .act 1 (answered "c"), .act 1 (answered "d"),
   .act 1 (answered "e"), .act 1 (answered "f"),
   .start (airtime "request"), .act 2 (answered "g"), .act 2 (answered "h"),
   .act 2 (answered "i"), .act 2 (answered "j"), .act 2 (answered "sale"),
   .act 1 (answered "k")]

def spentMeanwhileRun : List Happened × World Db Process :=
  played (World.next services) spentMeanwhile [] ⟨twoShops, []⟩

theorem spentMeanwhile_runs : Run Begins (Interleaved debitingServices) spentMeanwhileRun.1
    spentMeanwhileRun.2 :=
  interleaved_run _ spentMeanwhile (by decide)

theorem spentMeanwhile_overdraws : ∃ taken ∈ spentMeanwhileRun.1, ¬ Covered taken.after.store := by
  refine ⟨_, List.mem_cons_self .., fun covered => ?_⟩
  have shop := covered "shop"
  revert shop
  decide

/-- A transfer decided on a balance that is spent before it is posted overdraws its sender. -/
theorem transfer_overdraws : ¬ ∀ past w,
    Run Begins (Interleaved debitingServices) past w → ∀ taken ∈ past, Covered taken.after.store := by
  intro always
  obtain ⟨taken, mem, overdrawn⟩ := spentMeanwhile_overdraws
  exact overdrawn (always _ _ spentMeanwhile_runs taken mem)

theorem spentMeanwhile_uncovered : ¬ ∀ taken ∈ spentMeanwhileRun.1, StillCovered taken := by
  intro still
  obtain ⟨taken, mem, overdrawn⟩ := spentMeanwhile_overdraws
  exact overdrawn ((covered_iff spentMeanwhile_runs).mpr still taken mem)

end Telga.Proofs
