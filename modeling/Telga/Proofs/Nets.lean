import Telga.Proofs.Runs

namespace Telga.Proofs
open Domain Persistence Application Library

/-- A leg on no merchant's account names a platform account. -/
def Own (leg : DraftEntry) : Prop :=
  leg.merchantId = none → ∃ kind, leg.accountId = .platform kind

@[simp] theorem own_merchantLeg :
    Own (merchantLeg merchantId kind transactionId direction amount reason) :=
  fun absent => by cases absent

@[simp] theorem own_platformLeg : Own (platformLeg kind transactionId direction amount reason) :=
  fun _ => ⟨kind, rfl⟩

/-- Such a leg is stored under the merchant it names, or under none. -/
theorem owner_own {accounts : List LedgerAccountRow}
    (named : ∀ account ∈ accounts, Named account) (own : Own leg) :
    owner accounts leg = leg.merchantId := by
  cases given : leg.merchantId with
  | some merchantId => rw [owner_some given, given]
  | none =>
    obtain ⟨kind, platform⟩ := own given
    unfold owner
    rw [given]
    cases found : accounts.find? fun account => account.id = leg.accountId with
    | none => simp
    | some account =>
      have mem := List.mem_of_find?_eq_some found
      have same := List.find?_some found
      simp only [decide_eq_true_eq] at same
      have name := named account mem
      unfold Named at name
      rw [same, platform] at name
      simp [name.1]

theorem own_transferLegs : ∀ leg ∈ transferLegs input debit, Own leg := by
  unfold transferLegs
  split <;> simp

theorem Disposal.own (disposal : Disposal) : ∀ leg ∈ disposal.legs context, Own leg := by
  cases disposal with
  | release => simp [Disposal.legs, releaseLegs, bucketTransfer]
  | settle profitMinor profitBps =>
    simp only [Disposal.legs, settlementLegs]
    split
    · simp only [List.cons_append, List.nil_append, List.mem_cons, List.not_mem_nil, or_false,
        forall_eq_or_imp, forall_eq, own_merchantLeg, own_platformLeg, true_and]
      intro absent
      cases absent
    · simp
  | review => simp [Disposal.legs, reviewLegs, bucketTransfer]
  | reviewRelease => simp [Disposal.legs, reviewReleaseLegs, bucketTransfer]

/-- So do the legs of every deed. -/
theorem Turn.own (turn : Turn db process deed) : ∀ leg ∈ deed.legs, Own leg := by
  cases deed with
  | opened row hold record context => simp [Deed.legs, holdLegs, bucketTransfer]
  | moved state disposal context commission => exact disposal.own
  | posted legs =>
    cases turn with
    | takesProfit =>
      simp only [Deed.legs, profitLegs, List.mem_cons, List.not_mem_nil, or_false,
        forall_eq_or_imp, forall_eq, own_merchantLeg, true_and]
      intro absent
      cases absent
    | charges =>
      simp only [Deed.legs, feeLegs, List.mem_cons, List.not_mem_nil, or_false,
        forall_eq_or_imp, forall_eq]
      exact ⟨fun absent => (by cases absent), fun _ => ⟨_, rfl⟩⟩
    | deposits => simp [Deed.legs, fundingLegs]
  | sent row legs =>
    cases turn with
    | records => simp [Deed.legs]
    | sends => exact own_transferLegs
  | approved id legs =>
    cases turn with
    | approves => exact own_transferLegs
    | late => simp [Deed.legs]
  | reversed id movement t => simp [Deed.legs, reversalLegs]
  | _ => simp [Deed.legs]

/-- The net of the entries that count, by sale, merchant and kind of account. -/
def netOf (counts : Option TransactionId → Option MerchantId → LedgerAccountKind → Bool)
    (db : Db) : Int :=
  total rowMinor (db.ledgerEntries.filter fun row =>
    counts row.transactionId row.merchantId row.accountType)

/-- What a leg adds to such a net. -/
def legOf (counts : Option TransactionId → Option MerchantId → LedgerAccountKind → Bool)
    (leg : DraftEntry) : Int :=
  if counts leg.transactionId leg.merchantId leg.accountKind then signedMinor leg else 0

/-- A deed moves every net by what its legs add. -/
theorem Act.netOf (act : Act db db' input process deed)
    (counts : Option TransactionId → Option MerchantId → LedgerAccountKind → Bool) :
    Proofs.netOf counts db' = Proofs.netOf counts db + total (legOf counts) deed.legs := by
  obtain ⟨posting, accounts, known, grown⟩ := act.did.ledger
  have named : ∀ account ∈ accounts, Named account := by
    intro account mem
    rcases known account mem with old | new
    · exact act.sound.named account old
    · exact new
  have attributed : ∀ leg ∈ deed.legs, counts leg.transactionId (owner accounts leg)
      leg.accountKind = counts leg.transactionId leg.merchantId leg.accountKind := by
    intro leg mem
    rw [owner_own named (act.turn.own leg mem)]
  unfold Proofs.netOf
  rw [grown, List.filter_append, total_append, total_entryRows counts attributed]
  rfl

theorem Act.net (act : Act db db' input process deed) (merchantId : MerchantId)
    (accountTypes : List LedgerAccountKind) :
    netMinor db' merchantId accountTypes =
      netMinor db merchantId accountTypes + total (legNet merchantId accountTypes) deed.legs := by
  have moved := act.netOf fun _ merchant kind => merchant = some merchantId ∧ kind ∈ accountTypes
  unfold Proofs.netOf legOf at moved
  simp only [decide_eq_true_eq] at moved
  exact moved

end Telga.Proofs
