import Telga.Proofs.Nets

namespace Telga.Proofs
open Domain Persistence Application Library

/-- Revenue entries attributed to a merchant that name a sale. -/
def earnedEntry (merchantId : MerchantId) (sale : Option TransactionId)
    (merchant : Option MerchantId) (kind : LedgerAccountKind) : Bool :=
  sale.isSome ∧ merchant = some merchantId ∧ kind = .telgaRevenue

/-- Revenue entries attributed to a merchant that name no sale. -/
def takenEntry (merchantId : MerchantId) (sale : Option TransactionId)
    (merchant : Option MerchantId) (kind : LedgerAccountKind) : Bool :=
  sale = none ∧ merchant = some merchantId ∧ kind = .telgaRevenue

/-- What a merchant has earned by its sales. -/
def profitEarnedMinor (db : Db) (merchantId : MerchantId) : Int :=
  netOf (earnedEntry merchantId) db

/-- What a merchant has moved out of its profit. -/
def profitTakenMinor (db : Db) (merchantId : MerchantId) : Int :=
  - netOf (takenEntry merchantId) db

/-- The balance a merchant may sell against. -/
def sellingMinor (db : Db) (merchantId : MerchantId) : Int :=
  netMinor db merchantId [.merchantAvailable, .merchantFunds]

/-- The profit that is left is what was earned less what was taken. -/
theorem profit_left (db : Db) (merchantId : MerchantId) :
    profitAvailableMinor db merchantId =
      profitEarnedMinor db merchantId - profitTakenMinor db merchantId := by
  have split : ∀ rows : List LedgerEntryRow,
      total rowMinor (rows.filter fun row =>
        row.merchantId = some merchantId ∧ row.accountType ∈ [LedgerAccountKind.telgaRevenue]) =
      total rowMinor (rows.filter fun row =>
        earnedEntry merchantId row.transactionId row.merchantId row.accountType) +
      total rowMinor (rows.filter fun row =>
        takenEntry merchantId row.transactionId row.merchantId row.accountType) := by
    intro rows
    induction rows with
    | nil => rfl
    | cons row rest ih =>
      simp only [List.filter_cons]
      by_cases of : row.merchantId = some merchantId ∧ row.accountType = .telgaRevenue
      · cases sale : row.transactionId with
        | none =>
          simp [of, earnedEntry, takenEntry] at ih ⊢
          omega
        | some sold =>
          simp [of, earnedEntry, takenEntry] at ih ⊢
          omega
      · have other : ¬ (row.merchantId = some merchantId ∧
            row.accountType ∈ [LedgerAccountKind.telgaRevenue]) := by simpa using of
        have neither : ∀ sale, earnedEntry merchantId sale row.merchantId row.accountType = false ∧
            takenEntry merchantId sale row.merchantId row.accountType = false := by
          intro sale
          simp only [earnedEntry, takenEntry, decide_eq_false_iff_not]
          exact ⟨fun both => of both.2, fun both => of both.2⟩
        rw [if_neg (by simpa using of), if_neg (by simp [(neither row.transactionId).1]),
          if_neg (by simp [(neither row.transactionId).2])]
        exact ih
  unfold profitAvailableMinor netMinor profitEarnedMinor profitTakenMinor netOf
  rw [split]
  omega

/-- What a deed adds to a merchant's earnings. -/
def Deed.earned (merchantId : MerchantId) : Deed → Int
  | .moved _ (.settle profitMinor _) context _ =>
    if context.merchantId = merchantId then (clampProfit context.amount profitMinor).minor else 0
  | _ => 0

theorem Deed.earned_nonneg (deed : Deed) (merchantId : MerchantId) : 0 ≤ deed.earned merchantId := by
  unfold Deed.earned
  split
  · split
    · exact Int.le_max_left ..
    · exact Int.le_refl 0
  · exact Int.le_refl 0

/-- Only a settlement earns anything. -/
theorem Turn.earned (turn : Turn db process deed) (merchantId : MerchantId) :
    total (legOf (earnedEntry merchantId)) deed.legs = deed.earned merchantId := by
  have transfers : ∀ input debit,
      total (legOf (earnedEntry merchantId)) (transferLegs input debit) = 0 := by
    intro input debit
    unfold transferLegs
    split <;> simp [merchantLeg, platformLeg, legOf, earnedEntry]
  cases deed with
  | opened row hold record context =>
    simp [Deed.legs, Deed.earned, holdLegs, bucketTransfer, merchantLeg, legOf, earnedEntry]
  | moved state disposal context commission =>
    cases disposal with
    | settle profitMinor profitBps =>
      have low : 0 ≤ (clampProfit context.amount profitMinor).minor := Int.le_max_left ..
      simp only [Deed.legs, Disposal.legs, settlementLegs, Deed.earned]
      split
      · simp [merchantLeg, platformLeg, legOf, earnedEntry, signedMinor, signed]
      · have none : (clampProfit context.amount profitMinor).minor = 0 := by omega
        simp [merchantLeg, platformLeg, legOf, earnedEntry, none]
    | release =>
      simp [Deed.legs, Deed.earned, Disposal.legs, releaseLegs, bucketTransfer, merchantLeg, legOf,
        earnedEntry]
    | review =>
      simp [Deed.legs, Deed.earned, Disposal.legs, reviewLegs, bucketTransfer, merchantLeg, legOf,
        earnedEntry]
    | reviewRelease =>
      simp [Deed.legs, Deed.earned, Disposal.legs, reviewReleaseLegs, bucketTransfer, merchantLeg,
        legOf, earnedEntry]
  | posted legs =>
    cases turn with
    | takesProfit =>
      simp [Deed.legs, Deed.earned, profitLegs, merchantLeg, platformLeg, legOf, earnedEntry]
    | charges =>
      simp [Deed.legs, Deed.earned, feeLegs, merchantLeg, platformLeg, legOf, earnedEntry]
    | deposits =>
      simp [Deed.legs, Deed.earned, fundingLegs, merchantLeg, platformLeg, legOf, earnedEntry]
  | sent row legs =>
    cases turn with
    | records => simp [Deed.legs, Deed.earned]
    | sends => exact transfers _ _
  | approved id legs =>
    cases turn with
    | approves => exact transfers _ _
    | late => simp [Deed.legs, Deed.earned]
  | reversed id movement given =>
    simp [Deed.legs, Deed.earned, reversalLegs, merchantLeg, platformLeg, legOf, earnedEntry]
  | _ => simp [Deed.legs, Deed.earned]

/-- A deed takes nothing out of a merchant's profit, or no more than there is. -/
theorem Turn.taken (turn : Turn db process deed) (merchantId : MerchantId) :
    total (legOf (takenEntry merchantId)) deed.legs = 0 ∨
    0 ≤ profitAvailableMinor db merchantId + total (legOf (takenEntry merchantId)) deed.legs ∧
      deed.earned merchantId = 0 := by
  have transfers : ∀ input debit,
      total (legOf (takenEntry merchantId)) (transferLegs input debit) = 0 := by
    intro input debit
    unfold transferLegs
    split <;> simp [merchantLeg, platformLeg, legOf, takenEntry]
  cases deed with
  | opened row hold record context =>
    left
    simp [Deed.legs, holdLegs, bucketTransfer, merchantLeg, legOf, takenEntry]
  | moved state disposal context commission =>
    left
    cases disposal with
    | settle profitMinor profitBps =>
      simp only [Deed.legs, Disposal.legs, settlementLegs]
      split <;> simp [merchantLeg, platformLeg, legOf, takenEntry]
    | release =>
      simp [Deed.legs, Disposal.legs, releaseLegs, bucketTransfer, merchantLeg, legOf, takenEntry]
    | review =>
      simp [Deed.legs, Disposal.legs, reviewLegs, bucketTransfer, merchantLeg, legOf, takenEntry]
    | reviewRelease =>
      simp [Deed.legs, Disposal.legs, reviewReleaseLegs, bucketTransfer, merchantLeg, legOf,
        takenEntry]
  | posted legs =>
    cases turn with
    | takesProfit of amount within =>
      rename_i call movement
      by_cases own : call.merchantId = merchantId
      · right
        rw [own] at within
        simp [Deed.legs, Deed.earned, profitLegs, merchantLeg, platformLeg, legOf, takenEntry, of,
          own, signedMinor, signed]
        omega
      · left
        simp [Deed.legs, profitLegs, merchantLeg, platformLeg, legOf, takenEntry, of, own]
    | charges =>
      left
      simp [Deed.legs, feeLegs, merchantLeg, platformLeg, legOf, takenEntry]
    | deposits =>
      left
      simp [Deed.legs, fundingLegs, merchantLeg, platformLeg, legOf, takenEntry]
  | sent row legs =>
    left
    cases turn with
    | records => rfl
    | sends => exact transfers _ _
  | approved id legs =>
    left
    cases turn with
    | approves => exact transfers _ _
    | late => rfl
  | reversed id movement given =>
    left
    simp [Deed.legs, reversalLegs, merchantLeg, platformLeg, legOf, takenEntry]
  | _ => exact .inl rfl

/-- No merchant has taken more profit than it earned. -/
def WithinProfit (db : Db) : Prop :=
  ∀ merchantId, profitTakenMinor db merchantId ≤ profitEarnedMinor db merchantId

theorem Act.within (act : Act db db' input process deed) (within : WithinProfit db) :
    WithinProfit db' := by
  intro merchantId
  have before := within merchantId
  have left := profit_left db merchantId
  have earned := act.netOf (earnedEntry merchantId)
  have taken := act.netOf (takenEntry merchantId)
  have more := Deed.earned_nonneg deed merchantId
  rw [act.turn.earned merchantId] at earned
  unfold profitTakenMinor profitEarnedMinor at before left ⊢
  rcases act.turn.taken merchantId with none | ⟨enough, nothing⟩
  · omega
  · omega

/-- Moving profit changes nothing, or moves the amount asked for from the merchant's profit to its
selling balance and touches no other figure of anybody. -/
inductive Transferred (db db' : Db) (call : TransferProfit) : ProfitPoint → Prop
  | refused (still : db' = db)
      (refused : ∀ amount left available, point ≠ .returned (.transferred amount left available)) :
      Transferred db db' call point
  | moved (covered : call.amountMinor ≤ profitAvailableMinor db call.merchantId)
      (profit : profitAvailableMinor db' call.merchantId =
        profitAvailableMinor db call.merchantId - call.amountMinor)
      (selling : sellingMinor db' call.merchantId =
        sellingMinor db call.merchantId + call.amountMinor)
      (own : netMinor db' call.merchantId [.merchantReserved, .merchantUnderReview] =
        netMinor db call.merchantId [.merchantReserved, .merchantUnderReview])
      (others : ∀ other, other ≠ call.merchantId → ∀ kinds,
        netMinor db' other kinds = netMinor db other kinds) :
      Transferred db db' call (.returned (.transferred call.amountMinor left available))

theorem moveProfit_moves {call : TransferProfit}
    (h : moveProfit call input db = .ok (db', result)) :
    Transferred db db' call (.returned result) := by
  simp only [moveProfit] at h
  split at h
  · simp only [pure_ok, Prod.mk.injEq] at h
    obtain ⟨rfl, rfl⟩ := h
    exact .refused rfl (by simp)
  · rename_i enough
    simp only [bind_ok, money_ok, pure_ok, Prod.mk.injEq] at h
    obtain ⟨amount, same, first, posted, second, audited, view, _, rfl, rfl⟩ := h
    obtain ⟨rows, _, _, positive, _, grown⟩ := postMovement_ok posted
    obtain ⟨audits, rfl⟩ := saveAuditEvent_ok audited
    let movement : MovementInput :=
      { merchantId := call.merchantId, amount, now := input.now 0,
        correlationId := call.correlationId, postingId := input.newId 0 }
    have attributed : ∀ leg ∈ profitLegs movement,
        owner (db.ledgerAccounts ++ rows) leg = leg.merchantId := by
      intro leg mem
      simp only [profitLegs, List.mem_cons, List.not_mem_nil, or_false] at mem
      rcases mem with rfl | rfl <;> exact owner_some rfl
    have moves : ∀ (merchantId : MerchantId) (kinds : List LedgerAccountKind),
        netMinor { first with auditEvents := audits } merchantId kinds =
          netMinor db merchantId kinds + total (legNet merchantId kinds) (profitLegs movement) :=
      fun merchantId kinds => netMinor_posting (congrArg Db.ledgerEntries grown)
        fun leg mem _ => attributed leg mem
    refine .moved (by omega) ?_ ?_ ?_ ?_
    · unfold profitAvailableMinor
      rw [moves]
      simp [profitLegs, merchantLeg, platformLeg, legNet, signedMinor, signed, movement, same]
      omega
    · unfold sellingMinor
      rw [moves]
      simp [profitLegs, merchantLeg, platformLeg, legNet, signedMinor, signed, movement, same]
    · rw [moves]
      simp [profitLegs, merchantLeg, platformLeg, legNet]
    · intro other apart kinds
      rw [moves]
      simp [profitLegs, merchantLeg, platformLeg, legNet, movement, Ne.symm apart]

/-- A call's one step moves the profit it is asked to, or changes nothing. -/
theorem transferProfit_moves (call : TransferProfit) (input : Input) (db : Db)
    (starts : call.point = .begin) :
    Transferred db (call.step input db).1 call (call.step input db).2.point := by
  unfold TransferProfit.step
  simp only [starts]
  split
  · exact .refused rfl (by simp [TransferProfit.at])
  · split
    · exact .refused rfl (by simp [TransferProfit.at])
    · split
      · exact .refused rfl (by simp [TransferProfit.at])
      · split
        · exact .refused rfl (by simp [TransferProfit.at])
        · rcases unit_cases input (moveProfit call input) db with
            ⟨next, result, _, done, same⟩ | ⟨fault, same⟩
          · rw [same]
            exact moveProfit_moves done
          · rw [same]
            exact .refused rfl (by simp [TransferProfit.at])

/-- However sales, transfers, reversals and fees interleave, no merchant takes more profit than it
earned and none of it is owed; and a transfer moves profit to the selling balance or does
nothing. -/
theorem profit_never_overdrawn {past : List Happened} {w : World Db Process}
    (run : Run Begins (Interleaved allowed) past w) :
    (∀ t ∈ past, ∀ merchantId,
      profitTakenMinor t.after.store merchantId ≤ profitEarnedMinor t.after.store merchantId ∧
      0 ≤ profitAvailableMinor t.after.store merchantId) ∧
    ∀ t ∈ past, ∀ input call, Acted t input (.transferProfit call) → call.point = .begin →
      Transferred t.before.store t.after.store call (call.step input t.before.store).2.point ∧
      profitAvailableMinor t.after.store call.merchantId +
          sellingMinor t.after.store call.merchantId =
        profitAvailableMinor t.before.store call.merchantId +
          sellingMinor t.before.store call.merchantId := by
  have start : ∀ w, Begins w → Secure Sound (Enlisted allowed) w ∧ WithinProfit w.store := by
    intro w begins
    refine ⟨begins_secure w begins, fun merchantId => ?_⟩
    simp [profitTakenMinor, profitEarnedMinor, netOf, begins.1.ledgerEntries]
  have keep : ∀ w event w', Secure Sound (Enlisted allowed) w ∧ WithinProfit w.store →
      Interleaved allowed w event w' →
      Secure Sound (Enlisted allowed) w' ∧ WithinProfit w'.store := by
    intro w event w' ⟨secure, within⟩ step
    refine ⟨secure_step w event w' secure step, ?_⟩
    rcases secure_act secure step with still | ⟨_, _, _, _, _, act⟩
    · rw [still]
      exact within
    · exact act.within within
  have taken := run.taken start keep
  constructor
  · intro t mem merchantId
    obtain ⟨_, _, _, within⟩ := taken t mem
    have bound := within merchantId
    have left := profit_left t.after.store merchantId
    exact ⟨bound, by omega⟩
  · intro t mem input call acted starts
    obtain ⟨⟨secure, _⟩, step, _⟩ := taken t mem
    obtain ⟨deed, act⟩ := acted_act secure step acted
    have moved : (call.step input t.before.store).1 = t.after.store := act.moved
    have outcome := transferProfit_moves call input t.before.store starts
    rw [moved] at outcome
    refine ⟨outcome, ?_⟩
    generalize (call.step input t.before.store).2.point = point at outcome
    cases outcome with
    | refused still => rw [still]
    | moved _ profit selling => omega

/-- A hundred birr deposited, a sale of a hundred birr that is delivered, and two transfers of two
birr out of its profit of two birr and ten santim. -/
def soldAndTaken : List (Event Input Process) :=
  let delivered := fun tag => drawing tag .confirmedSuccess .success 0
  let hundredBirr : Money := ⟨10000, safe_tenThousand⟩
  let take : Process := .transferProfit
    { mode := .training, merchantId := "shop", actor := ⟨"owner", .merchantOwner⟩
      amountMinor := 200, correlationId := "take", point := .begin }
  [.start (.deposit
     { input := { merchantId := "shop", amount := hundredBirr, now := 0,
                  correlationId := "deposit", postingId := "deposit" }
       point := .begin }),
   .act 0 (delivered "a"),
   .start (.createSale
     { deps := { providerId := "provider", catalog := fun _ => some true, mode := .training }
       request :=
         { merchantId := "shop", deviceId := "till", operatorId := "operator",
           productId := "airtime", amount := hundredBirr, recipient := "0911223344",
           clientRequestId := "request" }
       correlationId := "", point := .begin }),
   .act 1 (delivered "b"), .act 1 (delivered "c"), .act 1 (delivered "d"), .act 1 (delivered "e"),
   .act 1 (delivered "f"), .act 1 (delivered "g"), .act 1 (delivered "h"), .act 1 (delivered "i"),
   .start take, .start take, .act 2 (delivered "j"), .act 3 (delivered "k")]

def soldAndTakenRun : List Happened × World Db Process :=
  played (World.next services) soldAndTaken [] ⟨twoShops, []⟩

/-- The first is paid out and the second refused. -/
theorem soldAndTaken_once :
    (∀ t ∈ soldAndTakenRun.1, ∀ merchantId,
      profitTakenMinor t.after.store merchantId ≤ profitEarnedMinor t.after.store merchantId ∧
      0 ≤ profitAvailableMinor t.after.store merchantId) ∧
    profitTakenMinor soldAndTakenRun.2.store "shop" = 200 := by
  have run : Run Begins (Interleaved [.deposit, .createSale, .transferProfit]) soldAndTakenRun.1
      soldAndTakenRun.2 :=
    interleaved_run _ soldAndTaken (by decide +kernel)
  exact ⟨(profit_never_overdrawn run).1, by decide +kernel⟩

end Telga.Proofs
