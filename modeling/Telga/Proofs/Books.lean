import Telga.Proofs.Commissions

namespace Telga.Proofs
open Domain Persistence Application Library

/-- What holds of a database no sale was made on, and survives every deed of a call, holds wherever
an interleaving of calls arrives. -/
theorem holds_throughout {I : Db → Prop} (start : ∀ db, Blank db → I db)
    (keep : ∀ db db' input process deed, I db → Act db db' input process deed → I db')
    {past : List Happened} (run : Run Begins (Interleaved allowed) past w) : I w.store := by
  have kept := run.invariant (I := fun w => Secure Sound (Enlisted allowed) w ∧ I w.store)
    (fun w begins => ⟨begins_secure w begins, start _ begins.1⟩)
    (by
      rintro w event w' ⟨secure, holds⟩ step
      refine ⟨secure_step w event w' secure step, ?_⟩
      rcases secure_act secure step with same | ⟨_, _, _, _, _, act⟩
      · rwa [same]
      · exact keep _ _ _ _ _ holds act)
  exact kept.2

/-- Legs about one sale, or about none, that add up to nothing do so among any sales. -/
theorem total_legOf {legs : List DraftEntry} {sale : Option TransactionId}
    (one : ∀ leg ∈ legs, leg.transactionId = sale) (even : total signedMinor legs = 0)
    (sales : Option TransactionId → Bool) : total (legOf fun sale _ _ => sales sale) legs = 0 := by
  have weight : ∀ leg ∈ legs, legOf (fun sale _ _ => sales sale) leg =
      if sales sale then signedMinor leg else 0 := by
    intro leg mem
    rw [legOf, one leg mem]
  unfold total at *
  rw [List.map_congr_left weight]
  by_cases among : sales sale
  · simpa [among] using even
  · simp [among]

/-- The legs of one deed are about one sale, or about none, and balance. -/
theorem Turn.balanced (turn : Turn db process deed) :
    ∃ sale, (∀ leg ∈ deed.legs, leg.transactionId = sale) ∧ total signedMinor deed.legs = 0 := by
  have transfer : ∀ {input debit}, Transferring input debit →
      (∀ leg ∈ transferLegs input debit, leg.transactionId = none) ∧
      total signedMinor (transferLegs input debit) = 0 := by
    intro input debit moved
    have sum := moved.sum
    have fee := moved.fee
    unfold transferLegs
    split <;> simp [merchantLeg, platformLeg, signedMinor, signed] <;> omega
  cases deed with
  | opened row hold record context =>
    exact ⟨some context.transactionId, by
      simp [Deed.legs, holdLegs, bucketTransfer, merchantLeg, signedMinor, signed]⟩
  | moved state disposal context commission =>
    refine ⟨some context.transactionId, ?_⟩
    cases disposal with
    | settle profitMinor profitBps =>
      have profit : 0 < (clampProfit context.amount profitMinor).minor ∨
          (clampProfit context.amount profitMinor).minor = 0 := by
        simp only [clampProfit]
        omega
      simp only [Deed.legs, Disposal.legs, settlementLegs]
      split
      · simp [merchantLeg, platformLeg, signedMinor, signed, providerShare]
      · simp [merchantLeg, platformLeg, signedMinor, signed, providerShare]
        omega
    | _ =>
      simp [Deed.legs, Disposal.legs, releaseLegs, reviewLegs, reviewReleaseLegs, bucketTransfer,
        merchantLeg, signedMinor, signed]
  | posted legs =>
    refine ⟨none, ?_⟩
    cases turn <;>
      simp [Deed.legs, profitLegs, feeLegs, fundingLegs, merchantLeg, platformLeg, signedMinor,
        signed]
  | sent row legs =>
    cases turn with
    | records => exact ⟨none, by simp [Deed.legs]⟩
    | sends _ moved => exact ⟨none, transfer moved⟩
  | approved id legs =>
    cases turn with
    | approves _ moved => exact ⟨none, transfer moved⟩
    | late => exact ⟨none, by simp [Deed.legs]⟩
  | reversed id movement t =>
    exact ⟨movement.transactionId, by
      simp [Deed.legs, reversalLegs, merchantLeg, platformLeg, signedMinor, signed]⟩
  | _ => exact ⟨none, by simp [Deed.legs]⟩

/-- Whatever calls ran, interleaved or broken off, the entries about any given sales add up to
nothing: each sale's own, the ones about no sale, and the whole ledger. -/
theorem books_balance {past : List Happened} (run : Run Begins (Interleaved allowed) past w)
    (sales : Option TransactionId → Bool) : netOf (fun sale _ _ => sales sale) w.store = 0 := by
  apply holds_throughout (I := fun db => netOf (fun sale _ _ => sales sale) db = 0) _ _ run
  · intro db blank
    simp [netOf, blank.ledgerEntries]
  · intro db db' input process deed even act
    obtain ⟨sale, one, balanced⟩ := act.turn.balanced
    rw [act.netOf, even, total_legOf one balanced, Int.zero_add]

theorem answeredLate_balances :
    netOf (fun sale _ _ => sale = some "sale0") answeredLateRun.2.store = 0 :=
  books_balance answeredLate_runs _

/-- The account of its merchant that the value of a reservation stands on, if on any. -/
def standsOn : ReservationState → Option LedgerAccountKind
  | .held => some .merchantReserved
  | .underReview => some .merchantUnderReview
  | _ => none

/-- What a reservation that counts has on the accounts of one kind. -/
def standing (counts : Option TransactionId → Option MerchantId → Bool) (kind : LedgerAccountKind)
    (hold : ReservationRow) : Int :=
  if counts (some hold.transactionId) (some hold.merchantId) ∧ standsOn hold.status = some kind
  then hold.amount.minor else 0

/-- The guard of a reservation's own status strikes no other reservation. -/
theorem guarded_one (ids : Unique (·.id) rows) (mem : row ∈ rows) :
    rows.filter (guarded row.id row.status) = [row] := by
  have same : rows.filter (guarded row.id row.status) =
      (rows.filter fun other => other.id = row.id).filter (·.status = row.status) := by
    rw [List.filter_filter]
    refine List.filter_congr fun other _ => ?_
    simp [guarded, Bool.and_comm]
  rw [same, ids.filter mem]
  simp

/-- A deed moves what stands reserved or under review as its legs move the accounts. -/
theorem Act.standing (act : Act db db' input process deed)
    (counts : Option TransactionId → Option MerchantId → Bool)
    (bucket : kind = .merchantReserved ∨ kind = .merchantUnderReview) :
    total (Proofs.standing counts kind) db'.balanceReservations =
      total (Proofs.standing counts kind) db.balanceReservations +
        total (legOf fun sale merchant other => counts sale merchant ∧ other = kind) deed.legs := by
  have holds := act.did.holds
  have turn := act.turn
  cases deed with
  | opened row hold record context =>
    cases turn with
    | opens _ opening =>
      obtain ⟨sale, merchant, amount, held⟩ := opening.holding
      obtain ⟨sale', merchant', amount'⟩ := opening.operation
      rw [show db'.balanceReservations = _ from holds, total_append]
      rcases bucket with rfl | rfl <;>
        simp [Proofs.standing, standsOn, Deed.legs, holdLegs, bucketTransfer, merchantLeg, legOf,
          signedMinor, signed, sale, merchant, amount, held, sale', merchant', amount']
  | moved state disposal context commission =>
    obtain ⟨row, now, mem, sale, merchant, status, after⟩ := holds
    have worth : row.amount = context.amount := by
      obtain ⟨sold, there, id, _, amount⟩ := act.sound.backed row mem
      obtain ⟨sold', there', id', _, amount'⟩ := turn.moved_sold
      rw [← amount, ← amount', act.sound.ids.eq there there' (by rw [id, id', sale])]
    have one := guarded_one act.sound.holdIds mem
    rw [status] at one
    rw [after, total_update one]
    by_cases counted : counts (some context.transactionId) (some context.merchantId)
    all_goals
      cases disposal with
      | settle profitMinor profitBps =>
        simp only [Deed.legs, Disposal.legs, settlementLegs]
        rcases bucket with rfl | rfl <;> split <;>
          simp [Proofs.standing, standsOn, setStatus, merchantLeg, platformLeg, legOf,
            signedMinor, signed, sale, merchant, status, worth, counted, Disposal.origin,
            Disposal.target]
      | _ =>
        rcases bucket with rfl | rfl <;>
          simp [Proofs.standing, standsOn, setStatus, Deed.legs, Disposal.legs, releaseLegs,
            reviewLegs, reviewReleaseLegs, bucketTransfer, merchantLeg, legOf, signedMinor,
            signed, sale, merchant, status, worth, counted, Disposal.origin, Disposal.target]
  | posted legs | reversed id movement t =>
    rw [show db'.balanceReservations = _ from holds]
    cases turn <;> rcases bucket with rfl | rfl <;>
      simp [Deed.legs, profitLegs, feeLegs, fundingLegs, reversalLegs, merchantLeg, platformLeg,
        legOf]
  | sent row legs | approved id legs =>
    rw [show db'.balanceReservations = _ from holds]
    cases turn <;> simp only [Deed.legs, transferLegs, total_nil, Int.add_zero]
    rcases bucket with rfl | rfl <;> split <;> simp [merchantLeg, platformLeg, legOf]
  | _ =>
    rw [show db'.balanceReservations = _ from holds]
    simp [Deed.legs]

/-- Whatever calls ran, what the entries about any sales and merchants leave on the reserved and
on the under-review accounts is what their reservations say stands there. -/
theorem reservations_agree {past : List Happened} (run : Run Begins (Interleaved allowed) past w)
    (counts : Option TransactionId → Option MerchantId → Bool) :
    ∀ kind ∈ [LedgerAccountKind.merchantReserved, .merchantUnderReview],
      netOf (fun sale merchant other => counts sale merchant ∧ other = kind) w.store =
        total (standing counts kind) w.store.balanceReservations := by
  intro kind bucket
  apply holds_throughout
    (I := fun db => netOf (fun sale merchant other => counts sale merchant ∧ other = kind) db =
      total (standing counts kind) db.balanceReservations) _ _ run
  · intro db blank
    simp [netOf, blank.ledgerEntries, blank.balanceReservations]
  · intro db db' input process deed agree act
    rw [act.netOf, agree, act.standing counts (by simpa using bucket)]

theorem answeredLate_agrees :
    netOf (fun sale _ kind => sale = some "sale0" ∧ kind = .merchantReserved)
        answeredLateRun.2.store =
      total (standing (fun sale _ => sale = some "sale0") .merchantReserved)
        answeredLateRun.2.store.balanceReservations := by
  have agree := reservations_agree answeredLate_runs (fun sale _ => sale = some "sale0")
    .merchantReserved (by simp)
  simpa using agree

/-- A table only grew, at its end, but for what is blanked of its rows. -/
def Grew (blank : ρ → ρ) (before after : List ρ) : Prop :=
  before.map blank <+: after.map blank

theorem Grew.same (same : after = before) : Grew blank before after := by
  rw [same]
  exact List.prefix_rfl

theorem Grew.added (added : after = before ++ more) : Grew blank before after := by
  unfold Grew
  rw [added, List.map_append]
  exact List.prefix_append ..

theorem Grew.rewritten {hit : ρ → Bool} (rewritten : after = update hit change before)
    (keeps : ∀ row, blank (change row) = blank row) : Grew blank before after := by
  unfold Grew
  rw [rewritten, map_update keeps]

/-- What a later state of the database keeps of an earlier one: every row stays, in its place,
with all it says but the columns that record how far it got. -/
structure OnRecord (db db' : Db) : Prop where
  entries : db.ledgerEntries <+: db'.ledgerEntries
  commissions : db.commissionEntries <+: db'.commissionEntries
  sales : Grew
    (fun row => { row with state := .reserved, providerReference := none, updatedAt := 0 })
    db.transactions db'.transactions
  holds : Grew (fun row => { row with status := .held, updatedAt := 0, releasedAt := none })
    db.balanceReservations db'.balanceReservations
  records : Grew (fun row => { row with resultState := none, updatedAt := 0 })
    db.idempotencyRecords db'.idempotencyRecords
  requests : Grew
    (fun row => { row with
      status := .requested, decidedBy := none, decidedAt := none, decisionReason := none,
      reversalEntryId := none, updatedAt := 0 })
    db.reversalRequests db'.reversalRequests
  transfers : Grew
    (fun row => { row with
      status := .needsApproval, refusalReason := none, approvedBy := none, approvedAt := none,
      postingId := none, updatedAt := 0 })
    db.shopTransfers db'.shopTransfers

theorem OnRecord.refl (db : Db) : OnRecord db db :=
  ⟨List.prefix_rfl, List.prefix_rfl, .same rfl, .same rfl, .same rfl, .same rfl, .same rfl⟩

theorem OnRecord.trans (first : OnRecord a b) (next : OnRecord b c) : OnRecord a c where
  entries := first.entries.trans next.entries
  commissions := first.commissions.trans next.commissions
  sales := List.IsPrefix.trans first.sales next.sales
  holds := List.IsPrefix.trans first.holds next.holds
  records := List.IsPrefix.trans first.records next.records
  requests := List.IsPrefix.trans first.requests next.requests
  transfers := List.IsPrefix.trans first.transfers next.transfers

theorem Restated.grew (restated : Restated t state rows after) :
    Grew (fun row => { row with state := .reserved, providerReference := none, updatedAt := 0 })
      rows after := by
  obtain ⟨change, restates, same⟩ := restated
  refine .rewritten same fun row => ?_
  obtain ⟨reference, now, same⟩ := restates row
  rw [same]

theorem Answered.grew (answered : Answered rows after) :
    Grew (fun row => { row with resultState := none, updatedAt := 0 }) rows after := by
  obtain ⟨change, answers, rfl⟩ := answered
  have every : rows.map change = update (fun _ => true) change rows := by simp [update]
  refine .rewritten every fun row => ?_
  obtain ⟨state, now, same⟩ := answers row
  rw [same]

/-- No deed takes a row away or changes what it records. -/
theorem Did.onRecord (did : Did deed db db') : OnRecord db db' := by
  obtain ⟨posting, accounts, _, grown⟩ := did.ledger
  have sales := did.sales
  have holds := did.holds
  have records := did.records
  have requests := did.requests
  have transfers := did.transfers
  refine ⟨⟨_, grown.symm⟩, ⟨_, did.commissions.symm⟩, ?_, ?_, ?_, ?_, ?_⟩
  · cases deed with
    | opened => exact .added sales
    | marked | moved | reversed => exact Restated.grew sales
    | _ => exact .same sales
  · cases deed with
    | opened => exact .added holds
    | moved =>
      obtain ⟨row, now, _, _, _, _, after⟩ := holds
      exact .rewritten after fun _ => rfl
    | _ => exact .same holds
  · cases deed with
    | opened => exact .added records
    | _ => exact Answered.grew records
  · cases deed with
    | filed => exact .added requests
    | decided | reversed => exact .rewritten requests fun _ => rfl
    | _ => exact .same requests
  · cases deed with
    | sent => exact .added transfers
    | approved | dismissed =>
      obtain ⟨_, _, _, after⟩ := transfers
      exact .rewritten after fun _ => rfl
    | _ => exact .same transfers

/-- Whatever calls ran, interleaved or broken off, every row a state of the run holds is still
there in the end and says what it said. -/
theorem records_kept {past : List Happened} (run : Run Begins (Interleaved allowed) past w) :
    ∀ taken ∈ past, OnRecord taken.before.store w.store ∧ OnRecord taken.after.store w.store := by
  refine run.since (R := fun w w' => OnRecord w.store w'.store) (fun _ => .refl _)
    (fun _ _ _ => .trans) begins_secure secure_step fun w event w' secure step => ?_
  rcases secure_act secure step with same | ⟨_, _, _, _, _, act⟩
  · rw [same]
    exact .refl _
  · exact act.did.onRecord

theorem answeredLate_keeps : ∃ taken ∈ answeredLateRun.1,
    OnRecord taken.before.store answeredLateRun.2.store :=
  ⟨_, List.mem_cons_self .., (records_kept answeredLate_runs _ (List.mem_cons_self ..)).1⟩

/-- What a commission entry records that a merchant earned on a sale. -/
def shareOf (transactionId : TransactionId) (merchantId : MerchantId) (entry : CommissionEntryRow) :
    Int :=
  if entry.transactionId = transactionId ∧ entry.merchantId = merchantId then
    entry.split.shopShareMinor
  else 0

theorem clampProfit_exact (low : 0 ≤ profitMinor) (high : profitMinor ≤ amount.minor) :
    (clampProfit amount profitMinor).minor = profitMinor := by
  simp only [clampProfit]
  omega

/-- A deed credits as profit what the commission entries it records say, none without one. -/
theorem Act.shared (act : Act db db' input process deed) (t : TransactionId)
    (merchantId : MerchantId) :
    deed.profit t merchantId = total (shareOf t merchantId) deed.commissions := by
  have turn := act.turn
  have positive := act.did.positive
  cases deed with
  | moved state disposal context commission =>
    cases turn with
    | settles _ _ concerns sum earned =>
      obtain ⟨_, _, _, low, _, high⟩ := splitCommission_ok earned.split
      have worth : 0 < context.amount.minor := positive _ (List.mem_cons_self ..)
      have fits := high (by rw [← sum]; omega)
      rw [← sum] at fits
      have share := clampProfit_exact low fits
      simp [Deed.profit, Deed.commissions, shareOf, share, earned.transaction, earned.merchant,
        concerns.1, concerns.2.1]
    | completes _ _ either => rcases either with rfl | rfl <;> rfl
    | resolveSuccess | recoverSuccess =>
      have worth : 0 < context.amount.minor := positive _ (List.mem_cons_self ..)
      have nothing := clampProfit_exact (Int.le_refl 0) (Int.le_of_lt worth)
      simp [Deed.profit, Deed.commissions, nothing]
    | _ => rfl
  | _ => rfl

/-- A deed records an entry for a sale when it settles it, and so the first one. -/
theorem Act.first_entry (act : Act db db' input process deed) (unearned : Unearned db)
    (few : (commissionsOf db t).length ≤ 1) : (commissionsOf db' t).length ≤ 1 := by
  unfold commissionsOf at *
  rw [act.did.commissions, List.filter_append, List.length_append]
  by_cases settles : deed.Settles t
  · obtain ⟨profitMinor, profitBps, context, commission, rfl, here⟩ := settles
    have unsettled : valueOf db t ≠ some .settled := by
      rw [← here, act.did.origin act.sound]
      simp [Disposal.origin]
    have none : db.commissionEntries.filter (fun entry => entry.transactionId = t) = [] :=
      List.filter_eq_nil_iff.mpr fun entry mem => by
        simpa using unearned.entries t unsettled entry mem
    rw [none, List.length_nil, Nat.zero_add]
    exact (List.length_filter_le ..).trans (by cases commission <;> simp [Deed.commissions])
  · have none : deed.commissions.filter (fun entry => entry.transactionId = t) = [] :=
      List.filter_eq_nil_iff.mpr fun entry mem => by
        simpa using (act.turn.unsettled settles).2 entry mem
    rwa [none]

/-- Whatever calls ran, a sale has at most one commission entry, and what its merchant was credited
as profit for it is what that entry records: nothing, when there is none. -/
theorem profit_recorded {past : List Happened} (run : Run Begins (Interleaved allowed) past w)
    (t : TransactionId) : (commissionsOf w.store t).length ≤ 1 ∧
      ∀ merchantId, revenueOf w.store t merchantId =
        total (shareOf t merchantId) w.store.commissionEntries := by
  have kept := holds_throughout
    (I := fun db => Unearned db ∧ (commissionsOf db t).length ≤ 1 ∧ ∀ merchantId,
      revenueOf db t merchantId = total (shareOf t merchantId) db.commissionEntries)
    ?_ ?_ run
  · exact kept.2
  · intro db blank
    simp [blank.unearned, commissionsOf, revenueOf, netOf, blank.commissionEntries,
      blank.ledgerEntries]
  · rintro db db' input process deed ⟨unearned, few, agree⟩ act
    refine ⟨unearned.act act, act.first_entry unearned few, fun merchantId => ?_⟩
    rw [act.revenue, agree, act.did.commissions, total_append, act.shared]

theorem answeredLate_records : (commissionsOf answeredLateRun.2.store "sale0").length ≤ 1 ∧
    ∀ merchantId, revenueOf answeredLateRun.2.store "sale0" merchantId =
      total (shareOf "sale0" merchantId) answeredLateRun.2.store.commissionEntries :=
  profit_recorded answeredLate_runs "sale0"

end Telga.Proofs
