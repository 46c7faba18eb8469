import Telga.Proofs.Nets

namespace Telga.Proofs
open Domain Persistence Application Library

/-- Revenue entries attributed to a merchant for a sale. -/
def earning (transactionId : TransactionId) (merchantId : MerchantId)
    (sale : Option TransactionId) (merchant : Option MerchantId) (kind : LedgerAccountKind) : Bool :=
  sale = some transactionId ∧ merchant = some merchantId ∧ kind = .telgaRevenue

/-- What a merchant has been credited as profit for a sale. -/
def revenueOf (db : Db) (transactionId : TransactionId) (merchantId : MerchantId) : Int :=
  netOf (earning transactionId merchantId) db

/-- The commission entries recorded for a sale. -/
def commissionsOf (db : Db) (transactionId : TransactionId) : List CommissionEntryRow :=
  db.commissionEntries.filter fun entry => entry.transactionId = transactionId

/-- Every successful sale has one commission entry, whose shares are the split of its amount at
the entry's own rates, and the merchant was credited the shop's share. -/
def Accounted (db : Db) : Prop :=
  ∀ row ∈ db.transactions, row.state = .successful → ∃ entry,
    commissionsOf db row.id = [entry] ∧
    splitCommission row.amount.minor entry.split.providerCommissionBps entry.split.shopShareBps =
      .ok entry.split ∧
    revenueOf db row.id row.merchantId = entry.split.shopShareMinor

/-- A unit of work that goes through settles a sale because a status lookup found it delivered. -/
inductive SettlesLate (input : Input) (db : Db) : Process → Prop
  | resolves : call.point = .applying row job correlationId status → status.outcome = .success →
      findTransaction db call.transactionId call.merchantId = some current →
      current.state = .pending →
      (closePendingResolution db call.transactionId .resolved (input.now 0)).2 = true →
      Commits input (applyStatus call row job correlationId status input) db →
      SettlesLate input db (.resolvePending call)
  | recovers : sweep.point = .applying work lookupMs .confirmedSuccess reference →
      findTransaction db work.current.id work.current.merchantId = some current →
      current.state = .processing ∨ current.state = .pending →
      Commits input (applyLookup work .confirmedSuccess reference input) db →
      SettlesLate input db (.recoverInFlight sweep)

/-- The step settles no sale on a status lookup. -/
def SettlesAtOnce (taken : Happened) : Prop :=
  ∀ input process, Acted taken input process → ¬ SettlesLate input taken.before.store process

/-- What a deed credits a merchant as profit for a sale. -/
def Deed.profit (transactionId : TransactionId) (merchantId : MerchantId) : Deed → Int
  | .moved _ (.settle profitMinor _) context _ =>
    if context.transactionId = transactionId ∧ context.merchantId = merchantId then
      (clampProfit context.amount profitMinor).minor
    else 0
  | _ => 0

/-- Only a settlement credits profit for a sale. -/
theorem Turn.profit (turn : Turn db process deed) (t : TransactionId) (merchantId : MerchantId) :
    total (legOf (earning t merchantId)) deed.legs = deed.profit t merchantId := by
  have transfers : ∀ input debit,
      total (legOf (earning t merchantId)) (transferLegs input debit) = 0 := by
    intro input debit
    unfold transferLegs
    split <;> simp [merchantLeg, platformLeg, legOf, earning]
  cases deed with
  | opened row hold record context =>
    simp [Deed.legs, Deed.profit, holdLegs, bucketTransfer, merchantLeg, legOf, earning]
  | moved state disposal context commission =>
    cases disposal with
    | settle profitMinor profitBps =>
      have low : 0 ≤ (clampProfit context.amount profitMinor).minor := Int.le_max_left ..
      simp only [Deed.legs, Disposal.legs, settlementLegs, Deed.profit]
      split
      · simp [merchantLeg, platformLeg, legOf, earning, signedMinor, signed]
      · have none : (clampProfit context.amount profitMinor).minor = 0 := by omega
        simp [merchantLeg, platformLeg, legOf, earning, none]
    | release =>
      simp [Deed.legs, Deed.profit, Disposal.legs, releaseLegs, bucketTransfer, merchantLeg, legOf,
        earning]
    | review =>
      simp [Deed.legs, Deed.profit, Disposal.legs, reviewLegs, bucketTransfer, merchantLeg, legOf,
        earning]
    | reviewRelease =>
      simp [Deed.legs, Deed.profit, Disposal.legs, reviewReleaseLegs, bucketTransfer, merchantLeg,
        legOf, earning]
  | posted legs =>
    cases turn with
    | takesProfit =>
      simp [Deed.legs, Deed.profit, profitLegs, merchantLeg, platformLeg, legOf, earning]
    | charges => simp [Deed.legs, Deed.profit, feeLegs, merchantLeg, platformLeg, legOf, earning]
    | deposits =>
      simp [Deed.legs, Deed.profit, fundingLegs, merchantLeg, platformLeg, legOf, earning]
  | sent row legs =>
    cases turn with
    | records => simp [Deed.legs, Deed.profit]
    | sends => exact transfers _ _
  | approved id legs =>
    cases turn with
    | approves => exact transfers _ _
    | late => simp [Deed.legs, Deed.profit]
  | reversed id movement given =>
    simp [Deed.legs, Deed.profit, reversalLegs, merchantLeg, platformLeg, legOf, earning]
  | _ => simp [Deed.legs, Deed.profit]

theorem Act.revenue (act : Act db db' input process deed) (t : TransactionId)
    (merchantId : MerchantId) :
    revenueOf db' t merchantId = revenueOf db t merchantId + deed.profit t merchantId := by
  rw [← act.turn.profit]
  exact act.netOf _

/-- The sale a settlement is of. -/
def Deed.Settles (transactionId : TransactionId) (deed : Deed) : Prop :=
  ∃ profitMinor profitBps context commission,
    deed = .moved .successful (.settle profitMinor profitBps) context commission ∧
      context.transactionId = transactionId

/-- Only settling a sale credits profit for it or records a commission. -/
theorem Turn.unsettled (turn : Turn db process deed) (other : ¬ deed.Settles t) :
    (∀ merchantId, deed.profit t merchantId = 0) ∧
    ∀ entry ∈ deed.commissions, entry.transactionId ≠ t := by
  cases deed with
  | moved state disposal context commission =>
    have fits := turn.moved_fits
    cases disposal with
    | settle profitMinor profitBps =>
      cases fits with
      | settled =>
        have apart : context.transactionId ≠ t :=
          fun same => other ⟨_, _, _, _, rfl, same⟩
        refine ⟨fun merchantId => by simp [Deed.profit, apart], ?_⟩
        intro entry mem
        cases turn with
        | settles _ _ concerns _ earned =>
          simp only [Deed.commissions, Option.toList_some, List.mem_singleton] at mem
          rw [mem, earned.transaction, ← concerns.1]
          exact apart
        | _ => simp [Deed.commissions] at mem
      | reversed either => rcases either with either | either <;> cases either
    | _ =>
      refine ⟨fun merchantId => rfl, ?_⟩
      cases turn <;> simp [Deed.commissions]
  | _ => exact ⟨fun merchantId => rfl, by simp [Deed.commissions]⟩

/-- What holds of profit and commissions after every step, whoever takes it: a successful sale was
settled, and one that was not settled has neither. -/
structure Unearned (db : Db) : Prop where
  settled : ∀ t, stateOf db t = some .successful → valueOf db t = some .settled
  entries : ∀ t, valueOf db t ≠ some .settled → ∀ entry ∈ db.commissionEntries,
    entry.transactionId ≠ t
  revenue : ∀ t, valueOf db t ≠ some .settled → ∀ merchantId, revenueOf db t merchantId = 0

theorem Deed.Settles.value {deed : Deed} (settles : deed.Settles t) : deed.value t = some .settled := by
  obtain ⟨_, _, context, _, rfl, rfl⟩ := settles
  simp [Deed.value, Disposal.target]

/-- Only settling a sale makes it successful. -/
theorem Turn.successful_settles (turn : Turn db process deed)
    (given : deed.state t = some .successful) : deed.Settles t := by
  cases deed with
  | opened row hold record context =>
    cases turn with
    | opens _ opening => simp [Deed.state, opening.state] at given
  | marked marked state =>
    simp only [Deed.state, Option.ite_none_right_eq_some, Option.some.injEq] at given
    rw [given.2] at turn
    rcases turn.marked_state with h | h | h <;> cases h
  | moved state disposal context commission =>
    simp only [Deed.state, Option.ite_none_right_eq_some, Option.some.injEq] at given
    obtain ⟨rfl, rfl⟩ := given
    cases turn.moved_fits with
    | settled => exact ⟨_, _, _, _, rfl, rfl⟩
  | reversed id movement undone => simp [Deed.state] at given
  | _ => cases given

theorem Unearned.act (unearned : Unearned db) (act : Act db db' input process deed) :
    Unearned db' := by
  have values := act.did.values act.sound act.turn
  have stays : ∀ t, valueOf db' t ≠ some .settled → valueOf db t ≠ some .settled := by
    intro t after before
    rw [act.did.settled act.sound act.turn (.inr before)] at after
    exact after before
  have other : ∀ t, valueOf db' t ≠ some .settled → ¬ deed.Settles t := by
    intro t after settles
    rw [values, settles.value] at after
    exact after rfl
  refine ⟨?_, ?_, ?_⟩
  · intro t successful
    rw [act.did.states act.turn] at successful
    have turn := act.turn
    cases given : deed.state t with
    | none =>
      rw [given, Option.none_or] at successful
      have before := unearned.settled t successful
      rw [act.did.settled act.sound act.turn (.inr before)]
      exact before
    | some state =>
      rw [given, Option.some_or] at successful
      cases successful
      rw [values, (turn.successful_settles given).value]
      rfl
  · intro t after entry mem
    rw [act.did.commissions] at mem
    rcases List.mem_append.mp mem with mem | mem
    · exact unearned.entries t (stays t after) entry mem
    · exact (act.turn.unsettled (other t after)).2 entry mem
  · intro t after merchantId
    rw [act.revenue, unearned.revenue t (stays t after), (act.turn.unsettled (other t after)).1,
      Int.add_zero]

/-- Settling on a lookup settles without profit and records no commission. -/
theorem SettlesLate.settles (late : SettlesLate input db process)
    (act : Act db db' input process deed) :
    ∃ context, Act db db' input process (.moved .successful (.settle 0 0) context none) := by
  have moved := act.moved
  cases late with
  | resolves point success found pending closes commits =>
    obtain ⟨next, result, went⟩ := commits
    simp only [Process.step, ResolvePending.step, point, went, Prod.map] at moved
    have same : next = db' := moved
    have done := unit_ok went
    simp only [applyStatus, found, Option.filter_some, pending, decide_true, if_true, success,
      closing, closes] at done
    obtain ⟨context, _, turn, did⟩ :=
      resolveSuccess_turn act.sound.holdIds point success found pending done
    exact ⟨context, act.sound, act.known, act.fresh, act.moved, turn, same ▸ did⟩
  | recovers point found inFlight commits =>
    obtain ⟨next, result, went⟩ := commits
    simp only [Process.step, RecoverInFlight.step, point, went, Prod.map] at moved
    have same : next = db' := moved
    have done := unit_ok went
    simp only [applyLookup, found, bind_ok, expect_ok] at done
    obtain ⟨_, same', done⟩ := done
    cases same'
    split at done
    · rename_i elsewhere
      rcases inFlight with processing | pending
      · exact absurd processing elsewhere.1
      · exact absurd pending elsewhere.2
    · obtain ⟨context, _, turn, did⟩ :=
        recoverSuccess_turn act.sound.holdIds point found inFlight done
      exact ⟨context, act.sound, act.known, act.fresh, act.moved, turn, same ▸ did⟩

/-- A lookup's success either settles the sale or changes nothing but the job. -/
theorem applyStatus_late (success : status.outcome = .success)
    (h : applyStatus call row job correlationId status input db = .ok (db', result)) :
    (∃ jobs, db' = { db with pendingResolutions := jobs }) ∨
    ∃ current, findTransaction db call.transactionId call.merchantId = some current ∧
      current.state = .pending ∧
      (closePendingResolution db call.transactionId .resolved (input.now 0)).2 = true := by
  simp only [applyStatus] at h
  split at h
  · simp only [pure_ok, Prod.mk.injEq] at h
    obtain ⟨rfl, _⟩ := h
    exact .inl ⟨_, rfl⟩
  · rename_i current still
    obtain ⟨found, state⟩ := Option.filter_eq_some_iff.mp still
    simp only [success, closing] at h
    split at h
    · rename_i closes
      exact .inr ⟨current, found, by simpa using state, closes⟩
    · simp only [pure_ok, Prod.mk.injEq] at h
      obtain ⟨rfl, _⟩ := h
      exact .inl ⟨_, rfl⟩

theorem applyLookup_late
    (h : applyLookup work .confirmedSuccess reference input db = .ok (db', result)) :
    db' = db ∨ ∃ current, findTransaction db work.current.id work.current.merchantId = some current ∧
      (current.state = .processing ∨ current.state = .pending) := by
  simp only [applyLookup, bind_ok, expect_ok] at h
  obtain ⟨current, found, h⟩ := h
  split at h
  · simp only [pure_ok, Prod.mk.injEq] at h
    exact .inl h.1.symm
  · rename_i inFlight
    refine .inr ⟨current, found, ?_⟩
    by_cases processing : current.state = .processing
    · exact .inl processing
    · exact .inr (Decidable.not_not.mp fun other => inFlight ⟨processing, other⟩)

/-- A settlement that records no commission was made on a lookup, or was rolled back. -/
theorem settles_late (act : Act db db' input process
      (.moved state (.settle profitMinor profitBps) context none)) :
    (∃ jobs, db' = { db with pendingResolutions := jobs }) ∨ SettlesLate input db process := by
  have moved := act.moved
  have turn := act.turn
  cases turn with
  | resolveSuccess point success stored =>
    rename_i call row job correlationId status
    simp only [Process.step, ResolvePending.step, point] at moved
    rcases unit_cases input (applyStatus call row job correlationId status input) db with
      ⟨next, result, _, done, went⟩ | ⟨fault, went⟩
    · simp only [went, Prod.map] at moved
      have same : next = db' := moved
      rcases applyStatus_late success done with kept | ⟨current, found, pending, closes⟩
      · exact .inl (same ▸ kept)
      · exact .inr (.resolves point success found pending closes ⟨next, result, went⟩)
    · simp only [went, Prod.map] at moved
      have same : db = db' := moved
      exact .inl ⟨db.pendingResolutions, same.symm⟩
  | recoverSuccess point stored inFlight =>
    rename_i _ sweep work lookupMs reference
    simp only [Process.step, RecoverInFlight.step, point] at moved
    rcases unit_cases input (applyLookup work .confirmedSuccess reference input) db with
      ⟨next, result, _, done, went⟩ | ⟨fault, went⟩
    · simp only [went, Prod.map] at moved
      have same : next = db' := moved
      rcases applyLookup_late done with kept | ⟨current, found, inFlight⟩
      · exact .inl ⟨db.pendingResolutions, same ▸ kept⟩
      · exact .inr (.recovers point found inFlight ⟨next, result, went⟩)
    · simp only [went, Prod.map] at moved
      have same : db = db' := moved
      exact .inl ⟨db.pendingResolutions, same.symm⟩
  | completes _ _ either => rcases either with either | either <;> cases either

/-- A sale that is settled at once is accounted for. -/
theorem accounts_settled (unearned : Unearned db)
    (act : Act db db' input process
      (.moved state (.settle profitMinor profitBps) context (some entry)))
    (mem : row ∈ db'.transactions) (here : row.id = context.transactionId) :
    commissionsOf db' row.id = [entry] ∧
    splitCommission row.amount.minor entry.split.providerCommissionBps entry.split.shopShareBps =
      .ok entry.split ∧
    revenueOf db' row.id row.merchantId = entry.split.shopShareMinor := by
  have origin := act.did.origin act.sound
  have unsettled : valueOf db context.transactionId ≠ some .settled := by
    rw [origin]
    simp [Disposal.origin]
  have stored := act.did.sold act.turn.moved_sold
  obtain ⟨kept, found, id, merchant, amount⟩ := stored
  have one : kept = row := (act.sound.did act.turn act.did).ids.eq found mem (id.trans here.symm)
  subst one
  have worth : 0 < context.amount.minor := act.did.positive _ (List.mem_cons_self ..)
  have revenue := act.revenue kept.id kept.merchantId
  have commissions := act.did.commissions
  have turn := act.turn
  cases turn with
  | settles point successful concerns sum earned =>
    refine ⟨?_, ?_, ?_⟩
    · unfold commissionsOf
      rw [commissions, List.filter_append]
      have before : db.commissionEntries.filter
          (fun old => old.transactionId = kept.id) = [] := by
        refine List.filter_eq_nil_iff.mpr fun old mem => ?_
        have apart := unearned.entries _ unsettled old mem
        rw [here]
        simpa using apart
      rw [before]
      simp [Deed.commissions, earned.transaction, here, concerns.1]
    · rw [amount, sum]
      exact earned.split
    · obtain ⟨_, _, _, low, _, high⟩ := splitCommission_ok earned.split
      have fits := high (by rw [← sum]; omega)
      rw [revenue, here, unearned.revenue _ unsettled, Deed.profit, if_pos ⟨rfl, merchant.symm⟩]
      simp only [clampProfit]
      rw [← sum] at fits
      omega

/-- A step that settles nothing on a lookup leaves every successful sale accounted for. -/
theorem accounted_step (unearned : Unearned db) (accounted : Accounted db)
    (act : Act db db' input process deed) (atOnce : ¬ SettlesLate input db process) :
    Accounted db' := by
  intro row mem successful
  by_cases settles : deed.Settles row.id
  · obtain ⟨profitMinor, profitBps, context, commission, rfl, here⟩ := settles
    cases commission with
    | none =>
      rcases settles_late act with ⟨jobs, rfl⟩ | late
      · exact accounted row mem successful
      · exact absurd late atOnce
    | some entry => exact ⟨entry, accounts_settled unearned act mem here.symm⟩
  · rcases act.did.mem_sales mem with ⟨old, found, _, rfl | given⟩ | ⟨hold, record, context, rfl⟩
    · obtain ⟨entry, only, split, revenue⟩ := accounted row found successful
      obtain ⟨noProfit, noCommission⟩ := act.turn.unsettled settles
      refine ⟨entry, ?_, split, ?_⟩
      · have none : deed.commissions.filter (fun e => e.transactionId = row.id) = [] :=
          List.filter_eq_nil_iff.mpr fun e mem => by simpa using noCommission e mem
        unfold commissionsOf at only ⊢
        rw [act.did.commissions, List.filter_append, only, none]
        rfl
      · rw [act.revenue, noProfit, Int.add_zero]
        exact revenue
    · rw [successful] at given
      exact absurd (act.turn.successful_settles given) settles
    · have turn := act.turn
      cases turn with
      | opens _ opening =>
        rw [opening.state] at successful
        cases successful

/-- A sale settled on a lookup is successful without a commission entry. -/
theorem late_unaccounted (unearned : Unearned db) (late : SettlesLate input db process)
    (act : Act db db' input process deed) : ¬ Accounted db' := by
  intro accounted
  obtain ⟨context, act⟩ := late.settles act
  have unsettled : valueOf db context.transactionId ≠ some .settled := by
    rw [act.did.origin act.sound]
    simp [Disposal.origin]
  have states := act.did.states act.turn context.transactionId
  simp only [Deed.state, if_true, Option.some_or] at states
  obtain ⟨row, mem, id, state⟩ := mem_of_stateOf states
  obtain ⟨entry, only, _⟩ := accounted row mem state
  have recorded : entry ∈ commissionsOf db' row.id := by simp [only]
  simp only [commissionsOf, act.did.commissions, Deed.commissions, Option.toList_none,
    List.append_nil, List.mem_filter, decide_eq_true_eq] at recorded
  exact unearned.entries _ unsettled entry recorded.1 (recorded.2.trans id)

theorem unearned_step (w : World Db Process) (event : Event Input Process) (w' : World Db Process)
    (secure : Secure Sound (Enlisted allowed) w ∧ Unearned w.store)
    (step : Interleaved allowed w event w') :
    Secure Sound (Enlisted allowed) w' ∧ Unearned w'.store := by
  refine ⟨secure_step w event w' secure.1 step, ?_⟩
  rcases secure_act secure.1 step with aside | ⟨input, process, deed, _, _, act⟩
  · rw [aside]
    exact secure.2
  · exact secure.2.act act

theorem Blank.unearned (blank : Blank db) : Unearned db where
  settled := by simp [stateOf, blank.transactions]
  entries := by simp [blank.commissionEntries]
  revenue := by
    intro t _ merchantId
    unfold revenueOf netOf
    rw [blank.ledgerEntries]
    rfl

/-- Every successful sale is accounted for exactly as long as none is settled because a status
lookup found it delivered: only the sale's own call computes a split. -/
theorem accounted_iff {past : List Happened} (run : Run Begins (Interleaved allowed) past w) :
    (∀ taken ∈ past, Accounted taken.after.store) ↔ ∀ taken ∈ past, SettlesAtOnce taken := by
  refine run.always_iff (I := fun w => Accounted w.store) ?_ unearned_step ?_ ?_
  · exact fun w begins => ⟨begins_secure w begins, begins.1.unearned⟩
  · intro w begins row mem
    rw [begins.1.transactions] at mem
    cases mem
  · intro w event w' secure accounted step
    constructor
    · intro after input process acted late
      obtain ⟨deed, act⟩ := acted_act secure.1 step acted
      exact late_unaccounted secure.2 late act after
    · intro atOnce
      rcases secure_act secure.1 step with aside | ⟨input, process, deed, acted, _, act⟩
      · rw [aside]
        exact accounted
      · exact accounted_step secure.2 accounted act (atOnce _ _ acted)

/-- The services that settle a sale, deposits, and changes of rates and shares. -/
def settlingServices : List Service :=
  [.deposit, .configure, .createSale, .resolvePending, .recoverInFlight]

/-- A sale the provider says nothing about is left pending, and is settled when its status is
looked up. -/
def answeredLate : List (Event Input Process) :=
  let unanswered := fun tag => drawing tag .indeterminate .success 0
  [.start (funds "shop"), .act 0 (unanswered "a"),
   .start (airtime "request"), .act 1 (unanswered "b"), .act 1 (unanswered "c"),
   .act 1 (unanswered "d"), .act 1 (unanswered "e"), .act 1 (unanswered "sale"),
   .act 1 (unanswered "f"), .act 1 (unanswered "g"), .act 1 (unanswered "h"),
   .start (.resolvePending ⟨"sale0", "shop", .begin⟩), .act 2 (unanswered "i"),
   .act 2 (unanswered "j"), .act 2 (unanswered "k"), .act 2 (unanswered "l"),
   .act 2 (unanswered "m")]

def answeredLateRun : List Happened × World Db Process :=
  played (World.next services) answeredLate [] ⟨twoShops, []⟩

theorem answeredLate_runs : Run Begins (Interleaved settlingServices) answeredLateRun.1
    answeredLateRun.2 :=
  interleaved_run _ answeredLate (by decide)

theorem answeredLate_forgotten : ∃ taken ∈ answeredLateRun.1, ¬ Accounted taken.after.store := by
  refine ⟨_, List.mem_cons_self .., fun accounted => ?_⟩
  have settled : ∃ row ∈ answeredLateRun.2.store.transactions, row.state = .successful := by decide
  have noEntry : answeredLateRun.2.store.commissionEntries = [] := by decide
  obtain ⟨row, mem, successful⟩ := settled
  obtain ⟨entry, only, _⟩ := accounted row mem successful
  have one : commissionsOf answeredLateRun.2.store row.id = [entry] := only
  simp [commissionsOf, noEntry] at one

/-- A sale settled by a late answer is successful and earns its shop nothing. -/
theorem settled_late_unaccounted : ¬ ∀ past w,
    Run Begins (Interleaved settlingServices) past w →
    ∀ taken ∈ past, Accounted taken.after.store := by
  intro always
  obtain ⟨taken, mem, forgotten⟩ := answeredLate_forgotten
  exact forgotten (always _ _ answeredLate_runs taken mem)

theorem answeredLate_settles_late : ¬ ∀ taken ∈ answeredLateRun.1, SettlesAtOnce taken := by
  intro atOnce
  obtain ⟨taken, mem, forgotten⟩ := answeredLate_forgotten
  exact forgotten ((accounted_iff answeredLate_runs).mpr atOnce taken mem)

end Telga.Proofs
