import Telga.Proofs.Runs

namespace Telga.Proofs.DailyLimits
open Domain Persistence Application Library

/-- A transfer counts for a shop's day: it was made then, and was settled or still waits for its
approval. -/
def counts (merchantId : MerchantId) (day : Timestamp) (row : ShopTransferRow) : Bool :=
  row.senderMerchantId = merchantId ∧ dayStart row.createdAt = day ∧ row.status ≠ .refused

/-- What a shop has sent on a day. -/
def sentOn (db : Db) (merchantId : MerchantId) (day : Timestamp) : Int :=
  total (·.amountMinor) (db.shopTransfers.filter (counts merchantId day))

/-- No shop has sent more on any day than the policy allows. -/
def WithinLimit (policy : TransferPolicy) (db : Db) : Prop :=
  ∀ merchantId day, sentOn db merchantId day ≤ max 0 policy.maxPerDayMinor

/-- The call of a shop that took a step, with its slot. -/
def sender (taken : Happened) : Option (Nat × SettleShopTransfer) :=
  match taken.event with
  | .act slot _ =>
    match taken.before.proc slot with
    | some (.settleShopTransfer call) => some (slot, call)
    | _ => none
  | _ => none

/-- The call in a slot judges its transfer in a step: it reads what was sent so far. -/
def judges (slot : Nat) (taken : Happened) : Bool :=
  (sender taken).any fun acting =>
    acting.1 = slot && (acting.2.point matches .deciding _ _ _)

/-- The database a call in a slot judged its transfer on. -/
def judgedOn (slot : Nat) (past : List Happened) : Option Db :=
  (past.find? (judges slot)).map (·.before.store)

/-- The amount a call is about to write a row of, accepted as it was. -/
def accepted (call : SettleShopTransfer) : Option Int :=
  match call.point with
  | .queueing _ _ creditMinor | .settling _ _ creditMinor => some creditMinor
  | _ => none

/-- When a call writes its row, no more has been sent on that day than when it judged. -/
def StillSent (older : List Happened) (taken : Happened) : Prop :=
  ∀ acting ∈ sender taken, (accepted acting.2).isSome = true →
    ∀ db ∈ judgedOn acting.1 older,
      sentOn taken.before.store acting.2.attempt.senderMerchantId (dayStart acting.2.now) ≤
        sentOn db acting.2.attempt.senderMerchantId (dayStart acting.2.now)

instance (older : List Happened) (taken : Happened) : Decidable (StillSent older taken) :=
  inferInstanceAs (Decidable (∀ acting ∈ sender taken, _ → ∀ db ∈ judgedOn _ _, _))

/-- Between a call's judgement and its row, no other transfer of its shop adds to its day. -/
def Undisturbed : List Happened → Prop
  | [] => True
  | taken :: older => StillSent older taken ∧ Undisturbed older

instance undisturbedDecidable : ∀ past, Decidable (Undisturbed past)
  | [] => isTrue trivial
  | _ :: older =>
    have : Decidable (Undisturbed older) := undisturbedDecidable older
    inferInstanceAs (Decidable (_ ∧ _))

/-- Every call is made under one policy. -/
def Under (policy : TransferPolicy) (past : List Happened) : Prop :=
  ∀ taken ∈ past, ∀ call, taken.event = .start (.settleShopTransfer call) → call.policy = policy

/-- What is known of a call once it was accepted: with its amount the shop stayed within the limit
on the database it was judged on. -/
def Judged (past : List Happened) (slot : Nat) (call : SettleShopTransfer) : Prop :=
  ∀ creditMinor ∈ accepted call, ∃ db, judgedOn slot past = some db ∧
    sentOn db call.attempt.senderMerchantId (dayStart call.now) + creditMinor ≤
      call.policy.maxPerDayMinor ∧
    0 ≤ call.policy.maxPerDayMinor

section Steps

variable {db db' : Db} {input : Input} {call call' : SettleShopTransfer}

theorem sentOn_weights (db : Db) (merchantId : MerchantId) (day : Timestamp) :
    sentOn db merchantId day =
      total (fun row => if counts merchantId day row then row.amountMinor else 0)
        db.shopTransfers :=
  total_filter

theorem sentOn_same (same : db'.shopTransfers = db.shopTransfers) (merchantId : MerchantId)
    (day : Timestamp) : sentOn db' merchantId day = sentOn db merchantId day := by
  rw [sentOn, same]
  rfl

theorem sentOn_added {row : ShopTransferRow}
    (added : db'.shopTransfers = db.shopTransfers ++ [row]) (merchantId : MerchantId)
    (day : Timestamp) :
    sentOn db' merchantId day =
      sentOn db merchantId day + if counts merchantId day row then row.amountMinor else 0 := by
  rw [sentOn_weights, sentOn_weights, added, total_append, total_cons, total_nil, Int.add_zero]

/-- A decision on a queued transfer adds to nobody's day. -/
theorem sentOn_decided {hit : ShopTransferRow → Bool} {change : ShopTransferRow → ShopTransferRow}
    (positive : ∀ row ∈ db.shopTransfers, 0 ≤ row.amountMinor)
    (updated : db'.shopTransfers = update hit change db.shopTransfers)
    (same : ∀ row, (change row).amountMinor = row.amountMinor)
    (fewer : ∀ merchantId day row, hit row = true → counts merchantId day (change row) = true →
      counts merchantId day row = true) (merchantId : MerchantId) (day : Timestamp) :
    sentOn db' merchantId day ≤ sentOn db merchantId day := by
  rw [sentOn_weights, sentOn_weights, updated]
  refine total_update_le fun row mem struck => ?_
  have worth := positive row mem
  rw [same]
  by_cases counted : counts merchantId day (change row) = true
  · rw [if_pos counted, if_pos (fewer merchantId day row struck counted)]
  · rw [if_neg counted]
    split
    · exact worth
    · exact Int.le_refl _

/-- What the day's sum counts, the sum a transfer is judged on counts too. -/
theorem sentOn_le_sentToday (positive : ∀ row ∈ db.shopTransfers, 0 ≤ row.amountMinor)
    (merchantId : MerchantId) (now : Timestamp) :
    sentOn db merchantId (dayStart now) ≤ sentTodayMinor db merchantId (dayStart now) := by
  rw [sentOn_weights, sentTodayMinor, total_filter]
  generalize db.shopTransfers = rows at positive
  induction rows with
  | nil => exact Int.le_refl _
  | cons row rest ih =>
    have worth := positive row (List.mem_cons_self ..)
    have others := ih fun row mem => positive row (List.mem_cons_of_mem _ mem)
    rw [total_cons, total_cons]
    have first : (if counts merchantId (dayStart now) row then row.amountMinor else 0) ≤
        if decide (row.senderMerchantId = merchantId ∧ dayStart now ≤ row.createdAt ∧
          row.status ≠ .refused) then row.amountMinor else 0 := by
      split
      · rename_i counted
        simp only [counts, decide_eq_true_eq] at counted
        obtain ⟨own, day, kept⟩ := counted
        have later : dayStart now ≤ row.createdAt := by
          rw [← day, dayStart]
          have rest := Int.emod_nonneg row.createdAt (show msPerDay ≠ 0 by decide)
          exact Int.sub_le_self _ rest
        rw [if_pos (decide_eq_true ⟨own, later, kept⟩)]
      · split
        · exact worth
        · exact Int.le_refl _
    exact Int.add_le_add first others

/-- An accepted transfer stays within the limit, with what had been sent when it was judged. -/
theorem decideTransfer_within
    (h : decideTransfer request policy = .accepted needs fee debit credit) :
    request.sentTodayMinor + credit ≤ policy.maxPerDayMinor := by
  unfold decideTransfer at h
  split at h
  · cases h
  · simp only at h
    repeat' split at h
    all_goals cases h
    omega

/-- What a step of a call does to the transfers, and what it knows then. -/
inductive Moved (db db' : Db) (call call' : SettleShopTransfer) : Prop
  | aside : db'.shopTransfers = db.shopTransfers → accepted call' = none →
      Moved db db' call call'
  | judged : (call.point matches .deciding _ _ _) = true → db' = db → accepted call' = some credit →
      sentTodayMinor db call'.attempt.senderMerchantId (dayStart call'.now) + credit ≤
        call'.policy.maxPerDayMinor → 0 < credit → Moved db db' call call'
  | refused {row : ShopTransferRow} : db'.shopTransfers = db.shopTransfers ++ [row] →
      row.status = .refused → accepted call' = none → Moved db db' call call'
  | wrote {row : ShopTransferRow} : db'.shopTransfers = db.shopTransfers ++ [row] →
      accepted call = some row.amountMinor → row.createdAt = call.now →
      row.senderMerchantId = call.attempt.senderMerchantId → accepted call' = none →
      Moved db db' call call'

theorem settle_moved (moved : call.step input db = (db', call')) :
    call'.policy = call.policy ∧ Moved db db' call call' := by
  have writes : ∀ (work : Db → Except Fault (Db × TransferSettlement)),
      (∀ (next : Db) (settlement : TransferSettlement), work db = .ok (next, settlement) →
        ∀ last : SettleShopTransfer, accepted last = none → Moved db next call last) →
      call.finish (unit input work db) = (db', call') →
      call'.policy = call.policy ∧ Moved db db' call call' := by
    intro work each ended
    rcases unit_cases input work db with ⟨next, settlement, _, done, same⟩ | ⟨fault, same⟩
    · rw [same] at ended
      cases ended
      exact ⟨rfl, each _ _ done _ rfl⟩
    · rw [same] at ended
      cases ended
      exact ⟨rfl, .aside rfl rfl⟩
  cases point : call.point with
  | begin | sender | balance =>
    simp only [SettleShopTransfer.step, point] at moved
    split at moved <;>
    · cases moved
      exact ⟨rfl, .aside rfl rfl⟩
  | recipient device =>
    simp only [SettleShopTransfer.step, point] at moved
    cases moved
    exact ⟨rfl, .aside rfl rfl⟩
  | deciding recipient status availableMinor =>
    simp only [SettleShopTransfer.step, point] at moved
    split at moved
    · cases moved
      exact ⟨rfl, .aside rfl rfl⟩
    · rename_i decided
      have within := decideTransfer_within decided
      have worth := (decideTransfer_accepted decided).2.2.1
      cases moved
      exact ⟨rfl, .judged (by rw [point]) rfl rfl within worth⟩
    · rename_i decided
      have within := decideTransfer_within decided
      have worth := (decideTransfer_accepted decided).2.2.1
      cases moved
      exact ⟨rfl, .judged (by rw [point]) rfl rfl within worth⟩
    · cases moved
      exact ⟨rfl, .aside rfl rfl⟩
  | refusing recipient refusal =>
    simp only [SettleShopTransfer.step, point] at moved
    refine writes _ (fun next settlement done last ended => ?_) moved
    simp only [recordRefusal, bind_ok, pure_ok, Prod.mk.injEq] at done
    obtain ⟨_, saved, rfl, _⟩ := done
    obtain ⟨_, _, _, rfl⟩ := saveShopTransfer_ok saved
    exact .refused rfl rfl ended
  | queueing recipient feeMinor creditMinor =>
    simp only [SettleShopTransfer.step, point] at moved
    refine writes _ (fun next settlement done last ended => ?_) moved
    simp only [queueTransfer, bind_ok, pure_ok, Prod.mk.injEq] at done
    obtain ⟨_, saved, rfl, _⟩ := done
    obtain ⟨_, _, _, rfl⟩ := saveShopTransfer_ok saved
    exact .wrote rfl (by rw [accepted, point]; rfl) rfl rfl ended
  | settling recipient feeMinor creditMinor =>
    simp only [SettleShopTransfer.step, point] at moved
    refine writes _ (fun next settlement done last ended => ?_) moved
    simp only [postSettlement, bind_ok, pure_ok, Prod.mk.injEq] at done
    obtain ⟨middle, posted, _, saved, rfl, _⟩ := done
    obtain ⟨_, _, _, _, _, _, _, _, _, _, rfl⟩ := postTransfer_ok posted
    obtain ⟨_, _, _, rfl⟩ := saveShopTransfer_ok saved
    exact .wrote rfl (by rw [accepted, point]; rfl) rfl rfl ended
  | returned settlement | threw fault =>
    simp only [SettleShopTransfer.step, point] at moved
    cases moved
    exact ⟨rfl, .aside rfl (by rw [accepted, point])⟩

/-- Every other step adds to nobody's day. -/
theorem sentOn_act (act : Act db db' input process deed)
    (other : ∀ call, process ≠ .settleShopTransfer call) (merchantId : MerchantId)
    (day : Timestamp) : sentOn db' merchantId day ≤ sentOn db merchantId day := by
  have positive : ∀ row ∈ db.shopTransfers, 0 ≤ row.amountMinor := fun row mem =>
    Int.le_of_lt (act.sound.transferable row mem).1
  have transfers := act.did.transfers
  have turn := act.turn
  cases deed with
  | sent row legs =>
    cases turn with
    | records _ => exact absurd rfl (other _)
    | sends _ _ _ _ _ _ => exact absurd rfl (other _)
  | approved id legs =>
    obtain ⟨postingId, approvedBy, now, updated⟩ := transfers
    refine sentOn_decided positive updated (fun _ => rfl) ?_ merchantId day
    intro merchantId day row struck counted
    simp only [queued, decide_eq_true_eq] at struck
    simp only [counts, decide_eq_true_eq] at counted ⊢
    exact ⟨counted.1, counted.2.1, by rw [struck.2]; decide⟩
  | dismissed id =>
    obtain ⟨reason, approvedBy, now, updated⟩ := transfers
    refine sentOn_decided positive updated (fun _ => rfl) ?_ merchantId day
    intro merchantId day row struck counted
    simp [counts] at counted
  | _ => exact Int.le_of_eq (sentOn_same transfers merchantId day)

end Steps

section Runs

variable {w w' : World Db Process} {past : List Happened} {policy : TransferPolicy}

theorem sender_act {slot : Nat} {input : Input} {call : SettleShopTransfer}
    (here : w.proc slot = some (.settleShopTransfer call)) :
    sender ⟨w, .act slot input, w'⟩ = some (slot, call) := by
  simp only [sender, here]

theorem sender_other {slot : Nat} {input : Input} {process : Process}
    (here : w.proc slot = some process) (other : ∀ call, process ≠ .settleShopTransfer call) :
    sender ⟨w, .act slot input, w'⟩ = none := by
  simp only [sender, here]
  cases process with
  | settleShopTransfer call => exact absurd rfl (other call)
  | _ => rfl

/-- A step that is no judgement of a slot's leaves what the slot was judged on. -/
theorem judgedOn_later {slot : Nat} {taken : Happened} (apart : judges slot taken = false) :
    judgedOn slot (taken :: past) = judgedOn slot past := by
  rw [judgedOn, List.find?_cons_of_neg (by rw [apart]; exact Bool.false_ne_true)]
  rfl

theorem judgedOn_now {slot : Nat} {taken : Happened} (judges : judges slot taken = true) :
    judgedOn slot (taken :: past) = some taken.before.store := by
  rw [judgedOn, List.find?_cons_of_pos judges]
  rfl

theorem Judged.later {slot : Nat} {taken : Happened} {call : SettleShopTransfer}
    (judged : Judged past slot call) (apart : judges slot taken = false) :
    Judged (taken :: past) slot call := by
  intro creditMinor mem
  rw [judgedOn_later apart]
  exact judged creditMinor mem

/-- What holds in a run under one policy: no shop is over its limit, and every accepted call was
judged to stay within it. -/
structure Limited (policy : TransferPolicy) (past : List Happened) (w : World Db Process) :
    Prop where
  within : WithinLimit policy w.store
  calls : ∀ slot call, w.proc slot = some (.settleShopTransfer call) →
    call.policy = policy ∧ Judged past slot call

theorem limited_start (begins : Begins w) : Limited policy [] w where
  within := by
    intro merchantId day
    rw [sentOn, begins.1.shopTransfers]
    exact Int.le_max_left _ _
  calls := by
    intro slot call here
    have mem := World.proc_mem here
    rw [begins.2] at mem
    cases mem

/-- A step of a transfer's call keeps the limit when nothing was added to its day since it was
judged. -/
theorem limited_settle {slot : Nat} {input : Input} {call call' : SettleShopTransfer}
    (limited : Limited policy past w) (sound : Sound w.store)
    (here : w.proc slot = some (.settleShopTransfer call))
    (moved : call.step input w.store = (store, call'))
    (still : StillSent past ⟨w, .act slot input,
      ⟨store, w.procs.set slot (some (.settleShopTransfer call'))⟩⟩) :
    Limited policy (⟨w, .act slot input,
        ⟨store, w.procs.set slot (some (.settleShopTransfer call'))⟩⟩ :: past)
      ⟨store, w.procs.set slot (some (.settleShopTransfer call'))⟩ := by
  obtain ⟨own, judged⟩ := limited.calls slot call here
  obtain ⟨same, does⟩ := settle_moved moved
  have positive : ∀ row ∈ w.store.shopTransfers, 0 ≤ row.amountMinor := fun row mem =>
    Int.le_of_lt (sound.transferable row mem).1
  have within : WithinLimit policy store := by
    intro merchantId day
    have before := limited.within merchantId day
    cases does with
    | aside kept _ =>
      rw [sentOn_same kept]
      exact before
    | judged _ kept _ _ _ =>
      rw [kept]
      exact before
    | refused added status _ =>
      rw [sentOn_added added, if_neg (by simp [counts, status]), Int.add_zero]
      exact before
    | @wrote row added amount made mine _ =>
      rw [sentOn_added added]
      by_cases counted : counts merchantId day row = true
      · rw [if_pos counted]
        simp only [counts, decide_eq_true_eq] at counted
        obtain ⟨whose, whenever, _⟩ := counted
        obtain ⟨db, on, room, _⟩ := judged row.amountMinor amount
        have unchanged := still (slot, call) (sender_act here)
          (by rw [amount]; rfl) db on
        rw [mine] at whose
        rw [made] at whenever
        simp only [whose, whenever] at unchanged room
        rw [own] at room
        exact Int.le_trans (Int.le_trans (Int.add_le_add_right unchanged _) room)
          (Int.le_max_right _ _)
      · rw [if_neg counted, Int.add_zero]
        exact before
  refine ⟨within, fun other call'' there => ?_⟩
  rw [World.proc_act here] at there
  split at there
  · rename_i slots
    subst slots
    cases there
    refine ⟨same.trans own, fun creditMinor mem => ?_⟩
    cases does with
    | aside _ none | refused _ _ none | wrote _ _ _ _ none => rw [none] at mem; cases mem
    | judged point _ found room worth =>
      rw [found] at mem
      cases mem
      have acting : judges other ⟨w, .act other input,
          ⟨store, w.procs.set other (some (.settleShopTransfer call'))⟩⟩ = true := by
        simp only [judges, sender_act here, Option.any_some, decide_true, Bool.true_and]
        exact point
      refine ⟨_, judgedOn_now acting, ?_, ?_⟩
      · exact Int.le_trans (Int.add_le_add_right (sentOn_le_sentToday positive _ _) _) room
      · have sent := sentOn_le_sentToday positive call'.attempt.senderMerchantId call'.now
        have least : 0 ≤ sentOn w.store call'.attempt.senderMerchantId (dayStart call'.now) :=
          total_nonneg fun row mem => positive row (List.mem_filter.mp mem).1
        omega
  · rename_i apart
    obtain ⟨own', judged'⟩ := limited.calls other call'' there
    refine ⟨own', judged'.later ?_⟩
    simp only [judges, sender_act here, Option.any_some]
    rw [decide_eq_false fun same => apart same.symm, Bool.false_and]

/-- A step of anything else keeps it. -/
theorem limited_other {slot : Nat} {input : Input} {process process' : Process}
    (limited : Limited policy past w) (act : Act w.store store input process deed)
    (here : w.proc slot = some process) (other : ∀ call, process ≠ .settleShopTransfer call)
    (other' : ∀ call, process' ≠ .settleShopTransfer call) :
    Limited policy (⟨w, .act slot input, ⟨store, w.procs.set slot (some process')⟩⟩ :: past)
      ⟨store, w.procs.set slot (some process')⟩ := by
  refine ⟨fun merchantId day => ?_, fun slot' call there => ?_⟩
  · exact Int.le_trans (sentOn_act act other merchantId day) (limited.within merchantId day)
  · rw [World.proc_act here] at there
    split at there
    · cases there
      exact absurd rfl (other' call)
    · obtain ⟨own, judged⟩ := limited.calls slot' call there
      refine ⟨own, judged.later ?_⟩
      rw [judges, sender_other here other]
      rfl

theorem limited_step (limited : Limited policy past w)
    (secure : Secure Sound (Enlisted allowed) w) (step : Interleaved allowed w event w')
    (under : ∀ call, event = .start (.settleShopTransfer call) → call.policy = policy)
    (still : StillSent past ⟨w, event, w'⟩) : Limited policy (⟨w, event, w'⟩ :: past) w' := by
  cases step with
  | start admitted =>
    refine ⟨limited.within, fun slot call there => ?_⟩
    rw [World.proc_start] at there
    split at there
    · cases there
      have starting : call.point = .begin := admitted.2
      refine ⟨under call rfl, fun creditMinor mem => ?_⟩
      rw [accepted, starting] at mem
      cases mem
    · obtain ⟨own, judged⟩ := limited.calls slot call there
      exact ⟨own, judged.later rfl⟩
  | crash =>
    refine ⟨limited.within, fun slot call there => ?_⟩
    rw [World.proc_crash] at there
    split at there
    · cases there
    · obtain ⟨own, judged⟩ := limited.calls slot call there
      exact ⟨own, judged.later rfl⟩
  | act here fresh moved =>
    rename_i process input store process' slot
    have known := (secure.2 _ (World.proc_mem here)).2
    obtain ⟨deed, act⟩ := act_of_step secure.1 known fresh moved
    have service := Process.step_service input w.store process
    rw [show process.step input w.store = _ from moved] at service
    cases process with
    | settleShopTransfer call =>
      have stepped : (call.step input w.store).map id Process.settleShopTransfer =
        (store, process') := moved
      obtain ⟨rfl, rfl⟩ := Prod.mk.inj stepped
      exact limited_settle limited secure.1 here rfl still
    | _ =>
      refine limited_other limited act here ?_ ?_
      · rintro call ⟨⟩
      · rintro call rfl
        cases service

theorem dailyLimit_run (run : Run Begins (Interleaved allowed) past w)
    (under : Under policy past) (undisturbed : Undisturbed past) : Limited policy past w := by
  induction run with
  | start begins => exact limited_start begins
  | @step past w event w' run step ih =>
    have earlier : Under policy past := fun taken mem => under taken (List.mem_cons_of_mem _ mem)
    exact limited_step (ih earlier undisturbed.2) (run.invariant begins_secure secure_step) step
      (under _ List.mem_cons_self) undisturbed.1

/-- No shop sends more on a day than the policy allows, as long as nothing is added to its day
between a transfer's judgement and its row. -/
theorem dailyLimit_kept (run : Run Begins (Interleaved allowed) past w)
    (under : Under policy past) (undisturbed : Undisturbed past) : WithinLimit policy w.store :=
  (dailyLimit_run run under undisturbed).within

end Runs

/-- At most a hundred santim a day, and an approval above fifty. -/
def smallPolicy : TransferPolicy where
  maxPerTransferMinor := 1000
  maxPerDayMinor := 100
  approvalThresholdMinor := 50
  feeBasisPoints := 0

/-- Sixty santim, sent from the first shop's till to the other shop. -/
def sixty : Process :=
  .settleShopTransfer
    { policy := smallPolicy
      attempt := { senderMerchantId := "shop", senderDeviceId := "till",
                   senderOperatorId := "operator", recipientDeviceId := "stand",
                   amountMinor := 60 }
      now := 0, correlationId := "", point := .begin }

/-- A hundred santim deposited, and two transfers of sixty begun; then the given steps. -/
def twoTransfers (acts : List (Nat × String)) : List (Event Input Process) :=
  [.start (funds "shop"), .start sixty, .start sixty] ++
    acts.map fun act => .act act.1 (drawing act.2 .confirmedSuccess .success 0)

def twoTransfersRun (acts : List (Nat × String)) : List Happened × World Db Process :=
  played (World.next services) (twoTransfers acts) [] ⟨twoShops, []⟩

def transferServices : List Service :=
  [.deposit, .settleShopTransfer, .decideTransfer]

theorem twoTransfers_runs {acts : List (Nat × String)}
    (playable : Playable (World.May (Calls transferServices) Fresh) (World.next services)
      (twoTransfers acts) ⟨twoShops, []⟩) :
    Run Begins (Interleaved transferServices) (twoTransfersRun acts).1 (twoTransfersRun acts).2 :=
  interleaved_run _ _ playable

theorem twoTransfers_under (acts : List (Nat × String)) :
    Under smallPolicy (twoTransfersRun acts).1 := by
  intro taken mem call started
  rcases played_event mem with before | later
  · cases before
  · rw [started] at later
    rcases List.mem_append.mp later with first | acted
    · simp only [sixty, List.mem_cons, Event.start.injEq, Process.settleShopTransfer.injEq,
        List.not_mem_nil, or_false] at first
      rcases first with other | rfl | rfl
      · cases other
      · rfl
      · rfl
    · obtain ⟨_, _, same⟩ := List.mem_map.mp acted
      cases same

/-- Both transfers are judged before either is queued. -/
def overlapping : List (Nat × String) :=
  [(0, "a"), (1, "b"), (1, "c"), (1, "d"), (1, "e"), (1, "f"), (2, "g"), (2, "h"), (2, "i"),
    (2, "j"), (2, "k"), (1, "l"), (2, "m")]

/-- The second transfer is judged after the first one was queued. -/
def oneByOne : List (Nat × String) :=
  [(0, "a"), (1, "b"), (1, "c"), (1, "d"), (1, "e"), (1, "f"), (1, "l"), (2, "g"), (2, "h"),
    (2, "i"), (2, "j"), (2, "k"), (2, "m")]

theorem overlapping_runs : Run Begins (Interleaved transferServices)
    (twoTransfersRun overlapping).1 (twoTransfersRun overlapping).2 :=
  twoTransfers_runs (by decide)

/-- Two tills that judge on the same sum send a hundred and twenty of a hundred santim. -/
theorem overlapping_exceeds :
    ¬ ∀ policy past w, Run Begins (Interleaved transferServices) past w → Under policy past →
      WithinLimit policy w.store := by
  intro within
  have shop := within smallPolicy _ _ overlapping_runs
    (twoTransfers_under _) "shop" 0
  revert shop
  decide

/-- One after the other, the second one is refused. -/
theorem dailyLimit_kept_oneByOne :
    WithinLimit smallPolicy (twoTransfersRun oneByOne).2.store ∧
    (twoTransfersRun oneByOne).2.store.shopTransfers.map (·.status) = [.needsApproval, .refused] :=
  ⟨dailyLimit_kept (twoTransfers_runs (by decide)) (twoTransfers_under _) (by decide),
    by decide⟩

end Telga.Proofs.DailyLimits
