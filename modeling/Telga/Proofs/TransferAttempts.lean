import Telga.Proofs.Runs

namespace Telga.Proofs.TransferAttempts
open Domain Persistence Application Library

/-- A call taken through its first atomic steps, nothing else happening in between. -/
def stepped (inputs : Nat → Input) (db : Db) (call : SettleShopTransfer) :
    Nat → Db × SettleShopTransfer
  | 0 => (db, call)
  | n + 1 => (stepped inputs db call n).2.step (inputs n) (stepped inputs db call n).1

/-- An attempt from its call to its end. -/
def attempted (inputs : Nat → Input) (db : Db) (call : SettleShopTransfer) :
    Db × SettleShopTransfer :=
  stepped inputs db call 6

/-- One row more, in a status, and nothing else. -/
def Recorded (status : TransferStatus) (db db' : Db) : Prop :=
  ∃ row, row.status = status ∧ db' = { db with shopTransfers := db.shopTransfers ++ [row] }

/-- A balanced pair under one posting, and one settled row that names it. -/
def Settles (attempt : TransferAttempt) (db db' : Db) : Prop :=
  ∃ row given debit accounts,
    row.status = .settled ∧ row.postingId = some given.postingId ∧
    given.senderMerchantId = attempt.senderMerchantId ∧
    given.recipientMerchantId = row.recipientMerchantId ∧
    given.amount.minor = attempt.amountMinor ∧
    debit.minor = given.amount.minor + given.fee.minor ∧
    residualMinor (transferLegs given debit) = 0 ∧
    db' = { db with
      ledgerAccounts := db.ledgerAccounts ++ accounts
      ledgerEntries := db.ledgerEntries ++
        entryRows (transferPosting given debit) (db.ledgerAccounts ++ accounts) 0
          (transferLegs given debit)
      shopTransfers := db.shopTransfers ++ [row] }

/-- A decision was returned, and the database says what it says. -/
def Decides (attempt : TransferAttempt) (db : Db) (ended : Db × SettleShopTransfer) : Prop :=
  match ended.2.point with
  | .returned (.refused _) => Recorded .refused db ended.1
  | .returned (.needsApproval ..) => Recorded .needsApproval db ended.1
  | .returned (.settled ..) => Settles attempt db ended.1
  | _ => False

/-- What an attempt names can be stored: both shops, two of them, both devices, and the amount;
the sender's balance can be told, and the database is free when the decision is written. -/
structure Storable (inputs : Nat → Input) (db : Db) (attempt : TransferAttempt) : Prop where
  sender : Present (·.id) attempt.senderMerchantId db.merchants
  till : Present (·.id) attempt.senderDeviceId db.devices
  recipient : ∃ device, findDevice db attempt.recipientDeviceId = some device ∧
    device.merchantId ≠ attempt.senderMerchantId
  word : attempt.amountMinor < 2 ^ 63
  balance : ∃ view, balanceFor db attempt.senderMerchantId = .ok view
  free : (inputs 5).busy = false

/-- A database whose accounts are the ones their ids name and whose devices are stored shops'. -/
structure Ordered (db : Db) : Prop where
  named : ∀ account ∈ db.ledgerAccounts, Named account
  owned : ∀ device ∈ db.devices, Present (·.id) device.merchantId db.merchants

/-- The call once it has its time and its correlation id. -/
def dated (inputs : Nat → Input) (call : SettleShopTransfer) : SettleShopTransfer :=
  { call with now := (inputs 0).now 0, correlationId := (inputs 0).newId 0 }

/-- What the decision is made on. -/
def asked (inputs : Nat → Input) (db : Db) (call : SettleShopTransfer) (recipient : MerchantRow)
    (status : ShopStatus) (availableMinor : Int) : TransferRequest :=
  { senderMerchantId := call.attempt.senderMerchantId, senderStatus := status,
    senderAvailableMinor := availableMinor,
    sentTodayMinor := sentTodayMinor db call.attempt.senderMerchantId
      (dayStart ((inputs 0).now 0)),
    recipient := some (recipient.id, recipient.status), amountMinor := call.attempt.amountMinor }

section
variable {inputs : Nat → Input} {db : Db} {call : SettleShopTransfer} {availableMinor : Int}

/-- A call for a stored device, of a stored shop with a balance, comes to its decision with the
database as it found it. -/
theorem reaches_decision (inputs : Nat → Input) (start : call.point = .begin)
    (device : findDevice db call.attempt.recipientDeviceId = some target)
    (recipient : findMerchant db target.merchantId = some shop)
    (sender : findMerchant db call.attempt.senderMerchantId = some own)
    (balance : balanceFor db call.attempt.senderMerchantId = .ok view) :
    stepped inputs db call 4 =
      (db, (dated inputs call).at (.deciding (some shop) own.status view.available.minor)) := by
  simp only [stepped, SettleShopTransfer.step, start, device, SettleShopTransfer.at, recipient,
    sender, balance, dated]

/-- A call that ended stays ended. -/
theorem stepped_ended (ended : stepped inputs db call n = (db', call'))
    (over_ : (∃ settlement, call'.point = .returned settlement) ∨ ∃ fault, call'.point = .threw fault)
    (k : Nat) : stepped inputs db call (n + k) = (db', call') := by
  induction k with
  | zero => exact ended
  | succ k ih =>
    rw [← Nat.add_assoc, stepped, ih]
    rcases over_ with ⟨settlement, point⟩ | ⟨fault, point⟩ <;>
      simp only [SettleShopTransfer.step, point]

/-- How a call ends in the unit of work that writes its decision. -/
theorem finish_cases (work : Db → Except Fault (Db × TransferSettlement)) (input : Input)
    (last : SettleShopTransfer) (db : Db) :
    (∃ next settlement, input.busy = false ∧ work db = .ok (next, settlement) ∧
      last.finish (unit input work db) = (next, last.at (.returned settlement))) ∨
    ∃ fault, last.finish (unit input work db) = (db, last.at (.threw fault)) := by
  rcases unit_cases input work db with ⟨next, settlement, free, done, same⟩ | ⟨fault, same⟩
  · exact .inl ⟨next, settlement, free, done, by rw [same]; rfl⟩
  · exact .inr ⟨fault, by rw [same]; rfl⟩

/-- What the row of an attempt needs, whatever its status and amount. -/
theorem row_recordable {last : SettleShopTransfer} (ordered : Ordered db)
    (storable : Storable inputs db last.attempt)
    (device : findDevice db last.attempt.recipientDeviceId = some target)
    (shop : recipient = target.merchantId)
    (amounts : (0 < amountMinor ∧ 0 ≤ feeMinor) ∧ amountMinor < 2 ^ 63 ∧ feeMinor < 2 ^ 63) :
    Recordable db (last.row transferId recipient amountMinor feeMinor status) := by
  obtain ⟨_, there, other⟩ := storable.recipient
  rw [device] at there
  cases there
  have stored := List.mem_of_find?_eq_some device
  have named : target.id = last.attempt.recipientDeviceId := by simpa using List.find?_some device
  exact
    { positive := amounts.1
      word := amounts.2
      apart := fun same => other ((same.trans shop).symm)
      sender := storable.sender
      recipient := by rw [show (last.row transferId recipient amountMinor feeMinor
        status).recipientMerchantId = target.merchantId from shop]; exact ordered.owned target stored
      till := storable.till
      target := ⟨target, stored, named⟩ }

theorem recordRefusal_goes {last : SettleShopTransfer}
    (recordable : Recordable db (last.row (input.newId 0) shop.id
      (if 0 < last.attempt.amountMinor then last.attempt.amountMinor else 1) 0 .refused))
    (fresh : ¬ Present (·.id) (input.newId 0) db.shopTransfers) :
    ∃ row, row.status = .refused ∧ recordRefusal last (some shop) refusal input db =
      .ok ({ db with shopTransfers := db.shopTransfers ++ [row] }, .refused refusal.code) := by
  obtain ⟨positive, word, apart, sender, recipient, till, target⟩ := recordable
  refine ⟨{ last.row (input.newId 0) shop.id
    (if 0 < last.attempt.amountMinor then last.attempt.amountMinor else 1) 0 .refused with
      refusalReason := some refusal.code }, rfl, ?_⟩
  simp only [recordRefusal, bind_ok, pure_ok]
  exact ⟨_, saveShopTransfer_goes ⟨positive, word, apart, sender, recipient, till, target⟩ fresh,
    rfl⟩

theorem queueTransfer_goes {last : SettleShopTransfer}
    (recordable : Recordable db
      (last.row (input.newId 0) recipient creditMinor feeMinor .needsApproval))
    (fresh : ¬ Present (·.id) (input.newId 0) db.shopTransfers) :
    ∃ row, row.status = .needsApproval ∧
      queueTransfer last recipient feeMinor creditMinor input db =
        .ok ({ db with shopTransfers := db.shopTransfers ++ [row] },
          .needsApproval (input.newId 0) creditMinor feeMinor) := by
  refine ⟨last.row (input.newId 0) recipient creditMinor feeMinor .needsApproval, rfl, ?_⟩
  simp only [queueTransfer, bind_ok, pure_ok]
  exact ⟨_, saveShopTransfer_goes recordable fresh, rfl⟩

/-- The pair and its row are written together, and are what they should be. -/
theorem postSettlement_goes {last : SettleShopTransfer} (ordered : Ordered db)
    (recordable : Recordable db (last.row (input.newId 0) recipient creditMinor feeMinor .settled))
    (safe : SafeInteger (creditMinor + feeMinor))
    (worth : creditMinor = last.attempt.amountMinor)
    (fresh : ¬ Present (·.id) (input.newId 0) db.shopTransfers)
    (unposted : ∀ row ∈ db.ledgerEntries, row.id.1 ≠ input.newId 1) :
    ∃ db', Settles last.attempt db db' ∧
      postSettlement last recipient feeMinor creditMinor input db =
        .ok (db', .settled (input.newId 0) creditMinor feeMinor recipient) := by
  obtain ⟨⟨positive, charge⟩, word, apart, sender, shop, till, target⟩ := recordable
  simp only [SettleShopTransfer.row] at positive charge word apart sender shop till target
  have amountSafe : SafeInteger creditMinor := by
    unfold SafeInteger at safe ⊢
    omega
  have feeSafe : SafeInteger feeMinor := by
    unfold SafeInteger at safe ⊢
    omega
  obtain ⟨posted, posts⟩ := @postShopTransfer_goes db
    { senderMerchantId := last.attempt.senderMerchantId, recipientMerchantId := recipient,
      amount := ⟨creditMinor, amountSafe⟩, fee := ⟨feeMinor, feeSafe⟩, now := last.now,
      correlationId := last.correlationId, postingId := input.newId 1 }
    ordered.named sender shop positive charge safe unposted
  obtain ⟨accounts, debit, _, sum, balanced, _, rfl⟩ := postShopTransfer_ok posts
  refine ⟨_, ⟨{ last.row (input.newId 0) recipient creditMinor feeMinor .settled with
    postingId := some (input.newId 1) }, _, debit, accounts, rfl, rfl, rfl, rfl, worth, sum, balanced,
    rfl⟩, ?_⟩
  simp only [postSettlement, postTransfer, bind_ok, pure_ok, money_ok]
  exact ⟨_, ⟨⟨creditMinor, amountSafe⟩, rfl, ⟨feeMinor, feeSafe⟩, rfl, posts⟩, _,
    saveShopTransfer_goes ⟨⟨positive, charge⟩, word, apart, sender, shop, till, target⟩ fresh, rfl⟩

/-- A refused attempt comes to the unit of work that records the refusal. -/
theorem reaches_refusal
    (four : stepped inputs db call 4 =
      (db, (dated inputs call).at (.deciding (some shop) status availableMinor)))
    (refused : decideTransfer (asked inputs db call shop status availableMinor) call.policy =
      .refused refusal) :
    attempted inputs db call =
      ((dated inputs call).at (.refusing (some shop) refusal)).finish
        (unit (inputs 5)
          (recordRefusal ((dated inputs call).at (.refusing (some shop) refusal)) (some shop) refusal
            (inputs 5)) db) := by
  unfold asked at refused
  unfold attempted
  rw [stepped, stepped, four]
  simp only [SettleShopTransfer.step, SettleShopTransfer.at, Option.map_some, dated, refused]

/-- A call queues a transfer above the threshold, and settles one below. -/
def writing (needsApproval : Bool) (last : SettleShopTransfer) (recipient : MerchantId)
    (feeMinor creditMinor : Int) : Input → Db → Except Fault (Db × TransferSettlement) :=
  if needsApproval then queueTransfer last recipient feeMinor creditMinor
  else postSettlement last recipient feeMinor creditMinor

/-- An accepted one comes to the unit of work that writes it. -/
theorem reaches_writing
    (four : stepped inputs db call 4 =
      (db, (dated inputs call).at (.deciding (some shop) status availableMinor)))
    (accepted : decideTransfer (asked inputs db call shop status availableMinor) call.policy =
      .accepted needsApproval feeMinor debitMinor creditMinor) :
    ∃ point, attempted inputs db call =
      ((dated inputs call).at point).finish
        (unit (inputs 5)
          (writing needsApproval ((dated inputs call).at point) shop.id feeMinor creditMinor
            (inputs 5)) db) := by
  unfold asked at accepted
  unfold attempted
  rw [stepped, stepped, four]
  cases needsApproval with
  | true =>
    refine ⟨.queueing shop.id feeMinor creditMinor, ?_⟩
    simp only [SettleShopTransfer.step, SettleShopTransfer.at, Option.map_some, dated, accepted]
    rfl
  | false =>
    refine ⟨.settling shop.id feeMinor creditMinor, ?_⟩
    simp only [SettleShopTransfer.step, SettleShopTransfer.at, Option.map_some, dated, accepted]
    rfl

/-- An attempt whose every name can be stored is decided, and recorded as decided. -/
theorem storable_decides (ordered : Ordered db) (start : call.point = .begin)
    (fresh : ¬ Present (·.id) ((inputs 5).newId 0) db.shopTransfers)
    (unposted : ∀ row ∈ db.ledgerEntries, row.id.1 ≠ (inputs 5).newId 1)
    (storable : Storable inputs db call.attempt) :
    Decides call.attempt db (attempted inputs db call) := by
  obtain ⟨target, device, other⟩ := storable.recipient
  have stored := List.mem_of_find?_eq_some device
  obtain ⟨shop, recipient, shops, _⟩ := (ordered.owned target stored).find
  obtain ⟨own, sender, _, _⟩ := storable.sender.find
  obtain ⟨view, balance⟩ := storable.balance
  have four := reaches_decision inputs start device recipient sender balance
  have goes : ∀ (work : Db → Except Fault (Db × TransferSettlement)) last next settlement,
      work db = .ok (next, settlement) →
      SettleShopTransfer.finish last (unit (inputs 5) work db) =
        (next, last.at (.returned settlement)) := by
    intro work last next settlement done
    simp [unit, commit, demand, storable.free, done, SettleShopTransfer.finish, bind, Except.bind]
  cases decision : decideTransfer (asked inputs db call shop own.status view.available.minor)
      call.policy with
  | refused refusal =>
    have word := storable.word
    obtain ⟨row, status, done⟩ := @recordRefusal_goes db shop refusal (inputs 5)
      ((dated inputs call).at (.refusing (some shop) refusal))
      (row_recordable ordered storable device shops
        ⟨⟨by split <;> omega, le_refl _⟩, by change (if 0 < call.attempt.amountMinor then
          call.attempt.amountMinor else 1) < 2 ^ 63; split <;> omega, by decide⟩) fresh
    rw [reaches_refusal four decision, goes _ _ _ _ done]
    exact ⟨row, status, rfl⟩
  | accepted needs feeMinor debitMinor creditMinor =>
    obtain ⟨point, ends⟩ := reaches_writing four decision
    obtain ⟨_, worth, positive, charge, sum, covered⟩ := decideTransfer_accepted decision
    have safe := view.available.safe
    have words : (0 < creditMinor ∧ 0 ≤ feeMinor) ∧ creditMinor < 2 ^ 63 ∧ feeMinor < 2 ^ 63 := by
      simp only [asked] at covered
      unfold SafeInteger maxSafeInteger at safe
      omega
    rw [ends]
    cases needs with
    | true =>
      obtain ⟨row, status, done⟩ := @queueTransfer_goes db shop.id creditMinor feeMinor (inputs 5)
        ((dated inputs call).at point) (row_recordable ordered storable device shops words) fresh
      rw [goes (writing true _ _ _ _ _) _ _ _ done]
      exact ⟨row, status, rfl⟩
    | false =>
      obtain ⟨next, settles, done⟩ := @postSettlement_goes db shop.id creditMinor feeMinor (inputs 5)
        ((dated inputs call).at point) ordered
        (row_recordable ordered storable device shops words)
        (by unfold SafeInteger at safe ⊢; simp only [asked] at covered; omega) worth fresh unposted
      rw [goes (writing false _ _ _ _ _) _ _ _ done]
      exact settles

theorem recorded_grows : ¬ Recorded status db db := by
  rintro ⟨row, _, same⟩
  have grown := congrArg (fun db => db.shopTransfers.length) same
  simp at grown

/-- A call that ended early, with nothing written, decided nothing that is recorded. -/
theorem early_undecided {last : SettleShopTransfer} (early : stepped inputs db call n = (db, last))
    (few : n ≤ 6)
    (ended : (∃ reason, last.point = .returned (.refused reason)) ∨ ∃ fault, last.point = .threw fault) :
    ¬ Decides call.attempt db (attempted inputs db call) := by
  have stays := stepped_ended early
    (ended.imp (fun ⟨_, point⟩ => ⟨_, point⟩) fun ⟨_, point⟩ => ⟨_, point⟩) (6 - n)
  rw [show n + (6 - n) = 6 by omega] at stays
  unfold attempted Decides
  rw [stays]
  rcases ended with ⟨reason, point⟩ | ⟨fault, point⟩
  · rw [point]
    exact recorded_grows
  · rw [point]
    exact id

theorem writing_recordable {last : SettleShopTransfer}
    (h : writing needsApproval last recipient feeMinor creditMinor input db = .ok (db', settlement)) :
    ∃ next status, next.merchants = db.merchants ∧ next.devices = db.devices ∧
      Recordable next (last.row (input.newId 0) recipient creditMinor feeMinor status) := by
  cases needsApproval with
  | true =>
    simp only [writing, if_true, queueTransfer, bind_ok] at h
    obtain ⟨_, saved, _⟩ := h
    exact ⟨db, _, rfl, rfl, saveShopTransfer_recordable saved⟩
  | false =>
    simp only [writing, postSettlement, bind_ok, Bool.false_eq_true, if_false] at h
    obtain ⟨posted, moved, _, saved, _⟩ := h
    obtain ⟨_, _, _, _, _, _, _, _, _, _, rfl⟩ := postTransfer_ok moved
    have held := saveShopTransfer_recordable saved
    exact ⟨_, .settled, rfl, rfl, ⟨held.positive, held.word, held.apart, held.sender,
      held.recipient, held.till, held.target⟩⟩

/-- An attempt on a device nobody has is never recorded: the row would name the sender twice. -/
theorem unknown_undecided (start : call.point = .begin)
    (device : findDevice db call.attempt.recipientDeviceId = none) :
    ¬ Decides call.attempt db (attempted inputs db call) := by
  cases sender : findMerchant db call.attempt.senderMerchantId with
  | none =>
    have early : stepped inputs db call 2 =
        (db, (dated inputs call).at (.returned (.refused "SENDER_NOT_ACTIVE"))) := by
      simp only [stepped, SettleShopTransfer.step, start, device, SettleShopTransfer.at, sender,
        dated]
    exact early_undecided early (by omega) (.inl ⟨_, rfl⟩)
  | some own =>
    cases balance : balanceFor db call.attempt.senderMerchantId with
    | error fault =>
      have early : stepped inputs db call 3 = (db, (dated inputs call).at (.threw fault)) := by
        simp only [stepped, SettleShopTransfer.step, start, device, SettleShopTransfer.at, sender,
          balance, dated]
      exact early_undecided early (by omega) (.inr ⟨_, rfl⟩)
    | ok view =>
      have four : stepped inputs db call 4 =
          (db, (dated inputs call).at (.refusing none .recipientNotFound)) := by
        simp only [stepped, SettleShopTransfer.step, start, device, SettleShopTransfer.at, sender,
          balance, dated, decideTransfer, Option.map_none]
      have last : stepped inputs db call 5 =
          ((dated inputs call).at (.refusing none .recipientNotFound)).finish
            (unit (inputs 4)
              (recordRefusal ((dated inputs call).at (.refusing none .recipientNotFound)) none
                .recipientNotFound (inputs 4)) db) := by
        rw [stepped, four]
        rfl
      rcases finish_cases
        (recordRefusal ((dated inputs call).at (.refusing none .recipientNotFound)) none
          .recipientNotFound (inputs 4)) (inputs 4)
        ((dated inputs call).at (.refusing none .recipientNotFound)) db
        with ⟨_, _, _, done, _⟩ | ⟨fault, threw⟩
      · simp only [recordRefusal, bind_ok] at done
        obtain ⟨_, saved, _⟩ := done
        exact absurd rfl (saveShopTransfer_recordable saved).apart
      · rw [threw] at last
        exact early_undecided last (by omega) (.inr ⟨_, rfl⟩)

/-- What was written about an attempt names what can be stored. -/
theorem recordable_storable {next : Db} {row : ShopTransferRow} (held : Recordable next row)
    (merchants : next.merchants = db.merchants) (devices : next.devices = db.devices)
    (own : row.senderMerchantId = call.attempt.senderMerchantId)
    (with_ : row.senderDeviceId = call.attempt.senderDeviceId)
    (shop : row.recipientMerchantId = target.merchantId)
    (device : findDevice db call.attempt.recipientDeviceId = some target)
    (balance : balanceFor db call.attempt.senderMerchantId = .ok view)
    (free : (inputs 5).busy = false) (word : call.attempt.amountMinor < 2 ^ 63) :
    Storable inputs db call.attempt := by
  obtain ⟨_, _, apart, sender, _, till, _⟩ := held
  rw [merchants, own] at sender
  rw [devices, with_] at till
  rw [own, shop] at apart
  exact
    { sender, till, word, free
      recipient := ⟨target, device, fun same => apart same.symm⟩
      balance := ⟨view, balance⟩ }

/-- An attempt that is decided and recorded names only what can be stored. -/
theorem decides_storable (ordered : Ordered db) (start : call.point = .begin)
    (decides : Decides call.attempt db (attempted inputs db call)) :
    Storable inputs db call.attempt := by
  cases device : findDevice db call.attempt.recipientDeviceId with
  | none => exact absurd decides (unknown_undecided start device)
  | some target =>
    have stored := List.mem_of_find?_eq_some device
    obtain ⟨shop, recipient, shops, _⟩ := (ordered.owned target stored).find
    have found : findMerchant db target.merchantId = some shop := recipient
    cases sender : findMerchant db call.attempt.senderMerchantId with
    | none =>
      have early : stepped inputs db call 3 =
          (db, (dated inputs call).at (.returned (.refused "SENDER_NOT_ACTIVE"))) := by
        simp only [stepped, SettleShopTransfer.step, start, device, SettleShopTransfer.at, found,
          sender, dated]
      exact absurd decides (early_undecided early (by omega) (.inl ⟨_, rfl⟩))
    | some own =>
      cases balance : balanceFor db call.attempt.senderMerchantId with
      | error fault =>
        have early : stepped inputs db call 4 = (db, (dated inputs call).at (.threw fault)) := by
          simp only [stepped, SettleShopTransfer.step, start, device, SettleShopTransfer.at, found,
            sender, balance, dated]
        exact absurd decides (early_undecided early (by omega) (.inr ⟨_, rfl⟩))
      | ok view =>
        have four := reaches_decision inputs start device found sender balance
        cases decision : decideTransfer (asked inputs db call shop own.status view.available.minor)
            call.policy with
        | refused refusal =>
          have ends := reaches_refusal four decision
          rcases finish_cases
            (recordRefusal ((dated inputs call).at (.refusing (some shop) refusal)) (some shop) refusal
              (inputs 5)) (inputs 5) ((dated inputs call).at (.refusing (some shop) refusal)) db
            with ⟨_, _, free, done, _⟩ | ⟨fault, threw⟩
          · simp only [recordRefusal, bind_ok] at done
            obtain ⟨_, saved, _⟩ := done
            have held := saveShopTransfer_recordable saved
            have word : (if 0 < call.attempt.amountMinor then call.attempt.amountMinor else 1) <
              2 ^ 63 := held.word.1
            refine recordable_storable held rfl rfl rfl rfl shops device balance free ?_
            split at word <;> omega
          · rw [threw] at ends
            unfold Decides at decides
            rw [ends] at decides
            exact decides.elim
        | accepted needs feeMinor debitMinor creditMinor =>
          obtain ⟨point, ends⟩ := reaches_writing four decision
          obtain ⟨_, worth, _⟩ := decideTransfer_accepted decision
          rcases finish_cases
            (writing needs ((dated inputs call).at point) shop.id feeMinor creditMinor (inputs 5))
            (inputs 5) ((dated inputs call).at point) db
            with ⟨_, _, free, done, _⟩ | ⟨fault, threw⟩
          · obtain ⟨next, status, merchants, devices, held⟩ := writing_recordable done
            refine recordable_storable held merchants devices rfl rfl shops device balance free ?_
            rw [← show creditMinor = call.attempt.amountMinor from worth]
            exact held.word.1
          · rw [threw] at ends
            unfold Decides at decides
            rw [ends] at decides
            exact decides.elim

/-- An attempt is decided and recorded just when all it names can be stored. -/
theorem decides_iff (ordered : Ordered db) (start : call.point = .begin)
    (fresh : ¬ Present (·.id) ((inputs 5).newId 0) db.shopTransfers)
    (unposted : ∀ row ∈ db.ledgerEntries, row.id.1 ≠ (inputs 5).newId 1) :
    Decides call.attempt db (attempted inputs db call) ↔ Storable inputs db call.attempt :=
  ⟨decides_storable ordered start, storable_decides ordered start fresh unposted⟩

end

/-- A hundred santim at the first shop, of two. -/
def funded : Db :=
  (fundMerchant twoShops
    { merchantId := "shop", amount := ⟨100, safe_hundred⟩, now := 0, correlationId := "deposit",
      postingId := "deposit" }).toOption.getD twoShops

/-- Twenty santim from the first shop's till. -/
def sending (recipientDeviceId : DeviceId) : SettleShopTransfer :=
  { policy := trainingTransferPolicy
    attempt :=
      { senderMerchantId := "shop", senderDeviceId := "till", senderOperatorId := "operator",
        recipientDeviceId, amountMinor := 20 }
    now := 0, correlationId := "", point := .begin }

def answering (step : Nat) : Input :=
  drawing (toString step) .confirmedSuccess .stillPending 1

theorem funded_ordered : Ordered funded := by
  constructor
  · decide
  · decide

/-- Sent to the other shop's stand, they are posted and recorded. -/
theorem sent_decides :
    Decides (sending "stand").attempt funded (attempted answering funded (sending "stand")) := by
  refine (decides_iff funded_ordered rfl (by decide) (by decide)).mpr ?_
  exact ⟨by decide, by decide, ⟨_, rfl, by decide⟩, by decide, ⟨_, rfl⟩, rfl⟩

/-- Sent to a device nobody has, the refusal itself cannot be stored, and the call throws. -/
theorem nowhere_throws :
    ¬ Decides (sending "nowhere").attempt funded (attempted answering funded (sending "nowhere")) := by
  have ended : (attempted answering funded (sending "nowhere")).2.point = .threw .constraint := by
    decide
  unfold Decides
  rw [ended]
  exact id

end Telga.Proofs.TransferAttempts
