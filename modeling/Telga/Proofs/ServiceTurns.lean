import Telga.Proofs.RecoveryTurns

namespace Telga.Proofs
open Domain Persistence Application Library

/-- Closing the job of a row that is still pending touches the jobs alone. -/
theorem closeIfPending (row : TransactionRow) (transactionId : TransactionId) (now : Timestamp)
    (db : Db) :
    ∃ jobs, (if row.state = .pending then
        (closePendingResolution db transactionId .escalated now).1 else db) =
      { db with pendingResolutions := jobs } := by
  split <;> exact ⟨_, rfl⟩

theorem markReversalRequired_turn {call : RequireReversal} (point : call.point = .requiring row)
    (known : row.id = call.transactionId) (sold : Sold db row.id row.merchantId row.amount)
    (h : markReversalRequired call row input db = .ok (db', result)) :
    Turn db (.requireReversal call) (.marked row.id .reversalRequired) ∧
      Did (.marked row.id .reversalRequired) db db' := by
  obtain ⟨jobs, closed⟩ := closeIfPending row call.transactionId (input.now 0) db
  simp only [markReversalRequired, closed, bind_ok] at h
  obtain ⟨next, moves, first, saved, h⟩ := h
  obtain ⟨rows, restated, rfl⟩ := save_restates moves saved sold.present
  split at h
  · simp only [bind_ok, pure_ok, Prod.mk.injEq] at h
    obtain ⟨second, opened, third, audited, rfl, _⟩ := h
    obtain ⟨support, rfl⟩ := createSupportCase_ok opened
    obtain ⟨audits, rfl⟩ := saveAudit_ok audited
    exact ⟨.requires point known sold,
      .marked restated rfl rfl rfl rfl (answered_refl _) rfl rfl ⟨rfl, rfl⟩⟩
  · simp only [bind_ok, pure_ok, Prod.mk.injEq] at h
    obtain ⟨second, same, third, audited, rfl, _⟩ := h
    cases same
    obtain ⟨audits, rfl⟩ := saveAudit_ok audited
    exact ⟨.requires point known sold,
      .marked restated rfl rfl rfl rfl (answered_refl _) rfl rfl ⟨rfl, rfl⟩⟩

theorem requireReversal_acts {call : RequireReversal} (known : KnownRequire db call) :
    Acts db (.requireReversal call) ((Process.requireReversal call).step input db) := by
  unfold KnownRequire at known
  cases point : call.point with
  | begin =>
    simp only [Process.step, RequireReversal.step, point]
    split
    · exact acts_quiet trivial
    · rename_i row found
      obtain ⟨mem, id, merchant⟩ := findTransaction_ok found
      split
      · exact acts_quiet trivial
      · split
        · rename_i open_
          exact acts_quiet ⟨id, merchant, ⟨row, mem, rfl, rfl, rfl⟩, open_⟩
        · exact acts_quiet trivial
  | support row =>
    simp only [Process.step, RequireReversal.step, point]
    exact acts_quiet trivial
  | requiring row =>
    rw [point] at known
    simp only [Process.step, RequireReversal.step, point]
    split
    · rename_i same
      exact acts_of_turn ⟨_, markReversalRequired_turn point known.1 known.2.2.1
        (unit_ok same)⟩ trivial
    · rename_i same
      cases unit_error same
      exact acts_quiet trivial
  | returned result | threw fault =>
    simp only [Process.step, RequireReversal.step, point]
    exact acts_quiet (by simp only [Known, KnownRequire, point])

/-- A reversal is completed on the row as it is stored, and returns the value from whichever
bucket holds it. -/
theorem postReversal_turn {call : CompleteReversal} (unique : Unique (·.id) db.balanceReservations)
    (point : call.point = .completing row support)
    (h : postReversal call row support input db = .ok (db', result)) :
    ∃ deed, Turn db (.completeReversal call) deed ∧ Did deed db db' := by
  simp only [postReversal] at h
  split at h
  · simp only [pure_ok, Prod.mk.injEq] at h
    obtain ⟨rfl, _⟩ := h
    exact ⟨.quiet, .quiet, .refl _⟩
  · rename_i current still
    obtain ⟨found, state⟩ := Option.filter_eq_some_iff.mp still
    obtain ⟨mem, id, merchant⟩ := findTransaction_ok found
    have state : current.state = .reversalRequired := by simpa using state
    let context : OperationContext :=
      { merchantId := call.merchantId, transactionId := call.transactionId,
        amount := current.amount, now := input.now 0,
        correlationId := (support.map (·.correlationId)).getD (input.newId 0),
        actor := ⟨"system", call.approval.role⟩, postingId := input.newId 1,
        auditId := input.newId 2 }
    have here : Found db context call.transactionId call.merchantId .reversalRequired :=
      ⟨rfl, rfl, current, mem, id, merchant, rfl, state⟩
    split at h
    · simp only [bind_ok, pure_ok, Prod.mk.injEq] at h
      obtain ⟨first, released, next, moves, second, saved, third, audited, rfl, _⟩ := h
      obtain ⟨reservations, audits, moved, positive, rfl⟩ :=
        moveValue_moved .reviewRelease released unique
      obtain ⟨rows, restated, rfl⟩ := save_restates moves saved ⟨current, mem, rfl⟩
      obtain ⟨audits', rfl⟩ := saveAudit_ok audited
      have reversed : Restated call.transactionId .reversed db.transactions rows := id ▸ restated
      refine ⟨_, .completes point here (.inr rfl), ?_⟩
      cases support <;> exact .moved reversed moved positive rfl rfl (List.append_nil _).symm
        (answered_update _ _ _) rfl rfl ⟨rfl, rfl⟩
    · simp only [bind_ok, pure_ok, Prod.mk.injEq] at h
      obtain ⟨first, released, next, moves, second, saved, third, audited, rfl, _⟩ := h
      obtain ⟨reservations, audits, moved, positive, rfl⟩ :=
        moveValue_moved .release released unique
      obtain ⟨rows, restated, rfl⟩ := save_restates moves saved ⟨current, mem, rfl⟩
      obtain ⟨audits', rfl⟩ := saveAudit_ok audited
      have reversed : Restated call.transactionId .reversed db.transactions rows := id ▸ restated
      refine ⟨_, .completes point here (.inl rfl), ?_⟩
      cases support <;> exact .moved reversed moved positive rfl rfl (List.append_nil _).symm
        (answered_update _ _ _) rfl rfl ⟨rfl, rfl⟩

theorem completeReversal_acts {call : CompleteReversal}
    (unique : Unique (·.id) db.balanceReservations) :
    Acts db (.completeReversal call) ((Process.completeReversal call).step input db) := by
  cases point : call.point with
  | begin | support row =>
    simp only [Process.step, CompleteReversal.step, point]
    repeat' split
    all_goals exact acts_quiet trivial
  | reversing row support =>
    simp only [Process.step, CompleteReversal.step, point]
    split <;> exact acts_quiet trivial
  | completing row support =>
    simp only [Process.step, CompleteReversal.step, point]
    split
    · rename_i same
      exact acts_of_turn (postReversal_turn unique point (unit_ok same)) trivial
    · rename_i same
      cases unit_error same
      exact acts_quiet trivial
  | returned result | threw fault =>
    simp only [Process.step, CompleteReversal.step, point]
    exact acts_quiet trivial

/-- A posting outside the sales, with what else its unit of work wrote. -/
theorem Did.posted {posting : PostingInput} {rows : List LedgerAccountRow}
    (named : ∀ row ∈ rows, Named row)
    (positive : ∀ leg ∈ legs, 0 < leg.amount.minor)
    (ledger : db'.ledgerEntries = db.ledgerEntries ++
      entryRows posting (db.ledgerAccounts ++ rows) 0 legs)
    (accounts : db'.ledgerAccounts = db.ledgerAccounts ++ rows)
    (sales : db'.transactions = db.transactions)
    (holds : db'.balanceReservations = db.balanceReservations)
    (commissions : db'.commissionEntries = db.commissionEntries)
    (records : db'.idempotencyRecords = db.idempotencyRecords)
    (requests : db'.reversalRequests = db.reversalRequests)
    (transfers : db'.shopTransfers = db.shopTransfers)
    (shops : db'.merchants = db.merchants ∧ db'.devices = db.devices) : Did (.posted legs) db db' where
  sales := sales
  holds := holds
  ledger := ⟨_, _, named_append named, ledger⟩
  accounts := accounts ▸ named_append named
  positive := positive
  commissions := by simpa [Deed.commissions] using commissions
  records := by
    rw [records]
    exact answered_refl _
  requests := requests
  transfers := transfers
  shops := shops

theorem moveProfit_turn {call : TransferProfit}
    (h : moveProfit call input db = .ok (db', result)) :
    ∃ deed, Turn db (.transferProfit call) deed ∧ Did deed db db' := by
  simp only [moveProfit] at h
  split at h
  · simp only [pure_ok, Prod.mk.injEq] at h
    obtain ⟨rfl, _⟩ := h
    exact ⟨.quiet, .quiet, .refl _⟩
  · rename_i enough
    simp only [bind_ok, money_ok, pure_ok, Prod.mk.injEq] at h
    obtain ⟨amount, same, first, posted, second, audited, view, _, rfl, _⟩ := h
    obtain ⟨rows, named, _, positive, _, rfl⟩ := postMovement_ok posted
    obtain ⟨audits, rfl⟩ := saveAuditEvent_ok audited
    refine ⟨_, .takesProfit rfl same ?_, .posted named positive rfl rfl rfl rfl rfl rfl rfl rfl ⟨rfl, rfl⟩⟩
    simp only [same]
    omega

theorem transferProfit_acts {call : TransferProfit} :
    Acts db (.transferProfit call) ((Process.transferProfit call).step input db) := by
  cases point : call.point with
  | begin =>
    simp only [Process.step, TransferProfit.step, point]
    split
    · exact acts_quiet trivial
    · split
      · exact acts_quiet trivial
      · split
        · exact acts_quiet trivial
        · split
          · exact acts_quiet trivial
          · split
            · rename_i same
              exact acts_of_turn (moveProfit_turn (unit_ok same)) trivial
            · rename_i same
              cases unit_error same
              exact acts_quiet trivial
  | returned result | threw fault =>
    simp only [Process.step, TransferProfit.step, point]
    exact acts_quiet trivial

theorem chargeSoftwareFee_turn {run : RunDueSoftwareFees}
    (h : chargeSoftwareFee db charge = .ok (db', outcome)) :
    ∃ deed, Turn db (.runDueSoftwareFees run) deed ∧ Did deed db db' := by
  rcases chargeSoftwareFee_ok h with ⟨charges, rfl⟩ | ⟨rows, charges, named, covered, positive, rfl⟩
  · exact ⟨.quiet, .quiet, .quiet rfl rfl rfl rfl rfl rfl rfl rfl ⟨rfl, rfl⟩⟩
  · exact ⟨_, .charges covered, .posted named positive rfl rfl rfl rfl rfl rfl rfl rfl ⟨rfl, rfl⟩⟩

theorem runDueSoftwareFees_acts {run : RunDueSoftwareFees} :
    Acts db (.runDueSoftwareFees run) ((Process.runDueSoftwareFees run).step input db) := by
  cases point : run.point with
  | begin =>
    simp only [Process.step, RunDueSoftwareFees.step, point]
    repeat' split
    all_goals exact acts_quiet trivial
  | starting now =>
    simp only [Process.step, RunDueSoftwareFees.step, point]
    split
    · rename_i same
      obtain ⟨_, written, eq⟩ := map_ok.mp (unit_ok same)
      cases eq
      obtain ⟨settings, rfl⟩ := writePlatformFeeSettings_ok written
      exact acts_of_turn ⟨.quiet, .quiet, .quiet rfl rfl rfl rfl rfl rfl rfl rfl ⟨rfl, rfl⟩⟩ trivial
    · rename_i same
      cases unit_error same
      exact acts_quiet trivial
  | settings =>
    simp only [Process.step, RunDueSoftwareFees.step, point]
    split <;> exact acts_quiet trivial
  | merchants now amount =>
    simp only [Process.step, RunDueSoftwareFees.step, point]
    exact acts_quiet trivial
  | charging now amount todo =>
    simp only [Process.step, RunDueSoftwareFees.step, point]
    split
    · exact acts_quiet trivial
    · split
      · rename_i same
        exact acts_of_turn (chargeSoftwareFee_turn (unit_ok same)) trivial
      · rename_i same
        cases unit_error same
        exact acts_quiet trivial
  | outstanding now =>
    simp only [Process.step, RunDueSoftwareFees.step, point]
    exact acts_quiet trivial
  | recovering now todo =>
    simp only [Process.step, RunDueSoftwareFees.step, point]
    split
    · exact acts_quiet trivial
    · split
      · exact acts_quiet trivial
      · split
        · rename_i same
          exact acts_of_turn (chargeSoftwareFee_turn (unit_ok same)) trivial
        · rename_i same
          cases unit_error same
          exact acts_quiet trivial
  | returned | threw fault =>
    simp only [Process.step, RunDueSoftwareFees.step, point]
    exact acts_quiet trivial

theorem deposit_acts {call : Deposit} :
    Acts db (.deposit call) ((Process.deposit call).step input db) := by
  cases point : call.point with
  | begin =>
    simp only [Process.step, Deposit.step, point]
    split
    · rename_i same
      obtain ⟨_, funded, eq⟩ := map_ok.mp (unit_ok same)
      cases eq
      obtain ⟨rows, named, _, positive, _, rfl⟩ := postMovement_ok funded
      exact acts_of_turn
        ⟨_, .deposits, .posted named positive rfl rfl rfl rfl rfl rfl rfl rfl ⟨rfl, rfl⟩⟩ trivial
    · rename_i same
      cases unit_error same
      exact acts_quiet trivial
  | done | threw fault =>
    simp only [Process.step, Deposit.step, point]
    exact acts_quiet trivial

theorem configure_acts {call : Configure} :
    Acts db (.configure call) ((Process.configure call).step input db) := by
  cases point : call.point with
  | begin =>
    simp only [Process.step, Configure.step, point]
    split
    · rename_i same
      obtain ⟨_, written, eq⟩ := map_ok.mp (unit_ok same)
      cases eq
      cases change : call.change with
      | settings update =>
        rw [change] at written
        obtain ⟨settings, rfl⟩ := writePlatformFeeSettings_ok written
        exact acts_of_turn ⟨.quiet, .quiet, .quiet rfl rfl rfl rfl rfl rfl rfl rfl ⟨rfl, rfl⟩⟩ trivial
      | providerRate rate =>
        rw [change] at written
        obtain ⟨rates, rfl⟩ := saveProviderRate_ok written
        exact acts_of_turn ⟨.quiet, .quiet, .quiet rfl rfl rfl rfl rfl rfl rfl rfl ⟨rfl, rfl⟩⟩ trivial
    · rename_i same
      cases unit_error same
      exact acts_quiet trivial
  | done | threw fault =>
    simp only [Process.step, Configure.step, point]
    exact acts_quiet trivial

/-- A transfer that is only written down, whether it was refused or queued. -/
theorem Did.recorded (transfers : db'.shopTransfers = db.shopTransfers ++ [row])
    (sales : db'.transactions = db.transactions)
    (holds : db'.balanceReservations = db.balanceReservations)
    (ledger : db'.ledgerEntries = db.ledgerEntries)
    (accounts : db'.ledgerAccounts = db.ledgerAccounts)
    (commissions : db'.commissionEntries = db.commissionEntries)
    (records : db'.idempotencyRecords = db.idempotencyRecords)
    (requests : db'.reversalRequests = db.reversalRequests)
    (shops : db'.merchants = db.merchants ∧ db'.devices = db.devices) :
    Did (.sent row []) db db' where
  sales := sales
  holds := holds
  ledger := ⟨⟨"", "", 0, []⟩, [], by simp, by simpa [Deed.legs, entryRows] using ledger⟩
  accounts := fun _ mem => .inl (accounts ▸ mem)
  positive := by simp [Deed.legs]
  commissions := by simpa [Deed.commissions] using commissions
  records := by
    rw [records]
    exact answered_refl _
  requests := requests
  transfers := transfers
  shops := shops

theorem postTransfer_ok
    (h : postTransfer db sender recipient amountMinor feeMinor postingId correlationId now =
      .ok db') :
    ∃ input debit rows, (∀ row ∈ rows, Named row) ∧
      input.senderMerchantId = sender ∧ input.recipientMerchantId = recipient ∧
      input.amount.minor = amountMinor ∧ input.fee.minor = feeMinor ∧
      debit.minor = input.amount.minor + input.fee.minor ∧
      (∀ leg ∈ transferLegs input debit, 0 < leg.amount.minor) ∧
      db' = { db with
        ledgerAccounts := db.ledgerAccounts ++ rows
        ledgerEntries := db.ledgerEntries ++
          entryRows (transferPosting input debit) (db.ledgerAccounts ++ rows) 0
            (transferLegs input debit) } := by
  simp only [postTransfer, bind_ok, money_ok] at h
  obtain ⟨amount, worth, fee, charge, posted⟩ := h
  obtain ⟨rows, debit, named, sum, _, positive, eq⟩ := postShopTransfer_ok posted
  exact ⟨_, debit, rows, named, rfl, rfl, worth, charge, sum, positive, eq⟩

theorem postSettlement_turn {call : SettleShopTransfer}
    (point : call.point = .settling recipient feeMinor creditMinor)
    (h : postSettlement call recipient feeMinor creditMinor input db = .ok (db', result)) :
    ∃ row given debit, Turn db (.settleShopTransfer call) (.sent row (transferLegs given debit)) ∧
      Did (.sent row (transferLegs given debit)) db db' ∧ Transferring given debit ∧
      given.senderMerchantId = call.attempt.senderMerchantId ∧
      debit.minor = creditMinor + feeMinor := by
  simp only [postSettlement, bind_ok, pure_ok, Prod.mk.injEq] at h
  obtain ⟨first, posted, second, saved, rfl, _⟩ := h
  obtain ⟨given, debit, rows, named, sender, recipient', worth, charge, sum, positive, rfl⟩ :=
    postTransfer_ok posted
  obtain ⟨amount, fee, apart, rfl⟩ := saveShopTransfer_ok saved
  have transferring : Transferring given debit :=
    { sum := sum
      amount := worth ▸ amount
      fee := charge ▸ fee
      apart := by
        rw [sender, recipient']
        exact apart }
  refine ⟨_, given, debit, .sends point transferring ⟨amount, fee, apart⟩ sender worth charge,
    ?_, transferring, sender, by rw [sum, worth, charge]⟩
  exact
    { sales := rfl
      holds := rfl
      ledger := ⟨_, _, named_append named, rfl⟩
      accounts := named_append named
      positive := positive
      commissions := (List.append_nil _).symm
      records := answered_refl _
      requests := rfl
      transfers := rfl
      shops := ⟨rfl, rfl⟩ }

theorem saveShopTransfer_turn {call : SettleShopTransfer}
    (h : saveShopTransfer db row = .ok db') :
    ∃ deed, Turn db (.settleShopTransfer call) deed ∧ Did deed db db' := by
  obtain ⟨amount, fee, apart, rfl⟩ := saveShopTransfer_ok h
  exact ⟨_, .records ⟨amount, fee, apart⟩, .recorded rfl rfl rfl rfl rfl rfl rfl rfl ⟨rfl, rfl⟩⟩

theorem settleShopTransfer_acts {call : SettleShopTransfer} :
    Acts db (.settleShopTransfer call) ((Process.settleShopTransfer call).step input db) := by
  cases point : call.point with
  | begin =>
    simp only [Process.step, SettleShopTransfer.step, point]
    split <;> exact acts_quiet trivial
  | recipient device =>
    simp only [Process.step, SettleShopTransfer.step, point]
    exact acts_quiet trivial
  | sender recipient | balance recipient status | deciding recipient status availableMinor =>
    simp only [Process.step, SettleShopTransfer.step, point]
    split <;> exact acts_quiet trivial
  | refusing recipient refusal =>
    simp only [Process.step, SettleShopTransfer.step, point]
    rcases unit_cases input (recordRefusal call recipient refusal input) db with
      ⟨next, result, _, done, same⟩ | ⟨fault, same⟩
    · rw [same]
      simp only [recordRefusal, bind_ok, pure_ok, Prod.mk.injEq] at done
      obtain ⟨_, saved, rfl, _⟩ := done
      exact acts_of_turn (saveShopTransfer_turn saved) trivial
    · rw [same]
      exact acts_quiet trivial
  | queueing recipient feeMinor creditMinor =>
    simp only [Process.step, SettleShopTransfer.step, point]
    rcases unit_cases input (queueTransfer call recipient feeMinor creditMinor input) db with
      ⟨next, result, _, done, same⟩ | ⟨fault, same⟩
    · rw [same]
      simp only [queueTransfer, bind_ok, pure_ok, Prod.mk.injEq] at done
      obtain ⟨_, saved, rfl, _⟩ := done
      exact acts_of_turn (saveShopTransfer_turn saved) trivial
    · rw [same]
      exact acts_quiet trivial
  | settling recipient feeMinor creditMinor =>
    simp only [Process.step, SettleShopTransfer.step, point]
    rcases unit_cases input (postSettlement call recipient feeMinor creditMinor input) db with
      ⟨next, result, _, done, same⟩ | ⟨fault, same⟩
    · rw [same]
      obtain ⟨row, given, debit, turn, did, _⟩ := postSettlement_turn point done
      exact acts_of_turn ⟨_, turn, did⟩ trivial
    · rw [same]
      exact acts_quiet trivial
  | returned settlement | threw fault =>
    simp only [Process.step, SettleShopTransfer.step, point]
    exact acts_quiet trivial

/-- Whether the row still needs approval, so that approving it wins the claim. -/
def Claims (call : DecideTransfer) (input : Input) (db : Db) : Prop :=
  (approveShopTransfer db call.id (input.newId 0) call.decidedBy (input.now 0)).2 = 1

/-- Approving claims the row and posts the pair. -/
theorem approveTransfer_turn {call : DecideTransfer} (point : call.point = .approving row)
    (known : Transferable row) (claims : Claims call input db)
    (h : approveTransfer call row input db = .ok (db', result)) :
    ∃ given debit, Turn db (.decideTransfer call) (.approved call.id (transferLegs given debit)) ∧
      Did (.approved call.id (transferLegs given debit)) db db' ∧ Transferring given debit ∧
      given.senderMerchantId = row.senderMerchantId ∧
      debit.minor = row.amountMinor + row.feeMinor := by
  unfold Claims at claims
  simp only [approveTransfer, claims, if_true, bind_ok, pure_ok, Prod.mk.injEq] at h
  obtain ⟨first, posted, rfl, _⟩ := h
  obtain ⟨given, debit, rows, named, sender, recipient, worth, charge, sum, positive, rfl⟩ :=
    postTransfer_ok posted
  obtain ⟨amount, fee, apart⟩ := known
  have transferring : Transferring given debit :=
    { sum := sum
      amount := worth ▸ amount
      fee := charge ▸ fee
      apart := by
        rw [sender, recipient]
        exact apart }
  refine ⟨given, debit, .approves point transferring sender worth charge, ?_, transferring, sender,
    by rw [sum, worth, charge]⟩
  exact
    { sales := rfl
      holds := rfl
      ledger := ⟨_, _, named_append named, rfl⟩
      accounts := named_append named
      positive := positive
      commissions := (List.append_nil _).symm
      records := answered_refl _
      requests := rfl
      transfers := ⟨_, _, _, rfl⟩
      shops := ⟨rfl, rfl⟩ }

/-- Approving a row somebody else decided first posts nothing. -/
theorem lateApproval_turn {call : DecideTransfer} (point : call.point = .approving row)
    (late : ¬ Claims call input db) (h : approveTransfer call row input db = .ok (db', result)) :
    Turn db (.decideTransfer call) (.approved call.id []) ∧ Did (.approved call.id []) db db' := by
  unfold Claims at late
  simp only [approveTransfer, late, if_false, pure_ok, Prod.mk.injEq] at h
  obtain ⟨rfl, _⟩ := h
  exact ⟨.late point,
    { sales := rfl
      holds := rfl
      ledger := ⟨⟨"", "", 0, []⟩, [], by simp, (List.append_nil _).symm⟩
      accounts := fun _ mem => .inl mem
      positive := by simp [Deed.legs]
      commissions := (List.append_nil _).symm
      records := answered_refl _
      requests := rfl
      transfers := ⟨_, _, _, rfl⟩
      shops := ⟨rfl, rfl⟩ }⟩

theorem decideTransfer_acts {call : DecideTransfer}
    (transferable : ∀ row ∈ db.shopTransfers, Transferable row) (known : KnownTransfer call) :
    Acts db (.decideTransfer call) ((Process.decideTransfer call).step input db) := by
  unfold KnownTransfer at known
  cases point : call.point with
  | begin =>
    simp only [Process.step, DecideTransfer.step, point]
    split
    · exact acts_quiet trivial
    · rename_i row found
      split
      · exact acts_quiet trivial
      · split
        · have stored := List.mem_of_find?_eq_some found
          have id := List.find?_some found
          simp only [decide_eq_true_eq] at id
          exact acts_quiet ⟨id, transferable row stored⟩
        · split <;> exact acts_quiet trivial
  | refusing =>
    simp only [Process.step, DecideTransfer.step, point]
    split
    · rename_i same
      cases unit_ok same
      refine acts_of_turn ⟨_, .dismisses, ?_⟩ trivial
      exact
        { sales := rfl
          holds := rfl
          ledger := ⟨⟨"", "", 0, []⟩, [], by simp, (List.append_nil _).symm⟩
          accounts := fun _ mem => .inl mem
          positive := by simp [Deed.legs]
          commissions := (List.append_nil _).symm
          records := answered_refl _
          requests := rfl
          transfers := ⟨_, _, _, rfl⟩
          shops := ⟨rfl, rfl⟩ }
    · rename_i same
      cases unit_error same
      exact acts_quiet trivial
  | approving row =>
    rw [point] at known
    simp only [Process.step, DecideTransfer.step, point]
    split
    · rename_i same
      by_cases claims : Claims call input db
      · obtain ⟨given, debit, turn, did, _⟩ :=
          approveTransfer_turn point known.2 claims (unit_ok same)
        exact acts_of_turn ⟨_, turn, did⟩ trivial
      · exact acts_of_turn ⟨_, lateApproval_turn point claims (unit_ok same)⟩ trivial
    · rename_i same
      cases unit_error same
      exact acts_quiet trivial
  | returned notice | threw fault =>
    simp only [Process.step, DecideTransfer.step, point]
    exact acts_quiet (by simp only [Known, KnownTransfer, point])

/-- A step that writes to the requests alone. -/
theorem Did.requested {deed : Deed} (legs : deed.legs = []) (commissions : deed.commissions = [])
    (sales : deed.Sales db.transactions db.transactions)
    (holds : deed.Holds db.balanceReservations db.balanceReservations)
    (records : deed.Records db.idempotencyRecords db.idempotencyRecords)
    (transfers : deed.Transfers db.shopTransfers db.shopTransfers)
    (requests : deed.Requests db after) :
    Did deed db { db with reversalRequests := after } where
  sales := sales
  holds := holds
  ledger := ⟨⟨"", "", 0, []⟩, [], by simp, by simp [legs, entryRows]⟩
  accounts := fun _ mem => .inl mem
  positive := by simp [legs]
  commissions := by simp [commissions]
  records := records
  requests := requests
  transfers := transfers
  shops := ⟨rfl, rfl⟩

theorem fileReversal_acts {call : FileReversal} (known : KnownFiling db call) :
    Acts db (.fileReversal call) ((Process.fileReversal call).step input db) := by
  unfold KnownFiling at known
  cases point : call.point with
  | begin =>
    simp only [Process.step, FileReversal.step, point]
    split
    · exact acts_quiet trivial
    · split
      · exact acts_quiet trivial
      · split
        · exact acts_quiet trivial
        · rename_i sale found
          obtain ⟨mem, id, merchant⟩ := findTransaction_ok found
          exact acts_quiet ⟨sale, mem, id, merchant, rfl⟩
  | looking sale =>
    rw [point] at known
    simp only [Process.step, FileReversal.step, point]
    split
    · exact acts_quiet trivial
    · exact acts_quiet known
    · exact acts_quiet known
  | filing sale status =>
    rw [point] at known
    simp only [Process.step, FileReversal.step, point]
    split
    · rename_i same
      obtain ⟨_, saved, eq⟩ := map_ok.mp (unit_ok same)
      cases eq
      obtain ⟨_, _, _, _, rfl⟩ := saveReversalRequest_ok saved
      exact acts_of_turn ⟨_, .files point known rfl rfl,
        .requested rfl rfl rfl rfl (answered_refl _) rfl rfl⟩ trivial
    · rename_i same
      cases unit_error same
      exact acts_quiet trivial
  | filed | refused error =>
    simp only [Process.step, FileReversal.step, point]
    exact acts_quiet (by simp only [Known, KnownFiling, point])

/-- The credit, the sale's state and the request's status are written together. -/
theorem postApproved_turn {call : DecideReversal} (point : call.point = .posting request)
    (known : Asked db call.id request) (h : postApproved call request input db = .ok (db', result)) :
    ∃ deed, Turn db (.decideReversal call) deed ∧ Did deed db db' := by
  simp only [postApproved, bind_ok, pure_ok, Prod.mk.injEq] at h
  obtain ⟨first, posted, rfl, _⟩ := h
  obtain ⟨rows, named, _, positive, _, rfl⟩ := postMovement_ok posted
  exact ⟨_, .undoes point known rfl rfl rfl,
    { sales := ⟨_, fun row => ⟨row.providerReference, input.now 0, rfl⟩, rfl⟩
      holds := rfl
      ledger := ⟨_, _, named_append named, rfl⟩
      accounts := named_append named
      positive := positive
      commissions := (List.append_nil _).symm
      records := answered_refl _
      requests := rfl
      transfers := rfl
      shops := ⟨rfl, rfl⟩ }⟩

theorem decideReversal_acts {call : DecideReversal}
    (asked : ∀ row ∈ db.reversalRequests, Sold db row.transactionId row.merchantId row.amount)
    (ended : ∀ row ∈ db.transactions, isTerminal row.state = true → Ended db row.id)
    (known : KnownDecision db call) :
    Acts db (.decideReversal call) ((Process.decideReversal call).step input db) := by
  unfold KnownDecision at known
  cases point : call.point with
  | begin =>
    simp only [Process.step, DecideReversal.step, point]
    split
    · exact acts_quiet trivial
    · split
      · rename_i same
        have written := unit_ok same
        simp only [Except.ok.injEq] at written
        have turn : ∃ deed, Turn db (.decideReversal call) deed ∧
            Did deed db (decideReversalRequest db
              { id := call.id, status := call.status, decidedBy := call.decidedBy,
                reason := Domain.trim call.reason, now := input.now 0 }).1 :=
          ⟨_, .decides point rfl rfl, .requested rfl rfl rfl rfl (answered_refl _) rfl rfl⟩
        rw [written] at turn
        split
        · exact acts_of_turn turn trivial
        · split <;> exact acts_of_turn turn trivial
      · rename_i same
        cases unit_error same
        exact acts_quiet trivial
  | approved =>
    simp only [Process.step, DecideReversal.step, point]
    split
    · exact acts_quiet trivial
    · rename_i row found
      split
      · rename_i settled
        obtain ⟨sale, stored, state⟩ := Option.map_eq_some_iff.mp settled
        have mem := List.mem_of_find?_eq_some found
        have id := List.find?_some found
        have saleId := List.find?_some stored
        simp only [decide_eq_true_eq] at id saleId
        have ended : Ended db row.transactionId := by
          rw [← saleId]
          refine ended sale (List.mem_of_find?_eq_some stored) ?_
          rw [state]
          rfl
        exact acts_quiet ⟨⟨row, mem, id, rfl, rfl, rfl⟩, asked row mem, ended⟩
      · exact acts_quiet trivial
  | posting request =>
    rw [point] at known
    simp only [Process.step, DecideReversal.step, point]
    split
    · rename_i same
      exact acts_of_turn (postApproved_turn point known (unit_ok same)) trivial
    · rename_i same
      cases unit_error same
      exact acts_quiet trivial
  | returned notice | threw fault =>
    simp only [Process.step, DecideReversal.step, point]
    exact acts_quiet (by simp only [Known, KnownDecision, point])

end Telga.Proofs
