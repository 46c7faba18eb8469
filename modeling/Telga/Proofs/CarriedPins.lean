import Telga.Proofs.CounterTurns

namespace Telga.Proofs.CarriedPins
open Domain Persistence Application Library

variable {deriveSecret : String → String → StoredSecret}

abbrev CounterHappened := Taken (World PosDb CounterRequest) (Event PinInput CounterRequest)

/-- The counter at work on a database on which nothing was sold or ordered yet. -/
abbrev CounterRun (args : CliArgs) (deriveSecret : String → String → StoredSecret) :=
  Run OpensCounter (CounterServing args deriveSecret)

/-- The PIN a request came with, and for whom. -/
structure CarriedPin where
  context : AuthContext
  pin : String

def CounterRequest.carried : CounterRequest → Option CarriedPin
  | .pin (.pos (.authorizeOrder call)) => some ⟨call.context, call.pin⟩
  | .pin (.pos _) => none
  | .pin (.changePin call) => some ⟨call.context, call.currentPin⟩
  | .pin (.unlockWithPin call) => some ⟨call.context, call.pin⟩
  | .postDeposit _ => none
  | .postProfitTransfer _ => none
  | .postShopTransfer call => some ⟨call.context, call.body.pin⟩

/-- A request is about to count the failures behind its operator, at the time it goes by. -/
def checkingLock : CounterRequest → Option Timestamp
  | .pin (.pos (.authorizeOrder { point := .failures _ now, .. })) => some now
  | .pin (.changePin { point := .failures now, .. }) => some now
  | .pin (.unlockWithPin { point := .failures now, .. }) => some now
  | _ => none

/-- A request is about to read the stored PIN of its operator. -/
def readingPin : CounterRequest → Bool
  | .pin (.pos (.authorizeOrder { point := .user .., .. })) => true
  | .pin (.changePin { point := .user _, .. }) => true
  | .pin (.unlockWithPin { point := .user _, .. }) => true
  | _ => false

/-- The step was an atomic step of the request in a slot. -/
def Acted (taken : CounterHappened) (slot : Nat) (request : CounterRequest) : Prop :=
  (∃ input, taken.event = .act slot input) ∧ taken.before.proc slot = some request

/-- The request in a slot found its operator not locked out. -/
def Admitted (args : CliArgs) (slot : Nat) (userId : MerchantUserId) (taken : CounterHappened) :
    Prop :=
  ∃ request, Acted taken slot request ∧ ∃ now ∈ checkingLock request,
    countFailuresSince taken.before.store .pinAuth userId (now - args.pinLockout.lockoutMs) <
      args.pinLockout.maxFailedAttempts

/-- The request in a slot read its operator as stored at that moment. -/
def ReadStored (slot : Nat) (context : AuthContext) (user : Option MerchantUserRow)
    (taken : CounterHappened) : Prop :=
  ∃ request, Acted taken slot request ∧ readingPin request = true ∧
    user = findMerchantUser taken.before.store context.userId context.merchantId

/-- The request in a slot was let through to the stored operator, and read this of it. -/
def LetThrough (args : CliArgs) (past : List CounterHappened) (slot : Nat) (context : AuthContext)
    (user : Option MerchantUserRow) : Prop :=
  ∃ newer read older, past = newer ++ read :: older ∧ ReadStored slot context user read ∧
    ∃ check ∈ older, Admitted args slot context.userId check

/-- The request in a slot came with the PIN of its operator: the one stored when it was let through
to it. -/
def Proven (args : CliArgs) (past : List CounterHappened) (slot : Nat) (carried : CarriedPin) :
    Prop :=
  ∃ user, LetThrough args past slot carried.context (some user) ∧
    args.verifySecret carried.pin user.pin = true

/-- The step authorized an order. -/
def Authorizes (taken : CounterHappened) : Prop :=
  ∃ order ∈ taken.after.store.pendingOrders, order.status = .authorized ∧
    order ∉ taken.before.store.pendingOrders

/-- The step settled or queued a transfer to another shop. -/
def Transfers (taken : CounterHappened) : Prop :=
  ∃ row ∈ taken.after.store.shopTransfers, (row.status = .settled ∨ row.status = .needsApproval) ∧
    row ∉ taken.before.store.shopTransfers

/-- The step changed what is stored of the operators. -/
def ChangesPin (taken : CounterHappened) : Prop :=
  taken.after.store.merchantUsers ≠ taken.before.store.merchantUsers

/-- What is promised of the requests made with a session: none authorizes an order, sends balance to
another shop or changes a PIN unless it came with the PIN of its operator. -/
def PinsCarried (args : CliArgs) (past : List CounterHappened) : Prop :=
  ∀ newer taken older, past = newer ++ taken :: older → ∀ slot request, Acted taken slot request →
    (∀ process, request ≠ .pin (.pos (.service process))) →
    Authorizes taken ∨ Transfers taken ∨ ChangesPin taken →
    ∃ carried, CounterRequest.carried request = some carried ∧ Proven args older slot carried

/-- What the policy says to the transfer a request has judged next, if it has one judged. -/
def judged (pos : PosDb) : CounterRequest → Option TransferDecision
  | .postShopTransfer { point := .settling transfer, .. } =>
    match transfer.point with
    | .deciding recipient status availableMinor =>
      some (decisionOn pos.toDb transfer recipient status availableMinor)
    | _ => none
  | _ => none

/-- No transfer to another shop that is judged passes the policy. -/
def NothingPassed (taken : CounterHappened) : Prop :=
  ∀ decision ∈ ofActor (fun _ => judged taken.before.store) taken,
    (decision matches .refused _) = true

instance (taken : CounterHappened) : Decidable (NothingPassed taken) :=
  inferInstanceAs (Decidable (∀ decision ∈ ofActor _ taken, _))

/-- A transfer is written next that the policy let pass. -/
def Sending (transfer : SettleShopTransfer) : Prop :=
  (transfer.point matches .queueing .. | .settling ..) = true

/-- What a request at some point of an authorization, a change or a transfer has behind it, as long
as no transfer passes. -/
def KnowsPin (args : CliArgs) (past : List CounterHappened) (slot : Nat) :
    CounterRequest → Prop
  | .pin (.pos (.authorizeOrder call)) =>
    call.deps = optionsFrom args ∧
    match call.point with
    | .attempts .. | .user .. => ∃ check ∈ past, Admitted args slot call.context.userId check
    | .verifying _ _ user => LetThrough args past slot call.context user
    | .accepting .. | .selling .. | .claiming .. => Proven args past slot ⟨call.context, call.pin⟩
    | _ => True
  | .pin (.changePin call) =>
    call.deps.toPosDeps = optionsFrom args ∧
    match call.point with
    | .user _ => ∃ check ∈ past, Admitted args slot call.context.userId check
    | .verifying _ user => LetThrough args past slot call.context user
    | .hashing _ | .changing .. => Proven args past slot ⟨call.context, call.currentPin⟩
    | _ => True
  | .postShopTransfer { point := .settling transfer, .. } => ¬ Sending transfer
  | _ => True

theorem LetThrough.later (through : LetThrough args past slot context user)
    (taken : CounterHappened) : LetThrough args (taken :: past) slot context user := by
  obtain ⟨newer, read, older, rfl, reads, check⟩ := through
  exact ⟨taken :: newer, read, older, rfl, reads, check⟩

theorem Proven.later (proven : Proven args past slot carried) (taken : CounterHappened) :
    Proven args (taken :: past) slot carried := by
  obtain ⟨user, through, right⟩ := proven
  exact ⟨user, through.later taken, right⟩

/-- What a request has behind it, it goes on having. -/
theorem KnowsPin.later {request : CounterRequest} (knows : KnowsPin args past slot request)
    (taken : CounterHappened) : KnowsPin args (taken :: past) slot request := by
  cases request with
  | pin request =>
    cases request with
    | pos request =>
      cases request with
      | authorizeOrder call =>
        obtain ⟨given, knows⟩ := knows
        refine ⟨given, ?_⟩
        cases point : call.point with
        | attempts | user =>
          simp only [point] at knows ⊢
          obtain ⟨check, mem, admitted⟩ := knows
          exact ⟨check, List.mem_cons_of_mem _ mem, admitted⟩
        | verifying =>
          simp only [point] at knows ⊢
          exact knows.later taken
        | accepting | selling | claiming =>
          simp only [point] at knows ⊢
          exact knows.later taken
        | _ => trivial
      | _ => trivial
    | changePin call =>
      obtain ⟨given, knows⟩ := knows
      refine ⟨given, ?_⟩
      cases point : call.point with
      | user =>
        simp only [point] at knows ⊢
        obtain ⟨check, mem, admitted⟩ := knows
        exact ⟨check, List.mem_cons_of_mem _ mem, admitted⟩
      | verifying =>
        simp only [point] at knows ⊢
        exact knows.later taken
      | hashing | changing =>
        simp only [point] at knows ⊢
        exact knows.later taken
      | _ => trivial
    | unlockWithPin call => trivial
  | postShopTransfer call =>
    obtain ⟨deps, context, body, point⟩ := call
    cases point with
    | settling transfer => exact knows
    | _ => trivial
  | _ => trivial

section Steps

variable {args : CliArgs} {input : PinInput} {pos pos' : PosDb} {request : CounterRequest}

/-- A transfer that the policy has not let pass leaves the transfers, or adds a refused one. -/
theorem unsent_transfers {transfer transfer' : SettleShopTransfer} {input : Input} {db db' : Db}
    (unsent : ¬ Sending transfer) (moved : transfer.step input db = (db', transfer')) :
    db'.shopTransfers = db.shopTransfers ∨
    ∃ row : ShopTransferRow, row.status = .refused ∧
      db'.shopTransfers = db.shopTransfers ++ [row] := by
  cases point : transfer.point with
  | queueing | settling => exact absurd (by simp [Sending, point]) unsent
  | refusing recipient refusal =>
    simp only [SettleShopTransfer.step, point] at moved
    rcases unit_cases input (recordRefusal transfer recipient refusal input) db with
      ⟨next, result, _, done, same⟩ | ⟨fault, same⟩
    · rw [same] at moved
      cases moved
      simp only [recordRefusal, bind_ok, pure_ok, Prod.mk.injEq] at done
      obtain ⟨_, saved, rfl, _⟩ := done
      obtain ⟨_, _, _, rfl⟩ := saveShopTransfer_ok saved
      exact .inr ⟨_, rfl, rfl⟩
    · rw [same] at moved
      cases moved
      exact .inl rfl
  | _ =>
    simp only [SettleShopTransfer.step, point] at moved
    repeat' split at moved
    all_goals
      cases moved
      exact .inl rfl

/-- A transfer the policy refuses is not sent. -/
theorem unsent_step {transfer transfer' : SettleShopTransfer} {input : Input} {db db' : Db}
    (refused : ∀ recipient status availableMinor,
      transfer.point = .deciding recipient status availableMinor →
        (decisionOn db transfer recipient status availableMinor matches .refused _) = true)
    (unsent : ¬ Sending transfer) (moved : transfer.step input db = (db', transfer')) :
    ¬ Sending transfer' := by
  cases point : transfer.point with
  | queueing | settling => exact absurd (by simp [Sending, point]) unsent
  | deciding recipient status availableMinor =>
    have refused := refused recipient status availableMinor point
    simp only [SettleShopTransfer.step, point] at moved
    cases decision : decisionOn db transfer recipient status availableMinor with
    | accepted => simp [decision] at refused
    | refused refusal =>
      rw [decisionOn] at decision
      rw [decision] at moved
      cases moved
      simp [Sending, SettleShopTransfer.at]
  | refusing recipient refusal =>
    simp only [SettleShopTransfer.step, point] at moved
    rcases unit_cases input (recordRefusal transfer recipient refusal input) db with
      ⟨next, result, _, done, same⟩ | ⟨fault, same⟩
    all_goals
      rw [same] at moved
      cases moved
      simp [Sending, SettleShopTransfer.at]
  | _ =>
    simp only [SettleShopTransfer.step, point] at moved
    repeat' split at moved
    all_goals
      cases moved
      simp [Sending, SettleShopTransfer.at, point]

/-- Only a call about transfers touches them. -/
theorem turn_transfers {db db' : Db} (turn : Turn db process deed) (did : Did deed db db')
    (other : process.service ∈ [.createSale, .deposit, .transferProfit]) :
    db'.shopTransfers = db.shopTransfers := by
  have transfers := did.transfers
  cases turn with
  | records | sends | approves | late | dismisses => simp [Process.service] at other
  | _ => exact transfers

/-- What a request made with a session runs, unless it sends balance to another shop. -/
theorem session_service {own : PosRequest} (stands : CounterRequest.asPos request = some own)
    (session : ∀ process, request ≠ .pin (.pos (.service process)))
    (other : ∀ call, request ≠ .postShopTransfer call) (running : own.process = some process) :
    process.service ∈ [.createSale, .deposit, .transferProfit] := by
  cases request with
  | pin request =>
    cases request with
    | pos request =>
      cases stands
      cases own with
      | service process => exact absurd rfl (session process)
      | postSale call =>
        obtain ⟨deps, context, origin, correlationId, point⟩ := call
        cases point with
        | selling sale =>
          cases running
          exact List.mem_cons_self ..
        | _ => cases running
      | authorizeOrder call =>
        obtain ⟨deps, context, orderId, pin, correlationId, point⟩ := call
        cases point with
        | selling order results sale =>
          cases running
          exact List.mem_cons_self ..
        | _ => cases running
      | _ => cases running
    | changePin call => cases stands
    | unlockWithPin call => cases stands
  | postDeposit call =>
    obtain ⟨deps, context, body, point⟩ := call
    cases point with
    | funding deposit =>
      cases stands
      cases running
      simp [Process.service]
    | _ => cases stands
  | postProfitTransfer call =>
    obtain ⟨deps, context, amountMinor, correlationId, point⟩ := call
    cases point with
    | transferring transfer =>
      cases stands
      cases running
      simp [Process.service]
    | _ => cases stands
  | postShopTransfer call => exact absurd rfl (other call)

/-- A request made with a session that sends nothing leaves the transfers, or adds a refused
one. -/
theorem session_transfers (sound : PosSound args pos) (aware : CounterAware args pos request)
    (fresh : CounterFresh input pos request)
    (session : ∀ process, request ≠ .pin (.pos (.service process)))
    (unsent : ∀ call transfer, request = .postShopTransfer call → call.point = .settling transfer →
      ¬ Sending transfer) :
    (request.step input pos).1.shopTransfers = pos.shopTransfers ∨
    ∃ row : ShopTransferRow, row.status = .refused ∧
      (request.step input pos).1.shopTransfers = pos.shopTransfers ++ [row] := by
  cases stands : CounterRequest.asPos request with
  | none =>
    obtain ⟨shops, _⟩ := Prod.mk.inj (counter_idle input pos stands)
    exact .inl (congrArg Db.shopTransfers shops)
  | some own =>
    by_cases transfers : ∃ call, request = .postShopTransfer call
    · obtain ⟨call, rfl⟩ := transfers
      obtain ⟨deps, context, body, point⟩ := call
      cases point with
      | settling transfer =>
        rw [counter_store stands]
        cases stands
        exact unsent_transfers (unsent _ transfer rfl rfl) rfl
      | _ => cases stands
    · refine .inl ?_
      have other : ∀ call, request ≠ .postShopTransfer call := fun call same =>
        transfers ⟨call, same⟩
      rw [counter_store stands]
      cases pos_turn input.toInput pos own with
      | served running same =>
        obtain ⟨deed, turn, did⟩ := served_deed sound (aware own stands) (fresh own stands) running
        rw [same]
        exact turn_transfers turn did (session_service stands session other running)
      | nothing same => rw [same]
      | attempted same => rw [same]
      | created _ made =>
        obtain ⟨_, _, same⟩ := createPendingOrder_ok made
        rw [same]
      | expired _ same =>
        rw [same]
        rfl
      | cancelled _ same =>
        rw [same]
        rfl
      | authorized _ _ _ same =>
        rw [same]
        rfl

theorem unlock_operators {call : UnlockWithPin} (moved : call.step input pos = (pos', call')) :
    pos'.merchantUsers = pos.merchantUsers := by
  cases point : call.point with
  | recording now outcome =>
    simp only [UnlockWithPin.step, point] at moved
    split at moved
    all_goals
      rename_i done
      cases moved
      apply posUnit_keeps PosDb.merchantUsers _ done
      intro next value worked
      cases worked
      rfl
  | _ =>
    simp only [UnlockWithPin.step, point] at moved
    repeat' split at moved
    all_goals
      cases moved
      rfl

theorem changePin_operators {call : ChangePin} (moved : call.step input pos = (pos', call'))
    (other : ∀ now derived, call.point ≠ .changing now derived) :
    pos'.merchantUsers = pos.merchantUsers := by
  cases point : call.point with
  | changing now derived => exact absurd point (other now derived)
  | refusing now | recording now =>
    simp only [ChangePin.step, point] at moved
    split at moved
    all_goals
      rename_i done
      cases moved
      apply posUnit_keeps PosDb.merchantUsers _ done
      intro next value worked
      cases worked
      rfl
  | _ =>
    simp only [ChangePin.step, point] at moved
    repeat' split at moved
    all_goals
      cases moved
      rfl

/-- Only a change of a PIN writes an operator. -/
theorem counter_operators
    (other : ∀ call now derived, request = .pin (.changePin call) →
      call.point ≠ .changing now derived) :
    (request.step input pos).1.merchantUsers = pos.merchantUsers := by
  cases stands : CounterRequest.asPos request with
  | some own =>
    rw [counter_store stands]
    exact (pos_turn input.toInput pos own).operators
  | none =>
    cases request with
    | pin request =>
      cases request with
      | pos request => cases stands
      | changePin call => exact changePin_operators rfl fun now derived => other call now derived rfl
      | unlockWithPin call => exact unlock_operators rfl
    | postDeposit call =>
      obtain ⟨deps, context, body, point⟩ := call
      cases point with
      | funding deposit => cases stands
      | _ =>
        simp only [CounterRequest.step, PostDeposit.step, Prod.map, id]
        repeat' split
        all_goals rfl
    | postProfitTransfer call =>
      obtain ⟨deps, context, amountMinor, correlationId, point⟩ := call
      cases point with
      | transferring transfer => cases stands
      | _ =>
        simp only [CounterRequest.step, PostProfitTransfer.step, Prod.map, id]
        repeat' split
        all_goals rfl
    | postShopTransfer call =>
      obtain ⟨deps, context, body, point⟩ := call
      cases point with
      | settling transfer => cases stands
      | _ =>
        simp only [CounterRequest.step, PostShopTransfer.step, Prod.map, id]
        repeat' split
        all_goals rfl

/-- Orders that are updated to another status than authorized do not become so. -/
theorem update_unauthorized {hit : PendingOrderRow → Bool}
    {change : PendingOrderRow → PendingOrderRow} {rows : List PendingOrderRow}
    (other : ∀ row, (change row).status ≠ .authorized) (mem : order ∈ update hit change rows)
    (authorized : order.status = .authorized) : order ∈ rows := by
  obtain ⟨old, there, same⟩ := mem_update.mp mem
  split at same
  · subst same
    exact absurd authorized (other old)
  · exact same ▸ there

/-- Only the claim of an authorization authorizes an order. -/
theorem counter_orders (mem : order ∈ (request.step input pos).1.pendingOrders)
    (authorized : order.status = .authorized) (new : order ∉ pos.pendingOrders) :
    ∃ call claimed results, request = .pin (.pos (.authorizeOrder call)) ∧
      call.point = .claiming claimed results := by
  cases stands : CounterRequest.asPos request with
  | none =>
    obtain ⟨_, orders⟩ := Prod.mk.inj (counter_idle input pos stands)
    exact absurd (orders ▸ mem) new
  | some own =>
    rw [counter_store stands] at mem
    have turn := pos_turn input.toInput pos own
    generalize (own.step input.toInput pos).1 = pos' at turn mem
    cases turn with
    | nothing same => exact absurd (same ▸ mem) new
    | attempted same =>
      subst same
      exact absurd mem new
    | created _ made =>
      obtain ⟨rfl, _, rfl⟩ := createPendingOrder_ok made
      rcases List.mem_append.mp mem with mem | mem
      · exact absurd mem new
      · cases List.mem_singleton.mp mem
        cases authorized
    | expired _ same =>
      subst same
      exact absurd (update_unauthorized (by rintro _ ⟨⟩) mem authorized) new
    | cancelled _ same =>
      subst same
      exact absurd (update_unauthorized (by rintro _ ⟨⟩) mem authorized) new
    | served _ same =>
      subst same
      exact absurd mem new
    | @authorized _ call claimed _ _ point =>
      cases request with
      | pin request =>
        cases request with
        | pos request =>
          cases stands
          exact ⟨call, claimed, _, rfl, point⟩
        | _ => cases stands
      | postDeposit call =>
        obtain ⟨deps, context, body, point⟩ := call
        cases point <;> cases stands
      | postProfitTransfer call =>
        obtain ⟨deps, context, amountMinor, correlationId, point⟩ := call
        cases point <;> cases stands
      | postShopTransfer call =>
        obtain ⟨deps, context, body, point⟩ := call
        cases point <;> cases stands

end Steps

section Knowing

variable {args : CliArgs} {past : List CounterHappened} {w w' : World PosDb CounterRequest}
  {slot : Nat} {input : PinInput} {pos' : PosDb}

/-- The step a request in a slot has just taken. -/
def takenBy (w : World PosDb CounterRequest) (slot : Nat) (input : PinInput)
    (w' : World PosDb CounterRequest) : CounterHappened :=
  ⟨w, .act slot input, w'⟩

/-- Where an authorization is proven, it goes on to a voucher, to the claim or to nothing. -/
theorem onward_knows {call : AuthorizeOrder} (given : call.deps = optionsFrom args)
    (proven : Proven args past slot ⟨call.context, call.pin⟩) (order : PendingOrderRow)
    (results : List SaleResult) :
    KnowsPin args past slot (.pin (.pos (.authorizeOrder
      (call.at (call.onward order results))))) := by
  refine ⟨given, ?_⟩
  by_cases more : results.length < order.quantity
  · cases priced : money order.amountMinor with
    | ok amount =>
      simp only [AuthorizeOrder.at, AuthorizeOrder.onward, if_pos more, priced]
      exact proven
    | error fault => simp only [AuthorizeOrder.at, AuthorizeOrder.onward, if_pos more, priced]
  · simp only [AuthorizeOrder.at, AuthorizeOrder.onward, if_neg more]
    exact proven

theorem authorizeOrder_knows {call call' : AuthorizeOrder}
    (here : w.proc slot = some (.pin (.pos (.authorizeOrder call))))
    (knows : KnowsPin args past slot (.pin (.pos (.authorizeOrder call))))
    (moved : call.step input.toInput w.store = (pos', call')) :
    KnowsPin args (takenBy w slot input w' :: past) slot (.pin (.pos (.authorizeOrder call'))) := by
  have acted : Acted (takenBy w slot input w') slot (.pin (.pos (.authorizeOrder call))) :=
    ⟨⟨input, rfl⟩, here⟩
  obtain ⟨deps, context, orderId, pin, correlationId, point⟩ := call
  obtain ⟨given, knows⟩ := knows
  cases point with
  | failures order now =>
    simp only [AuthorizeOrder.step] at moved
    split at moved
    · cases moved
      exact ⟨given, trivial⟩
    · rename_i below
      cases moved
      refine ⟨given, _, List.mem_cons_self .., _, acted, now, rfl, ?_⟩
      have lockout : deps.pinLockout = args.pinLockout := congrArg PosDeps.pinLockout given
      rw [lockout] at below
      exact Nat.lt_of_not_le below
  | attempts order now =>
    simp only [AuthorizeOrder.step] at moved
    split at moved
    · cases moved
      exact ⟨given, trivial⟩
    · cases moved
      obtain ⟨check, mem, admitted⟩ := knows
      exact ⟨given, check, List.mem_cons_of_mem _ mem, admitted⟩
  | user order now =>
    cases moved
    exact ⟨given, [], _, past, rfl, ⟨_, acted, rfl, rfl⟩, knows⟩
  | verifying order now user =>
    simp only [AuthorizeOrder.step] at moved
    split at moved
    · rename_i right
      cases moved
      obtain ⟨row, rfl, right⟩ := (Option.any_eq_true ..).mp right
      have same : deps.verifySecret = args.verifySecret := congrArg PosDeps.verifySecret given
      rw [same] at right
      exact ⟨given, row, LetThrough.later knows _, right⟩
    · cases moved
      exact ⟨given, trivial⟩
  | accepting order now =>
    simp only [AuthorizeOrder.step] at moved
    split at moved
    · cases moved
      exact onward_knows given (Proven.later knows _) order []
    · cases moved
      exact ⟨given, trivial⟩
  | selling order results sale =>
    simp only [AuthorizeOrder.step] at moved
    split at moved
    · cases moved
      exact onward_knows given (Proven.later knows _) order _
    · cases moved
      exact ⟨given, trivial⟩
    · cases moved
      exact ⟨given, Proven.later knows _⟩
  | _ =>
    simp only [AuthorizeOrder.step] at moved
    repeat' split at moved
    all_goals
      cases moved
      exact ⟨given, trivial⟩

theorem changePin_knows {call call' : ChangePin}
    (here : w.proc slot = some (.pin (.changePin call)))
    (knows : KnowsPin args past slot (.pin (.changePin call)))
    (moved : call.step input w.store = (pos', call')) :
    KnowsPin args (takenBy w slot input w' :: past) slot (.pin (.changePin call')) := by
  have acted : Acted (takenBy w slot input w') slot (.pin (.changePin call)) :=
    ⟨⟨input, rfl⟩, here⟩
  obtain ⟨deps, context, currentPin, newPin, point⟩ := call
  obtain ⟨given, knows⟩ := knows
  cases point with
  | failures now =>
    simp only [ChangePin.step] at moved
    split at moved
    · cases moved
      exact ⟨given, trivial⟩
    · rename_i below
      cases moved
      refine ⟨given, _, List.mem_cons_self .., _, acted, now, rfl, ?_⟩
      have lockout : deps.pinLockout = args.pinLockout := congrArg PosDeps.pinLockout given
      rw [lockout] at below
      exact Nat.lt_of_not_le below
  | user now =>
    cases moved
    exact ⟨given, [], _, past, rfl, ⟨_, acted, rfl, rfl⟩, knows⟩
  | verifying now user =>
    simp only [ChangePin.step] at moved
    split at moved
    · rename_i right
      obtain ⟨row, rfl, right⟩ := (Option.any_eq_true ..).mp right
      have same : deps.verifySecret = args.verifySecret := congrArg PosDeps.verifySecret given
      rw [same] at right
      split at moved
      · cases moved
        exact ⟨given, trivial⟩
      · cases moved
        exact ⟨given, row, LetThrough.later knows _, right⟩
    · cases moved
      exact ⟨given, trivial⟩
  | hashing now =>
    cases moved
    exact ⟨given, Proven.later knows _⟩
  | _ =>
    simp only [ChangePin.step] at moved
    repeat' split at moved
    all_goals
      cases moved
      exact ⟨given, trivial⟩

theorem postTransfer_knows {call call' : PostShopTransfer}
    (here : w.proc slot = some (.postShopTransfer call))
    (refused : NothingPassed (takenBy w slot input w'))
    (knows : KnowsPin args past slot (.postShopTransfer call))
    (moved : call.step input.toInput w.store = (pos', call')) :
    KnowsPin args past' slot (.postShopTransfer call') := by
  obtain ⟨deps, context, body, point⟩ := call
  cases point with
  | settling transfer =>
    simp only [PostShopTransfer.step] at moved
    cases went : transfer.step input.toInput w.store.toDb with
    | mk db transfer' =>
      have unsent : ¬ Sending transfer' := by
        refine unsent_step (fun recipient status availableMinor point => ?_) knows went
        have refused := refused (decisionOn w.store.toDb transfer recipient status availableMinor)
        rw [takenBy, ofActor_act here] at refused
        exact refused (by simp [judged, point])
      simp only [went] at moved
      split at moved
      · cases moved
        trivial
      · cases moved
        trivial
      · cases moved
        exact unsent
  | begin =>
    simp only [PostShopTransfer.step] at moved
    repeat' split at moved
    all_goals cases moved
    · trivial
    · trivial
    · trivial
    · simp [KnowsPin, PostShopTransfer.at, PostShopTransfer.transfer, Sending]
  | _ =>
    cases moved
    trivial

/-- As long as no transfer passes, a request that takes a step knows what it must at its new
point. -/
theorem knows_step {request : CounterRequest} (here : w.proc slot = some request)
    (refused : NothingPassed (takenBy w slot input w')) (knows : KnowsPin args past slot request) :
    KnowsPin args (takenBy w slot input w' :: past) slot (request.step input w.store).2 := by
  cases request with
  | pin request =>
    cases request with
    | pos request =>
      cases request with
      | authorizeOrder call => exact authorizeOrder_knows here knows rfl
      | _ => trivial
    | changePin call => exact changePin_knows here knows rfl
    | unlockWithPin call => trivial
  | postShopTransfer call => exact postTransfer_knows here refused knows rfl
  | _ => trivial

end Knowing

theorem knows_start {request : CounterRequest} (serves : CounterServes args deriveSecret request) :
    KnowsPin args past slot request := by
  obtain ⟨starting, given, _⟩ := serves
  cases request with
  | pin request =>
    cases request with
    | pos request =>
      cases request with
      | authorizeOrder call =>
        obtain ⟨deps, context, orderId, pin, correlationId, point⟩ := call
        refine ⟨given, ?_⟩
        cases point with
        | begin => trivial
        | _ => cases starting
      | _ => trivial
    | changePin call =>
      refine ⟨congrArg PinDeps.toPosDeps (given : call.deps = _), ?_⟩
      rw [show call.point = .begin from starting]
      trivial
    | unlockWithPin call => trivial
  | postShopTransfer call =>
    obtain ⟨deps, context, body, point⟩ := call
    cases point with
    | begin => trivial
    | _ => cases starting
  | _ => trivial

theorem run_knows (run : CounterRun args deriveSecret past w)
    (refused : ∀ taken ∈ past, NothingPassed taken) :
    ∀ slot request, w.proc slot = some request → KnowsPin args past slot request := by
  induction run with
  | start opens =>
    intro slot request here
    simp [World.proc, opens.2.2] at here
  | @step past w event w' run step ih =>
    have before := ih fun taken mem => refused taken (List.mem_cons_of_mem _ mem)
    have now := refused _ (List.mem_cons_self ..)
    intro slot request here
    cases step with
    | @start p _ serves =>
      rw [World.proc_start] at here
      split at here
      · cases here
        exact knows_start serves
      · exact (before slot request here).later _
    | @act p input store' p' _ acting there _ moved =>
      rw [World.proc_act there] at here
      split at here
      · rename_i same
        subst same
        cases here
        have knows := knows_step there now (before slot p there)
        rw [show p.step input w.store = (store', request) from moved] at knows
        exact knows
      · exact (before slot request here).later _
    | @crash _ dying =>
      rw [World.proc_crash] at here
      split at here
      · cases here
      · exact (before slot request here).later _

/-- In every run in which no transfer to another shop passes the policy, whatever takes a PIN was
done by a request that came with it. -/
theorem pins_carried (run : CounterRun args deriveSecret past w)
    (refused : ∀ taken ∈ past, NothingPassed taken) : PinsCarried args past := by
  intro newer taken older split slot request acted session deed
  subst split
  obtain ⟨before, step⟩ := run.earlier
  have secure := before.invariant opensCounter_secure counter_step
  have knows := run_knows before fun other mem =>
    refused other (List.mem_append_right _ (List.mem_cons_of_mem _ mem))
  obtain ⟨w, event, w'⟩ := taken
  obtain ⟨⟨input, rfl⟩, here⟩ := acted
  have knows := knows slot request here
  change CounterServing args deriveSecret w (.act slot input) w' at step
  cases step with
  | @act p _ store' p' _ _ there fresh moved =>
    cases here.symm.trans there
    have aware := secure.2 request (World.proc_mem there)
    have after : store' = (request.step input w.store).1 := congrArg Prod.fst moved.symm
    rcases deed with ⟨order, mem, authorized, new⟩ | ⟨row, mem, sent, new⟩ | changed
    · obtain ⟨call, claimed, results, rfl, point⟩ :=
        counter_orders (after ▸ mem) authorized new
      obtain ⟨_, knows⟩ := knows
      rw [point] at knows
      exact ⟨_, rfl, knows⟩
    · have unsent : ∀ call transfer, request = .postShopTransfer call →
          call.point = .settling transfer → ¬ Sending transfer := by
        rintro ⟨deps, context, body, _⟩ transfer rfl rfl
        exact knows
      rcases session_transfers secure.1 aware fresh session unsent with same | ⟨other, no, same⟩
      · rw [after, same] at mem
        exact absurd mem new
      · rw [after, same] at mem
        rcases List.mem_append.mp mem with mem | mem
        · exact absurd mem new
        · cases List.mem_singleton.mp mem
          rw [no] at sent
          rcases sent with sent | sent <;> cases sent
    · by_cases changing : ∃ call now derived, request = .pin (.changePin call) ∧
          call.point = .changing now derived
      · obtain ⟨call, now, derived, rfl, point⟩ := changing
        obtain ⟨_, knows⟩ := knows
        rw [point] at knows
        exact ⟨_, rfl, knows⟩
      · refine absurd ?_ changed
        rw [after]
        exact counter_operators fun call now derived same point =>
          changing ⟨call, now, derived, same, point⟩

/-- What a step says of the request that took it. -/
def ofRequest (tells : CounterRequest → Bool) (taken : CounterHappened) : Bool :=
  (ofActor (fun _ request => some (tells request)) taken).getD false

theorem Acted.ofRequest (acted : Acted taken slot request) (tells : CounterRequest → Bool) :
    ofRequest tells taken = tells request := by
  obtain ⟨⟨input, event⟩, here⟩ := acted
  obtain ⟨before, _, after⟩ := taken
  cases event
  rw [CarriedPins.ofRequest, ofActor_act here]
  rfl

/-- Where a transfer was sent that a PIN came with, an operator was read before. -/
theorem PinsCarried.reads (carried : PinsCarried args (taken :: older)) (sent : Transfers taken)
    (transfers : ofRequest (fun request => request matches .postShopTransfer _) taken = true) :
    ∃ read ∈ older, ofRequest readingPin read = true := by
  obtain ⟨before, event, after⟩ := taken
  cases event with
  | act slot input =>
    cases here : before.proc slot with
    | none => simp [ofRequest, ofActor, here] at transfers
    | some request =>
      have acted : Acted ⟨before, .act slot input, after⟩ slot request := ⟨⟨input, rfl⟩, here⟩
      rw [acted.ofRequest] at transfers
      have session : ∀ process, request ≠ .pin (.pos (.service process)) := by
        rintro process rfl
        cases transfers
      obtain ⟨_, _, _, through, _⟩ :=
        carried [] _ older rfl slot request acted session (.inr (.inl sent))
      obtain ⟨newer, read, oldest, rfl, ⟨_, reads, reading, _⟩, _⟩ := through
      refine ⟨read, List.mem_append_right _ (List.mem_cons_self ..), ?_⟩
      rw [reads.ofRequest]
      exact reading
  | start _ | crash _ => cases transfers

/-- A hundred birr deposited, and ten of them sent on with a PIN nobody has. -/
def sentOn : List (Event PinInput CounterRequest) :=
  counterEvents [crediting "deposit", sendingOn "0000"]
    (List.replicate 5 (0, "deposit", 0) ++ List.replicate 7 (1, "transfer", 1000))

theorem sentOn_run : CounterRun training plainSecret (counterPlayed sentOn).1
    (counterPlayed sentOn).2 := by
  refine counterPlayed_run (fun request mem => ?_) (by decide +kernel)
  simp only [List.mem_cons, List.not_mem_nil, or_false] at mem
  rcases mem with rfl | rfl
  all_goals exact ⟨rfl, rfl, by rintro _ ⟨⟩⟩

instance (taken : CounterHappened) : Decidable (Transfers taken) :=
  inferInstanceAs (Decidable (∃ row ∈ taken.after.store.shopTransfers, _))

/-- The transfer is settled though its PIN was compared with nothing. -/
theorem sent_unproven : ¬ ∀ args deriveSecret past w,
    CounterRun args deriveSecret past w → PinsCarried args past := by
  intro always
  have carried := always _ _ _ _ sentOn_run
  have last : ∀ taken ∈ (counterPlayed sentOn).1.head?, Transfers taken ∧
      ofRequest (fun request => request matches .postShopTransfer _) taken = true := by
    decide +kernel
  have unread : ∀ taken ∈ (counterPlayed sentOn).1.tail,
      ofRequest readingPin taken = false := by
    decide +kernel
  obtain ⟨taken, older, split⟩ := List.exists_cons_of_ne_nil
    (show (counterPlayed sentOn).1 ≠ [] by decide +kernel)
  rw [split] at carried last unread
  obtain ⟨sent, transfers⟩ := last taken rfl
  obtain ⟨read, mem, reading⟩ := carried.reads sent transfers
  rw [unread read mem] at reading
  cases reading

/-- A change of the PIN that goes through, and a transfer of nothing that is refused. -/
def changedOnly : List (Event PinInput CounterRequest) :=
  counterEvents
    [.pin (.changePin
      { deps := trainingOptions, context := cashier, currentPin := "1234", newPin := "194752",
        point := .begin }),
     .postShopTransfer
      { deps := trainingOptions.toPosDeps, context := cashier, body := ⟨"stand", some 0, "1234"⟩,
        point := .begin }]
    (List.replicate 7 (0, "change", 0) ++ List.replicate 6 (1, "transfer", 1000))

theorem changedOnly_run : CounterRun training plainSecret (counterPlayed changedOnly).1
    (counterPlayed changedOnly).2 := by
  refine counterPlayed_run (fun request mem => ?_) (by decide +kernel)
  simp only [List.mem_cons, List.not_mem_nil, or_false] at mem
  rcases mem with rfl | rfl
  all_goals exact ⟨rfl, rfl, by rintro _ ⟨⟩⟩

/-- The PIN was changed by a request that came with the old one. -/
theorem changedOnly_carried : PinsCarried training (counterPlayed changedOnly).1 :=
  pins_carried changedOnly_run (by decide +kernel)

end Telga.Proofs.CarriedPins
