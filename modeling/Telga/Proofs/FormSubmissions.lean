import Telga.Proofs.FormTurns

namespace Telga.Proofs.FormSubmissions
open Domain Persistence Application Library

abbrev FormHappened := Taken (World PosDb Submission) (Event PinInput Submission)

/-- What a request is about to move by itself: each voucher of an order is sold on its own. -/
def itemOf : CounterRequest → Nat
  | .pin (.pos (.authorizeOrder { point := .selling _ results _, .. })) => results.length
  | _ => 0

/-- A rendering of a page, and one of the things its submissions sell. -/
structure Piece where
  rendering : Nat
  item : Nat
deriving DecidableEq

def pieceOf (submission : Submission) : Option Piece :=
  submission.rendering.map fun rendering => ⟨rendering, itemOf submission.request⟩

/-- The step was taken by a submission of a rendering, for one of its pieces. -/
def OfPiece (piece : Piece) (taken : FormHappened) : Prop :=
  ofActor (fun _ => pieceOf) taken = some piece

instance (piece : Piece) (taken : FormHappened) : Decidable (OfPiece piece taken) :=
  inferInstanceAs (Decidable (_ = some piece))

/-- The step was one of the submission in a slot. -/
def TakenBy (slot : Nat) (taken : FormHappened) : Prop :=
  match taken.event with
  | .act other _ => other = slot
  | _ => False

instance (slot : Nat) (taken : FormHappened) : Decidable (TakenBy slot taken) :=
  match taken with
  | ⟨_, .act other _, _⟩ => inferInstanceAs (Decidable (other = slot))
  | ⟨_, .start _, _⟩ | ⟨_, .crash _, _⟩ => isFalse id

/-- What a step does to one of the balances of a merchant. -/
def change (merchantId : MerchantId) (kind : LedgerAccountKind) (taken : FormHappened) : Int :=
  netMinor taken.after.store.toDb merchantId [kind] -
    netMinor taken.before.store.toDb merchantId [kind]

def Moves (taken : FormHappened) : Prop :=
  ∃ merchantId kind, change merchantId kind taken ≠ 0

/-- A step for a piece by another submission than the one in a slot. -/
def Repeated (piece : Piece) (slot : Nat) (taken : FormHappened) : Prop :=
  OfPiece piece taken ∧ ¬ TakenBy slot taken

instance (piece : Piece) (slot : Nat) (taken : FormHappened) :
    Decidable (Repeated piece slot taken) :=
  inferInstanceAs (Decidable (_ ∧ _))

/-- A piece was as good as submitted once, in a slot: no other submission of it moved anything, and
every balance is what all other steps have made of it. -/
structure OnceIn (slot : Nat) (piece : Piece) (past : List FormHappened)
    (w : World PosDb Submission) : Prop where
  still : ∀ taken ∈ past, Repeated piece slot taken → ¬ Moves taken
  balances : ∀ merchantId kind, netMinor w.store.toDb merchantId [kind] =
    total (change merchantId kind) (past.filter fun taken => ¬ Repeated piece slot taken)

/-- Whatever was submitted how often, the balances are as if it had been submitted once. -/
def AsOnce (past : List FormHappened) (w : World PosDb Submission) : Prop :=
  ∀ piece, ∃ slot, OnceIn slot piece past w

/-- What a request is about to move is covered: the profit is there, or the policy lets the transfer
pass at once. -/
def passing (pos : PosDb) : CounterRequest → Bool
  | .postProfitTransfer { point := .transferring transfer, .. } =>
    decide (transfer.point = .begin ∧ 100 ≤ transfer.amountMinor ∧
      transfer.amountMinor % 100 = 0 ∧
      transfer.amountMinor ≤ profitAvailableMinor pos.toDb transfer.merchantId)
  | .postShopTransfer { point := .settling transfer, .. } =>
    match transfer.point with
    | .deciding recipient status availableMinor =>
      (decisionOn pos.toDb transfer recipient status availableMinor matches .accepted false ..)
    | _ => false
  | _ => false

/-- The rendering whose submission was found to be covered in a step. -/
def passedFrom (taken : FormHappened) : Option Nat :=
  ofActor (fun _ submission =>
    if passing taken.before.store submission.request then submission.rendering else none) taken

def Passes (rendering : Nat) (taken : FormHappened) : Prop :=
  passedFrom taken = some rendering

/-- Of the submissions of one rendering of the profit or the transfer form, at most one is found to
be covered. -/
def PassedOnce (past : List FormHappened) : Prop :=
  past.Pairwise fun later earlier =>
    ∀ rendering ∈ passedFrom later, passedFrom earlier ≠ some rendering

instance (past : List FormHappened) : Decidable (PassedOnce past) :=
  inferInstanceAs (Decidable (past.Pairwise _))

/-- The step was one of a submission. -/
def Stepped (taken : FormHappened) (slot : Nat) (input : PinInput) (submission : Submission) :
    Prop :=
  taken.event = .act slot input ∧ taken.before.proc slot = some submission

/-- The step opened a sale for a request. -/
def Opens (identity : RequestIdentity) (taken : FormHappened) : Prop :=
  ∃ slot input submission sale, Stepped taken slot input submission ∧
    saleOf submission.request = some sale ∧
    Accepted input.toInput taken.before.store.toDb sale ∧ requestOf sale.toSaleCall = identity

/-- The step credited a deposit under a posting. -/
def Posts (postingId : PostingId) (taken : FormHappened) : Prop :=
  ∃ slot input submission deposit, Stepped taken slot input submission ∧
    CounterRequest.asPos submission.request = some (.service (.deposit deposit)) ∧
    deposit.input.postingId = postingId ∧
    taken.after.store.ledgerEntries ≠ taken.before.store.ledgerEntries

/-- The submission in a slot took a step of a kind. -/
def Has (past : List FormHappened) (slot : Nat) (Kind : FormHappened → Prop) : Prop :=
  ∃ taken ∈ past, TakenBy slot taken ∧ Kind taken

/-- A transfer is written next that the policy let pass at once. -/
def Settling : CounterRequest → Prop
  | .postShopTransfer { point := .settling transfer, .. } =>
    (transfer.point matches .settling ..) = true
  | _ => False

/-- What a submission has behind it: where it has a sale it opened it, and where it sends balance on
it was found covered. -/
structure Behind (past : List FormHappened) (slot : Nat) (submission : Submission) : Prop where
  sale : ∀ sale, saleOf submission.request = some sale →
    (SalePoint.transaction sale.point).isSome = true →
      Has past slot (Opens (requestOf sale.toSaleCall))
  transfer : Settling submission.request → ∀ rendering ∈ submission.rendering,
    Has past slot (Passes rendering)

theorem Has.later (has : Has past slot Kind) (taken : FormHappened) :
    Has (taken :: past) slot Kind := by
  obtain ⟨found, mem, rest⟩ := has
  exact ⟨found, List.mem_cons_of_mem _ mem, rest⟩

theorem Behind.later (behind : Behind past slot submission) (taken : FormHappened) :
    Behind (taken :: past) slot submission where
  sale sale making opened := (behind.sale sale making opened).later taken
  transfer settling rendering mem := (behind.transfer settling rendering mem).later taken

/-- A record is kept for a request. -/
def RecordKept (identity : RequestIdentity) (w : World PosDb Submission) : Prop :=
  ∃ record ∈ w.store.idempotencyRecords,
    record.merchantId = identity.merchantId ∧ record.key = identity.key

/-- A deposit that posts takes a posting nothing was posted under, and it does not stay free. -/
theorem deposit_posting {deposit : Deposit} {input : Input} {db : Db}
    (posts : (deposit.step input db).1.ledgerEntries ≠ db.ledgerEntries) :
    ¬ Present (·.id) (deposit.input.postingId, 0) db.ledgerEntries ∧
    Present (·.id) (deposit.input.postingId, 0) (deposit.step input db).1.ledgerEntries := by
  cases point : deposit.point with
  | begin =>
    rcases unit_cases input (fun db => (·, ()) <$> fundMerchant db deposit.input) db with
      ⟨next, _, _, done, same⟩ | ⟨fault, same⟩
    · obtain ⟨_, funded, eq⟩ := map_ok.mp done
      cases eq
      simp only [Deposit.step, point, same]
      simp only [fundMerchant, postMovement, bind_ok] at funded
      obtain ⟨base, accounts, posted⟩ := funded
      obtain ⟨rows, _, rfl⟩ := ensureAccounts_ok accounts
      refine ⟨appendEntries_fresh posted (List.cons_ne_nil _ _), ?_⟩
      obtain ⟨_, _, _, rfl⟩ := appendEntries_ok posted
      refine ⟨_, List.mem_append_right _ (List.mem_cons_self ..), rfl⟩
    · simp only [Deposit.step, point, same] at posts
      exact absurd rfl posts
  | _ =>
    simp only [Deposit.step, point] at posts
    exact absurd rfl posts

section Once

variable {pages : Nat → Page} {args : CliArgs} {deriveSecret : String → String → StoredSecret}
  {past : List FormHappened} {w : World PosDb Submission}

theorem kept_answered {pos pos' : PosDb}
    (answered : Answered pos.idempotencyRecords pos'.idempotencyRecords)
    (kept : ∃ record ∈ pos.idempotencyRecords,
      record.merchantId = merchantId ∧ record.key = key) :
    ∃ record ∈ pos'.idempotencyRecords, record.merchantId = merchantId ∧ record.key = key := by
  obtain ⟨record, mem, named⟩ := kept
  obtain ⟨row, there, _, _, rfl⟩ := (mem_answered answered).1 record mem
  exact ⟨_, there, named⟩

/-- At most one sale is ever opened for a request. -/
theorem opened_once (run : PageRun pages args deriveSecret past w) (identity : RequestIdentity) :
    past.Pairwise fun later earlier => ¬ (Opens identity later ∧ Opens identity earlier) := by
  refine run.at_most_once (J := PageSecure pages args) (RecordKept identity) _
    (fun w opens => opensPage_secure w opens) page_secure_step ?_ ?_
  · intro w event w' secure kept step
    rcases step.acted with ⟨same, _⟩ | ⟨slot, input, submission, rfl, here, fresh, rfl⟩
    · unfold RecordKept
      rw [same]
      exact kept
    · have aware := (secure.2 _ (World.proc_mem here)).1
      rcases counter_records secure.1 aware fresh with ⟨_, answered⟩ | ⟨own, sale, record, _, adds⟩
      · exact kept_answered answered kept
      · obtain ⟨record, mem, named⟩ := kept
        exact ⟨record, adds.records ▸ List.mem_append_left _ mem, named⟩
  · intro w event w' secure step opens
    obtain ⟨slot, input, submission, sale, ⟨rfl, here⟩, making, accepted, rfl⟩ := opens
    rcases step.acted with ⟨_, idle⟩ | ⟨_, _, _, ⟨⟩, there, fresh, rfl⟩
    · exact absurd rfl (idle slot input)
    · cases here.symm.trans there
      have aware := (secure.2 _ (World.proc_mem there)).1
      rcases counter_records secure.1 aware fresh with
        ⟨refused, _⟩ | ⟨own, sale', record, making', adds⟩
      · exact absurd accepted (refused sale making)
      · cases making.symm.trans making'
        constructor
        · rintro ⟨old, mem, merchant, key⟩
          exact find_none adds.unrecorded old mem
            ⟨merchant, key.trans (requestOf_key _).symm⟩
        · obtain ⟨_, _, _, recorded⟩ := adds.opened
          refine ⟨record, ?_, recorded.request⟩
          have records := adds.records
          exact records ▸ List.mem_append_right _ (List.mem_singleton_self _)

/-- At most one deposit is ever credited under a posting. -/
theorem posted_once (run : PageRun pages args deriveSecret past w) (postingId : PostingId) :
    past.Pairwise fun later earlier => ¬ (Posts postingId later ∧ Posts postingId earlier) := by
  refine run.at_most_once (J := PageSecure pages args)
    (fun w => Present (·.id) (postingId, 0) w.store.ledgerEntries) _
    (fun w opens => opensPage_secure w opens) page_secure_step ?_ ?_
  · intro w event w' secure there step
    rcases step.acted with ⟨same, _⟩ | ⟨slot, input, submission, rfl, here, fresh, rfl⟩
    · rw [same]
      exact there
    · have aware := (secure.2 _ (World.proc_mem here)).1
      obtain ⟨rows, grown⟩ := counter_ledger secure.1 aware fresh
      obtain ⟨entry, mem, id⟩ := there
      exact ⟨entry, grown ▸ List.mem_append_left _ mem, id⟩
  · intro w event w' secure step posts
    obtain ⟨slot, input, submission, deposit, ⟨rfl, here⟩, stands, rfl, posted⟩ := posts
    rcases step.acted with ⟨_, idle⟩ | ⟨_, _, _, ⟨⟩, there, fresh, rfl⟩
    · exact absurd rfl (idle slot input)
    · cases here.symm.trans there
      have store : (pageServer.advance input w.store submission).1 =
          { w.store with toDb := (deposit.step input.toInput w.store.toDb).1 } :=
        counter_store stands
      simp only [store] at posted ⊢
      exact deposit_posting posted

end Once

/-- A call that has a sale after a step had it before, or the step has opened it. -/
theorem sale_opened {sale sale' : CreateSale} {input : Input} {db db' : Db}
    (moved : sale.step input db = (db', sale'))
    (opened : (SalePoint.transaction sale'.point).isSome = true) :
    requestOf sale'.toSaleCall = requestOf sale.toSaleCall ∧
    (Accepted input db sale ∨ (SalePoint.transaction sale.point).isSome = true) := by
  obtain ⟨same, came⟩ := createSale_came moved
  refine ⟨congrArg requestOf same, ?_⟩
  cases point : sale'.point with
  | submitting reserved =>
    rw [point] at came
    obtain ⟨here, _⟩ := came
    rcases unit_cases input (openSale sale input) db with
      ⟨next, made, _, _, done⟩ | ⟨fault, refused⟩
    · exact .inl ⟨here, next, made, done⟩
    · simp only [CreateSale.step, here, refused] at moved
      cases moved
      obtain ⟨kind, reasonCode, rejected⟩ := refusal_rejects sale fault
      rw [CreateSale.at, rejected] at point
      cases point
  | awaiting processing =>
    rw [point] at came
    obtain ⟨reserved, here, _⟩ := came
    exact .inr (by simp [here, SalePoint.transaction])
  | applying processing submitted | releasing processing =>
    rw [point] at came
    exact .inr (by simp [came.1, SalePoint.transaction])
  | _ =>
    rw [point] at opened
    cases opened

/-- A transfer about to be settled has just been judged, and the policy lets it pass at once. -/
theorem transfer_passed {call call' : PostShopTransfer} {input : Input} {pos pos' : PosDb}
    (moved : call.step input pos = (pos', call')) (settling : Settling (.postShopTransfer call')) :
    passing pos (.postShopTransfer call) = true := by
  obtain ⟨deps, context, body, point⟩ := call
  cases point with
  | settling transfer =>
    simp only [PostShopTransfer.step] at moved
    cases went : transfer.step input pos.toDb with
    | mk db transfer' =>
      simp only [went] at moved
      split at moved
      · cases moved
        cases settling
      · cases moved
        cases settling
      · cases moved
        have settling : (transfer'.point matches .settling ..) = true := settling
        cases point : transfer.point with
        | deciding recipient status availableMinor =>
          simp only [SettleShopTransfer.step, point] at went
          cases decision : decisionOn pos.toDb transfer recipient status availableMinor with
          | refused refusal =>
            rw [decisionOn] at decision
            rw [decision] at went
            cases went
            cases settling
          | accepted approval feeMinor debitMinor creditMinor =>
            cases approval with
            | false => simp [passing, point, decision]
            | true =>
              rw [decisionOn] at decision
              rw [decision] at went
              cases recipient with
              | none =>
                cases went
                cases settling
              | some row =>
                cases went
                cases settling
        | refusing recipient refusal =>
          simp only [SettleShopTransfer.step, point] at went
          rcases unit_cases input (recordRefusal transfer recipient refusal input) pos.toDb with
            ⟨_, _, _, _, same⟩ | ⟨_, same⟩
          all_goals
            rw [same] at went
            cases went
            cases settling
        | queueing recipient feeMinor creditMinor =>
          simp only [SettleShopTransfer.step, point] at went
          rcases unit_cases input (queueTransfer transfer recipient feeMinor creditMinor input)
            pos.toDb with ⟨_, _, _, _, same⟩ | ⟨_, same⟩
          all_goals
            rw [same] at went
            cases went
            cases settling
        | settling recipient feeMinor creditMinor =>
          simp only [SettleShopTransfer.step, point] at went
          rcases unit_cases input (postSettlement transfer recipient feeMinor creditMinor input)
            pos.toDb with ⟨_, _, _, _, same⟩ | ⟨_, same⟩
          all_goals
            rw [same] at went
            cases went
            cases settling
        | _ =>
          simp only [SettleShopTransfer.step, point] at went
          repeat' split at went
          all_goals
            cases went
            simp_all [SettleShopTransfer.at]
  | _ =>
    simp only [PostShopTransfer.step] at moved
    repeat' split at moved
    all_goals
      cases moved
      cases settling

section Behind

variable {pages : Nat → Page} {args : CliArgs} {deriveSecret : String → String → StoredSecret}
  {past : List FormHappened} {w w' : World PosDb Submission} {slot : Nat} {input : PinInput}
  {submission : Submission}

/-- What a submission has behind it, it has with its next step as well. -/
theorem behind_step (secure : PageSecure pages args w) (here : w.proc slot = some submission)
    (behind : Behind past slot submission) :
    Behind (⟨w, .act slot input, w'⟩ :: past) slot (submission.step input w.store).2 := by
  have aware := (secure.2 _ (World.proc_mem here)).1
  have stepped : Stepped ⟨w, .act slot input, w'⟩ slot input submission := ⟨rfl, here⟩
  constructor
  · intro sale' making opened
    rcases sale_came aware making with begins | ⟨sale, before, rfl⟩
    · rw [begins] at opened
      cases opened
    · obtain ⟨same, accepted | had⟩ := sale_opened
        (rfl : sale.step input.toInput w.store.toDb = _) opened
      · exact ⟨_, List.mem_cons_self .., rfl, slot, input, submission, sale, stepped, before,
          accepted, same.symm⟩
      · obtain ⟨first, mem, rest⟩ := behind.sale sale before had
        exact ⟨first, List.mem_cons_of_mem _ mem, same.symm ▸ rest⟩
  · intro settling rendering mem
    obtain ⟨rendering', request⟩ := submission
    cases request with
    | postShopTransfer call =>
      have passed : passing w.store (.postShopTransfer call) = true :=
        transfer_passed (rfl : call.step input.toInput w.store = _) settling
      refine ⟨_, List.mem_cons_self .., rfl, ?_⟩
      have found : passedFrom ⟨w, .act slot input, w'⟩ =
          if passing w.store (.postShopTransfer call) then rendering' else none := ofActor_act here
      exact found.trans ((if_pos passed).trans mem)
    | _ => cases settling

theorem behind_start (serves : PageServes pages args deriveSecret submission) :
    Behind past slot submission := by
  obtain ⟨⟨starting, _⟩, _⟩ := serves
  obtain ⟨rendering, request⟩ := submission
  constructor
  · intro sale making opened
    obtain ⟨own, stands, running⟩ := saleOf_some making
    cases request with
    | pin request =>
      cases request with
      | pos request =>
        cases stands
        cases own with
        | service process =>
          cases running
          have begins : sale.point = .begin := starting
          rw [begins] at opened
          cases opened
        | postSale call =>
          obtain ⟨deps, context, origin, correlationId, point⟩ := call
          cases point with
          | selling => cases starting
          | _ => cases running
        | authorizeOrder call =>
          obtain ⟨deps, context, orderId, pin, correlationId, point⟩ := call
          cases point with
          | selling => cases starting
          | _ => cases running
        | _ => cases running
      | changePin call => cases stands
      | unlockWithPin call => cases stands
    | postDeposit call => cases (deposit_sells call).symm.trans making
    | postProfitTransfer call => cases (profit_sells call).symm.trans making
    | postShopTransfer call => cases (transfer_sells call).symm.trans making
  · intro settling
    cases request with
    | postShopTransfer call =>
      obtain ⟨deps, context, body, point⟩ := call
      cases point with
      | settling transfer => cases starting
      | _ => cases settling
    | _ => cases settling

theorem run_behind (run : PageRun pages args deriveSecret past w) :
    ∀ slot submission, w.proc slot = some submission → Behind past slot submission := by
  induction run with
  | start opens =>
    intro slot submission here
    simp [World.proc, opens.2.2] at here
  | @step past w event w' run step ih =>
    intro slot submission here
    cases step with
    | @start p _ serves =>
      rw [World.proc_start] at here
      split at here
      · cases here
        exact behind_start serves
      · exact (ih slot submission here).later _
    | @act p input store' p' _ acting there _ moved =>
      rw [World.proc_act there] at here
      split at here
      · rename_i same
        subst same
        cases here
        have secure := run.invariant opensPage_secure page_secure_step
        have after : (pageServer.advance input w.store p).2 = submission := congrArg Prod.snd moved
        subst after
        exact behind_step secure there (ih slot p there)
      · exact (ih slot submission here).later _
    | @crash _ dying =>
      rw [World.proc_crash] at here
      split at here
      · cases here
      · exact (ih slot submission here).later _

/-- The orders stored at a step of a run are stored ever after. -/
theorem orders_since (run : PageRun pages args deriveSecret past w) :
    ∀ taken ∈ past, ∀ old ∈ taken.before.store.pendingOrders,
      ∃ order ∈ w.store.pendingOrders, SameOrder old order := by
  have since := run.since (J := PageSecure pages args)
    (R := fun w w' => ∀ old ∈ w.store.pendingOrders, ∃ order ∈ w'.store.pendingOrders,
      SameOrder old order) ?_ ?_ opensPage_secure page_secure_step ?_
  · exact fun taken mem => (since taken mem).1
  · exact fun w old mem => ⟨old, mem, .refl old⟩
  · intro a b c first next old mem
    obtain ⟨order, there, same⟩ := first old mem
    obtain ⟨later, last, after⟩ := next order there
    exact ⟨later, last, same.trans after⟩
  · intro w event w' secure step
    rcases step.acted with ⟨same, _⟩ | ⟨slot, input, submission, rfl, here, fresh, rfl⟩
    · rw [same]
      exact fun old mem => ⟨old, mem, .refl old⟩
    · exact (counter_beside_step secure.1 (secure.2 _ (World.proc_mem here)).1 fresh).2

/-- What moves a balance is written to the ledger. -/
theorem Moves.posted {taken : FormHappened} (moves : Moves taken) :
    taken.after.store.ledgerEntries ≠ taken.before.store.ledgerEntries := by
  obtain ⟨merchantId, kind, moves⟩ := moves
  intro same
  apply moves
  unfold change netMinor
  rw [same, Int.sub_self]

/-- What is written to the ledger, the service a request runs has written. -/
theorem posted_running {request : CounterRequest} {pos : PosDb}
    (posted : (request.step input pos).1.ledgerEntries ≠ pos.ledgerEntries) :
    ∃ own process, CounterRequest.asPos request = some own ∧ own.process = some process ∧
      (request.step input pos).1.ledgerEntries =
        (process.step input.toInput pos.toDb).1.ledgerEntries := by
  cases stands : CounterRequest.asPos request with
  | none =>
    obtain ⟨shops, _⟩ := Prod.mk.inj (counter_idle input pos stands)
    exact absurd (congrArg Db.ledgerEntries shops) posted
  | some own =>
    rw [counter_store stands] at posted ⊢
    cases running : own.process with
    | none => exact absurd (congrArg Db.ledgerEntries (unserved input.toInput pos running)) posted
    | some process =>
      refine ⟨own, process, rfl, running, ?_⟩
      rw [process_served input.toInput pos running]

/-- A call of `createSale` writes to the ledger when it opens a sale, or after it has. -/
theorem sale_posted {sale : CreateSale} {input : Input} {db : Db}
    (posted : (sale.step input db).1.ledgerEntries ≠ db.ledgerEntries) :
    Accepted input db sale ∨ (SalePoint.transaction sale.point).isSome = true := by
  cases point : sale.point with
  | submitting | awaiting | applying | releasing => exact .inr rfl
  | reserving =>
    rcases unit_cases input (openSale sale input) db with
      ⟨next, made, _, _, done⟩ | ⟨fault, refused⟩
    · exact .inl ⟨point, next, made, done⟩
    · simp only [CreateSale.step, point, refused] at posted
      exact absurd rfl posted
  | _ =>
    refine absurd ?_ posted
    simp only [CreateSale.step, point]
    repeat' split
    all_goals rfl

/-- A submission that writes to the ledger for a sale has opened it. -/
theorem sale_marked (here : w.proc slot = some submission) (behind : Behind past slot submission)
    (making : saleOf submission.request = some sale)
    (posted : (sale.step input.toInput w.store.toDb).1.ledgerEntries ≠ w.store.ledgerEntries) :
    Has (⟨w, .act slot input, w'⟩ :: past) slot (Opens (requestOf sale.toSaleCall)) := by
  rcases sale_posted posted with accepted | had
  · exact ⟨_, List.mem_cons_self .., rfl, slot, input, submission, sale, ⟨rfl, here⟩, making,
      accepted, rfl⟩
  · exact (behind.sale sale making had).later _

/-- What the submissions of a page leave behind at most once for each piece of it. -/
def Mark (page : Page) (w : World PosDb Submission) (piece : Piece) : FormHappened → Prop :=
  match page with
  | .sell context clientRequestId =>
    Opens ⟨context.merchantId, context.deviceId, clientRequestId⟩
  | .authorize _ orderId => fun taken =>
    ∃ order ∈ w.store.pendingOrders, order.id = orderId ∧
      Opens (voucherRequest order piece.item) taken
  | .deposit _ clientRequestId => Posts ("posting_deposit_" ++ clientRequestId)
  | .profit _ => Passes piece.rendering
  | .transfer _ => Passes piece.rendering

theorem passes_once (once : PassedOnce past) (rendering : Nat) :
    past.Pairwise fun later earlier => ¬ (Passes rendering later ∧ Passes rendering earlier) :=
  once.imp fun apart both => apart rendering both.1 both.2

theorem marked_once (run : PageRun pages args deriveSecret past w) (once : PassedOnce past)
    (page : Page) (piece : Piece) : past.Pairwise fun later earlier =>
      ¬ (Mark page w piece later ∧ Mark page w piece earlier) := by
  cases page with
  | sell context clientRequestId => exact opened_once run _
  | deposit context clientRequestId => exact posted_once run _
  | profit context | transfer context => exact passes_once once piece.rendering
  | authorize context orderId =>
    have unique := (run.invariant opensPage_secure page_secure_step).1.ids
    by_cases stored : ∃ order ∈ w.store.pendingOrders, order.id = orderId
    · obtain ⟨order, mem, id⟩ := stored
      refine (opened_once run (voucherRequest order piece.item)).imp fun apart both => ?_
      obtain ⟨⟨first, there, same, opens⟩, ⟨next, there', same', opens'⟩⟩ := both
      cases unique.eq there mem (same.trans id.symm)
      cases unique.eq there' mem (same'.trans id.symm)
      exact apart ⟨opens, opens'⟩
    · refine List.pairwise_of_forall fun later earlier both => ?_
      obtain ⟨⟨order, mem, id, _⟩, _⟩ := both
      exact stored ⟨order, mem, id⟩

/-- The request of a sale that passes validation is that of its session and its body. -/
theorem validated_request
    (valid : validateBody context correlationId body = .ok request) :
    request.merchantId = context.merchantId ∧ request.deviceId = context.deviceId ∧
    body.clientRequestId = some request.clientRequestId := by
  simp only [validateBody, bind_ok] at valid
  obtain ⟨productId, _, recipient, _, clientRequestId, given, amountMinor, _, valid⟩ := valid
  split at valid
  · cases valid
    exact ⟨rfl, rfl, requiredText_ok given⟩
  · cases valid

theorem postSale_marked {call : PostSale} {page : Page} (secure : PageSecure pages args w)
    (here : w.proc slot = some ⟨rendering, .pin (.pos (.postSale call))⟩)
    (behind : Behind past slot ⟨rendering, .pin (.pos (.postSale call))⟩)
    (submitted : CounterRequest.page (.pin (.pos (.postSale call))) = some page)
    (running : PosRequest.process (.postSale call) = some process)
    (posted : (process.step input.toInput w.store.toDb).1.ledgerEntries ≠ w.store.ledgerEntries)
    (piece : Piece) : Has (⟨w, .act slot input, w'⟩ :: past) slot (Mark page final piece) := by
  have aware := (secure.2 _ (World.proc_mem here)).1 _ rfl
  obtain ⟨deps, context, origin, correlationId, point⟩ := call
  cases point with
  | selling sale =>
    cases running
    obtain ⟨_, valid, _⟩ := aware
    obtain ⟨merchant, device, id⟩ := validated_request valid
    cases origin with
    | api body => cases submitted
    | screen form =>
      have given : form.clientRequestId = some sale.request.clientRequestId := id
      simp only [CounterRequest.page, given, Option.map_some, Option.some.injEq] at submitted
      subst submitted
      have marked : Has (⟨w, .act slot input, w'⟩ :: past) slot _ :=
        sale_marked here behind (saleOf_running rfl rfl) posted
      simp only [requestOf, merchant, device] at marked
      exact marked
  | _ => cases running

theorem authorizeOrder_marked {call : AuthorizeOrder} {page : Page}
    (secure : PageSecure pages args w)
    (stored : ∀ old ∈ w.store.pendingOrders,
      ∃ order ∈ final.store.pendingOrders, SameOrder old order)
    (here : w.proc slot = some ⟨rendering, .pin (.pos (.authorizeOrder call))⟩)
    (behind : Behind past slot ⟨rendering, .pin (.pos (.authorizeOrder call))⟩)
    (submitted : CounterRequest.page (.pin (.pos (.authorizeOrder call))) = some page)
    (running : PosRequest.process (.authorizeOrder call) = some process)
    (posted : (process.step input.toInput w.store.toDb).1.ledgerEntries ≠
      w.store.ledgerEntries)
    (from_ : piece.item = itemOf (.pin (.pos (.authorizeOrder call)))) :
    Has (⟨w, .act slot input, w'⟩ :: past) slot (Mark page final piece) := by
  have aware := (secure.2 _ (World.proc_mem here)).1 _ rfl
  obtain ⟨deps, context, orderId, pin, correlationId, point⟩ := call
  cases point with
  | selling order results sale =>
    cases running
    cases submitted
    obtain ⟨_, ⟨id, old, mem, same⟩, _, ⟨amount, _, carries⟩, _⟩ := aware
    obtain ⟨later, there, after⟩ := stored old mem
    obtain ⟨status, transactionId, rfl⟩ := same.trans after
    have marked : Has (⟨w, .act slot input, w'⟩ :: past) slot _ :=
      sale_marked here behind (saleOf_running rfl rfl) posted
    obtain ⟨first, earlier, by_, opens⟩ := marked
    refine ⟨first, earlier, by_, _, there, id, ?_⟩
    rw [carries] at opens
    rw [from_]
    exact opens
  | _ => cases running

/-- A profit transfer that posts was covered. -/
theorem profit_passing {transfer : TransferProfit} {input : Input} {db : Db}
    (posted : (transfer.step input db).1.ledgerEntries ≠ db.ledgerEntries) :
    transfer.point = .begin ∧ 100 ≤ transfer.amountMinor ∧ transfer.amountMinor % 100 = 0 ∧
      transfer.amountMinor ≤ profitAvailableMinor db transfer.merchantId := by
  cases point : transfer.point with
  | begin =>
    simp only [TransferProfit.step, point] at posted
    split at posted
    · exact absurd rfl posted
    · split at posted
      · exact absurd rfl posted
      · split at posted
        · exact absurd rfl posted
        · rename_i least
          split at posted
          · exact absurd rfl posted
          · rename_i whole
            refine ⟨rfl, by omega, by omega, ?_⟩
            rcases unit_cases input (moveProfit transfer input) db with
              ⟨next, answer, _, done, same⟩ | ⟨fault, same⟩
            · by_cases short : profitAvailableMinor db transfer.merchantId < transfer.amountMinor
              · simp only [moveProfit, if_pos short, pure_ok, Prod.mk.injEq] at done
                obtain ⟨rfl, rfl⟩ := done
                rw [same] at posted
                exact absurd rfl posted
              · omega
            · rw [same] at posted
              exact absurd rfl posted
  | _ =>
    simp only [TransferProfit.step, point] at posted
    exact absurd rfl posted

/-- A shop transfer that posts was being settled. -/
theorem transfer_settling {transfer : SettleShopTransfer} {input : Input} {db : Db}
    (posted : (transfer.step input db).1.ledgerEntries ≠ db.ledgerEntries) :
    (transfer.point matches .settling ..) = true := by
  cases point : transfer.point with
  | settling recipient feeMinor creditMinor => rfl
  | refusing recipient refusal =>
    refine absurd ?_ posted
    simp only [SettleShopTransfer.step, point]
    rcases unit_cases input (recordRefusal transfer recipient refusal input) db with
      ⟨next, answer, _, done, same⟩ | ⟨fault, same⟩
    · rw [same]
      simp only [recordRefusal, bind_ok, pure_ok, Prod.mk.injEq] at done
      obtain ⟨_, saved, rfl, _⟩ := done
      obtain ⟨_, _, _, rfl⟩ := saveShopTransfer_ok saved
      rfl
    · rw [same]
      rfl
  | queueing recipient feeMinor creditMinor =>
    refine absurd ?_ posted
    simp only [SettleShopTransfer.step, point]
    rcases unit_cases input (queueTransfer transfer recipient feeMinor creditMinor input) db with
      ⟨next, answer, _, done, same⟩ | ⟨fault, same⟩
    · rw [same]
      simp only [queueTransfer, bind_ok, pure_ok, Prod.mk.injEq] at done
      obtain ⟨_, saved, rfl, _⟩ := done
      obtain ⟨_, _, _, rfl⟩ := saveShopTransfer_ok saved
      rfl
    · rw [same]
      rfl
  | _ =>
    refine absurd ?_ posted
    simp only [SettleShopTransfer.step, point]
    repeat' split
    all_goals rfl

/-- A submission that writes to the ledger has left the mark of its page. -/
theorem submission_marked {page : Page} (secure : PageSecure pages args w)
    (stored : ∀ old ∈ w.store.pendingOrders,
      ∃ order ∈ final.store.pendingOrders, SameOrder old order)
    (here : w.proc slot = some submission) (behind : Behind past slot submission)
    (submitted : submission.request.page = some page)
    (posted : (submission.request.step input w.store).1.ledgerEntries ≠ w.store.ledgerEntries)
    (after : w'.store = (submission.request.step input w.store).1)
    (from_ : pieceOf submission = some piece) :
    Has (⟨w, .act slot input, w'⟩ :: past) slot (Mark page final piece) := by
  obtain ⟨own, process, stands, running, same⟩ := posted_running posted
  obtain ⟨rendering, request⟩ := submission
  obtain ⟨rendering, from_rendering, rfl⟩ := Option.map_eq_some_iff.mp from_
  cases from_rendering
  cases request with
  | pin request =>
    cases request with
    | pos request =>
      cases stands
      rw [same] at posted
      cases own with
      | postSale call => exact postSale_marked secure here behind submitted running posted _
      | authorizeOrder call =>
        exact authorizeOrder_marked secure stored here behind submitted running posted rfl
      | _ => cases submitted
    | changePin call => cases submitted
    | unlockWithPin call => cases submitted
  | postDeposit call =>
    have titled := (secure.2 _ (World.proc_mem here)).2.1
    obtain ⟨deps, context, body, point⟩ := call
    cases point with
    | funding deposit =>
      cases stands
      cases running
      cases submitted
      refine ⟨_, List.mem_cons_self .., rfl, slot, input, _, deposit, ⟨rfl, here⟩, rfl, titled, ?_⟩
      simp only [after]
      exact posted
    | _ => cases stands
  | postProfitTransfer call =>
    obtain ⟨deps, context, amountMinor, correlationId, point⟩ := call
    cases point with
    | transferring transfer =>
      cases stands
      cases running
      cases submitted
      rw [same] at posted
      have covered := profit_passing posted
      have passed : passing w.store (.postProfitTransfer
          ⟨deps, context, amountMinor, correlationId, .transferring transfer⟩) = true :=
        decide_eq_true covered
      have found : passedFrom ⟨w, .act slot input, w'⟩ = if passing w.store (.postProfitTransfer
          ⟨deps, context, amountMinor, correlationId, .transferring transfer⟩) then
            some rendering else none := ofActor_act here
      exact ⟨_, List.mem_cons_self .., rfl, found.trans (if_pos passed)⟩
    | _ => cases stands
  | postShopTransfer call =>
    obtain ⟨deps, context, body, point⟩ := call
    cases point with
    | settling transfer =>
      cases stands
      cases running
      cases submitted
      rw [same] at posted
      have settling := transfer_settling posted
      exact (behind.transfer settling rendering rfl).later _
    | _ => cases stands

/-- Whoever moves a balance for a piece has left its mark. -/
theorem run_marked (run : PageRun pages args deriveSecret past w) (mem : taken ∈ past)
    (ofPiece : OfPiece piece taken) (moves : Moves taken) :
    ∃ slot, TakenBy slot taken ∧ Has past slot (Mark (pages piece.rendering) w piece) := by
  have stored := orders_since run taken mem
  obtain ⟨newer, older, rfl⟩ := List.append_of_mem mem
  obtain ⟨before, step⟩ := run.earlier
  have secure := before.invariant opensPage_secure page_secure_step
  have posted := moves.posted
  obtain ⟨w₀, event, w'⟩ := taken
  rcases step.acted with ⟨_, idle⟩ | ⟨slot, input, submission, rfl, here, fresh, same⟩
  · rw [OfPiece, ofActor_idle idle] at ofPiece
    cases ofPiece
  · rw [OfPiece, ofActor_act here] at ofPiece
    have after : w'.store = (submission.request.step input w₀.store).1 :=
      congrArg World.store same
    have submits := (secure.2 _ (World.proc_mem here)).2.2 piece.rendering (by
      obtain ⟨rendering, given, rfl⟩ := Option.map_eq_some_iff.mp ofPiece
      exact given)
    simp only [after] at posted
    obtain ⟨mark, earlier, by_, marks⟩ :=
      submission_marked secure stored here (run_behind before slot submission here) submits posted
        after ofPiece
    exact ⟨slot, rfl, mark, List.mem_append_right _ earlier, by_, marks⟩

theorem TakenBy.same (first : TakenBy a taken) (next : TakenBy b taken) : a = b := by
  obtain ⟨before, event, after⟩ := taken
  cases event with
  | act slot input => exact first.symm.trans next
  | start _ | crash _ => cases first

/-- One submission has moved all that was moved for a piece. -/
theorem one_slot (run : PageRun pages args deriveSecret past w) (once : PassedOnce past)
    (piece : Piece) :
    ∃ slot, ∀ taken ∈ past, OfPiece piece taken → Moves taken → TakenBy slot taken := by
  have apart := marked_once run once (pages piece.rendering) piece
  by_cases moved : ∃ taken ∈ past, OfPiece piece taken ∧ Moves taken
  · obtain ⟨first, mem, ofPiece, moves⟩ := moved
    obtain ⟨slot, _, mark, there, by_, marks⟩ := run_marked run mem ofPiece moves
    refine ⟨slot, fun taken mem ofPiece moves => ?_⟩
    obtain ⟨slot', taken', mark', there', by_', marks'⟩ := run_marked run mem ofPiece moves
    have same : mark' = mark := taken_once apart there' there marks' marks
    rw [same] at by_'
    exact by_'.same by_ ▸ taken'
  · exact ⟨0, fun taken mem ofPiece moves => absurd ⟨taken, mem, ofPiece, moves⟩ moved⟩

/-- Every balance is what the steps of a run have made of it. -/
theorem run_balances (run : PageRun pages args deriveSecret past w) (merchantId : MerchantId)
    (kind : LedgerAccountKind) :
    netMinor w.store.toDb merchantId [kind] = total (change merchantId kind) past := by
  induction run with
  | start opens =>
    unfold netMinor
    rw [opens.1.ledgerEntries]
    rfl
  | @step past w event w' run step ih =>
    simp only [total, List.map_cons, List.sum_cons, change] at ih ⊢
    omega

/-- What did not move a balance is not missed in the sum. -/
theorem total_filter {past : List FormHappened} {Left : FormHappened → Prop} [DecidablePred Left]
    (merchantId : MerchantId) (kind : LedgerAccountKind)
    (still : ∀ taken ∈ past, Left taken → ¬ Moves taken) :
    total (change merchantId kind) past =
      total (change merchantId kind) (past.filter fun taken => ¬ Left taken) := by
  induction past with
  | nil => rfl
  | cons taken past ih =>
    have ih := ih fun other mem => still other (List.mem_cons_of_mem _ mem)
    by_cases left : Left taken
    · have nothing : change merchantId kind taken = 0 := by
        by_contra moved
        exact still taken (List.mem_cons_self ..) left ⟨merchantId, kind, moved⟩
      simp only [total, List.map_cons, List.sum_cons, nothing] at ih ⊢
      rw [List.filter_cons_of_neg (by simp [left])]
      omega
    · rw [List.filter_cons_of_pos (by simp [left])]
      simp only [total, List.map_cons, List.sum_cons] at ih ⊢
      omega

/-- In every run in which no rendering of the profit or the transfer form is found covered twice,
everything submitted is as good as submitted once. -/
theorem submitted_once (run : PageRun pages args deriveSecret past w) (once : PassedOnce past) :
    AsOnce past w := by
  intro piece
  obtain ⟨slot, only⟩ := one_slot run once piece
  have still : ∀ taken ∈ past, Repeated piece slot taken → ¬ Moves taken :=
    fun taken mem repeated moves => repeated.2 (only taken mem repeated.1 moves)
  refine ⟨slot, still, fun merchantId kind => ?_⟩
  rw [run_balances run merchantId kind]
  exact total_filter merchantId kind still

end Behind

/-- Submissions that have come in, and the steps they take: whose it is, under what tag, at what
time. -/
def formEvents (submissions : List Submission) (acts : List (Nat × String × Timestamp)) :
    List (Event PinInput Submission) :=
  submissions.map .start ++ acts.map fun act => .act act.1 (attended act.2.1 act.2.2)

def formPlayed (events : List (Event PinInput Submission)) :
    List FormHappened × World PosDb Submission :=
  played (World.next pageServer) events [] ⟨counter, []⟩

theorem formPlayed_run {pages : Nat → Page} {submissions : List Submission}
    {acts : List (Nat × String × Timestamp)}
    (serves : ∀ submission ∈ submissions, PageServes pages training plainSecret submission)
    (playable : Playable (World.May (fun _ _ => True) PageFresh) (World.next pageServer)
      (formEvents submissions acts) ⟨counter, []⟩) :
    PageRun pages training plainSecret (formPlayed (formEvents submissions acts)).1
      (formPlayed (formEvents submissions acts)).2 := by
  have opening : PageRun pages training plainSecret [] ⟨counter, []⟩ :=
    .start ⟨twoShops_blank, rfl, rfl⟩
  refine opening.play Pool.next (playable_admits ?_ playable)
  intro submission mem
  rcases List.mem_append.mp mem with mem | mem
  · obtain ⟨_, there, same⟩ := List.mem_map.mp mem
    cases same
    exact fun _ => serves submission there
  · obtain ⟨_, _, same⟩ := List.mem_map.mp mem
    cases same

/-- A hundred birr deposited, and the form for ten of them pressed twice. -/
def pressedTwice : List (Event PinInput Submission) :=
  formEvents [⟨none, crediting "deposit"⟩, ⟨some 0, sendingOn "1234"⟩, ⟨some 0, sendingOn "1234"⟩]
    (List.replicate 5 (0, "deposit", 0) ++ List.replicate 7 (1, "first", 1000) ++
      List.replicate 7 (2, "second", 2000))

theorem pressedTwice_run : PageRun (fun _ => .transfer cashier) training plainSecret
    (formPlayed pressedTwice).1 (formPlayed pressedTwice).2 := by
  refine formPlayed_run (fun submission mem => ?_) (by decide +kernel)
  simp only [List.mem_cons, List.not_mem_nil, or_false] at mem
  rcases mem with rfl | rfl | rfl
  · exact ⟨⟨rfl, rfl, by rintro _ ⟨⟩⟩, by rintro _ ⟨⟩⟩
  · exact ⟨⟨rfl, rfl, by rintro _ ⟨⟩⟩, by rintro _ ⟨⟩; rfl⟩
  · exact ⟨⟨rfl, rfl, by rintro _ ⟨⟩⟩, by rintro _ ⟨⟩; rfl⟩

/-- Both presses send ten birr. -/
theorem pressed_moves_twice : ¬ ∀ pages args deriveSecret past w,
    PageRun pages args deriveSecret past w → AsOnce past w := by
  intro always
  have first : ∃ taken ∈ (formPlayed pressedTwice).1, OfPiece ⟨0, 0⟩ taken ∧ TakenBy 1 taken ∧
      change "stall" .merchantAvailable taken ≠ 0 := by
    decide +kernel
  have second : ∃ taken ∈ (formPlayed pressedTwice).1, OfPiece ⟨0, 0⟩ taken ∧ TakenBy 2 taken ∧
      change "stall" .merchantAvailable taken ≠ 0 := by
    decide +kernel
  obtain ⟨slot, once⟩ := always _ _ _ _ _ pressedTwice_run ⟨0, 0⟩
  by_cases other : slot = 1
  · obtain ⟨taken, mem, ofPiece, by_, moved⟩ := second
    refine once.still taken mem ⟨ofPiece, fun same => ?_⟩ ⟨_, _, moved⟩
    cases other.symm.trans (same.same by_)
  · obtain ⟨taken, mem, ofPiece, by_, moved⟩ := first
    exact once.still taken mem ⟨ofPiece, fun same => other (same.same by_)⟩ ⟨_, _, moved⟩

/-- A deposit form, a sell form and a transfer form. -/
def threePages : Nat → Page
  | 0 => .deposit cashier "deposit"
  | 1 => .sell cashier "sale"
  | _ => .transfer cashier

/-- A deposit pressed twice, two presses of a sale going through at once, and one transfer. -/
def pressedSafely : List (Event PinInput Submission) :=
  formEvents
    [⟨some 0, crediting "deposit"⟩, ⟨some 0, crediting "deposit"⟩,
     ⟨some 1, .pin (.pos (tillSale "sale"))⟩, ⟨some 1, .pin (.pos (tillSale "sale"))⟩,
     ⟨some 2, sendingOn "1234"⟩]
    (List.replicate 5 (0, "first", 0) ++ List.replicate 5 (1, "again", 0) ++
      ["a", "b", "c", "d", "e", "f", "g", "h", "i", "j", "k", "l"].flatMap
        (fun tag => [(2, tag ++ "first", 1000), (3, tag ++ "again", 1000)]) ++
      List.replicate 7 (4, "transfer", 2000))

theorem pressedSafely_run : PageRun threePages training plainSecret
    (formPlayed pressedSafely).1 (formPlayed pressedSafely).2 := by
  refine formPlayed_run (fun submission mem => ?_) (by decide +kernel)
  simp only [List.mem_cons, List.not_mem_nil, or_false] at mem
  rcases mem with rfl | rfl | rfl | rfl | rfl
  all_goals exact ⟨⟨rfl, rfl, by rintro _ ⟨⟩⟩, by rintro _ ⟨⟩; rfl⟩

/-- Forms that are told apart by what they hold move their value once, however often they are
pressed. -/
theorem pressedSafely_once : AsOnce (formPlayed pressedSafely).1 (formPlayed pressedSafely).2 :=
  submitted_once pressedSafely_run (by decide +kernel)

end Telga.Proofs.FormSubmissions
