import Telga.Library.Run
import Telga.Persistence.Operations

namespace Telga.Proofs.Balances
open Domain Persistence Library

/-- A stored entry as the domain reads it. -/
def toLedgerEntry (row : LedgerEntryRow) : LedgerEntry :=
  { accountId := row.accountId, accountKind := row.accountType, merchantId := row.merchantId,
    transactionId := row.transactionId, direction := row.direction, amount := row.amount,
    reason := row.entryType, ruleVersion := row.ruleVersion, id := row.id,
    postingId := row.postingId, postedAt := row.createdAt }

/-- A stored reservation as the domain reads it. -/
def toReservation (row : ReservationRow) : BalanceReservation :=
  { id := row.id, merchantId := row.merchantId, transactionId := row.transactionId,
    amount := row.amount, state := row.status, createdAt := row.createdAt,
    updatedAt := row.updatedAt }

/-- One of the ten operations with what it is given. -/
inductive Operation
  | fundMerchant (input : MovementInput)
  | reserve (context : OperationContext) (reservationId : Option ReservationId)
  | release (context : OperationContext)
  | finalizeSuccess (context : OperationContext) (profitMinor profitBps : Int)
  | moveToUnderReview (context : OperationContext)
  | releaseFromUnderReview (context : OperationContext)
  | transferProfitToBalance (input : MovementInput)
  | postReversalAdjustment (input : MovementInput)
  | postShopTransfer (input : ShopTransferInput)
  | chargeSoftwareFee (input : ChargeInput)

def Operation.unit : Operation → Db → Except Fault Db
  | .fundMerchant input, db => Persistence.fundMerchant db input
  | .reserve context reservationId, db => Persistence.reserve db context reservationId
  | .release context, db => Persistence.release db context
  | .finalizeSuccess context profitMinor profitBps, db =>
    Persistence.finalizeSuccess db context profitMinor profitBps
  | .moveToUnderReview context, db => Persistence.moveToUnderReview db context
  | .releaseFromUnderReview context, db => Persistence.releaseFromUnderReview db context
  | .transferProfitToBalance input, db => Persistence.transferProfitToBalance db input
  | .postReversalAdjustment input, db => Persistence.postReversalAdjustment db input
  | .postShopTransfer input, db => Persistence.postShopTransfer db input
  | .chargeSoftwareFee input, db => (·.1) <$> Persistence.chargeSoftwareFee db input

/-- The sale an operation works on, when it works on one. -/
def Operation.context : Operation → Option OperationContext
  | .reserve context _ => some context
  | .release context => some context
  | .finalizeSuccess context _ _ => some context
  | .moveToUnderReview context => some context
  | .releaseFromUnderReview context => some context
  | _ => none

/-- The operations on a transaction are given the merchant and amount it was reserved with. -/
def Given (db : Db) (operation : Operation) : Prop :=
  ∀ context ∈ operation.context, ∀ row ∈ db.balanceReservations,
    row.transactionId = context.transactionId →
    row.merchantId = context.merchantId ∧ row.amount = context.amount

/-- What an operation leaves as one unit of work. -/
def perform (db : Db) (operation : Operation) : Db :=
  (commit (fun db => (·, ()) <$> operation.unit db) db).1

inductive Event
  | operation (operation : Operation)
  | elsewhere

/-- An operation as one unit of work, or anything that writes to neither the ledger nor the
reservations. -/
inductive Step : Db → Event → Db → Prop
  | operation : Given db operation → Step db (.operation operation) (perform db operation)
  | elsewhere : db'.ledgerEntries = db.ledgerEntries →
      db'.balanceReservations = db.balanceReservations → Step db .elsewhere db'

/-- A database in which nothing has been posted and nothing reserved. -/
def Empty (db : Db) : Prop :=
  db.ledgerEntries = [] ∧ db.balanceReservations = []

/-- The two representations agree for every merchant. -/
def Agreement (db : Db) : Prop :=
  ∀ merchantId,
    netMinor db merchantId [.merchantReserved] =
      reservedIn merchantId .held (db.balanceReservations.map toReservation) ∧
    netMinor db merchantId [.merchantUnderReview] =
      reservedIn merchantId .underReview (db.balanceReservations.map toReservation) ∧
    balanceFor db merchantId =
      computeBalance merchantId (db.ledgerEntries.map toLedgerEntry)
        (db.balanceReservations.map toReservation)

/-- A reserve finds no reservation under its id, or one that has ended and is for the same
merchant and amount. -/
def FreshHold (db : Db) (context : OperationContext) (reservationId : Option ReservationId) :
    Prop :=
  ∀ row ∈ db.balanceReservations, row.id = (holdFor context reservationId).id →
    (row.status = .released ∨ row.status = .settled) ∧
    row.merchantId = context.merchantId ∧ row.amount = context.amount

/-- Every reserve that was not refused found a fresh reservation id. -/
def ReservesFresh (taken : Taken Db Event) : Prop :=
  ∀ context reservationId, taken.event = .operation (.reserve context reservationId) →
    ∀ db', reserve taken.before context reservationId = .ok db' →
      FreshHold taken.before context reservationId

/-- What the table's keys and checks guarantee about reservations. -/
structure Kept (db : Db) : Prop where
  ids : Unique (·.id) db.balanceReservations
  transactions : Unique (·.transactionId) db.balanceReservations
  positive : ∀ row ∈ db.balanceReservations, 0 < row.amount.minor

/-- What a row adds to its merchant's reservations in one status. -/
def weight (merchantId : MerchantId) (status : ReservationState) (row : ReservationRow) : Int :=
  if row.merchantId = merchantId ∧ row.status = status then row.amount.minor else 0

def heldTotal (db : Db) (merchantId : MerchantId) (status : ReservationState) : Int :=
  total (weight merchantId status) db.balanceReservations

/-- The buckets hold what the reservations say. -/
def Lockstep (db : Db) : Prop :=
  ∀ merchantId,
    netMinor db merchantId [.merchantReserved] = heldTotal db merchantId .held ∧
    netMinor db merchantId [.merchantUnderReview] = heldTotal db merchantId .underReview

theorem reservedIn_eq (merchantId : MerchantId) (status : ReservationState) (db : Db) :
    reservedIn merchantId status (db.balanceReservations.map toReservation) =
      heldTotal db merchantId status := by
  unfold reservedIn heldTotal
  induction db.balanceReservations with
  | nil => rfl
  | cons row rest ih =>
    rw [List.map_cons, List.filter_cons, total_cons, ← ih]
    by_cases counts : row.merchantId = merchantId ∧ row.status = status
    · simp [weight, toReservation, counts]
    · have absent : decide ((toReservation row).merchantId = merchantId ∧
          (toReservation row).state = status) = false := decide_eq_false counts
      simp only [absent, weight, counts]
      simp

theorem heldTotal_nonneg (kept : Kept db) : 0 ≤ heldTotal db merchantId status := by
  refine total_nonneg fun row mem => ?_
  unfold weight
  split
  · have positive := kept.positive row mem
    omega
  · omega

theorem settledBalance_eq (merchantId : MerchantId) (db : Db) :
    settledBalance merchantId (db.ledgerEntries.map toLedgerEntry) =
      money (netMinor db merchantId [.merchantAvailable, .merchantFunds] +
        netMinor db merchantId [.merchantReserved] +
        netMinor db merchantId [.merchantUnderReview]) := by
  unfold settledBalance netMinor
  congr 1
  induction db.ledgerEntries with
  | nil => rfl
  | cons row rest ih =>
    simp only [List.map_cons, List.filter_cons] at ih ⊢
    by_cases mine : row.merchantId = some merchantId
    · cases kind : row.accountType <;>
        simp [toLedgerEntry, mine, kind, isMerchantAccountKind, merchantAccountKinds, rowMinor,
          signedMinor] at ih ⊢ <;> omega
    · simpa [toLedgerEntry, mine] using ih

/-- Taking what is held out of the total leaves the available net, and neither reading refuses
an amount the other accepts, because nothing held is negative. -/
theorem views_agree {available reserved underReview : Int} (hr : 0 ≤ reserved)
    (hu : 0 ≤ underReview) :
    (do
      let a ← money available
      let r ← money reserved
      let u ← money underReview
      let t ← money (available + reserved + underReview)
      return { available := a, reserved := r, underReview := u, total := t } :
        Except Fault BalanceView) =
    (do
      let t ← money (available + reserved + underReview)
      let r ← money reserved
      let u ← money underReview
      let rest ← subtract t r
      let a ← subtract rest u
      return { available := a, reserved := r, underReview := u, total := t }) := by
  have left : available + reserved + underReview - reserved - underReview = available := by omega
  have middle : SafeInteger available → SafeInteger (available + reserved + underReview) →
      SafeInteger (available + reserved + underReview - reserved) := by
    unfold SafeInteger
    omega
  by_cases sa : SafeInteger available
  · by_cases st : SafeInteger (available + reserved + underReview)
    · by_cases sr : SafeInteger reserved
      · by_cases su : SafeInteger underReview
        · simp [money_of_safe, sa, st, sr, su, middle sa st, subtract, bind, Except.bind, left]
        · simp [money_of_safe, money_refused, sa, st, sr, su, bind, Except.bind]
      · simp [money_of_safe, money_refused, sa, st, sr, bind, Except.bind]
    · by_cases sr : SafeInteger reserved
      · by_cases su : SafeInteger underReview
        · simp [money_of_safe, money_refused, sa, st, sr, su, bind, Except.bind]
        · simp [money_of_safe, money_refused, sa, st, sr, su, bind, Except.bind]
      · simp [money_of_safe, money_refused, sa, st, sr, bind, Except.bind]
  · by_cases st : SafeInteger (available + reserved + underReview)
    · by_cases sr : SafeInteger reserved
      · by_cases su : SafeInteger underReview
        · by_cases sm : SafeInteger (available + reserved + underReview - reserved)
          · simp [money_of_safe, money_refused, sa, st, sr, su, sm, subtract, bind,
              Except.bind, left]
          · simp [money_of_safe, money_refused, sa, st, sr, su, sm, subtract, bind,
              Except.bind]
        · simp [money_of_safe, money_refused, sa, st, sr, su, bind, Except.bind]
      · simp [money_of_safe, money_refused, sa, st, sr, bind, Except.bind]
    · simp [money_refused, sa, st, bind, Except.bind]

/-- In lockstep the two balances are the same reading. -/
theorem agreement_iff_lockstep (kept : Kept db) : Agreement db ↔ Lockstep db := by
  constructor
  · intro agrees merchantId
    obtain ⟨held, review, _⟩ := agrees merchantId
    rw [reservedIn_eq] at held review
    exact ⟨held, review⟩
  · intro lock merchantId
    obtain ⟨held, review⟩ := lock merchantId
    refine ⟨by rw [reservedIn_eq, held], by rw [reservedIn_eq, review], ?_⟩
    unfold balanceFor computeBalance
    rw [reservedIn_eq, reservedIn_eq, ← held, ← review, settledBalance_eq]
    refine views_agree ?_ ?_
    · rw [held]
      exact heldTotal_nonneg kept
    · rw [review]
      exact heldTotal_nonneg kept

/-- How an operation may leave the reservations: as they were, with statuses rewritten, or with
one new row. -/
def Touched (old new : List ReservationRow) : Prop :=
  new = old ∨
  (∃ hit status now, new = update hit (setStatus status now) old) ∨
  (∃ row, ¬ Present (·.id) row.id old ∧ ¬ Present (·.transactionId) row.transactionId old ∧
    0 < row.amount.minor ∧ new = old ++ [row])

theorem kept_of_touched (kept : Kept db)
    (touched : Touched db.balanceReservations db'.balanceReservations) : Kept db' := by
  rcases touched with same | ⟨hit, status, now, same⟩ | ⟨row, fresh, apart, positive, same⟩
  · exact ⟨same ▸ kept.ids, same ▸ kept.transactions, same ▸ kept.positive⟩
  · refine ⟨same ▸ kept.ids.update fun _ => rfl, same ▸ kept.transactions.update fun _ => rfl, ?_⟩
    intro row mem
    rw [same] at mem
    obtain ⟨old, found, rfl⟩ := mem_update.mp mem
    have positive := kept.positive old found
    split <;> exact positive
  · refine ⟨?_, ?_, ?_⟩
    · rw [same]
      exact kept.ids.append fun old mem eq => fresh ⟨old, mem, eq⟩
    · rw [same]
      exact kept.transactions.append fun old mem eq => apart ⟨old, mem, eq⟩
    · intro r mem
      rw [same] at mem
      rcases List.mem_append.mp mem with mem | mem
      · exact kept.positive r mem
      · rw [List.mem_singleton.mp mem]
        exact positive

theorem moveValue_touched
    (h : moveValue origin target entries action entityType db context = .ok db') :
    Touched db.balanceReservations db'.balanceReservations := by
  obtain ⟨_, _, _, _, _, _, _, _, _, rfl⟩ := moveValue_ok h
  exact .inr (.inl ⟨_, _, _, rfl⟩)

theorem postMovement_touched (h : postMovement db input entries = .ok db') :
    Touched db.balanceReservations db'.balanceReservations := by
  obtain ⟨_, _, _, _, _, rfl⟩ := postMovement_ok h
  exact .inl rfl

theorem operation_touched (h : Operation.unit operation db = .ok db') :
    Touched db.balanceReservations db'.balanceReservations := by
  cases operation with
  | fundMerchant input | transferProfitToBalance input | postReversalAdjustment input =>
    exact postMovement_touched h
  | release context | finalizeSuccess context profitMinor profitBps | moveToUnderReview context
  | releaseFromUnderReview context => exact moveValue_touched h
  | reserve context reservationId =>
    obtain ⟨_, _, _, _, positive, _, _, saved, rfl⟩ := reserve_ok h
    rcases saved with ⟨_, rfl⟩ | ⟨fresh, apart, rfl⟩
    · exact .inr (.inl ⟨_, _, _, rfl⟩)
    · exact .inr (.inr ⟨_, fresh, apart, positive, rfl⟩)
  | postShopTransfer input =>
    obtain ⟨_, _, _, _, _, _, rfl⟩ := postShopTransfer_ok h
    exact .inl rfl
  | chargeSoftwareFee input =>
    simp only [Operation.unit, map_ok] at h
    obtain ⟨⟨next, outcome⟩, charged, rfl⟩ := h
    rcases chargeSoftwareFee_ok charged with ⟨_, rfl⟩ | ⟨_, _, _, _, _, rfl⟩
    · exact .inl rfl
    · exact .inl rfl

/-- A posting with no leg on the two buckets and no reservation behind it keeps lockstep. -/
theorem lockstep_of_aside {entries : List DraftEntry} (lock : Lockstep db)
    (same : db'.balanceReservations = db.balanceReservations)
    (grown : db'.ledgerEntries = db.ledgerEntries ++ entryRows posting accounts 0 entries)
    (aside : ∀ entry ∈ entries,
      entry.accountKind ≠ .merchantReserved ∧ entry.accountKind ≠ .merchantUnderReview) :
    Lockstep db' := by
  have silent : ∀ merchantId kind, kind = .merchantReserved ∨ kind = .merchantUnderReview →
      total (legNet merchantId [kind]) entries = 0 := by
    intro merchantId kind bucket
    clear grown
    induction entries with
    | nil => rfl
    | cons entry rest ih =>
      have outside := aside entry (List.mem_cons_self ..)
      have other : ¬ (entry.merchantId = some merchantId ∧ entry.accountKind ∈ [kind]) := by
        intro ⟨_, mem⟩
        rcases bucket with rfl | rfl
        · exact outside.1 (List.mem_singleton.mp mem)
        · exact outside.2 (List.mem_singleton.mp mem)
      rw [total_cons, ih fun e mem => aside e (List.mem_cons_of_mem _ mem), legNet, if_neg other]
      rfl
  intro merchantId
  have attributed : ∀ kind, kind = .merchantReserved ∨ kind = .merchantUnderReview →
      ∀ entry ∈ entries, entry.accountKind ∈ [kind] → owner accounts entry = entry.merchantId := by
    intro kind bucket entry mem listed
    rcases bucket with rfl | rfl
    · exact absurd (List.mem_singleton.mp listed) (aside entry mem).1
    · exact absurd (List.mem_singleton.mp listed) (aside entry mem).2
  rw [netMinor_posting grown (attributed _ (.inl rfl)), silent _ _ (.inl rfl),
    netMinor_posting grown (attributed _ (.inr rfl)), silent _ _ (.inr rfl)]
  unfold heldTotal
  rw [same]
  simpa [heldTotal] using lock merchantId

/-- What a move from one status to another adds to the bucket of a status. -/
def shift (origin target status : ReservationState) (amount : Int) : Int :=
  (if target = status then amount else 0) - (if origin = status then amount else 0)

/-- Moving value on keeps lockstep when the legs shift each bucket as the reservation moved. -/
theorem lockstep_of_move (kept : Kept db)
    (given : ∀ row ∈ db.balanceReservations, row.transactionId = context.transactionId →
      row.merchantId = context.merchantId ∧ row.amount = context.amount)
    (h : moveValue origin target entries action entityType db context = .ok db')
    (attributed : ∀ kinds, kinds = [.merchantReserved] ∨ kinds = [.merchantUnderReview] →
      ∀ entry ∈ entries, entry.accountKind ∈ kinds →
        owner db.ledgerAccounts entry = entry.merchantId)
    (held : ∀ merchantId, total (legNet merchantId [.merchantReserved]) entries =
      if context.merchantId = merchantId then shift origin target .held context.amount.minor else 0)
    (review : ∀ merchantId, total (legNet merchantId [.merchantUnderReview]) entries =
      if context.merchantId = merchantId then
        shift origin target .underReview context.amount.minor else 0)
    (lock : Lockstep db) : Lockstep db' := by
  obtain ⟨row, hit, audits, found, one, mem, same, status, _, rfl⟩ := moveValue_ok h
  obtain ⟨stored, mine, _⟩ := findReservation_ok found
  have only : hit = row := kept.ids.eq mem stored same
  subst only
  obtain ⟨merchant, amount⟩ := given hit mem mine
  have moved : ∀ merchantId bucket,
      weight merchantId bucket (setStatus target context.now hit) -
        weight merchantId bucket hit =
      if context.merchantId = merchantId then shift origin target bucket context.amount.minor
      else 0 := by
    intro merchantId bucket
    simp only [weight, setStatus, merchant, amount, status]
    by_cases mine : context.merchantId = merchantId <;> simp [mine, shift]
  intro merchantId
  obtain ⟨before, before'⟩ := lock merchantId
  refine ⟨?_, ?_⟩
  · rw [netMinor_posting rfl (attributed _ (.inl rfl)), held merchantId]
    simp only [heldTotal, total_update one, moved]
    rw [← heldTotal, ← before]
  · rw [netMinor_posting rfl (attributed _ (.inr rfl)), review merchantId]
    simp only [heldTotal, total_update one, moved]
    rw [← heldTotal, ← before']

theorem transfer_attributed {kinds : List LedgerAccountKind} :
    ∀ entry ∈ bucketTransfer merchantId origin target amount transactionId reason,
      entry.accountKind ∈ kinds → owner accounts entry = entry.merchantId := by
  simp [bucketTransfer, merchantLeg, owner]

theorem release_lockstep (kept : Kept db) (given : Given db (.release context))
    (h : release db context = .ok db') (lock : Lockstep db) : Lockstep db' := by
  refine lockstep_of_move kept (given context rfl) h
    (fun _ _ => transfer_attributed) ?_ ?_ lock
  all_goals
    intro merchantId
    by_cases mine : context.merchantId = merchantId <;>
      simp [releaseLegs, bucketTransfer, merchantLeg, legNet, signedMinor, signed, shift, mine]

theorem moveToUnderReview_lockstep (kept : Kept db)
    (given : Given db (.moveToUnderReview context))
    (h : moveToUnderReview db context = .ok db') (lock : Lockstep db) : Lockstep db' := by
  refine lockstep_of_move kept (given context rfl) h
    (fun _ _ => transfer_attributed) ?_ ?_ lock
  all_goals
    intro merchantId
    by_cases mine : context.merchantId = merchantId <;>
      simp [reviewLegs, bucketTransfer, merchantLeg, legNet, signedMinor, signed, shift, mine]

theorem releaseFromUnderReview_lockstep (kept : Kept db)
    (given : Given db (.releaseFromUnderReview context))
    (h : releaseFromUnderReview db context = .ok db') (lock : Lockstep db) : Lockstep db' := by
  refine lockstep_of_move kept (given context rfl) h
    (fun _ _ => transfer_attributed) ?_ ?_ lock
  all_goals
    intro merchantId
    by_cases mine : context.merchantId = merchantId <;>
      simp [reviewReleaseLegs, bucketTransfer, merchantLeg, legNet, signedMinor, signed, shift,
        mine]

theorem finalizeSuccess_lockstep (kept : Kept db)
    (given : Given db (.finalizeSuccess context profitMinor profitBps))
    (h : finalizeSuccess db context profitMinor profitBps = .ok db') (lock : Lockstep db) :
    Lockstep db' := by
  refine lockstep_of_move kept (given context rfl) h ?_ ?_ ?_ lock
  · intro kinds bucket entry mem listed
    simp only [settlementLegs, List.cons_append, List.nil_append, List.mem_cons] at mem
    rcases mem with rfl | rfl | mem
    · rfl
    · rcases bucket with rfl | rfl <;> simp [platformLeg] at listed
    · split at mem
      · rcases bucket with rfl | rfl <;> simp_all [platformLeg]
      · cases mem
  all_goals
    intro merchantId
    by_cases mine : context.merchantId = merchantId <;>
      by_cases profit : 0 < (clampProfit context.amount profitMinor).minor <;>
        simp [settlementLegs, merchantLeg, platformLeg, legNet, signedMinor, signed, shift, mine,
          profit]

/-- A reserve keeps lockstep exactly when it finds its reservation id fresh: setting an old row
back to held moves the reservations by less, more or elsewhere than the posting moves the
bucket. -/
theorem reserve_lockstep (kept : Kept db) (h : reserve db context reservationId = .ok db')
    (lock : Lockstep db) : Lockstep db' ↔ FreshHold db context reservationId := by
  obtain ⟨rows, reservations, audits, _, positive, _, _, saved, eq⟩ := reserve_ok h
  have grown : db'.ledgerEntries = db.ledgerEntries ++
      entryRows (postingFor context (holdLegs context)) (db.ledgerAccounts ++ rows) 0
        (holdLegs context) := by rw [eq]
  have now : db'.balanceReservations = reservations := by rw [eq]
  have held : ∀ merchantId, total (legNet merchantId [.merchantReserved]) (holdLegs context) =
      if context.merchantId = merchantId then context.amount.minor else 0 := by
    intro merchantId
    by_cases mine : context.merchantId = merchantId <;>
      simp [holdLegs, bucketTransfer, merchantLeg, legNet, signedMinor, signed, mine]
  have review : ∀ merchantId,
      total (legNet merchantId [.merchantUnderReview]) (holdLegs context) = 0 := by
    intro merchantId
    simp [holdLegs, bucketTransfer, merchantLeg, legNet]
  have nets : ∀ merchantId,
      netMinor db' merchantId [.merchantReserved] =
        netMinor db merchantId [.merchantReserved] +
          (if context.merchantId = merchantId then context.amount.minor else 0) ∧
      netMinor db' merchantId [.merchantUnderReview] =
        netMinor db merchantId [.merchantUnderReview] := by
    intro merchantId
    refine ⟨?_, ?_⟩
    · rw [netMinor_posting grown transfer_attributed, held merchantId]
    · rw [netMinor_posting grown transfer_attributed, review merchantId, Int.add_zero]
  rcases saved with ⟨⟨row, mem, same⟩, rfl⟩ | ⟨fresh, _, rfl⟩
  · have one : db.balanceReservations.filter
        (fun r => r.id = (holdFor context reservationId).id) = [row] := by
      rw [← same]
      exact kept.ids.filter mem
    have amount := kept.positive row mem
    have exact_ : FreshHold db context reservationId ↔
        (row.status = .released ∨ row.status = .settled) ∧
        row.merchantId = context.merchantId ∧ row.amount = context.amount := by
      constructor
      · intro finds
        exact finds row mem same
      · intro ended r found eq
        rw [kept.ids.eq found mem (eq.trans same.symm)]
        exact ended
    have balance : Lockstep db' ↔
        ∀ merchantId,
          (if context.merchantId = merchantId then context.amount.minor else 0) =
            (if row.merchantId = merchantId then row.amount.minor else 0) -
              weight merchantId .held row ∧
          weight merchantId .underReview row = 0 := by
      refine forall_congr' fun merchantId => ?_
      obtain ⟨before, before'⟩ := lock merchantId
      rw [(nets merchantId).1, (nets merchantId).2]
      simp only [heldTotal, now, total_update one]
      rw [← heldTotal, ← heldTotal]
      have set : weight merchantId .held (setStatus (holdFor context reservationId).state
          (holdFor context reservationId).updatedAt row) =
          if row.merchantId = merchantId then row.amount.minor else 0 := by
        simp [weight, setStatus, holdFor]
      have gone : weight merchantId .underReview (setStatus (holdFor context reservationId).state
          (holdFor context reservationId).updatedAt row) = 0 := by
        simp [weight, setStatus, holdFor]
      rw [set, gone]
      constructor <;> rintro ⟨first, second⟩ <;> constructor <;> omega
    rw [balance, exact_]
    constructor
    · intro all
      have here := all row.merchantId
      have asked := all context.merchantId
      cases status : row.status with
      | held => simp [weight, status] at asked; omega
      | underReview => simp [weight, status] at here; omega
      | released =>
        simp only [weight, status, if_true] at asked
        by_cases mine : row.merchantId = context.merchantId
        · simp [mine] at asked
          exact ⟨.inl rfl, mine, Money.ext asked.symm⟩
        · simp [mine] at asked
          omega
      | settled =>
        simp only [weight, status, if_true] at asked
        by_cases mine : row.merchantId = context.merchantId
        · simp [mine] at asked
          exact ⟨.inr rfl, mine, Money.ext asked.symm⟩
        · simp [mine] at asked
          omega
    · rintro ⟨ended, merchant, same⟩ merchantId
      rcases ended with status | status <;> simp [weight, status, merchant, same]
  · refine iff_of_true ?_ ?_
    · intro merchantId
      obtain ⟨before, before'⟩ := lock merchantId
      rw [(nets merchantId).1, (nets merchantId).2]
      simp only [heldTotal, now, total_append, total_cons, total_nil]
      rw [← heldTotal, ← heldTotal]
      simp only [weight, reservationRow, holdFor]
      constructor
      · simpa using before
      · simpa using before'
    · intro row mem same
      exact absurd ⟨row, mem, same⟩ fresh

/-- An operation that is not refused leaves what its unit wrote, one that is leaves the database
alone. -/
theorem perform_cases (db : Db) (operation : Operation) :
    (∃ db', operation.unit db = .ok db' ∧ perform db operation = db') ∨
    ((∀ db', operation.unit db ≠ .ok db') ∧ perform db operation = db) := by
  unfold perform
  rcases commit_cases (fun db => (·, ()) <$> operation.unit db) db with
    ⟨next, _, written, left⟩ | ⟨fault, thrown, left⟩
  · obtain ⟨db', unit, same⟩ := map_ok.mp written
    cases same
    exact .inl ⟨next, unit, by rw [left]⟩
  · refine .inr ⟨fun db' unit => ?_, by rw [left]⟩
    rw [unit] at thrown
    cases thrown

theorem step_kept (db : Db) (event : Event) (db' : Db) (kept : Kept db)
    (step : Step db event db') : Kept db' := by
  cases step with
  | operation given =>
    rename_i operation
    rcases perform_cases db operation with ⟨next, unit, left⟩ | ⟨_, left⟩
    · rw [left]
      exact kept_of_touched kept (operation_touched unit)
    · rw [left]
      exact kept
  | elsewhere _ same => exact kept_of_touched kept (.inl same)

/-- Every operation but reserve keeps lockstep from any state that has it. -/
theorem operation_lockstep (kept : Kept db) (given : Given db operation)
    (h : Operation.unit operation db = .ok db') (lock : Lockstep db)
    (other : ∀ context reservationId, operation ≠ .reserve context reservationId) :
    Lockstep db' := by
  cases operation with
  | reserve context reservationId => exact absurd rfl (other context reservationId)
  | release context => exact release_lockstep kept given h lock
  | finalizeSuccess context profitMinor profitBps => exact finalizeSuccess_lockstep kept given h lock
  | moveToUnderReview context => exact moveToUnderReview_lockstep kept given h lock
  | releaseFromUnderReview context => exact releaseFromUnderReview_lockstep kept given h lock
  | fundMerchant input =>
    obtain ⟨_, _, _, _, _, eq⟩ := postMovement_ok h
    refine lockstep_of_aside lock (by rw [eq]) (by rw [eq]) ?_
    simp [fundingLegs, merchantLeg, platformLeg]
  | transferProfitToBalance input =>
    obtain ⟨_, _, _, _, _, eq⟩ := postMovement_ok h
    refine lockstep_of_aside lock (by rw [eq]) (by rw [eq]) ?_
    simp [profitLegs, merchantLeg, platformLeg]
  | postReversalAdjustment input =>
    obtain ⟨_, _, _, _, _, eq⟩ := postMovement_ok h
    refine lockstep_of_aside lock (by rw [eq]) (by rw [eq]) ?_
    simp [reversalLegs, merchantLeg, platformLeg]
  | postShopTransfer input =>
    obtain ⟨_, debit, _, _, _, _, eq⟩ := postShopTransfer_ok h
    refine lockstep_of_aside lock (by rw [eq]) (by rw [eq]) ?_
    by_cases fee : 0 < input.fee.minor <;> simp [transferLegs, merchantLeg, platformLeg, fee]
  | chargeSoftwareFee input =>
    simp only [Operation.unit, map_ok] at h
    obtain ⟨⟨next, outcome⟩, charged, rfl⟩ := h
    rcases chargeSoftwareFee_ok charged with ⟨_, eq⟩ | ⟨_, _, _, _, _, eq⟩
    · subst eq
      exact lock
    · refine lockstep_of_aside lock (by rw [eq]) (by rw [eq]) ?_
      simp [feeLegs, merchantLeg, platformLeg]

/-- One step keeps lockstep exactly when any reserve that went through was fresh. -/
theorem step_lockstep (kept : Kept db) (lock : Lockstep db) (step : Step db event db') :
    Lockstep db' ↔ ReservesFresh ⟨db, event, db'⟩ := by
  cases step with
  | elsewhere entries reservations =>
    refine iff_of_true ?_ fun _ _ same => by cases same
    unfold Lockstep netMinor heldTotal
    rw [entries, reservations]
    exact lock
  | operation given =>
    rename_i operation
    rcases perform_cases db operation with ⟨next, unit, left⟩ | ⟨refused, left⟩
    · rw [left]
      by_cases reserves : ∃ context reservationId, operation = .reserve context reservationId
      · obtain ⟨context, reservationId, rfl⟩ := reserves
        rw [reserve_lockstep kept unit lock]
        constructor
        · intro fresh _ _ same _ _
          cases same
          exact fresh
        · intro fresh
          exact fresh context reservationId rfl next unit
      · have other : ∀ context reservationId, operation ≠ .reserve context reservationId :=
          fun context reservationId same => reserves ⟨context, reservationId, same⟩
        refine iff_of_true (operation_lockstep kept given unit lock other) ?_
        intro context reservationId same
        cases same
        exact absurd rfl (other context reservationId)
    · rw [left]
      refine iff_of_true lock ?_
      intro _ _ same next unit
      cases same
      exact absurd unit (refused next)

theorem empty_kept (empty : Empty db) : Kept db := by
  obtain ⟨_, none⟩ := empty
  refine ⟨?_, ?_, ?_⟩
  · rw [none]
    exact List.nodup_nil
  · rw [none]
    exact List.nodup_nil
  · rw [none]
    simp

theorem empty_lockstep (empty : Empty db) : Lockstep db := by
  intro merchantId
  unfold netMinor heldTotal
  rw [empty.1, empty.2]
  exact ⟨rfl, rfl⟩

/-- Over any run of the ten operations, the entries and the reservations agree in every state
reached exactly when every reserve that went through found its reservation id fresh. -/
theorem agreement_iff (run : Run Empty Step past db) :
    (∀ t ∈ past, Agreement t.after) ↔ ∀ t ∈ past, ReservesFresh t := by
  refine Run.always_iff (fun _ empty => empty_kept empty) step_kept ?_ ?_ run
  · intro s empty
    exact (agreement_iff_lockstep (empty_kept empty)).mpr (empty_lockstep empty)
  · intro s event s' kept agrees step
    have lock := (agreement_iff_lockstep kept).mp agrees
    rw [agreement_iff_lockstep (step_kept s event s' kept step)]
    exact step_lockstep kept lock step

/-- One shop with one till and one sale on record, nothing posted yet. -/
def oneSale : Db :=
  { migrated with
    merchants := [⟨"shop", .active⟩]
    devices := [⟨"till", "shop", .active⟩]
    transactions := [
      { id := "sale", merchantId := "shop", deviceId := "till", operatorId := "op",
        productType := "airtime", providerId := none, amount := ⟨10, by decide⟩, recipientMasked := "",
        state := .validated, idempotencyKey := "key", payloadFingerprint := "print",
        providerReference := none, createdAt := 0, updatedAt := 0 }] }

def deposit : Operation :=
  .fundMerchant
    { merchantId := "shop", amount := ⟨100, by decide⟩, now := 1, correlationId := "c",
      postingId := "p0" }

/-- The sale's reserve under a given posting and audit id. -/
def hold (postingId : PostingId) (auditId : AuditEventId) : Operation :=
  .reserve
    { merchantId := "shop", transactionId := "sale", amount := ⟨10, by decide⟩, now := 2,
      correlationId := "c", actor := ⟨"op", .merchantOperator⟩, postingId, auditId } none

def funded : Db := perform oneSale deposit

def heldOnce : Db := perform funded (hold "p1" "a1")

def heldTwice : Db := perform heldOnce (hold "p2" "a2")

def doubleReserve : List (Taken Db Event) :=
  [⟨heldOnce, .operation (hold "p2" "a2"), heldTwice⟩,
   ⟨funded, .operation (hold "p1" "a1"), heldOnce⟩,
   ⟨oneSale, .operation deposit, funded⟩]

theorem doubleReserve_run : Run Empty Step doubleReserve heldTwice := by
  refine .step (.step (.step (.start ⟨rfl, rfl⟩) (.operation ?_)) (.operation ?_))
    (.operation ?_)
  all_goals
    unfold Given
    decide

theorem agreement_iff_doubleReserve :
    (∀ t ∈ doubleReserve, Agreement t.after) ↔ ∀ t ∈ doubleReserve, ReservesFresh t :=
  agreement_iff doubleReserve_run

/-- A second reserve of the same sale posts again while the row it finds is only set to held:
the bucket then holds twice what the reservations say. -/
theorem reserve_twice_disagrees :
    ∃ past db, Run Empty Step past db ∧ ¬ Agreement db ∧
      netMinor db "shop" [.merchantReserved] = 20 ∧
      reservedIn "shop" .held (db.balanceReservations.map toReservation) = 10 := by
  have nets : netMinor heldTwice "shop" [.merchantReserved] = 20 ∧
      reservedIn "shop" .held (heldTwice.balanceReservations.map toReservation) = 10 := by
    decide
  refine ⟨_, _, doubleReserve_run, fun agrees => ?_, nets⟩
  have same := (agrees "shop").1
  rw [nets.1, nets.2] at same
  cases same

end Telga.Proofs.Balances
