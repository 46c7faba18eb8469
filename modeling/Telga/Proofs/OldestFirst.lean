import Telga.Proofs.FeeCalls

namespace Telga.Proofs.SoftwareFees
open Domain Persistence Application Library

/-- What a shop owes from before, in the order a call made at a time comes to it. -/
def owedBefore (db : Db) (now : Timestamp) (merchantId : MerchantId) : List SoftwareFeeCharge :=
  ownDebts merchantId (previousPeriod now) (outstandingCharges db)

/-- A call made at a time takes its own month's fee from a shop. -/
def TakesDue (db : Db) (now : Timestamp) (merchantId : MerchantId) : Prop :=
  merchantId ∈ activeMerchantIds db ∧
  (findCharge db merchantId (previousPeriod now)).all (·.status = .arrears) = true ∧
  db.platformFeeSettings.softwareFee.minor ≤ sellingMinor db merchantId

/-- A balance covers the first debts together and none of those after them. -/
def CoversInOrder (balance : Int) (debts : List SoftwareFeeCharge) : Prop :=
  ∃ older newer, debts = older ++ newer ∧
    (older ≠ [] → total (fun row => row.amount.minor) older ≤ balance) ∧
    ∀ row ∈ newer, balance - total (fun row => row.amount.minor) older < row.amount.minor

/-- A shop's balance and debts are such that no month is paid out of its turn: when the month that
ended is paid, the balance covers it with all that is owed from before; else it covers the oldest
debts together and none of the others; and a shop that is not active can pay none. -/
structure PaysInTurn (db : Db) (now : Timestamp) (merchantId : MerchantId) : Prop where
  current : TakesDue db now merchantId → owedBefore db now merchantId ≠ [] →
    db.platformFeeSettings.softwareFee.minor +
      total (fun row => row.amount.minor) (owedBefore db now merchantId) ≤
        sellingMinor db merchantId
  older : ¬ TakesDue db now merchantId →
    CoversInOrder (sellingMinor db merchantId) (owedBefore db now merchantId)
  inactive : merchantId ∉ activeMerchantIds db → ∀ row ∈ owedBefore db now merchantId,
    sellingMinor db merchantId < row.amount.minor

/-- No month of a shop was debited while an earlier one was left in arrears, and only active shops
were debited. -/
structure Fairly (db db' : Db) : Prop where
  oldestFirst : ∀ merchantId period later, earlier period later = true →
    feeDebits db' merchantId later ≠ feeDebits db merchantId later →
    monthStatus db' merchantId period ≠ some .arrears
  activeOnly : ∀ merchantId period,
    feeDebits db' merchantId period ≠ feeDebits db merchantId period →
    merchantId ∈ activeMerchantIds db

/-- A month of the year that is no later than another. -/
def Upto (last : Period) (period : Period) : Prop :=
  IsMonth period ∧ monthIndex period ≤ monthIndex last

theorem findCharge_iff {P : Period → Prop} (book : ChargeBook P db) :
    findCharge db merchantId period = some row ↔
      row ∈ db.softwareFeeCharges ∧ row.merchantId = merchantId ∧ row.period = period := by
  constructor
  · intro found
    have fits := List.find?_some found
    simp only [decide_eq_true_eq] at fits
    exact ⟨List.mem_of_find?_eq_some found, fits⟩
  · rintro ⟨mem, rfl, rfl⟩
    cases found : findCharge db row.merchantId row.period with
    | none =>
      have missed := List.find?_eq_none.mp found row mem
      simp at missed
    | some other =>
      have fits := List.find?_some found
      simp only [decide_eq_true_eq] at fits
      have one : other = row := book.keys.eq (List.mem_of_find?_eq_some found) mem
        (Prod.ext fits.1 fits.2)
      rw [one]

theorem mem_ownDebts {P : Period → Prop} (book : ChargeBook P db) :
    row ∈ ownDebts merchantId period (outstandingCharges db) ↔
      findCharge db merchantId row.period = some row ∧ row.status = .arrears ∧
        row.period ≠ period := by
  unfold ownDebts
  rw [List.mem_filter, mem_outstanding, findCharge_iff book]
  simp only [decide_eq_true_eq]
  constructor
  · rintro ⟨⟨mem, arrears⟩, own, other⟩
    exact ⟨⟨mem, own, trivial⟩, arrears, other⟩
  · rintro ⟨⟨mem, own, _⟩, arrears, other⟩
    exact ⟨⟨mem, arrears⟩, own, other⟩

/-- A shop's debts are listed each once. -/
theorem ownDebts_unique {P : Period → Prop} (book : ChargeBook P db) (merchantId : MerchantId)
    (period : Period) :
    Unique (·.period) (ownDebts merchantId period (outstandingCharges db)) := by
  have rows : db.softwareFeeCharges.Nodup := List.Nodup.of_map _ book.keys
  have listed : (ownDebts merchantId period (outstandingCharges db)).Nodup :=
    ((List.mergeSort_perm _ _).nodup_iff.mpr (rows.filter _)).filter _
  refine List.Nodup.map_on ?_ listed
  intro a memA b memB same
  obtain ⟨foundA, _⟩ := (mem_ownDebts book).mp memA
  obtain ⟨foundB, _⟩ := (mem_ownDebts book).mp memB
  rw [same, foundB] at foundA
  exact (Option.some.inj foundA).symm

/-- They are listed oldest first. -/
theorem ownDebts_sorted (db : Db) (merchantId : MerchantId) (period : Period) :
    (ownDebts merchantId period (outstandingCharges db)).Pairwise
      fun a b => earlier b.period a.period = false := by
  unfold ownDebts outstandingCharges
  refine (List.Pairwise.imp ?_ (List.pairwise_mergeSort ?_ ?_ _)).filter _
  · intro a b before
    simp only [Bool.or_eq_true, Bool.and_eq_true, decide_eq_true_eq, beq_iff_eq] at before
    simp only [earlier, Bool.or_eq_false_iff, Bool.and_eq_false_iff, beq_eq_false_iff_ne,
      decide_eq_false_iff_not]
    omega
  · intro a b c first next
    simp only [Bool.or_eq_true, Bool.and_eq_true, decide_eq_true_eq, beq_iff_eq] at first next ⊢
    rcases first with first | ⟨year, first | ⟨month, first⟩⟩ <;>
      rcases next with next | ⟨year', next | ⟨month', next⟩⟩
    all_goals first
      | exact .inl (by omega)
      | exact .inr ⟨by omega, .inl (by omega)⟩
      | exact .inr ⟨by omega, .inr ⟨by omega, String.le_trans first next⟩⟩
  · intro a b
    simp only [Bool.or_eq_true, Bool.and_eq_true, decide_eq_true_eq, beq_iff_eq]
    rcases Nat.lt_trichotomy a.period.year b.period.year with year | year | year
    · exact .inl (.inl year)
    · rcases Nat.lt_trichotomy a.period.month b.period.month with month | month | month
      · exact .inl (.inr ⟨year, .inl month⟩)
      · rcases String.le_total a.merchantId b.merchantId with shop | shop
        · exact .inl (.inr ⟨year, .inr ⟨month, shop⟩⟩)
        · exact .inr (.inr ⟨year.symm, .inr ⟨month.symm, shop⟩⟩)
      · exact .inr (.inr ⟨year.symm, .inl month⟩)
    · exact .inr (.inl year)

/-- A shop's other debts are not changed by what becomes of one month. -/
theorem ownDebts_kept {P : Period → Prop} (book : ChargeBook P db) (book' : ChargeBook P db')
    (others : OthersKept merchantId period db db') :
    ownDebts merchantId period (outstandingCharges db') =
      ownDebts merchantId period (outstandingCharges db) := by
  have same : ∀ row, row ∈ ownDebts merchantId period (outstandingCharges db') ↔
      row ∈ ownDebts merchantId period (outstandingCharges db) := by
    intro row
    rw [mem_ownDebts book, mem_ownDebts book']
    constructor
    · rintro ⟨found, arrears, other⟩
      exact ⟨(others row.period other).1 ▸ found, arrears, other⟩
    · rintro ⟨found, arrears, other⟩
      exact ⟨(others row.period other).1.symm ▸ found, arrears, other⟩
  have unique := ownDebts_unique book merchantId period
  have unique' := ownDebts_unique book' merchantId period
  have perm := (List.perm_ext_iff_of_nodup (List.Nodup.of_map _ unique')
    (List.Nodup.of_map _ unique)).mpr same
  refine List.Perm.eq_of_pairwise ?_ (ownDebts_sorted db' merchantId period)
    (ownDebts_sorted db merchantId period) perm
  intro a b memA memB first second
  refine unique.eq ((same a).mp memA) memB ?_
  exact earlier_antisymm first second

/-- What a call that returns makes of one shop: its month is debited or not, and of the shop's
other debts those the balance covers in their order. -/
structure ShopEnds (merchantId : MerchantId) (due : Period) (takes : Prop)
    (owed paid : List SoftwareFeeCharge) (db db' : Db) : Prop where
  current : feeDebits db' merchantId due ≠ feeDebits db merchantId due ↔ takes
  debits : ∀ period, period ≠ due →
    (feeDebits db' merchantId period ≠ feeDebits db merchantId period ↔
      ∃ row ∈ paid, row.period = period)
  arrears : ∀ period, period ≠ due → (monthStatus db' merchantId period = some .arrears ↔
    ∃ row ∈ owed, row.period = period ∧ row ∉ paid)

instance (db : Db) (now : Timestamp) (merchantId : MerchantId) :
    Decidable (TakesDue db now merchantId) :=
  inferInstanceAs (Decidable (_ ∧ _))

/-- The month a call is made for, at a shop: others of its months stay, and it is debited exactly
when the call takes it. -/
theorem due_tried (swept : Swept (previousPeriod now) db.platformFeeSettings.softwareFee
      (activeMerchantIds db) db mid) (merchantId : MerchantId) :
    OthersKept merchantId (previousPeriod now) db mid ∧
    (feeDebits mid merchantId (previousPeriod now) ≠ feeDebits db merchantId (previousPeriod now) ↔
      TakesDue db now merchantId) ∧
    sellingMinor mid merchantId = sellingMinor db merchantId -
      if TakesDue db now merchantId then db.platformFeeSettings.softwareFee.minor else 0 := by
  obtain ⟨tried, spared⟩ := swept merchantId
  by_cases active : merchantId ∈ activeMerchantIds db
  · cases tried active with
    | already closed same =>
      have not : ¬ TakesDue db now merchantId := by
        rintro ⟨_, open', _⟩
        rw [closed] at open'
        cases open'
      rw [if_neg not, same.selling, same.debits, Int.sub_zero]
      exact ⟨same.others _, iff_of_false (fun differs => differs rfl) not, rfl⟩
    | short _ less _ selling debits others =>
      have not : ¬ TakesDue db now merchantId := by
        rintro ⟨_, _, covered⟩
        omega
      rw [if_neg not, selling, debits, Int.sub_zero]
      exact ⟨others, iff_of_false (fun differs => differs rfl) not, rfl⟩
    | taken owes covered _ selling debits others =>
      have takes : TakesDue db now merchantId := ⟨active, owes, covered⟩
      rw [if_pos takes]
      exact ⟨others, iff_of_true debits takes, selling⟩
  · have same := spared active
    have not : ¬ TakesDue db now merchantId := fun takes => active takes.1
    rw [if_neg not, same.selling, same.debits, Int.sub_zero]
    exact ⟨same.others _, iff_of_false (fun differs => differs rfl) not, rfl⟩

theorem shop_ends {P : Period → Prop} (book : ChargeBook P db) (month : P (previousPeriod now))
    (called : Called now db db' run') (ended : run'.point = .returned) (due : FeeDue db now)
    (merchantId : MerchantId) :
    ShopEnds merchantId (previousPeriod now) (TakesDue db now merchantId)
      (owedBefore db now merchantId)
      (settled (fun row => row.amount.minor) (sellingMinor db merchantId -
        if TakesDue db now merchantId then db.platformFeeSettings.softwareFee.minor else 0)
        (owedBefore db now merchantId)) db db' := by
  obtain ⟨mid, bookMid, swept, collects⟩ := charging_collects book month called ended due
  obtain ⟨others, current, selling⟩ := due_tried swept merchantId
  have same := ownDebts_kept book bookMid others
  have own : ∀ row ∈ owedBefore db now merchantId, row.period ≠ previousPeriod now :=
    fun row mem => ((mem_ownDebts book).mp mem).2.2
  have collected := collects merchantId
    (fun row mem => ⟨((mem_ownDebts bookMid).mp mem).1, ((mem_ownDebts bookMid).mp mem).2.1⟩)
    (ownDebts_unique bookMid _ _)
  rw [same, selling] at collected
  generalize paying : settled (fun row => row.amount.minor) (sellingMinor db merchantId -
    if TakesDue db now merchantId then db.platformFeeSettings.softwareFee.minor else 0)
    (ownDebts merchantId (previousPeriod now) (outstandingCharges db)) = paid at collected
  have listed : ∀ row ∈ paid, row ∈ owedBefore db now merchantId := by
    intro row mem
    rw [← paying] at mem
    exact settled_subset mem
  unfold owedBefore at *
  rw [paying]
  refine ⟨?_, fun period other => ?_, fun period other => ?_⟩
  · rw [(collected.others (previousPeriod now) fun row mem => own row (listed row mem)).2]
    exact current
  · rw [← (others period other).2]
    constructor
    · intro differs
      by_contra none
      exact differs (collected.others period fun row mem eq => none ⟨row, mem, eq⟩).2
    · rintro ⟨row, mem, rfl⟩
      exact (collected.taken row mem).2
  · by_cases taken : ∃ row ∈ paid, row.period = period
    · obtain ⟨row, mem, rfl⟩ := taken
      refine iff_of_false ?_ ?_
      · rw [(collected.taken row mem).1]
        simp
      · rintro ⟨other, there, eq, unpaid⟩
        have one := (ownDebts_unique book merchantId _).eq there (listed row mem) eq
        exact unpaid (one ▸ mem)
    · rw [(collected.others period fun row mem eq => taken ⟨row, mem, eq⟩).1]
      unfold monthStatus
      rw [(others period other).1, Option.map_eq_some_iff]
      constructor
      · rintro ⟨row, found, arrears⟩
        have fits := (findCharge_iff book).mp found
        obtain ⟨_, _, rfl⟩ := fits
        exact ⟨row, (mem_ownDebts book).mpr ⟨found, arrears, other⟩, rfl,
          fun mem => taken ⟨row, mem, rfl⟩⟩
      · rintro ⟨row, there, rfl, _⟩
        obtain ⟨found, arrears, _⟩ := (mem_ownDebts book).mp there
        exact ⟨row, found, arrears⟩

theorem ownDebts_priced {P : Period → Prop} (book : ChargeBook P db) :
    ∀ row ∈ ownDebts merchantId period (outstandingCharges db), 0 < row.amount.minor := by
  intro row mem
  obtain ⟨found, _⟩ := (mem_ownDebts book).mp mem
  exact book.priced row ((findCharge_iff book).mp found).1

/-- A debt from before is earlier than the month a call is made for. -/
theorem owed_earlier (book : ChargeBook (Upto (previousPeriod now)) db)
    (since : 0 ≤ now) (mem : row ∈ owedBefore db now merchantId) :
    earlier row.period (previousPeriod now) = true := by
  obtain ⟨found, _, other⟩ := (mem_ownDebts book).mp mem
  obtain ⟨month, upto⟩ := book.months row ((findCharge_iff book).mp found).1
  have due := (previousPeriod_index since).2
  rw [earlier_iff _ _ month due]
  rcases Int.lt_or_eq_of_le upto with before | same
  · exact before
  · refine absurd ?_ other
    obtain ⟨low, high⟩ := month
    obtain ⟨low', high'⟩ := due
    unfold monthIndex at same
    generalize previousPeriod now = last at same low' high' ⊢
    cases last
    cases period : row.period
    simp only [period] at same low high low' high' ⊢
    rw [Period.mk.injEq]
    omega

/-- Two debts of a shop stand in the list as their months do. -/
theorem owed_before {R : SoftwareFeeCharge → SoftwareFeeCharge → Prop}
    (ordered : (owedBefore db now merchantId).Pairwise R)
    (memA : a ∈ owedBefore db now merchantId) (memB : b ∈ owedBefore db now merchantId)
    (before : earlier a.period b.period = true) : R a b := by
  have sorted := ownDebts_sorted db merchantId (previousPeriod now)
  have both : ∀ {rows : List SoftwareFeeCharge}, rows.Pairwise R →
      rows.Pairwise (fun a b => earlier b.period a.period = false) → a ∈ rows → b ∈ rows →
      R a b := by
    intro rows ordered sorted memA memB
    induction rows with
    | nil => cases memA
    | cons row rest ih =>
      obtain ⟨first, ordered⟩ := List.pairwise_cons.mp ordered
      obtain ⟨least, sorted⟩ := List.pairwise_cons.mp sorted
      rcases List.mem_cons.mp memA with rfl | memA
      · rcases List.mem_cons.mp memB with rfl | memB
        · simp [earlier] at before
        · exact first b memB
      · rcases List.mem_cons.mp memB with rfl | memB
        · rw [least a ‹a ∈ rest›] at before
          cases before
        · exact ih ordered sorted memA memB
  exact both ordered sorted memA memB

/-- A call that charges treats a shop fairly exactly when the shop's balance and debts let it be
paid in turn. -/
theorem shop_fairly (book : ChargeBook (Upto (previousPeriod now)) db) (since : 0 ≤ now)
    (ends : ShopEnds merchantId (previousPeriod now) (TakesDue db now merchantId)
      (owedBefore db now merchantId)
      (settled (fun row => row.amount.minor) (sellingMinor db merchantId -
        if TakesDue db now merchantId then db.platformFeeSettings.softwareFee.minor else 0)
        (owedBefore db now merchantId)) db db') :
    ((∀ period later, earlier period later = true →
        feeDebits db' merchantId later ≠ feeDebits db merchantId later →
        monthStatus db' merchantId period ≠ some .arrears) ∧
      ∀ period, feeDebits db' merchantId period ≠ feeDebits db merchantId period →
        merchantId ∈ activeMerchantIds db) ↔
    PaysInTurn db now merchantId := by
  have unique : (owedBefore db now merchantId).Nodup :=
    List.Nodup.of_map _ (ownDebts_unique book merchantId (previousPeriod now))
  have priced : ∀ row ∈ owedBefore db now merchantId, 0 < row.amount.minor :=
    ownDebts_priced book
  have other : ∀ row ∈ owedBefore db now merchantId, row.period ≠ previousPeriod now :=
    fun row mem => ((mem_ownDebts book).mp mem).2.2
  have past : ∀ row ∈ owedBefore db now merchantId,
      earlier row.period (previousPeriod now) = true := fun row => owed_earlier book since
  obtain ⟨current, debits, arrears⟩ := ends
  constructor
  · rintro ⟨oldest, active⟩
    refine ⟨fun takes some => ?_, fun not => ?_, fun closed row mem => ?_⟩
    · rw [if_pos takes] at arrears
      have all : ∀ row ∈ owedBefore db now merchantId, row ∈ settled (fun row => row.amount.minor)
          (sellingMinor db merchantId - db.platformFeeSettings.softwareFee.minor)
          (owedBefore db now merchantId) := by
        intro row mem
        by_contra unpaid
        exact oldest row.period (previousPeriod now) (past row mem) (current.mpr takes)
          ((arrears row.period (other row mem)).mpr ⟨row, mem, rfl, unpaid⟩)
      have covered := (settled_all_iff _ unique priced).mp all some
      omega
    · rw [if_neg not, Int.sub_zero] at arrears debits
      refine (settled_in_order_iff unique priced).mp ?_
      have sorted := ownDebts_sorted db merchantId (previousPeriod now)
      have apart := List.pairwise_map.mp (ownDebts_unique book merchantId (previousPeriod now))
      refine (sorted.and apart).imp_of_mem fun {older newer} memOlder memNewer ordered paid => ?_
      by_contra unpaid
      have before := earlier_total ordered.1 ordered.2
      exact oldest older.period newer.period before
        ((debits newer.period (other newer memNewer)).mpr ⟨newer, paid, rfl⟩)
        ((arrears older.period (other older memOlder)).mpr ⟨older, memOlder, rfl, unpaid⟩)
    · have not : ¬ TakesDue db now merchantId := fun takes => closed takes.1
      rw [if_neg not, Int.sub_zero] at debits
      have nothing : settled (fun row => row.amount.minor) (sellingMinor db merchantId)
          (owedBefore db now merchantId) = [] := by
        refine List.eq_nil_iff_forall_not_mem.mpr fun owed paid => ?_
        exact closed (active owed.period
          ((debits owed.period (other owed (settled_subset paid))).mpr ⟨owed, paid, rfl⟩))
      exact settled_nil_iff.mp nothing row mem
  · rintro ⟨whole, inOrder, inactive⟩
    -- no month after the one a call is made for is debited
    have last : ∀ later, earlier (previousPeriod now) later = true →
        feeDebits db' merchantId later = feeDebits db merchantId later := by
      intro later after
      by_contra differs
      have apart : later ≠ previousPeriod now := by
        rintro rfl
        simp [earlier] at after
      obtain ⟨row, paid, rfl⟩ := (debits later apart).mp differs
      exact earlier_asymm after (past row (settled_subset paid))
    by_cases takes : TakesDue db now merchantId
    · rw [if_pos takes] at arrears
      have all := (settled_all_iff (sellingMinor db merchantId -
        db.platformFeeSettings.softwareFee.minor) unique priced).mpr fun some => by
          have covered := whole takes some
          omega
      refine ⟨fun period later before debited owes => ?_, fun _ _ => takes.1⟩
      by_cases due : period = previousPeriod now
      · subst due
        exact debited (last later before)
      · obtain ⟨row, mem, _, unpaid⟩ := (arrears period due).mp owes
        exact unpaid (all row mem)
    · rw [if_neg takes, Int.sub_zero] at arrears debits
      have ordered := (settled_in_order_iff unique priced).mpr (inOrder takes)
      refine ⟨fun period later before debited owes => ?_, fun period debited => ?_⟩
      · by_cases due : period = previousPeriod now
        · subst due
          exact debited (last later before)
        · obtain ⟨row, mem, rfl, unpaid⟩ := (arrears period due).mp owes
          by_cases current' : later = previousPeriod now
          · subst current'
            exact takes (current.mp debited)
          · obtain ⟨newer, paid, rfl⟩ := (debits later current').mp debited
            exact unpaid (owed_before ordered mem (settled_subset paid) before paid)
      · by_contra closed
        have nothing := settled_nil_iff.mpr (inactive closed)
        by_cases current' : period = previousPeriod now
        · subst current'
          exact takes (current.mp debited)
        · obtain ⟨row, paid, _⟩ := (debits period current').mp debited
          rw [nothing] at paid
          cases paid

/-- A call that returns treats every shop fairly exactly when each can be paid in turn. -/
theorem call_fairly (book : ChargeBook (Upto (previousPeriod now)) db) (since : 0 ≤ now)
    (called : Called now db db' last) (ended : last.point = .returned) :
    Fairly db db' ↔ (FeeDue db now → ∀ merchantId, PaysInTurn db now merchantId) := by
  have month : Upto (previousPeriod now) (previousPeriod now) :=
    ⟨(previousPeriod_index since).2, Int.le_refl _⟩
  by_cases due : FeeDue db now
  · have each := fun merchantId => shop_fairly book since
      (shop_ends book month called ended due merchantId)
    constructor
    · intro fairly _ merchantId
      exact (each merchantId).mp ⟨fairly.oldestFirst merchantId, fairly.activeOnly merchantId⟩
    · intro turn
      have turn := turn due
      exact ⟨fun merchantId => ((each merchantId).mpr (turn merchantId)).1,
        fun merchantId => ((each merchantId).mpr (turn merchantId)).2⟩
  · have same := idle_untouched called due
    refine iff_of_true ⟨?_, ?_⟩ fun yes => absurd yes due
    · exact fun merchantId _ later _ debited => absurd ((same merchantId).debits later) debited
    · exact fun merchantId period debited => absurd ((same merchantId).debits period) debited

/-- The call the step made, if it made one that returned. -/
def Returned (taken : FeeTaken) (now : Timestamp) : Prop :=
  ∃ last, taken.event = .call now last ∧ last.point = .returned

/-- The charge rows are in order, and of no month later than the last call's. -/
def FeesKept (w : FeeDesk) : Prop :=
  0 ≤ w.clock ∧ ChargeBook (Upto (previousPeriod w.clock)) w.store

theorem feesKept_call (kept : FeesKept w) (later : w.clock ≤ now) :
    0 ≤ now ∧ ChargeBook (Upto (previousPeriod now)) w.store := by
  obtain ⟨since, book⟩ := kept
  refine ⟨Int.le_trans since later, book.keys, book.priced, fun row mem => ?_⟩
  obtain ⟨month, upto⟩ := book.months row mem
  exact ⟨month, Int.le_trans upto (previousPeriod_mono since later)⟩

theorem feesKept_step (w : FeeDesk) (event : FeeEvent) (w' : FeeDesk) (kept : FeesKept w)
    (step : CallsInTurn w event w') : FeesKept w' := by
  cases step with
  | call later called =>
    obtain ⟨since, book⟩ := feesKept_call kept later
    exact ⟨since, book.called ⟨(previousPeriod_index since).2, Int.le_refl _⟩ called⟩
  | waiver => exact ⟨kept.1, kept.2.waived _ _ _⟩
  | meanwhile same _ => exact ⟨kept.1, kept.2.same same⟩

theorem feeOpens_kept (w : FeeDesk) (opens : FeeOpens w) : FeesKept w := by
  refine ⟨opens.clock, ?_, ?_, ?_⟩
  · rw [opens.charges]
    exact List.nodup_nil
  · simp [opens.charges]
  · simp [opens.charges]

/-- In every sequence of calls, each call that returns clears debts oldest first and debits active
shops alone exactly as long as every shop a call finds can be paid in turn. -/
theorem oldest_first_iff {past : List FeeTaken} (run : Run FeeOpens CallsInTurn past w) :
    (∀ taken ∈ past, ∀ now, Returned taken now → Fairly taken.before.store taken.after.store) ↔
      ∀ taken ∈ past, ∀ now, Returned taken now → FeeDue taken.before.store now →
        ∀ merchantId, PaysInTurn taken.before.store now merchantId := by
  have each : ∀ taken ∈ past, ∀ now, Returned taken now →
      (Fairly taken.before.store taken.after.store ↔ (FeeDue taken.before.store now →
        ∀ merchantId, PaysInTurn taken.before.store now merchantId)) := by
    rintro taken mem now ⟨last, called, ended⟩
    obtain ⟨kept, step, _⟩ := run.taken feeOpens_kept feesKept_step taken mem
    rw [called] at step
    generalize taken.after = after at step ⊢
    cases step with
    | call later called =>
      obtain ⟨since, book⟩ := feesKept_call kept later
      exact call_fairly book since called ended
  constructor
  · intro fairly taken mem now returned
    exact (each taken mem now returned).mp (fairly taken mem now returned)
  · intro turn taken mem now returned
    exact (each taken mem now returned).mpr (turn taken mem now returned)

/-- Enough surroundings for a call at a time to return with one shop and two months. -/
def callAt (tag : String) (now : Timestamp) : List Input :=
  ["a", "b", "c", "d", "e", "f", "g", "h", "i"].map fun step =>
    drawing (tag ++ step) .indeterminate .success now

/-- What a call at a time makes of a database, and where it ends. -/
def called (tag : String) (now : Timestamp) (db : Db) : Db × RunDueSoftwareFees :=
  conduct (callAt tag now) db freshCall

theorem called_called (tag : String) (now : Timestamp) (db : Db) :
    Called now db (called tag now db).1 (called tag now db).2 :=
  conduct_called (drawing (tag ++ "a") .indeterminate .success now)
    (["b", "c", "d", "e", "f", "g", "h", "i"].map fun step =>
      drawing (tag ++ step) .indeterminate .success now) db

/-- The shop after the fee has begun in September, September's fee was due and the shop had
nothing, and then just enough for one month. -/
def fundedLate : Db :=
  Balances.perform (called "october" 1790899200000 (called "start" 1789430400000 oneShop).1).1
    (.fundMerchant { merchantId := "shop", amount := ⟨125000, safe_monthlyFee⟩, now := 0,
                     correlationId := "deposit", postingId := "deposit" })

/-- The calls of September, October and November, with the deposit before the last. -/
def fundedLateCalls : List FeeTaken :=
  let begun := called "start" 1789430400000 oneShop
  let owing := called "october" 1790899200000 begun.1
  let paid := called "november" 1793577600000 fundedLate
  [⟨⟨fundedLate, 1790899200000⟩, .call 1793577600000 paid.2, ⟨paid.1, 1793577600000⟩⟩,
   ⟨⟨owing.1, 1790899200000⟩, .meanwhile, ⟨fundedLate, 1790899200000⟩⟩,
   ⟨⟨begun.1, 1789430400000⟩, .call 1790899200000 owing.2, ⟨owing.1, 1790899200000⟩⟩,
   ⟨⟨oneShop, 0⟩, .call 1789430400000 begun.2, ⟨begun.1, 1789430400000⟩⟩]

theorem fundedLate_run : Run FeeOpens CallsInTurn fundedLateCalls
    ⟨(called "november" 1793577600000 fundedLate).1, 1793577600000⟩ := by
  have opening : Run FeeOpens CallsInTurn [] ⟨oneShop, 0⟩ := .start ⟨rfl, rfl, by decide⟩
  refine .step (.step (.step (.step opening ?_) ?_) ?_) ?_
  · exact .call (by decide) (called_called ..)
  · exact .call (by decide) (called_called ..)
  · exact .meanwhile (by decide +kernel) (by decide +kernel)
  · exact .call (by decide) (called_called ..)

/-- November's call takes October's fee and leaves September's owing. -/
theorem fundedLate_unfair :
    ¬ Fairly fundedLate (called "november" 1793577600000 fundedLate).1 := by
  intro fairly
  refine fairly.oldestFirst "shop" ⟨2026, 9⟩ ⟨2026, 10⟩ (by decide) ?_ ?_
  · decide +kernel
  · decide +kernel

/-- The newest month is taken while an older one is left in arrears. -/
theorem newest_taken_first : ¬ ∀ past w, Run FeeOpens CallsInTurn past w →
    ∀ taken ∈ past, ∀ now, Returned taken now → Fairly taken.before.store taken.after.store := by
  intro always
  refine fundedLate_unfair (always _ _ fundedLate_run _ (List.mem_cons_self ..) 1793577600000 ?_)
  exact ⟨_, rfl, by decide +kernel⟩

/-- The balance did not cover both months. -/
theorem fundedLate_not_in_turn : ¬ ∀ taken ∈ fundedLateCalls, ∀ now, Returned taken now →
    FeeDue taken.before.store now → ∀ merchantId, PaysInTurn taken.before.store now merchantId := by
  intro turn
  have fairly := (oldest_first_iff fundedLate_run).mpr turn
  refine fundedLate_unfair (fairly _ (List.mem_cons_self ..) 1793577600000 ?_)
  exact ⟨_, rfl, by decide +kernel⟩

end Telga.Proofs.SoftwareFees
