import Telga.Application.Statements

namespace Telga.Proofs.Statements
open Domain Persistence Library Application Application.Statements

/-- A merchant's successful sales of the days that are wanted. -/
def salesOf (db : Db) (merchantId : MerchantId) (wanted : String → Bool) : List TransactionRow :=
  db.transactions.filter fun row =>
    row.merchantId = merchantId ∧ row.state = .successful ∧ wanted (dayOf row.createdAt) = true

/-- The entries its profit changed by on those days, other than by collecting it. -/
def earningsOf (db : Db) (merchantId : MerchantId) (wanted : String → Bool) :
    List LedgerEntryRow :=
  db.ledgerEntries.filter fun entry =>
    (entry.merchantId = some merchantId ∧ entry.accountType = .telgaRevenue ∧
      entry.entryType ≠ .adjustment) ∧ wanted (dayOf entry.createdAt) = true

/-- Its fees that are not waived and fall on those days. -/
def feesOf (db : Db) (merchantId : MerchantId) (wanted : String → Bool) :
    List SoftwareFeeCharge :=
  db.softwareFeeCharges.filter fun charge =>
    (charge.merchantId = merchantId ∧ charge.status ≠ .waived) ∧ wanted (feeDay charge) = true

def grossMinor (rows : List TransactionRow) : Int :=
  total (·.amount.minor) rows

def profitMinor (entries : List LedgerEntryRow) : Int :=
  total (fun entry => signed entry.direction entry.amount.minor) entries

def feeMinor (charges : List SoftwareFeeCharge) : Int :=
  total (·.amount.minor) charges

/-- What the statement promises to show. -/
structure Shows (db : Db) (merchantId : MerchantId) (range : Option DateRange)
    (screen : StatementScreen) : Prop where
  once : (screen.days.map (·.day)).Nodup
  complete : ∀ day, withinRange range day = true →
    salesOf db merchantId (· = day) ≠ [] ∨ earningsOf db merchantId (· = day) ≠ [] ∨
      feesOf db merchantId (· = day) ≠ [] →
    ∃ row ∈ screen.days, row.day = day
  figures : ∀ row ∈ screen.days,
    row.sales = (salesOf db merchantId (· = row.day)).length ∧
    row.gross.minor = grossMinor (salesOf db merchantId (· = row.day)) ∧
    row.profit.minor = profitMinor (earningsOf db merchantId (· = row.day))
  sales : screen.totalSales = (salesOf db merchantId (withinRange range)).length
  gross : screen.totalGross.minor = grossMinor (salesOf db merchantId (withinRange range))
  profit : screen.totalProfit.minor = profitMinor (earningsOf db merchantId (withinRange range))
  fees : (screen.totalFees.map (·.minor)).getD 0 = feeMinor (feesOf db merchantId (withinRange range))

/-- A merchant's transaction that stands before another in its list: made later, or at the same
moment with the greater id. -/
def standsBefore (other row : TransactionRow) : Bool :=
  row.createdAt < other.createdAt ∨ row.createdAt = other.createdAt ∧ row.id < other.id

/-- Fewer than fifty of the merchant's transactions stand before one. -/
def Recent (db : Db) (row : TransactionRow) : Prop :=
  ((db.transactions.filter fun other => other.merchantId = row.merchantId).filter
    (standsBefore · row)).length < 50

instance (db : Db) (row : TransactionRow) : Decidable (Recent db row) :=
  inferInstanceAs (Decidable (_ < _))

/-- What must hold of a merchant's data for that. -/
structure Shown (db : Db) (merchantId : MerchantId) (answered : Bool) (range : Option DateRange) :
    Prop where
  recent : ∀ row ∈ salesOf db merchantId (withinRange range), answered = true ∧ Recent db row
  earned : ∀ entry ∈ earningsOf db merchantId (withinRange range),
    (answered = true ∧ ∃ row ∈ db.transactions, row.merchantId = merchantId ∧
      dayOf row.createdAt = dayOf entry.createdAt ∧ Recent db row) ∨
    ∃ charge ∈ feesOf db merchantId (withinRange range), feeDay charge = dayOf entry.createdAt
  charged : ∀ charge ∈ feesOf db merchantId (withinRange range), ∀ bounds ∈ range,
    String.ofList (bounds.low.toList.take 7) ≤ periodText charge.period ∧
      periodText charge.period ≤ String.ofList (bounds.high.toList.take 7)
  daily : ∀ day, withinRange range day = true →
    SafeInteger (grossMinor (salesOf db merchantId (· = day))) ∧
    SafeInteger (profitMinor (earningsOf db merchantId (· = day))) ∧
    SafeInteger (feeMinor (feesOf db merchantId (· = day)))
  whole : SafeInteger (grossMinor (salesOf db merchantId (withinRange range))) ∧
    SafeInteger (profitMinor (earningsOf db merchantId (withinRange range))) ∧
    SafeInteger (feeMinor (feesOf db merchantId (withinRange range)))

/-- What the tables check: no id is of two transactions, and a charge is of more than nothing. -/
structure Checked (db : Db) : Prop where
  ids : Library.Unique (·.id) db.transactions
  charges : ∀ charge ∈ db.softwareFeeCharges, 0 < charge.amount.minor

section Days

variable {db : Db} {merchantId : MerchantId} {moment : Timestamp} {day : String}

theorem length_dayOf (moment : Timestamp) : (dayOf moment).toList.length = 10 := by
  have long := length_isoText moment
  unfold dayOf
  rw [String.toList_ofList, List.length_take]
  omega

theorem length_feeDay (charge : SoftwareFeeCharge) : (feeDay charge).toList.length = 10 := by
  unfold feeDay
  split
  · exact length_dayOf _
  · exact length_dayOf _

/-- A moment's text starts with a day when it is of that day. -/
theorem startsWith_day (full : day.toList.length = 10) :
    day.toList.isPrefixOf (isoText moment) = true ↔ dayOf moment = day := by
  rw [List.isPrefixOf_iff_prefix, List.prefix_iff_eq_take, full]
  unfold dayOf
  constructor
  · intro same
    rw [← same, String.ofList_toList]
  · rintro rfl
    rw [String.toList_ofList]

theorem profitForDay_eq (full : day.toList.length = 10) :
    profitForDay db merchantId day = profitMinor (earningsOf db merchantId (· = day)) := by
  have same : (db.ledgerEntries.filter fun entry =>
      entry.merchantId = some merchantId ∧ entry.accountType = .telgaRevenue ∧
        day.toList.isPrefixOf (isoText entry.createdAt) = true ∧ entry.entryType ≠ .adjustment) =
      earningsOf db merchantId (· = day) := by
    apply List.filter_congr
    intro entry _
    rw [decide_eq_decide, startsWith_day full, decide_eq_true_eq]
    tauto
  unfold profitForDay
  rw [same]
  rfl

end Days

section Order

variable {a b c : Int} {x y z : String}

/-- The list's order on moments and ids. -/
def listedBefore (a : Int) (x : String) (b : Int) (y : String) : Bool :=
  if a = b then decide (¬ x < y) else decide (¬ a < b)

theorem listedBefore_trans (first : listedBefore a x b y = true)
    (next : listedBefore b y c z = true) : listedBefore a x c z = true := by
  unfold listedBefore at *
  by_cases one : a = b
  · rw [if_pos one, decide_eq_true_eq, String.not_lt] at first
    by_cases two : b = c
    · rw [if_pos two, decide_eq_true_eq, String.not_lt] at next
      rw [if_pos (one.trans two), decide_eq_true_eq, String.not_lt]
      exact String.le_trans next first
    · rw [if_neg two, decide_eq_true_eq] at next
      rw [if_neg (by omega), decide_eq_true_eq]
      omega
  · rw [if_neg one, decide_eq_true_eq] at first
    by_cases two : b = c
    · rw [if_neg (by omega), decide_eq_true_eq]
      omega
    · rw [if_neg two, decide_eq_true_eq] at next
      rw [if_neg (by omega), decide_eq_true_eq]
      omega

theorem listedBefore_total : (listedBefore a x b y || listedBefore b y a x) = true := by
  unfold listedBefore
  rw [Bool.or_eq_true]
  by_cases same : a = b
  · rw [if_pos same, if_pos same.symm, decide_eq_true_eq, decide_eq_true_eq]
    exact String.le_total y x
  · rw [if_neg same, if_neg (Ne.symm same), decide_eq_true_eq, decide_eq_true_eq]
    omega

/-- With ids that differ, what the list has first is later or has the greater id. -/
theorem listedBefore_strict (listed : listedBefore a x b y = true) (differs : x ≠ y) :
    b < a ∨ b = a ∧ y < x := by
  unfold listedBefore at listed
  by_cases same : a = b
  · rw [if_pos same, decide_eq_true_eq, String.not_lt] at listed
    refine .inr ⟨same.symm, ?_⟩
    by_contra smaller
    exact differs (String.le_antisymm (String.not_lt.mp smaller) listed)
  · rw [if_neg same, decide_eq_true_eq] at listed
    exact .inl (by omega)

theorem later_asymm (before : b < a ∨ b = a ∧ y < x) : ¬ (a < b ∨ a = b ∧ x < y) := by
  rintro (later | ⟨same, greater⟩)
  · rcases before with earlier | ⟨same, _⟩ <;> omega
  · rcases before with earlier | ⟨_, smaller⟩
    · omega
    · exact String.lt_asymm greater smaller

end Order

section Rows

variable {db : Db} {merchantId : MerchantId} {answered : Bool} {range : Option DateRange}
  {row : TransactionRow} {day : String}

/-- All of a merchant's transactions, newest first. -/
abbrev newest (db : Db) (merchantId : MerchantId) : List TransactionRow :=
  listTransactionDtos db merchantId none none

theorem newest_perm (db : Db) (merchantId : MerchantId) :
    (newest db merchantId).Perm (db.transactions.filter fun row => row.merchantId = merchantId) :=
  List.mergeSort_perm _ _

theorem mem_newest : row ∈ newest db merchantId ↔
    row ∈ db.transactions ∧ row.merchantId = merchantId := by
  rw [(newest_perm db merchantId).mem_iff, List.mem_filter, decide_eq_true_eq]

theorem standsBefore_asymm (one two : TransactionRow) (before : standsBefore one two = true) :
    standsBefore two one = false := by
  simp only [standsBefore, decide_eq_true_eq, decide_eq_false_iff_not] at before ⊢
  exact later_asymm before

theorem newest_sorted (checked : Checked db) (merchantId : MerchantId) :
    (newest db merchantId).Pairwise fun one two => standsBefore one two = true := by
  have distinct : (newest db merchantId).Pairwise fun one two => one.id ≠ two.id := by
    have own : Library.Unique (·.id) (newest db merchantId) := by
      refine ((newest_perm db merchantId).map _).nodup_iff.mpr ?_
      exact checked.ids.sublist (List.filter_sublist.map _)
    exact List.pairwise_map.mp own
  have ordered : (newest db merchantId).Pairwise fun one two =>
      listedBefore one.createdAt one.id two.createdAt two.id = true := by
    apply List.pairwise_mergeSort
    · intro one two three first next
      exact listedBefore_trans first next
    · intro one two
      exact listedBefore_total
  refine (distinct.and ordered).imp ?_
  intro one two both
  simp only [standsBefore, decide_eq_true_eq]
  exact listedBefore_strict both.2 both.1

/-- The first fifty of the list are the recent ones. -/
theorem mem_recent (checked : Checked db) : row ∈ (newest db merchantId).take 50 ↔
    row ∈ newest db merchantId ∧ Recent db row := by
  rw [mem_take_iff (newest_sorted checked merchantId) standsBefore_asymm]
  constructor
  · intro ⟨mem, few⟩
    refine ⟨mem, ?_⟩
    unfold Recent
    rw [(mem_newest.mp mem).2, ← ((newest_perm db merchantId).filter _).length_eq]
    exact few
  · intro ⟨mem, few⟩
    refine ⟨mem, ?_⟩
    unfold Recent at few
    rw [(mem_newest.mp mem).2, ← ((newest_perm db merchantId).filter _).length_eq] at few
    exact few

theorem statementRows_eq : statementRows db merchantId answered range =
    if answered then
      ((newest db merchantId).take 50).filter fun row => withinRange range (dayOf row.createdAt)
    else [] := by
  cases answered <;> rfl

theorem mem_statementRows (checked : Checked db) :
    row ∈ statementRows db merchantId answered range ↔
      answered = true ∧ row ∈ newest db merchantId ∧ Recent db row ∧
        withinRange range (dayOf row.createdAt) = true := by
  rw [statementRows_eq]
  cases answered with
  | false => simp
  | true => simp [List.mem_filter, mem_recent checked, and_assoc]

/-- The sales the rows make up on the days that are wanted. -/
def shownSales (rows : List TransactionRow) (wanted : String → Bool) : List TransactionRow :=
  rows.filter fun row => row.state = .successful ∧ wanted (dayOf row.createdAt) = true

theorem mem_salesOf {wanted : String → Bool} : row ∈ salesOf db merchantId wanted ↔
    row ∈ newest db merchantId ∧ row.state = .successful ∧ wanted (dayOf row.createdAt) = true := by
  rw [salesOf, List.mem_filter, decide_eq_true_eq, mem_newest, and_assoc]

theorem salesOf_perm (wanted : String → Bool) :
    (shownSales (newest db merchantId) wanted).Perm (salesOf db merchantId wanted) := by
  unfold shownSales
  have split : salesOf db merchantId wanted =
      (db.transactions.filter fun row => row.merchantId = merchantId).filter fun row =>
        row.state = .successful ∧ wanted (dayOf row.createdAt) = true := by
    rw [List.filter_filter]
    apply List.filter_congr
    intro row _
    rw [← Bool.decide_and, decide_eq_decide]
    tauto
  rw [split]
  exact (newest_perm db merchantId).filter _

end Rows

section Charges

variable {db : Db} {merchantId : MerchantId} {range : Option DateRange}
  {charge : SoftwareFeeCharge} {day : String}

/-- The months a range reads charges of. -/
def monthly (range : Option DateRange) (charge : SoftwareFeeCharge) : Bool :=
  range.all fun bounds =>
    String.ofList (bounds.low.toList.take 7) ≤ periodText charge.period ∧
      periodText charge.period ≤ String.ofList (bounds.high.toList.take 7)

/-- The charges the statement counts. -/
def countedCharges (db : Db) (merchantId : MerchantId) (range : Option DateRange) :
    List SoftwareFeeCharge :=
  (chargesFor db merchantId range).filter fun charge =>
    charge.status ≠ .waived ∧ withinRange range (feeDay charge) = true

theorem countedCharges_perm (db : Db) (merchantId : MerchantId) (range : Option DateRange) :
    (countedCharges db merchantId range).Perm
      ((feesOf db merchantId (withinRange range)).filter (monthly range)) := by
  have same : (feesOf db merchantId (withinRange range)).filter (monthly range) =
      (db.softwareFeeCharges.filter fun charge =>
        charge.merchantId = merchantId ∧ monthly range charge = true).filter fun charge =>
          charge.status ≠ .waived ∧ withinRange range (feeDay charge) = true := by
    unfold feesOf
    rw [List.filter_filter, List.filter_filter]
    apply List.filter_congr
    intro charge _
    rw [Bool.eq_iff_iff, Bool.and_eq_true, Bool.and_eq_true, decide_eq_true_eq, decide_eq_true_eq,
      decide_eq_true_eq]
    constructor
    · intro ⟨month, ⟨own, kept⟩, within⟩
      exact ⟨⟨kept, within⟩, own, month⟩
    · intro ⟨⟨kept, within⟩, own, month⟩
      exact ⟨month, ⟨own, kept⟩, within⟩
  rw [same]
  exact (List.mergeSort_perm _ _).filter _

theorem mem_countedCharges : charge ∈ countedCharges db merchantId range ↔
    charge ∈ feesOf db merchantId (withinRange range) ∧ monthly range charge = true := by
  rw [(countedCharges_perm db merchantId range).mem_iff, List.mem_filter]

theorem foldl_fee (charges : List SoftwareFeeCharge) (seen : DayFee) :
    (charges.foldl DayFee.add seen).minor = seen.minor + feeMinor charges := by
  unfold feeMinor
  induction charges generalizing seen with
  | nil => simp
  | cons charge charges ih =>
    have step : (seen.add charge).minor = seen.minor + charge.amount.minor := rfl
    rw [List.foldl_cons, ih, step, total_cons, Int.add_assoc]

/-- A day's fee is the sum of the charges counted on it, where there are some. -/
theorem lookup_statementFees : (statementFees db merchantId range).lookup day =
    if ∃ charge ∈ countedCharges db merchantId range, feeDay charge = day then
      some (((countedCharges db merchantId range).filter fun charge =>
        feeDay charge = day).foldl DayFee.add {})
    else none :=
  lookup_tally

theorem statementFees_single : (statementFees db merchantId range).Single :=
  single_tally

theorem mem_feeDays : day ∈ (statementFees db merchantId range).map Prod.fst ↔
    ∃ charge ∈ countedCharges db merchantId range, feeDay charge = day := by
  rw [Entries.mem_keys, lookup_statementFees]
  split
  · rename_i there
    simp [there]
  · rename_i missing
    simp [missing]

theorem total_statementFees :
    total (fun entry => entry.2.minor) (statementFees db merchantId range) =
      feeMinor (countedCharges db merchantId range) := by
  have each : ∀ entry ∈ statementFees db merchantId range,
      entry.2.minor = total (·.amount.minor) ((countedCharges db merchantId range).filter
        fun charge => feeDay charge = entry.1) := by
    intro entry mem
    have found := statementFees_single.lookup mem
    rw [lookup_statementFees] at found
    split at found
    · rw [← Option.some.inj found, foldl_fee]
      exact Int.zero_add _
    · cases found
  rw [total_by_key statementFees_single each]
  have whole : (countedCharges db merchantId range).filter (fun charge =>
      feeDay charge ∈ (statementFees db merchantId range).map Prod.fst) =
      countedCharges db merchantId range := by
    apply List.filter_eq_self.mpr
    intro charge mem
    exact decide_eq_true (mem_feeDays.mpr ⟨charge, mem, rfl⟩)
  rw [whole]
  rfl

end Charges

section Totals

variable {db : Db} {merchantId : MerchantId} {answered : Bool} {range : Option DateRange}
  {day : String} {seen : DayTotals}

theorem foldl_totals (rows : List TransactionRow) (seen : DayTotals) :
    (rows.foldl DayTotals.add seen).sales =
        seen.sales + (rows.filter fun row => row.state = .successful).length ∧
      (rows.foldl DayTotals.add seen).gross =
        seen.gross + grossMinor (rows.filter fun row => row.state = .successful) := by
  unfold grossMinor
  induction rows generalizing seen with
  | nil => simp
  | cons row rows ih =>
    obtain ⟨sales, gross⟩ := ih (seen.add row)
    rw [List.foldl_cons, sales, gross]
    by_cases sold : row.state = .successful
    · simp only [DayTotals.add, sold, List.filter_cons, decide_true, if_true, List.length_cons,
        total_cons]
      omega
    · simp only [DayTotals.add, sold, List.filter_cons, decide_false, if_false,
        Bool.false_eq_true]
      omega

theorem statementTotals_single : (statementTotals db merchantId answered range).Single :=
  single_including single_tally

theorem lookup_statementTotals : (statementTotals db merchantId answered range).lookup day =
    (if ∃ row ∈ statementRows db merchantId answered range, dayOf row.createdAt = day then
      some (((statementRows db merchantId answered range).filter fun row =>
        dayOf row.createdAt = day).foldl DayTotals.add {})
    else none).or
      (if ∃ charge ∈ countedCharges db merchantId range, feeDay charge = day then some {}
      else none) := by
  unfold statementTotals
  rw [lookup_including, lookup_tally]
  congr 1
  by_cases there : ∃ charge ∈ countedCharges db merchantId range, feeDay charge = day
  · rw [if_pos there, if_pos (mem_feeDays.mpr there)]
  · rw [if_neg there, if_neg fun listed => there (mem_feeDays.mp listed)]

/-- The statement has a row for each day with a transaction of its list, or with a fee it counts. -/
theorem mem_statementDays :
    day ∈ (statementTotals db merchantId answered range).map Prod.fst ↔
      (∃ row ∈ statementRows db merchantId answered range, dayOf row.createdAt = day) ∨
      ∃ charge ∈ countedCharges db merchantId range, feeDay charge = day := by
  rw [Entries.mem_keys, lookup_statementTotals]
  by_cases sold : ∃ row ∈ statementRows db merchantId answered range, dayOf row.createdAt = day
  · rw [if_pos sold]
    simp [sold]
  · rw [if_neg sold]
    by_cases charged : ∃ charge ∈ countedCharges db merchantId range, feeDay charge = day
    · rw [if_pos charged]
      simp [charged]
    · rw [if_neg charged]
      simp [sold, charged]

theorem statementTotals_figures
    (mem : (day, seen) ∈ statementTotals db merchantId answered range) :
    seen.sales = (shownSales (statementRows db merchantId answered range) (· = day)).length ∧
      seen.gross =
        grossMinor (shownSales (statementRows db merchantId answered range) (· = day)) := by
  have found := statementTotals_single.lookup mem
  have days : ∀ rows : List TransactionRow, shownSales rows (· = day) =
      (rows.filter fun row => dayOf row.createdAt = day).filter fun row =>
        row.state = .successful := by
    intro rows
    unfold shownSales
    rw [List.filter_filter]
    apply List.filter_congr
    intro row _
    simp
  rw [lookup_statementTotals] at found
  rw [days]
  by_cases sold : ∃ row ∈ statementRows db merchantId answered range, dayOf row.createdAt = day
  · rw [if_pos sold, Option.some_or] at found
    cases found
    obtain ⟨sales, gross⟩ := foldl_totals ((statementRows db merchantId answered range).filter
      fun row => dayOf row.createdAt = day) {}
    rw [sales, gross]
    exact ⟨Nat.zero_add _, Int.zero_add _⟩
  · rw [if_neg sold, Option.none_or] at found
    have none : (statementRows db merchantId answered range).filter
        (fun row => dayOf row.createdAt = day) = [] := by
      apply List.filter_eq_nil_iff.mpr
      intro row listed hit
      exact sold ⟨row, listed, of_decide_eq_true hit⟩
    split at found
    · cases found
      rw [none]
      exact ⟨rfl, rfl⟩
    · cases found

end Totals

section Screens

variable {db : Db} {merchantId : MerchantId} {answered : Bool} {range : Option DateRange}
  {screen : StatementScreen} {day : String}

/-- The sales among the rows of a statement. -/
abbrev soldRows (db : Db) (merchantId : MerchantId) (answered : Bool) (range : Option DateRange) :
    List TransactionRow :=
  (statementRows db merchantId answered range).filter fun row => row.state = .successful

theorem shownSales_day (rows : List TransactionRow) (day : String) : shownSales rows (· = day) =
    (rows.filter fun row => row.state = .successful).filter fun row =>
      dayOf row.createdAt = day := by
  unfold shownSales
  rw [List.filter_filter]
  apply List.filter_congr
  intro row _
  rw [← Bool.decide_and, decide_eq_decide, decide_eq_true_eq]
  exact and_comm

/-- What is on a statement: the figures of what it counts. -/
structure Screened (db : Db) (merchantId : MerchantId) (answered : Bool)
    (range : Option DateRange) (screen : StatementScreen) : Prop where
  names : (screen.days.map (·.day)).Perm
    ((statementTotals db merchantId answered range).map Prod.fst)
  rows : ∀ row ∈ screen.days,
    row.sales = (shownSales (statementRows db merchantId answered range) (· = row.day)).length ∧
    row.gross.minor =
      grossMinor (shownSales (statementRows db merchantId answered range) (· = row.day)) ∧
    row.profit.minor = profitMinor (earningsOf db merchantId (· = row.day)) ∧
    SafeInteger (feeMinor ((countedCharges db merchantId range).filter fun charge =>
      feeDay charge = row.day))
  sales : screen.totalSales = (soldRows db merchantId answered range).length
  gross : screen.totalGross.minor = grossMinor (soldRows db merchantId answered range)
  profit : screen.totalProfit.minor = total (fun day => day.profit.minor) screen.days
  fees : (screen.totalFees.map (·.minor)).getD 0 = feeMinor (countedCharges db merchantId range) ∧
    SafeInteger (feeMinor (countedCharges db merchantId range))

theorem length_statementDay
    (mem : day ∈ (statementTotals db merchantId answered range).map Prod.fst) :
    day.toList.length = 10 := by
  rcases mem_statementDays.mp mem with ⟨row, _, rfl⟩ | ⟨charge, _, rfl⟩
  · exact length_dayOf _
  · exact length_feeDay _

theorem money_safe {minor : Int} {amount : Money} (made : money minor = .ok amount) :
    SafeInteger minor := by
  rw [← money_ok.mp made]
  exact amount.safe

theorem money_made {minor : Int} (safe : SafeInteger minor) : ∃ amount, money minor = .ok amount :=
  ⟨⟨minor, safe⟩, dif_pos safe⟩

theorem statementDay_ok {entry : String × DayTotals} {row : StatementDay}
    (mem : entry ∈ statementTotals db merchantId answered range)
    (done : statementDay db merchantId (statementFees db merchantId range) entry = .ok row) :
    row.day = entry.1 ∧
    row.sales = (shownSales (statementRows db merchantId answered range) (· = entry.1)).length ∧
    row.gross.minor =
      grossMinor (shownSales (statementRows db merchantId answered range) (· = entry.1)) ∧
    row.profit.minor = profitMinor (earningsOf db merchantId (· = entry.1)) ∧
    SafeInteger (feeMinor ((countedCharges db merchantId range).filter fun charge =>
      feeDay charge = entry.1)) := by
  simp only [statementDay, bind_ok, pure_ok] at done
  obtain ⟨gross, made, profit, made', fee, made'', rfl⟩ := done
  obtain ⟨sales, gross'⟩ := statementTotals_figures mem
  have full := length_statementDay (List.mem_map_of_mem mem)
  refine ⟨rfl, sales, ?_, ?_, ?_⟩
  · exact (money_ok.mp made).trans gross'
  · exact (money_ok.mp made').trans (profitForDay_eq full)
  · rw [lookup_statementFees] at made''
    by_cases there : ∃ charge ∈ countedCharges db merchantId range, feeDay charge = entry.1
    · rw [if_pos there] at made''
      simp only [statementFee, bind_ok, pure_ok] at made''
      obtain ⟨minor, made'', _⟩ := made''
      have safe := money_safe made''
      rw [foldl_fee] at safe
      have start : ({} : DayFee).minor = 0 := rfl
      rw [start, Int.zero_add] at safe
      exact safe
    · have none : (countedCharges db merchantId range).filter
          (fun charge => feeDay charge = entry.1) = [] := by
        apply List.filter_eq_nil_iff.mpr
        intro charge listed hit
        exact there ⟨charge, listed, of_decide_eq_true hit⟩
      rw [none]
      decide

theorem forall₂_names {f : String × DayTotals → Except Fault StatementDay}
    {entries : List (String × DayTotals)} {days : List StatementDay}
    (each : List.Forall₂ (fun entry row => f entry = .ok row) entries days)
    (names : ∀ entry ∈ entries, ∀ row, f entry = .ok row → row.day = entry.1) :
    days.map (·.day) = entries.map Prod.fst := by
  induction each with
  | nil => rfl
  | cons first each ih =>
    rw [List.map_cons, List.map_cons, names _ List.mem_cons_self _ first,
      ih fun entry mem => names entry (List.mem_cons_of_mem _ mem)]

theorem totalFees_ok {fees : Option Money}
    (made : statementTotalFees (statementFees db merchantId range) = .ok fees) :
    (fees.map (·.minor)).getD 0 = feeMinor (countedCharges db merchantId range) ∧
      SafeInteger (feeMinor (countedCharges db merchantId range)) := by
  unfold statementTotalFees at made
  rw [total_statementFees] at made
  split at made
  · rename_i empty
    cases made
    rw [List.isEmpty_iff] at empty
    have none : feeMinor (countedCharges db merchantId range) = 0 := by
      rw [← total_statementFees, empty]
      rfl
    rw [none]
    exact ⟨rfl, by decide⟩
  · obtain ⟨minor, made', rfl⟩ := map_ok.mp made
    exact ⟨money_ok.mp made', money_safe made'⟩

theorem soldRows_days (names : List String)
    (same : names.Perm ((statementTotals db merchantId answered range).map Prod.fst)) :
    (soldRows db merchantId answered range).filter (fun row => dayOf row.createdAt ∈ names) =
      soldRows db merchantId answered range := by
  apply List.filter_eq_self.mpr
  intro row mem
  have listed : dayOf row.createdAt ∈
      (statementTotals db merchantId answered range).map Prod.fst :=
    mem_statementDays.mpr (.inl ⟨row, List.mem_of_mem_filter mem, rfl⟩)
  exact decide_eq_true (same.mem_iff.mpr listed)

theorem total_gross : total (fun entry => entry.2.gross)
    (statementTotals db merchantId answered range) =
      grossMinor (soldRows db merchantId answered range) := by
  have each : ∀ entry ∈ statementTotals db merchantId answered range,
      entry.2.gross = total (·.amount.minor) ((soldRows db merchantId answered range).filter
        fun row => dayOf row.createdAt = entry.1) := by
    intro entry mem
    rw [(statementTotals_figures mem).2, shownSales_day]
    rfl
  rw [total_by_key statementTotals_single each, soldRows_days _ (.refl _)]
  rfl

theorem total_sales {days : List StatementDay}
    (names : (days.map (·.day)).Perm
      ((statementTotals db merchantId answered range).map Prod.fst))
    (each : ∀ row ∈ days,
      row.sales = (shownSales (statementRows db merchantId answered range) (· = row.day)).length) :
    (days.map (·.sales)).sum = (soldRows db merchantId answered range).length := by
  have distinct : (days.map (·.day)).Nodup := names.nodup_iff.mpr statementTotals_single
  have counted : ∀ row ∈ days, (row.sales : Int) = total (fun _ => 1)
      ((soldRows db merchantId answered range).filter fun sale =>
        dayOf sale.createdAt = row.day) := by
    intro row mem
    rw [each row mem, shownSales_day, total_const fun _ _ => rfl, Int.one_mul]
  have whole := total_by_key distinct counted
  rw [soldRows_days _ names, total_const fun _ _ => rfl, Int.one_mul] at whole
  have sum : (((days.map (·.sales)).sum : Nat) : Int) = total (fun row => (row.sales : Int)) days := by
    clear whole counted distinct each names
    induction days with
    | nil => rfl
    | cons row days ih =>
      rw [List.map_cons, List.sum_cons, total_cons, ← ih]
      push_cast
      rfl
  exact Int.ofNat.inj (sum.trans whole)

/-- The rows of a statement, one for each day with its figures. -/
theorem listed_days {days : List StatementDay}
    (listed : ((statementTotals db merchantId answered range).mergeSort fun a b =>
      decide (b.1 ≤ a.1)).mapM (statementDay db merchantId (statementFees db merchantId range)) =
        .ok days) :
    (days.map (·.day)).Perm ((statementTotals db merchantId answered range).map Prod.fst) ∧
    ∀ row ∈ days,
      row.sales = (shownSales (statementRows db merchantId answered range) (· = row.day)).length ∧
      row.gross.minor =
        grossMinor (shownSales (statementRows db merchantId answered range) (· = row.day)) ∧
      row.profit.minor = profitMinor (earningsOf db merchantId (· = row.day)) ∧
      SafeInteger (feeMinor ((countedCharges db merchantId range).filter fun charge =>
        feeDay charge = row.day)) := by
  have each := forall₂_of_mapM_ok listed
  have sorted := List.mergeSort_perm (statementTotals db merchantId answered range)
    fun a b => decide (b.1 ≤ a.1)
  constructor
  · rw [forall₂_names each fun entry mem row done =>
      (statementDay_ok (sorted.mem_iff.mp mem) done).1]
    exact sorted.map _
  · intro row mem
    obtain ⟨entry, mem', made⟩ := mem_of_mapM_ok listed row mem
    obtain ⟨same, figures⟩ := statementDay_ok (sorted.mem_iff.mp mem') made
    rw [same]
    exact figures

theorem screened_of_ok (done : statement db merchantId answered range = .ok screen) :
    Screened db merchantId answered range screen := by
  simp only [Application.Statements.statement, bind_ok, pure_ok] at done
  obtain ⟨days, listed, gross, made, profit, made', fees, made'', rfl⟩ := done
  obtain ⟨names, figures⟩ := listed_days listed
  exact ⟨names, figures, total_sales names fun row mem => (figures row mem).1,
    (money_ok.mp made).trans total_gross, money_ok.mp made', totalFees_ok made''⟩

theorem statementFee_made (safe : SafeInteger (feeMinor ((countedCharges db merchantId range).filter
    fun charge => feeDay charge = day))) :
    ∃ fee, statementFee ((statementFees db merchantId range).lookup day) = .ok fee := by
  rw [lookup_statementFees]
  split
  · have sum : SafeInteger (((countedCharges db merchantId range).filter fun charge =>
        feeDay charge = day).foldl DayFee.add {}).minor := by
      have start : ({} : DayFee).minor = 0 := rfl
      rw [foldl_fee, start, Int.zero_add]
      exact safe
    obtain ⟨minor, made⟩ := money_made sum
    simp only [statementFee, made]
    exact ⟨_, rfl⟩
  · exact ⟨none, rfl⟩

theorem totalFees_made (safe : SafeInteger (feeMinor (countedCharges db merchantId range))) :
    ∃ fees, statementTotalFees (statementFees db merchantId range) = .ok fees := by
  unfold statementTotalFees
  rw [total_statementFees]
  split
  · exact ⟨none, rfl⟩
  · obtain ⟨minor, made⟩ := money_made safe
    rw [made]
    exact ⟨some minor, rfl⟩

/-- A statement is made where every figure it takes to write is a safe integer. -/
theorem statement_made
    (daily : ∀ day ∈ (statementTotals db merchantId answered range).map Prod.fst,
      SafeInteger (grossMinor (shownSales (statementRows db merchantId answered range) (· = day))) ∧
      SafeInteger (profitMinor (earningsOf db merchantId (· = day))) ∧
      SafeInteger (feeMinor ((countedCharges db merchantId range).filter fun charge =>
        feeDay charge = day)))
    (gross : SafeInteger (grossMinor (soldRows db merchantId answered range)))
    (profit : ∀ days : List StatementDay,
      (days.map (·.day)).Perm ((statementTotals db merchantId answered range).map Prod.fst) →
      (∀ row ∈ days, row.profit.minor = profitMinor (earningsOf db merchantId (· = row.day))) →
        SafeInteger (total (fun day => day.profit.minor) days))
    (fees : SafeInteger (feeMinor (countedCharges db merchantId range))) :
    ∃ screen, statement db merchantId answered range = .ok screen := by
  have each : ∀ entry ∈ statementTotals db merchantId answered range, ∃ row,
      statementDay db merchantId (statementFees db merchantId range) entry = .ok row := by
    intro entry mem
    have listed := List.mem_map_of_mem (f := Prod.fst) mem
    obtain ⟨gross, profit, fee⟩ := daily entry.1 listed
    rw [← (statementTotals_figures mem).2] at gross
    rw [← profitForDay_eq (length_statementDay listed)] at profit
    obtain ⟨gross, made⟩ := money_made gross
    obtain ⟨profit, made'⟩ := money_made profit
    obtain ⟨fee, made''⟩ := statementFee_made fee
    simp only [statementDay, made, made', made'']
    exact ⟨_, rfl⟩
  have sorted := List.mergeSort_perm (statementTotals db merchantId answered range)
    fun a b => decide (b.1 ≤ a.1)
  obtain ⟨days, listed⟩ := mapM_ok_of_each fun entry mem => each entry (sorted.mem_iff.mp mem)
  obtain ⟨names, figures⟩ := listed_days listed
  rw [← total_gross] at gross
  obtain ⟨gross, made⟩ := money_made gross
  obtain ⟨profit, made'⟩ := money_made (profit days names fun row mem => (figures row mem).2.2.1)
  obtain ⟨fees, made''⟩ := totalFees_made fees
  simp only [Application.Statements.statement, listed, made, made', made'', bind, Except.bind]
  exact ⟨_, rfl⟩

end Screens

section Whole

variable {db : Db} {merchantId : MerchantId} {answered : Bool} {range : Option DateRange}
  {screen : StatementScreen} {day : String} {row : TransactionRow}

theorem statementDay_within
    (mem : day ∈ (statementTotals db merchantId answered range).map Prod.fst) :
    withinRange range day = true := by
  rcases mem_statementDays.mp mem with ⟨row, listed, rfl⟩ | ⟨charge, listed, rfl⟩
  · rw [statementRows_eq] at listed
    split at listed
    · exact (List.mem_filter.mp listed).2
    · cases listed
  · have counted := (mem_countedCharges.mp listed).1
    exact (of_decide_eq_true (List.mem_filter.mp counted).2).2

/-- What is wanted of the sales is shown, when all of it is recent. -/
theorem shownSales_perm (checked : Checked db) {wanted : String → Bool}
    (within : ∀ day, wanted day = true → withinRange range day = true)
    (recent : ∀ row ∈ salesOf db merchantId (withinRange range),
      answered = true ∧ Recent db row) :
    (shownSales (statementRows db merchantId answered range) wanted).Perm
      (salesOf db merchantId wanted) := by
  have sold : ∀ row ∈ salesOf db merchantId wanted, answered = true ∧ Recent db row := by
    intro row mem
    obtain ⟨listed, state, day⟩ := mem_salesOf.mp mem
    exact recent row (mem_salesOf.mpr ⟨listed, state, within _ day⟩)
  rw [statementRows_eq]
  cases answered with
  | false =>
    have none : salesOf db merchantId wanted = [] := by
      apply List.eq_nil_iff_forall_not_mem.mpr
      intro row mem
      cases (sold row mem).1
    rw [none]
    rfl
  | true =>
    refine List.Perm.trans (List.Perm.of_eq ?_) (salesOf_perm wanted)
    have distinct : (newest db merchantId).Nodup := by
      have own := List.Nodup.of_map _ checked.ids
      exact (newest_perm db merchantId).nodup_iff.mpr (own.filter _)
    have fewer : shownSales ((newest db merchantId).take 50) wanted =
        shownSales (newest db merchantId) wanted := by
      apply filter_take distinct
      intro row listed hit
      have state := of_decide_eq_true hit
      exact (mem_recent checked).mpr
        ⟨listed, (sold row (mem_salesOf.mpr ⟨listed, state⟩)).2⟩
    rw [if_pos rfl, ← fewer]
    unfold shownSales
    rw [List.filter_filter]
    apply List.filter_congr
    intro row _
    rw [Bool.eq_iff_iff, Bool.and_eq_true]
    constructor
    · exact And.left
    · intro hit
      exact ⟨hit, within _ (of_decide_eq_true hit).2⟩

/-- The list shows all sales of a day only when every one of them is recent. -/
theorem recent_of_count (checked : Checked db)
    (count : (shownSales (statementRows db merchantId answered range) (· = day)).length =
      (salesOf db merchantId (· = day)).length)
    (mem : row ∈ salesOf db merchantId (· = day)) : answered = true ∧ Recent db row := by
  have all := (salesOf_perm (· = day)).mem_iff.mpr mem
  have sub : (shownSales (statementRows db merchantId answered range) (· = day)).Sublist
      (shownSales (newest db merchantId) (· = day)) := by
    rw [statementRows_eq]
    split
    · exact (List.filter_sublist.trans (List.take_sublist ..)).filter _
    · exact List.nil_sublist _
  have same := sub.eq_of_length (count.trans (salesOf_perm _).length_eq.symm)
  rw [← same] at all
  obtain ⟨shown, _, recent, _⟩ := (mem_statementRows checked).mp (List.mem_of_mem_filter all)
  exact ⟨shown, recent⟩

/-- What is left out of a sum of positive amounts is missing from it. -/
theorem all_of_total {charges : List SoftwareFeeCharge} {kept : SoftwareFeeCharge → Bool}
    (positive : ∀ charge ∈ charges, 0 < charge.amount.minor)
    (same : feeMinor (charges.filter kept) = feeMinor charges) :
    ∀ charge ∈ charges, kept charge = true := by
  have least : ∀ charges : List SoftwareFeeCharge,
      (∀ charge ∈ charges, 0 < charge.amount.minor) →
        feeMinor (charges.filter kept) ≤ feeMinor charges := by
    intro charges positive
    unfold feeMinor
    rw [total_filter]
    induction charges with
    | nil => exact Int.le_refl _
    | cons charge charges ih =>
      have own := positive charge List.mem_cons_self
      have rest := ih fun other mem => positive other (List.mem_cons_of_mem _ mem)
      rw [total_cons, total_cons]
      split <;> omega
  induction charges with
  | nil => exact fun _ mem => by cases mem
  | cons charge charges ih =>
    have own := positive charge List.mem_cons_self
    have others : ∀ other ∈ charges, 0 < other.amount.minor :=
      fun other mem => positive other (List.mem_cons_of_mem _ mem)
    have fewer := least charges others
    cases hit : kept charge with
    | false =>
      rw [List.filter_cons_of_neg (by simp [hit])] at same
      have whole : feeMinor (charge :: charges) = charge.amount.minor + feeMinor charges :=
        total_cons
      omega
    | true =>
      rw [List.filter_cons_of_pos hit] at same
      have first : feeMinor (charge :: charges.filter kept) =
          charge.amount.minor + feeMinor (charges.filter kept) := total_cons
      have whole : feeMinor (charge :: charges) = charge.amount.minor + feeMinor charges :=
        total_cons
      exact List.forall_mem_cons.mpr ⟨hit, ih others (by omega)⟩

theorem feesOf_day (within : withinRange range day = true) :
    feesOf db merchantId (· = day) =
      (feesOf db merchantId (withinRange range)).filter fun charge => feeDay charge = day := by
  unfold feesOf
  rw [List.filter_filter]
  apply List.filter_congr
  intro charge _
  rw [← Bool.decide_and, decide_eq_decide, decide_eq_true_eq]
  constructor
  · rintro ⟨own, rfl⟩
    exact ⟨rfl, own, within⟩
  · rintro ⟨rfl, own, _⟩
    exact ⟨own, rfl⟩

theorem earningsOf_day (within : withinRange range day = true) :
    earningsOf db merchantId (· = day) =
      (earningsOf db merchantId (withinRange range)).filter fun entry =>
        dayOf entry.createdAt = day := by
  unfold earningsOf
  rw [List.filter_filter]
  apply List.filter_congr
  intro entry _
  rw [← Bool.decide_and, decide_eq_decide, decide_eq_true_eq]
  constructor
  · rintro ⟨own, rfl⟩
    exact ⟨rfl, own, within⟩
  · rintro ⟨rfl, own, _⟩
    exact ⟨own, rfl⟩

/-- What a statement shows, its data allows. -/
theorem shown_of_shows (checked : Checked db)
    (screened : Screened db merchantId answered range screen)
    (shows : Shows db merchantId range screen) : Shown db merchantId answered range := by
  have positive : ∀ charge ∈ feesOf db merchantId (withinRange range), 0 < charge.amount.minor :=
    fun charge mem => checked.charges charge (List.mem_of_mem_filter mem)
  have counted : feeMinor (countedCharges db merchantId range) =
      feeMinor (feesOf db merchantId (withinRange range)) :=
    screened.fees.1.symm.trans shows.fees
  have charged : ∀ charge ∈ feesOf db merchantId (withinRange range),
      monthly range charge = true := by
    apply all_of_total positive
    rw [← counted]
    exact (((countedCharges_perm db merchantId range).map _).sum_eq).symm
  have all : (countedCharges db merchantId range).Perm
      (feesOf db merchantId (withinRange range)) := by
    refine (countedCharges_perm db merchantId range).trans (List.Perm.of_eq ?_)
    exact List.filter_eq_self.mpr charged
  have listed : ∀ row ∈ screen.days,
      row.day ∈ (statementTotals db merchantId answered range).map Prod.fst :=
    fun row mem => screened.names.mem_iff.mp (List.mem_map_of_mem mem)
  constructor
  · intro row mem
    obtain ⟨there, state, within⟩ := mem_salesOf.mp mem
    have own : row ∈ salesOf db merchantId (· = dayOf row.createdAt) :=
      mem_salesOf.mpr ⟨there, state, by simp⟩
    obtain ⟨shown, mem', named⟩ :=
      shows.complete _ within (.inl (List.ne_nil_of_mem own))
    have count := (screened.rows shown mem').1.symm.trans (shows.figures shown mem').1
    rw [named] at count
    exact recent_of_count checked count own
  · intro entry mem
    have within := (of_decide_eq_true (List.mem_filter.mp mem).2).2
    have own : entry ∈ earningsOf db merchantId (· = dayOf entry.createdAt) := by
      rw [earningsOf_day within]
      exact List.mem_filter.mpr ⟨mem, by simp⟩
    obtain ⟨shown, mem', named⟩ :=
      shows.complete _ within (.inr (.inl (List.ne_nil_of_mem own)))
    rcases mem_statementDays.mp (listed shown mem') with ⟨row, there, same⟩ | ⟨charge, there, same⟩
    · obtain ⟨answered, newest, recent, _⟩ := (mem_statementRows checked).mp there
      obtain ⟨stored, shop⟩ := mem_newest.mp newest
      exact .inl ⟨answered, row, stored, shop, same.trans named, recent⟩
    · exact .inr ⟨charge, (mem_countedCharges.mp there).1, same.trans named⟩
  · intro charge mem bounds some
    have month := charged charge mem
    unfold monthly at month
    rw [Option.mem_def.mp some] at month
    exact of_decide_eq_true month
  · intro day within
    by_cases there : ∃ row ∈ screen.days, row.day = day
    · obtain ⟨row, mem, rfl⟩ := there
      obtain ⟨_, gross, profit⟩ := shows.figures row mem
      refine ⟨gross ▸ row.gross.safe, profit ▸ row.profit.safe, ?_⟩
      have safe := (screened.rows row mem).2.2.2
      have same : feeMinor ((countedCharges db merchantId range).filter fun charge =>
          feeDay charge = row.day) = feeMinor (feesOf db merchantId (· = row.day)) := by
        rw [feesOf_day within]
        exact ((all.filter _).map _).sum_eq
      rw [← same]
      exact safe
    · have nothing : salesOf db merchantId (· = day) = [] ∧ earningsOf db merchantId (· = day) = [] ∧
          feesOf db merchantId (· = day) = [] := by
        refine ⟨?_, ?_, ?_⟩
        · by_contra some
          exact there (shows.complete day within (.inl some))
        · by_contra some
          exact there (shows.complete day within (.inr (.inl some)))
        · by_contra some
          exact there (shows.complete day within (.inr (.inr some)))
      rw [nothing.1, nothing.2.1, nothing.2.2]
      exact ⟨by decide, by decide, by decide⟩
  · refine ⟨shows.gross ▸ screen.totalGross.safe, shows.profit ▸ screen.totalProfit.safe, ?_⟩
    rw [← counted]
    exact screened.fees.2

/-- Where a merchant's data allows it, the statement shows all of it. -/
theorem shows_of_shown (checked : Checked db) (shown : Shown db merchantId answered range) :
    ∃ screen, statement db merchantId answered range = .ok screen ∧
      Shows db merchantId range screen := by
  have charged : ∀ charge ∈ feesOf db merchantId (withinRange range),
      monthly range charge = true := by
    intro charge mem
    unfold monthly
    rw [Option.all_eq_true]
    intro bounds some
    exact decide_eq_true (shown.charged charge mem bounds some)
  have all : (countedCharges db merchantId range).Perm
      (feesOf db merchantId (withinRange range)) := by
    refine (countedCharges_perm db merchantId range).trans (List.Perm.of_eq ?_)
    exact List.filter_eq_self.mpr charged
  have sold : (soldRows db merchantId answered range).Perm
      (salesOf db merchantId (withinRange range)) := by
    refine List.Perm.trans (List.Perm.of_eq ?_)
      (shownSales_perm checked (fun _ within => within) shown.recent)
    apply List.filter_congr
    intro row mem
    have within := ((mem_statementRows checked).mp mem).2.2.2
    simp [within]
  have daySales : ∀ day, withinRange range day = true →
      (shownSales (statementRows db merchantId answered range) (· = day)).Perm
        (salesOf db merchantId (· = day)) := by
    intro day within
    refine shownSales_perm checked ?_ shown.recent
    intro other same
    rw [of_decide_eq_true same]
    exact within
  have dayFees : ∀ day, withinRange range day = true →
      feeMinor ((countedCharges db merchantId range).filter fun charge => feeDay charge = day) =
        feeMinor (feesOf db merchantId (· = day)) := by
    intro day within
    rw [feesOf_day within]
    exact ((all.filter _).map _).sum_eq
  have grossOf : ∀ {one two : List TransactionRow}, one.Perm two →
      grossMinor one = grossMinor two := fun same => (same.map _).sum_eq
  -- Every day with earnings has a row, so the rows' profit is all of it.
  have profit : ∀ days : List StatementDay,
      (days.map (·.day)).Perm ((statementTotals db merchantId answered range).map Prod.fst) →
      (∀ row ∈ days, row.profit.minor = profitMinor (earningsOf db merchantId (· = row.day))) →
        total (fun day => day.profit.minor) days =
          profitMinor (earningsOf db merchantId (withinRange range)) := by
    intro days names each
    have distinct : (days.map (·.day)).Nodup := names.nodup_iff.mpr statementTotals_single
    have groups : ∀ row ∈ days, row.profit.minor =
        total (fun entry : LedgerEntryRow => signed entry.direction entry.amount.minor)
          ((earningsOf db merchantId (withinRange range)).filter fun entry =>
            dayOf entry.createdAt = row.day) := by
      intro row mem
      have within := statementDay_within (names.mem_iff.mp (List.mem_map_of_mem mem))
      rw [each row mem, earningsOf_day within]
      rfl
    rw [total_by_key distinct groups]
    refine congrArg (total _) (List.filter_eq_self.mpr ?_)
    intro entry mem
    refine decide_eq_true (names.mem_iff.mpr (mem_statementDays.mpr ?_))
    have within := (of_decide_eq_true (List.mem_filter.mp mem).2).2
    rcases shown.earned entry mem with ⟨answered, row, there, shop, same, recent⟩ |
      ⟨charge, there, same⟩
    · refine .inl ⟨row, (mem_statementRows checked).mpr ⟨answered, mem_newest.mpr ⟨there, shop⟩,
        recent, ?_⟩, same⟩
      rw [same]
      exact within
    · exact .inr ⟨charge, all.mem_iff.mpr there, same⟩
  have made : ∃ screen, statement db merchantId answered range = .ok screen := by
    apply statement_made
    · intro day mem
      have within := statementDay_within mem
      obtain ⟨gross, earned, fee⟩ := shown.daily day within
      rw [grossOf (daySales day within), dayFees day within]
      exact ⟨gross, earned, fee⟩
    · rw [grossOf sold]
      exact shown.whole.1
    · intro days names each
      rw [profit days names each]
      exact shown.whole.2.1
    · have same : feeMinor (countedCharges db merchantId range) =
          feeMinor (feesOf db merchantId (withinRange range)) := (all.map _).sum_eq
      rw [same]
      exact shown.whole.2.2
  obtain ⟨screen, done⟩ := made
  have screened := screened_of_ok done
  have listed : ∀ row ∈ screen.days, withinRange range row.day = true := fun row mem =>
    statementDay_within (screened.names.mem_iff.mp (List.mem_map_of_mem mem))
  refine ⟨screen, done, ?_, ?_, ?_, ?_, ?_, ?_, ?_⟩
  · exact screened.names.nodup_iff.mpr statementTotals_single
  · intro day within some
    have there : day ∈ screen.days.map (·.day) := by
      refine screened.names.mem_iff.mpr (mem_statementDays.mpr ?_)
      rcases some with some | some | some
      · obtain ⟨row, mem⟩ := List.exists_mem_of_ne_nil _ some
        have shown' := (daySales day within).mem_iff.mpr mem
        have hit := of_decide_eq_true (List.mem_filter.mp shown').2
        exact .inl ⟨row, List.mem_of_mem_filter shown', of_decide_eq_true hit.2⟩
      · obtain ⟨entry, mem⟩ := List.exists_mem_of_ne_nil _ some
        rw [earningsOf_day within] at mem
        obtain ⟨mem, same⟩ := List.mem_filter.mp mem
        have same := of_decide_eq_true same
        rcases shown.earned entry mem with ⟨answered, row, there, shop, same', recent⟩ |
          ⟨charge, there, same'⟩
        · have named := same'.trans same
          refine .inl ⟨row, (mem_statementRows checked).mpr ⟨answered,
            mem_newest.mpr ⟨there, shop⟩, recent, ?_⟩, named⟩
          rw [named]
          exact within
        · exact .inr ⟨charge, all.mem_iff.mpr there, same'.trans same⟩
      · obtain ⟨charge, mem⟩ := List.exists_mem_of_ne_nil _ some
        rw [feesOf_day within] at mem
        obtain ⟨mem, same⟩ := List.mem_filter.mp mem
        exact .inr ⟨charge, all.mem_iff.mpr mem, of_decide_eq_true same⟩
    obtain ⟨row, mem, named⟩ := List.mem_map.mp there
    exact ⟨row, mem, named⟩
  · intro row mem
    obtain ⟨sales, gross, earned, _⟩ := screened.rows row mem
    have same := daySales row.day (listed row mem)
    exact ⟨sales.trans same.length_eq, gross.trans (grossOf same), earned⟩
  · exact screened.sales.trans sold.length_eq
  · exact screened.gross.trans (grossOf sold)
  · exact screened.profit.trans
      (profit screen.days screened.names fun row mem => (screened.rows row mem).2.2.1)
  · exact screened.fees.1.trans (all.map _).sum_eq

end Whole

/-- Ten santim of airtime, sold at the start of 1970. -/
def firstSale : TransactionRow where
  id := "sale"
  merchantId := "shop"
  deviceId := "till"
  operatorId := "operator"
  productType := "AIRTIME"
  providerId := none
  amount := ⟨10, safe_ten⟩
  recipientMasked := "09******44"
  state := .successful
  idempotencyKey := "key"
  payloadFingerprint := "fingerprint"
  providerReference := none
  createdAt := 0
  updatedAt := 0

/-- A santim the shop earned by it, booked at some moment. -/
def commission (moment : Timestamp) : LedgerEntryRow where
  id := ("posting", 0)
  postingId := "posting"
  transactionId := some "sale"
  accountId := .merchant "shop" .telgaRevenue
  merchantId := some "shop"
  accountType := .telgaRevenue
  direction := .credit
  amount := ⟨1, by decide⟩
  entryType := .commissionCredit
  correlationId := ""
  ruleVersion := none
  createdAt := moment

def oneSale (settled : Timestamp) : Db :=
  { migrated with transactions := [firstSale], ledgerEntries := [commission settled] }

theorem oneSale_checked (settled : Timestamp) : Checked (oneSale settled) where
  ids := List.nodup_singleton _
  charges _ mem := by cases mem

end Telga.Proofs.Statements
