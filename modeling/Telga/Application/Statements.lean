import Telga.Application.Fees
import Telga.Library.Calendar
import Telga.Library.Tally

namespace Telga.Application.Statements
open Domain Persistence Library

/-- The calendar day of a stored moment: the first ten characters of its text. -/
def dayOf (moment : Timestamp) : String :=
  String.ofList ((isoText moment).take 10)

structure DateRange where
  low : String
  high : String
deriving DecidableEq

/-- Whether a text is four digits, two and two, with hyphens between. -/
def isIsoDay (text : String) : Bool :=
  match text.toList with
  | [a, b, c, d, '-', e, f, '-', g, h] => [a, b, c, d, e, f, g, h].all Char.isDigit
  | _ => false

/-- A range from the query string. A malformed or partial range is no range, and reversed bounds
are swapped. -/
def dateRange (lower upper : Option String) : Option DateRange :=
  let low := lower.getD ""
  let high := upper.getD ""
  if isIsoDay low = false ∨ isIsoDay high = false then none
  else if low ≤ high then some ⟨low, high⟩ else some ⟨high, low⟩

/-- Inclusive on both ends. Without a range every day is within. -/
def withinRange (range : Option DateRange) (day : String) : Bool :=
  range.all fun range => range.low ≤ day ∧ day ≤ range.high

def periodText (period : Period) : String :=
  String.ofList (padded 4 period.year ++ '-' :: padded 2 period.month)

/-- The last calendar day of a period: day 0 of the next month. The runtime takes a year below a
hundred as one of the last century. -/
def periodEnd (period : Period) : String :=
  let year : Int := if period.year < 100 then 1900 + period.year else period.year
  let next : CivilDate :=
    { year := year + period.month / 12, month := (period.month % 12 : Nat) + 1, day := 1 }
  dayOf ((civilDays next - 1) * msPerDay)

example : periodEnd ⟨2024, 2⟩ = "2024-02-29" ∧ periodEnd ⟨2026, 12⟩ = "2026-12-31" := by
  decide +kernel

/-- Why a list of transactions is refused. -/
inductive ListRefusal
  | unknownStateFilter
  | limitOutOfRange
deriving DecidableEq

/-- A merchant's transactions, newest first. -/
def listTransactionDtos (db : Db) (merchantId : MerchantId) (limit : Option Nat)
    (states : Option (List TransactionState)) : List TransactionRow :=
  let rows := db.transactions.filter fun row => row.merchantId = merchantId
  let filtered := match states with
    | none => rows
    | some states => rows.filter fun row => row.state ∈ states
  let sorted := filtered.mergeSort fun a b =>
    if a.createdAt = b.createdAt then decide (¬ a.id < b.id)
    else decide (¬ a.createdAt < b.createdAt)
  match limit with
  | none => sorted
  | some limit => sorted.take limit

/-- The list's handler, with the filter and the limit as they were read, when they were given: a
state unless it is unknown, an integer unless it is none. -/
def listTransactions (db : Db) (merchantId : MerchantId)
    (state : Option (Option TransactionState)) (limit : Option (Option Int)) :
    Except ListRefusal (List TransactionRow) := do
  demand (state ≠ some none) .unknownStateFilter
  let limit := limit.getD (some 50)
  let limit ← expect limit .limitOutOfRange
  demand (1 ≤ limit ∧ limit ≤ 200) .limitOutOfRange
  return listTransactionDtos db merchantId (some limit.toNat)
    (state.map fun state => state.toList)

/-- A merchant's profit for one calendar day, from the ledger: an entry's text starts with the
day. -/
def profitForDay (db : Db) (merchantId : MerchantId) (day : String) : Int :=
  total (fun entry => signed entry.direction entry.amount.minor)
    (db.ledgerEntries.filter fun entry =>
      entry.merchantId = some merchantId ∧ entry.accountType = .telgaRevenue ∧
        day.toList.isPrefixOf (isoText entry.createdAt) = true ∧ entry.entryType ≠ .adjustment)

/-- A merchant's charges, of the periods from the month of one bound to that of the other. -/
def chargesFor (db : Db) (merchantId : MerchantId) (range : Option DateRange) :
    List SoftwareFeeCharge :=
  (db.softwareFeeCharges.filter fun charge =>
    charge.merchantId = merchantId ∧ range.all (fun range =>
      String.ofList (range.low.toList.take 7) ≤ periodText charge.period ∧
        periodText charge.period ≤ String.ofList (range.high.toList.take 7)) = true).mergeSort
    fun a b => periodText b.period ≤ periodText a.period

structure DayTotals where
  sales : Nat := 0
  gross : Int := 0
  reversals : Nat := 0

/-- Only a settled sale counts as one. -/
def DayTotals.add (seen : DayTotals) (row : TransactionRow) : DayTotals :=
  { sales := seen.sales + if row.state = .successful then 1 else 0
    gross := seen.gross + if row.state = .successful then row.amount.minor else 0
    reversals := seen.reversals +
      if row.state = .reversed ∨ row.state = .reversalRequired then 1 else 0 }

structure DayFee where
  minor : Int := 0
  unpaid : Bool := false

def DayFee.add (seen : DayFee) (charge : SoftwareFeeCharge) : DayFee :=
  { minor := seen.minor + charge.amount.minor
    unpaid := seen.unpaid || charge.status = .arrears }

/-- The day a charge is shown on: when it was taken, or the last of the month it is owed for. -/
def feeDay (charge : SoftwareFeeCharge) : String :=
  match charge.chargedAt with
  | none => periodEnd charge.period
  | some at' => dayOf at'

structure StatementDay where
  day : String
  sales : Nat
  gross : Money
  profit : Money
  reversals : Nat
  fee : Option (Money × Bool)

structure StatementScreen where
  days : List StatementDay
  range : Option DateRange
  totalSales : Nat
  totalGross : Money
  totalProfit : Money
  totalFees : Option Money

/-- The transactions the statement is made of: those of the list, if the page's own request for it
is answered, that are within the range. -/
def statementRows (db : Db) (merchantId : MerchantId) (answered : Bool) (range : Option DateRange) :
    List TransactionRow :=
  match answered, listTransactions db merchantId none none with
  | true, .ok rows => rows.filter fun row => withinRange range (dayOf row.createdAt)
  | _, _ => []

/-- The software fees, on the days they were taken or fell due. -/
def statementFees (db : Db) (merchantId : MerchantId) (range : Option DateRange) :
    Entries String DayFee :=
  tally feeDay DayFee.add {} ((chargesFor db merchantId range).filter fun charge =>
    charge.status ≠ .waived ∧ withinRange range (feeDay charge) = true)

/-- The totals of each day with a transaction, and of each other day with a fee. -/
def statementTotals (db : Db) (merchantId : MerchantId) (answered : Bool)
    (range : Option DateRange) : Entries String DayTotals :=
  including {} ((statementFees db merchantId range).map (·.1))
    (tally (fun row => dayOf row.createdAt) DayTotals.add {}
      (statementRows db merchantId answered range))

def statementFee (fee : Option DayFee) : Except Fault (Option (Money × Bool)) :=
  match fee with
  | none => .ok none
  | some fee => do
    let minor ← money fee.minor
    return some (minor, fee.unpaid)

def statementDay (db : Db) (merchantId : MerchantId) (fees : Entries String DayFee)
    (entry : String × DayTotals) : Except Fault StatementDay := do
  let gross ← money entry.2.gross
  let profit ← money (profitForDay db merchantId entry.1)
  let fee ← statementFee (fees.lookup entry.1)
  return { day := entry.1, sales := entry.2.sales, gross, profit,
           reversals := entry.2.reversals, fee }

def statementTotalFees (fees : Entries String DayFee) : Except Fault (Option Money) :=
  if fees.isEmpty then .ok none
  else some <$> money (total (fun entry => entry.2.minor) fees)

/-- The statement: one row a calendar day, the latest first, and a footer summed from the rows. -/
def statement (db : Db) (merchantId : MerchantId) (answered : Bool) (range : Option DateRange) :
    Except Fault StatementScreen := do
  let fees := statementFees db merchantId range
  let byDay := statementTotals db merchantId answered range
  let days ← (byDay.mergeSort fun a b => b.1 ≤ a.1).mapM (statementDay db merchantId fees)
  let totalGross ← money (total (fun entry => entry.2.gross) byDay)
  let totalProfit ← money (total (fun day => day.profit.minor) days)
  let totalFees ← statementTotalFees fees
  return { days, range, totalSales := (days.map (·.sales)).sum, totalGross, totalProfit,
           totalFees }

/-- The statements page: for the owner only, where the shop set it so. -/
inductive StatementsPage
  | adminOnly
  | shown (screen : StatementScreen)

def statementsPage (db : Db) (merchantId : MerchantId) (role : ActorRole)
    (statementsAdminOnly answered : Bool) (lower upper : Option String) :
    Except Fault StatementsPage :=
  if statementsAdminOnly = true ∧ role ≠ .merchantOwner then .ok .adminOnly
  else .shown <$> statement db merchantId answered (dateRange lower upper)

end Telga.Application.Statements
