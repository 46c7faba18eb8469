import Mathlib.Algebra.Ring.Int.Defs
import Telga.Domain.Ids
import Telga.Domain.Money
import Telga.Library.Attempt

namespace Telga.Domain
open Library

inductive LedgerAccountKind
  | merchantFunds
  | merchantAvailable
  | merchantReserved
  | merchantUnderReview
  | telgaRevenue
  | providerSettlement
  | hardwareDeposits
  | refundReserves
  | bankClearing
deriving DecidableEq, Repr

/-- Merchant-owned account kinds: the undivided form and the three buckets it is divided into. -/
def merchantAccountKinds : List LedgerAccountKind :=
  [.merchantFunds, .merchantAvailable, .merchantReserved, .merchantUnderReview]

def isMerchantAccountKind (kind : LedgerAccountKind) : Bool :=
  merchantAccountKinds.contains kind

/-- A ledger account's id: one per merchant and kind, and one per platform kind. -/
inductive LedgerAccountId
  | merchant (merchantId : MerchantId) (kind : LedgerAccountKind)
  | platform (kind : LedgerAccountKind)
deriving DecidableEq, Repr

inductive EntryDirection
  | debit
  | credit
deriving DecidableEq, Repr

/-- Why an entry exists. -/
inductive EntryReason
  | fundingCredit
  | saleDebit
  | commissionCredit
  | feeDebit
  | reversal
  | adjustment
deriving DecidableEq, Repr

/-- The rule that produced a figure. -/
inductive RuleVersion
  | commissionShare (bps : Int)
  | softwareFee (period : Period)
deriving DecidableEq, Repr

/-- An entry before it is posted. -/
structure DraftEntry where
  accountId : LedgerAccountId
  accountKind : LedgerAccountKind
  merchantId : Option MerchantId := none
  transactionId : Option TransactionId := none
  direction : EntryDirection
  amount : Money
  reason : EntryReason
  ruleVersion : Option RuleVersion := none

/-- An entry once posted. -/
structure LedgerEntry extends DraftEntry where
  id : PostingId × Nat
  postingId : PostingId
  postedAt : Timestamp

/-- CREDIT is positive, DEBIT is negative. -/
def signed : EntryDirection → Int → Int
  | .credit, minor => minor
  | .debit, minor => -minor

def signedMinor (entry : DraftEntry) : Int :=
  signed entry.direction entry.amount.minor

def residualMinor (entries : List DraftEntry) : Int :=
  (entries.map signedMinor).sum

/-- Throw unless the posting balances. -/
def assertBalanced (entries : List DraftEntry) : Except Fault Unit :=
  demand (residualMinor entries = 0) .ledgerNotBalanced

end Telga.Domain
