import Telga.Proofs.Views

namespace Telga.Proofs
open Domain Persistence Application Library

/-- An operation is given a stored sale, its merchant and its amount. -/
def Concerns (db : Db) (context : OperationContext) (transactionId : TransactionId)
    (merchantId : MerchantId) : Prop :=
  context.transactionId = transactionId ∧ context.merchantId = merchantId ∧
  Sold db transactionId merchantId context.amount

/-- An operation is given a sale as it is stored right now, in a known state. -/
def Found (db : Db) (context : OperationContext) (transactionId : TransactionId)
    (merchantId : MerchantId) (state : TransactionState) : Prop :=
  context.transactionId = transactionId ∧ context.merchantId = merchantId ∧
  ∃ row ∈ db.transactions, row.id = transactionId ∧ row.merchantId = merchantId ∧
    row.amount = context.amount ∧ row.state = state

/-- What a call that opened a sale remembers of it. -/
structure Remembered (db : Db) (call : SaleCall) (transaction : Transaction) : Prop where
  sold : Sold db transaction.id call.request.merchantId call.request.amount
  merchant : transaction.merchantId = call.request.merchantId
  key : transaction.idempotencyKey = call.key

/-- What a call of `createSale` knows about the database at each point. -/
def KnownSale (db : Db) (sale : CreateSale) : Prop :=
  match sale.point with
  | .submitting reserved => Remembered db sale.toSaleCall reserved ∧ reserved.state = .reserved
  | .awaiting processing => Remembered db sale.toSaleCall processing ∧ processing.state = .processing
  | .applying processing _ => Remembered db sale.toSaleCall processing ∧ processing.state = .processing
  | .releasing processing => Remembered db sale.toSaleCall processing ∧ processing.state = .processing
  | _ => True

/-- A row a sweep read: the sale is stored, and one that was still reserved carried no provider
reference. -/
structure Swept (db : Db) (row : TransactionRow) : Prop where
  sold : Sold db row.id row.merchantId row.amount
  unreferenced : row.state = .reserved → row.providerReference = none

/-- What a sweep knows: it never gets to a reserved sale with a provider reference. -/
def KnownSweep (db : Db) (sweep : RecoverInFlight) : Prop :=
  match sweep.point with
  | .job _ _ current => Swept db current
  | .neverSubmitted work => Swept db work.current ∧ work.current.state = .reserved
  | .uncertain _ => False
  | _ => True

def KnownRequire (db : Db) (call : RequireReversal) : Prop :=
  match call.point with
  | .requiring row =>
    row.id = call.transactionId ∧ row.merchantId = call.merchantId ∧
    Sold db row.id row.merchantId row.amount ∧
    (row.state = .pending ∨ row.state = .underReview)
  | _ => True

/-- The table's checks on a transfer. -/
def Transferable (row : ShopTransferRow) : Prop :=
  0 < row.amountMinor ∧ 0 ≤ row.feeMinor ∧ row.senderMerchantId ≠ row.recipientMerchantId

def KnownTransfer (call : DecideTransfer) : Prop :=
  match call.point with
  | .approving row => row.id = call.id ∧ Transferable row
  | _ => True

def KnownFiling (db : Db) (call : FileReversal) : Prop :=
  match call.point with
  | .looking sale => Sold db call.transactionId call.merchantId sale.amount
  | .filing sale _ => Sold db call.transactionId call.merchantId sale.amount
  | _ => True

/-- A request is stored under an id, for a sale that was settled. -/
def Asked (db : Db) (id : String) (request : ApprovedRequest) : Prop :=
  (∃ row ∈ db.reversalRequests, row.id = id ∧ row.transactionId = request.transactionId ∧
    row.merchantId = request.merchantId ∧ row.amount = request.amount) ∧
  Sold db request.transactionId request.merchantId request.amount ∧
  Ended db request.transactionId

def KnownDecision (db : Db) (call : DecideReversal) : Prop :=
  match call.point with
  | .posting request => Asked db call.id request
  | _ => True

/-- What a running call knows about the database, whatever the others do meanwhile. -/
def Known (db : Db) : Process → Prop
  | .createSale sale => KnownSale db sale
  | .recoverInFlight sweep => KnownSweep db sweep
  | .requireReversal call => KnownRequire db call
  | .decideTransfer call => KnownTransfer call
  | .fileReversal call => KnownFiling db call
  | .decideReversal call => KnownDecision db call
  | _ => True

/-- The rows a call of `createSale` opens a sale with, all new, and covered by the balance. -/
structure Opening (db : Db) (sale : CreateSale) (row : TransactionRow) (hold : ReservationRow)
    (record : IdempotencyRow) (context : OperationContext) : Prop where
  absent : ¬ Present (·.id) row.id db.transactions
  unused : ∀ old ∈ db.transactions,
    ¬ (old.merchantId = row.merchantId ∧ old.idempotencyKey = row.idempotencyKey)
  state : row.state = .reserved
  reference : row.providerReference = none
  merchant : row.merchantId = sale.request.merchantId
  amount : row.amount = sale.request.amount
  product : row.productType = sale.request.productId
  masked : row.recipientMasked = sale.recipientMasked
  key : row.idempotencyKey = sale.key
  fingerprint : row.payloadFingerprint = sale.fingerprint
  operation : context.transactionId = row.id ∧ context.merchantId = row.merchantId ∧
    context.amount = row.amount
  holding : hold.transactionId = row.id ∧ hold.merchantId = row.merchantId ∧
    hold.amount = row.amount ∧ hold.status = .held
  holdAbsent : ¬ Present (·.id) hold.id db.balanceReservations
  unheld : ¬ Present (·.transactionId) row.id db.balanceReservations
  covered : row.amount.minor ≤ netMinor db row.merchantId [.merchantAvailable, .merchantFunds]
  recorded : record.key = sale.key ∧ record.merchantId = sale.request.merchantId ∧
    record.payloadFingerprint = sale.fingerprint ∧ record.transactionId = row.id
  unrecorded : findIdempotencyRecord db sale.request.merchantId sale.key = none

/-- The commission entry a call of `createSale` records for its sale. -/
structure Earned (sale : CreateSale) (transactionId : TransactionId)
    (entry : CommissionEntryRow) : Prop where
  transaction : entry.transactionId = transactionId
  merchant : entry.merchantId = sale.request.merchantId
  amount : entry.transactionAmount = sale.request.amount
  counted : entry.reversalStatus = .none
  split : splitCommission sale.request.amount.minor entry.split.providerCommissionBps
    entry.split.shopShareBps = .ok entry.split

/-- What a shop transfer's posting is made from. -/
structure Transferring (input : ShopTransferInput) (debit : Money) : Prop where
  sum : debit.minor = input.amount.minor + input.fee.minor
  amount : 0 < input.amount.minor
  fee : 0 ≤ input.fee.minor
  apart : input.senderMerchantId ≠ input.recipientMerchantId

/-- Which deed a call does at which point, and what it then goes by. -/
inductive Turn (db : Db) : Process → Deed → Prop
  | quiet : Turn db process .quiet
  | opens : sale.point = .reserving → Opening db sale row hold record context →
      Turn db (.createSale sale) (.opened row hold record context)
  | submits : sale.point = .submitting reserved →
      Sold db reserved.id sale.request.merchantId sale.request.amount →
      Turn db (.createSale sale) (.marked reserved.id .processing)
  | settles : sale.point = .applying processing submitted → submitted.state = .successful →
      Concerns db context processing.id sale.request.merchantId →
      context.amount = sale.request.amount → Earned sale processing.id entry →
      Turn db (.createSale sale)
        (.moved .successful
          (.settle entry.split.shopShareMinor entry.split.providerCommissionBps) context
          (some entry))
  | fails : sale.point = .applying processing submitted → submitted.state = .failed →
      Concerns db context processing.id sale.request.merchantId →
      Turn db (.createSale sale) (.moved .failed .release context none)
  | holds : sale.point = .applying processing submitted → submitted.state = .pending →
      Sold db processing.id sale.request.merchantId sale.request.amount →
      Turn db (.createSale sale) (.marked processing.id .pending)
  | releases : sale.point = .releasing processing →
      Concerns db context processing.id sale.request.merchantId →
      Turn db (.createSale sale) (.moved .failed .release context none)
  | resolveSuccess : call.point = .applying row job correlationId status →
      status.outcome = .success →
      Found db context call.transactionId call.merchantId .pending →
      Turn db (.resolvePending call) (.moved .successful (.settle 0 0) context none)
  | resolveFailure : call.point = .applying row job correlationId status →
      status.outcome = .failure →
      Found db context call.transactionId call.merchantId .pending →
      Turn db (.resolvePending call) (.moved .failed .release context none)
  | escalatePending : call.point = .applying row job correlationId status →
      status.outcome ≠ .success → status.outcome ≠ .failure →
      Found db context call.transactionId call.merchantId .pending →
      Turn db (.resolvePending call) (.moved .underReview .review context none)
  | neverSubmitted : sweep.point = .neverSubmitted work →
      Concerns db context work.current.id work.current.merchantId →
      Turn db (.recoverInFlight sweep) (.moved .failed .release context none)
  | recoverSuccess : sweep.point = .applying work lookupMs .confirmedSuccess reference →
      Found db context work.current.id work.current.merchantId state →
      state = .processing ∨ state = .pending →
      Turn db (.recoverInFlight sweep) (.moved .successful (.settle 0 0) context none)
  | recoverFailure : sweep.point = .applying work lookupMs .confirmedFailure reference →
      Found db context work.current.id work.current.merchantId state →
      state = .processing ∨ state = .pending →
      Turn db (.recoverInFlight sweep) (.moved .failed .release context none)
  | holdRecovery : sweep.point = .applying work lookupMs outcome reference →
      outcome ≠ .confirmedSuccess → outcome ≠ .confirmedFailure →
      Found db context work.current.id work.current.merchantId .processing →
      Turn db (.recoverInFlight sweep) (.marked context.transactionId .pending)
  | escalateRecovery : sweep.point = .applying work lookupMs outcome reference →
      outcome ≠ .confirmedSuccess → outcome ≠ .confirmedFailure →
      Found db context work.current.id work.current.merchantId state →
      state = .processing ∨ state = .pending →
      Turn db (.recoverInFlight sweep) (.moved .underReview .review context none)
  | requires : call.point = .requiring row → row.id = call.transactionId →
      Sold db row.id row.merchantId row.amount →
      Turn db (.requireReversal call) (.marked row.id .reversalRequired)
  | completes : call.point = .completing row support →
      Found db context call.transactionId call.merchantId .reversalRequired →
      disposal = .release ∨ disposal = .reviewRelease →
      Turn db (.completeReversal call) (.moved .reversed disposal context none)
  | takesProfit : movement.merchantId = call.merchantId →
      movement.amount.minor = call.amountMinor →
      movement.amount.minor ≤ profitAvailableMinor db call.merchantId →
      Turn db (.transferProfit call) (.posted (profitLegs movement))
  | charges : charge.amount.minor ≤
        netMinor db charge.merchantId [.merchantAvailable, .merchantFunds] →
      Turn db (.runDueSoftwareFees run) (.posted (feeLegs charge))
  | deposits : Turn db (.deposit call) (.posted (fundingLegs call.input))
  | records : Transferable row → Turn db (.settleShopTransfer call) (.sent row [])
  | sends : call.point = .settling recipient feeMinor creditMinor →
      Transferring input debit → Transferable row →
      input.senderMerchantId = call.attempt.senderMerchantId →
      input.amount.minor = creditMinor → input.fee.minor = feeMinor →
      Turn db (.settleShopTransfer call) (.sent row (transferLegs input debit))
  | approves : call.point = .approving row → Transferring input debit →
      input.senderMerchantId = row.senderMerchantId →
      input.amount.minor = row.amountMinor → input.fee.minor = row.feeMinor →
      Turn db (.decideTransfer call) (.approved call.id (transferLegs input debit))
  | late : call.point = .approving row → Turn db (.decideTransfer call) (.approved call.id [])
  | dismisses : Turn db (.decideTransfer call) (.dismissed call.id)
  | files : call.point = .filing sale status →
      Sold db request.transactionId request.merchantId request.amount →
      request.transactionId = call.transactionId → request.status = status →
      Turn db (.fileReversal call) (.filed request)
  | decides : call.point = .begin → decision.id = call.id → decision.status = call.status →
      Turn db (.decideReversal call) (.decided decision)
  | undoes : call.point = .posting request → Asked db call.id request →
      movement.merchantId = request.merchantId → movement.amount = request.amount →
      movement.transactionId = some request.transactionId →
      Turn db (.decideReversal call) (.reversed call.id movement request.transactionId)

end Telga.Proofs
