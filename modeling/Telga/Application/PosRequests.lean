import Telga.Application.Process
import Telga.Application.VoucherOrders

namespace Telga.Application
open Domain Persistence Library

/-- A product the sell screen offers, at its price. -/
structure CatalogEntry where
  productId : ProductId
  amountMinor : Int
  available : Bool
deriving DecidableEq

/-- The training denominations of the sell screen. -/
def trainingCatalog : List CatalogEntry :=
  [⟨"AIRTIME_10", 1000, true⟩, ⟨"AIRTIME_25", 2500, true⟩, ⟨"AIRTIME_50", 5000, true⟩,
   ⟨"AIRTIME_100", 10000, true⟩]

def trainingVoucherNetworks : List String :=
  ["NETWORK_A", "NETWORK_B", "NETWORK_C", "NETWORK_D"]

def trainingVoucherAmountsMinor : List Int :=
  [1000, 2500, 5000, 10000]

/-- A data bundle: its category, its volume, the days it is valid and its price. -/
structure DataBundle where
  category : String
  volumeLabel : String
  validityDays : Nat
  amountMinor : Int

def trainingDataBundles : List DataBundle :=
  [⟨"MONTHLY", "1GB", 30, 12500⟩, ⟨"MONTHLY", "3GB", 30, 30000⟩, ⟨"MONTHLY", "10GB", 30, 75000⟩,
   ⟨"WEEKLY", "500MB", 7, 5000⟩, ⟨"WEEKLY", "2GB", 7, 15000⟩, ⟨"DAILY", "100MB", 1, 1500⟩,
   ⟨"DAILY", "500MB", 1, 4000⟩, ⟨"HOURLY", "250MB", 1, 2000⟩, ⟨"WEEKEND", "2GB", 3, 9000⟩,
   ⟨"ALL_ACCESS", "5GB", 30, 45000⟩, ⟨"LTE", "20GB", 30, 120000⟩, ⟨"SOCIAL", "1GB", 7, 6000⟩,
   ⟨"VOICE", "100 minutes", 30, 10000⟩]

/-- The id-safe suffix of a bundle. -/
def DataBundle.code (bundle : DataBundle) : String :=
  String.ofList (bundle.volumeLabel.toList.filter Char.isAlphanum) ++ "_" ++
    toString bundle.validityDays ++ "D"

/-- A product of fixed denomination, and the custom product beside it. -/
def denominations (network kind : String) (productType : ProductType) :
    List VoucherOrderProduct :=
  trainingVoucherAmountsMinor.map (fun amountMinor =>
    { productId := network ++ "_" ++ kind ++ "_" ++ toString amountMinor, network, productType,
      amountMinor, available := true, isCustom := false }) ++
  [{ productId := network ++ "_" ++ kind ++ "_CUSTOM", network, productType, amountMinor := 0,
     available := true, isCustom := true }]

/-- The training voucher catalog: for each network airtime, top-ups and data bundles. -/
def trainingVoucherCatalog : List VoucherOrderProduct :=
  trainingVoucherNetworks.flatMap fun network =>
    denominations network "AIRTIME" .airtime ++ denominations network "TOPUP" .topup ++
    trainingDataBundles.map fun bundle =>
      { productId := network ++ "_DATA_" ++ bundle.category ++ "_" ++ bundle.code, network,
        productType := .data, amountMinor := bundle.amountMinor, available := true,
        isCustom := false }

/-- Looking up by product id; of two entries under one id the later is found. -/
def simulatedVoucherCatalog (products : List VoucherOrderProduct) (productId : ProductId) :
    Option VoucherOrderProduct :=
  products.reverse.find? fun product => product.productId = productId

/-- Whether a product is known and available, by the same rule. -/
def simulatedCatalog (products : List (ProductId × Bool)) (productId : ProductId) : Option Bool :=
  (products.reverse.find? fun product => product.1 = productId).map (·.2)

/-- What the command line leaves open when it builds the server's options. -/
structure CliArgs where
  mode : OperatingMode
  verifySecret : String → StoredSecret → Bool
  pinLockout : LockoutPolicy

/-- The options the server is built with: the voucher products are sold beside the screen's. -/
def optionsFrom (args : CliArgs) : PosDeps where
  providerId := "provider_simulated"
  catalog := simulatedCatalog
    (trainingCatalog.map (fun entry => (entry.productId, entry.available)) ++
      trainingVoucherCatalog.map fun product => (product.productId, product.available))
  mode := args.mode
  vouchers := simulatedVoucherCatalog trainingVoucherCatalog
  verifySecret := args.verifySecret
  pinLockout := args.pinLockout

/-- The fields of a sale request's body, where they are there and of their type. -/
structure SaleBody where
  productId : Option String
  recipient : Option String
  clientRequestId : Option String
  amountMinor : Option Int

/-- A field that must be a string with something in it. -/
def requiredText (code : String) (value : Option String) : Except String String :=
  match value with
  | none => .error code
  | some text => if textLength (trim text) = 0 then .error code else .ok text

/-- The sale a body asks for, the merchant, the device and the operator from the session. -/
def validateBody (context : AuthContext) (correlationId : CorrelationId) (body : SaleBody) :
    Except String SaleRequest := do
  let productId ← requiredText "PRODUCT_ID_REQUIRED" body.productId
  let recipient ← requiredText "RECIPIENT_REQUIRED" body.recipient
  let clientRequestId ← requiredText "CLIENT_REQUEST_ID_REQUIRED" body.clientRequestId
  let amountMinor ← expect body.amountMinor "AMOUNT_MINOR_INVALID"
  if safe : SafeInteger amountMinor ∧ 0 < amountMinor then
    return { merchantId := context.merchantId, deviceId := context.deviceId,
             operatorId := context.userId, productId, amount := ⟨amountMinor, safe.1⟩, recipient,
             clientRequestId, correlationId := some correlationId }
  else .error "AMOUNT_MINOR_INVALID"

/-- What the sell screen's form holds. -/
structure SellForm where
  productId : Option String
  recipient : Option String
  clientRequestId : Option String

/-- The body the sell screen posts: the amount is the catalog's, whatever the form says. -/
def sellBody (form : SellForm) : SaleBody :=
  { productId := form.productId, recipient := form.recipient,
    clientRequestId := form.clientRequestId
    amountMinor := some (((trainingCatalog.find? fun entry =>
      some entry.productId = form.productId).map (·.amountMinor)).getD 0) }

/-- Where a sale request comes from: the sell screen, or the JSON API with a body of its own. -/
inductive SaleOrigin
  | screen (form : SellForm)
  | api (body : SaleBody)

def SaleOrigin.body : SaleOrigin → SaleBody
  | .screen form => sellBody form
  | .api body => body

inductive PostSalePoint
  | begin
  | recording (request : SaleRequest)
  | selling (sale : CreateSale)
  | refused (reasonCode : String)
  | returned (result : SaleResult)
  | threw (fault : Fault)

/-- A running call of `postSale`. -/
structure PostSale where
  deps : PosDeps
  context : AuthContext
  origin : SaleOrigin
  correlationId : CorrelationId
  point : PostSalePoint

def PostSale.at (call : PostSale) (point : PostSalePoint) : PostSale :=
  { call with point }

/-- One atomic step of `postSale`. The attempt is counted before the sale runs. -/
def PostSale.step (input : Input) (pos : PosDb) (call : PostSale) : PosDb × PostSale :=
  match call.point with
  | .begin =>
    if call.deps.mode ≠ .training then (pos, call.at (.refused "LIVE_MODE_REFUSED"))
    else
      match validateBody call.context call.correlationId call.origin.body with
      | .error code => (pos, call.at (.refused code))
      | .ok request => (pos, call.at (.recording request))
  | .recording request =>
    match posUnit input (fun pos =>
        .ok (recordAttempt pos .sale call.context.sessionId .success (input.now 0), ())) pos with
    | (pos, .ok _) =>
      (pos, call.at (.selling
        { deps := call.deps.toSaleDeps, request, correlationId := "", point := .begin }))
    | (pos, .error fault) => (pos, call.at (.threw fault))
  | .selling sale =>
    let (db, sale) := sale.step input pos.toDb
    let pos := { pos with toDb := db }
    match sale.point with
    | .returned result => (pos, call.at (.returned result))
    | .threw fault => (pos, call.at (.threw fault))
    | _ => (pos, call.at (.selling sale))
  | .refused _ => (pos, call)
  | .returned _ => (pos, call)
  | .threw _ => (pos, call)

/-- A request to the point of sale, or a service at work on the same database. -/
inductive PosRequest
  | service (process : Process)
  | postSale (call : PostSale)
  | postOrder (call : CreatePendingOrder)
  | getOrder (call : GetOrder)
  | cancelOrder (call : CancelOrder)
  | authorizeOrder (call : AuthorizeOrder)

/-- One atomic step of a request. -/
def PosRequest.step (input : Input) (pos : PosDb) : PosRequest → PosDb × PosRequest
  | .service process =>
    let (db, process) := process.step input pos.toDb
    ({ pos with toDb := db }, .service process)
  | .postSale call => (call.step input pos).map id .postSale
  | .postOrder call => (call.step input pos).map id .postOrder
  | .getOrder call => (call.step input pos).map id .getOrder
  | .cancelOrder call => (call.step input pos).map id .cancelOrder
  | .authorizeOrder call => (call.step input pos).map id .authorizeOrder

/-- A request that has not taken a step yet. -/
def PosRequest.Starting : PosRequest → Prop
  | .service process => process.Starting
  | .postSale call => (call.point matches .begin) = true
  | .postOrder call => call.point = .begin
  | .getOrder call => call.point = .begin
  | .cancelOrder call => call.point = .begin
  | .authorizeOrder call => (call.point matches .begin) = true

/-- A request that has answered or thrown. -/
def PosRequest.finished : PosRequest → Bool
  | .service process => process.finished
  | .postSale { point := .refused _, .. } | .postSale { point := .returned _, .. }
  | .postSale { point := .threw _, .. } => true
  | .postOrder { point := .returned _, .. } | .postOrder { point := .threw _, .. } => true
  | .getOrder { point := .returned _, .. } | .getOrder { point := .threw _, .. } => true
  | .cancelOrder { point := .returned _, .. } | .cancelOrder { point := .threw _, .. } => true
  | .authorizeOrder { point := .returned _, .. } | .authorizeOrder { point := .threw _, .. } => true
  | _ => false

/-- The service a request is running inside itself, if it is running one. -/
def PosRequest.process : PosRequest → Option Process
  | .service process => some process
  | .postSale { point := .selling sale, .. } => some (.createSale sale)
  | .authorizeOrder { point := .selling _ _ sale, .. } => some (.createSale sale)
  | _ => none

/-- What a request asks the provider for, while it waits for the answer. -/
def PosRequest.submission (request : PosRequest) : Option ProviderSubmission :=
  match request.process with
  | some (.createSale sale) => sale.submission
  | _ => none

/-- What a request is given: the options the server was built with. -/
def PosRequest.given (options : PosDeps) : PosRequest → Prop
  | .postSale call => call.deps = options
  | .postOrder call => call.deps = options
  | .authorizeOrder call => call.deps = options
  | _ => True

/-- The requests at work on one database. -/
def posServer : Machine PosDb Input PosRequest where
  advance := PosRequest.step
  finished request := request.finished = true

/-- Ids are drawn fresh by the service a request runs. -/
def PosFresh (input : Input) (pos : PosDb) (request : PosRequest) : Prop :=
  ∀ process ∈ request.process, Fresh input pos.toDb process

end Telga.Application
