import CrossPilot.Database
import CrossPilot.Finance.Profit
import CrossPilot.Lib.Groups
import CrossPilot.Lib.Table

/-!
# Daily profits

`materialize` goes over the order lines of a range of days and writes the profit of each SKU, shop,
day and currency that it finds among them. An order falls on the day it was paid, and as long as it
is not paid on the day it was created. A row that is there already is written over.

The cost rules, rates and SKUs are read as they stand when a row is written.
-/

namespace CrossPilot

open Transaction Table Groups LandedCost Profit

/-- What a row of the daily profits is about. -/
structure ProfitKey where
  skuId : ℕ
  shopId : ℕ
  statDate : Day
  currency : String
  deriving DecidableEq

/-- The columns of the unique constraint of the daily profits. -/
def SkuProfitDaily.key (row : SkuProfitDaily) : ProfitKey :=
  ⟨row.skuId, row.shopId, row.statDate, row.currency⟩

/-- What is asked to be computed anew. -/
structure MaterializeRequest where
  market : String
  channel : Channel
  firstMileMethod : FirstMileMethod
  dateFrom : Day
  dateTo : Day
  bookCurrency : String := "CNY"
  storageDays : Option ℕ := none
  shipmentCost : Option ℚ := none
  shipmentCurrency : Option String := none
  shipmentWeightG : Option ℚ := none
  shipmentVolumeCm3 : Option ℚ := none
  shipmentValue : Option ℚ := none

structure MaterializeView where
  rows : ℕ
  unmatchedItems : ℕ
  incompleteRows : ℕ
  deriving DecidableEq

/-- A text of a column, without a missing or empty one. -/
def trimmed (text : Option String) : Option String := (filled text).map Text.strip

/-! ### Order lines -/

/-- A line of an order with its day. -/
structure ProfitSourceLine where
  skuId : Option ℕ
  shopId : ℕ
  statDate : Day
  quantity : ℤ
  unitPrice : ℚ
  currency : String
  deriving DecidableEq

namespace SkuProfitRepository

/-- The day an order falls on. -/
def occurredOn (order : SalesOrder) : Day := utcDay (order.paidAt.getD order.createdAt)

/-- The line of an item, if it is among those asked for. -/
def sourceLine (d : Db) (dateFrom dateTo : Day) (item : OrderItem) : Option ProfitSourceLine :=
  match d.orders.find? fun order => order.id = item.orderId with
  | none => none
  | some order =>
    let stat := occurredOn order
    if dateFrom ≤ stat ∧ stat ≤ dateTo ∧ 0 < item.quantity then
      some ⟨item.skuId, order.shopId, stat, item.quantity, item.unitPrice,
        Text.strip item.currency⟩
    else none

def orderLines (d : Db) (dateFrom dateTo : Day) : List ProfitSourceLine :=
  d.items.filterMap (sourceLine d dateFrom dateTo)

/-- What is known of the cost of a SKU. -/
structure SkuCostFact where
  spuId : ℕ
  purchasePrice : Option ℚ
  purchaseCurrency : Option String
  weightG : ℚ
  lengthCm : ℚ
  widthCm : ℚ
  heightCm : ℚ

/-- The entry of `sku_costs` for a SKU. -/
def skuCost (d : Db) (skuId : ℕ) : Option SkuCostFact :=
  (d.skus.find? fun sku => sku.id = skuId).map fun sku =>
    ⟨sku.spuId, sku.purchasePrice, trimmed sku.currency, sku.weightG, sku.lengthCm, sku.widthCm,
      sku.heightCm⟩

/-- The entry of `hs_codes` for a product. -/
def hsCode (d : Db) (spuId : ℕ) (market : String) : Option String :=
  ((d.hsBindings.filter fun b => b.spuId = spuId && b.market = market).filterMap fun b =>
    (d.hsCodes.find? fun code => code.id = b.hsCodeId).map HsCode.code).getLast?

/-- `get_key`. -/
def getKey (d : Db) (key : ProfitKey) : Option SkuProfitDaily :=
  d.profits.find? fun row => row.key = key

end SkuProfitRepository

open SkuProfitRepository

/-! ### Rules -/

namespace LandedCostService

/-- In force on a day. -/
def effective (status : RuleStatus) (start : Day) (finish : Option Day) (on : Day) : Bool :=
  status = .active && start ≤ on && finish.all (on < ·)

/-- The tax rules of a market, `_latest_tax` of those in force. -/
def taxFacts (d : Db) (market : String) (on : Day) : List TaxFact :=
  let rows := d.taxRules.filter fun row =>
    row.country = market && effective row.status row.effectiveFrom row.effectiveTo on
  (highest (fun row => (row.taxType, row.hsCodePattern)) CountryTaxRule.version rows).map fun row =>
    { taxType := row.taxType, hsCodePattern := row.hsCodePattern, rate := row.rate
      basisNumerator := row.basisNumerator, basisDenominator := row.basisDenominator
      thresholdAmount := row.thresholdAmount
      thresholdCurrency := filled (trimmed row.thresholdCurrency)
      source := row.source, verifiedAt := some (utcDay row.verifiedAt) }

/-- The fees of a market, `_latest_fee` of those in force. -/
def feeFacts (d : Db) (market : String) (on : Day) : List FeeFact :=
  let rows := d.landedFees.filter fun row =>
    row.market = market && effective row.status row.effectiveFrom row.effectiveTo on
  (highest (fun row => (row.feeCode, row.channel, row.label)) LandedCostFee.version rows).map
    fun row =>
      { feeCode := row.feeCode, channel := row.channel, label := row.label, charge := row.charge
        amount := row.amount, currency := filled (trimmed row.currency)
        volumetricDivisor := row.volumetricDivisor, source := row.source
        verifiedAt := some (utcDay row.verifiedAt) }

/-- The row that decides about a line: that of the channel, or else that for any channel. -/
def chosenToggle (d : Db) (market : String) (channel : Channel) (code : LineCode) :
    Option LandedCostLineToggle :=
  let rows := d.lineToggles.filter fun row => row.market = market && row.lineCode = code
  (rows.filter fun row => row.channel = channel).getLast?.or
    (rows.find? fun row => row.channel = .any)

/-- `_disabled`. -/
def disabled (d : Db) (market : String) (channel : Channel) : List LineCode :=
  LineCode.all.filter fun code => (chosenToggle d market channel code).any fun row => !row.enabled

end LandedCostService

open LandedCostService

/-! ### Rates -/

namespace ExchangeRateRepository

def latest (d : Db) (base quote : String) (basis : RateBasis) (on : Day) : Option ExchangeRate :=
  ((d.exchangeRates.filter fun row => row.baseCurrency = base && row.quoteCurrency = quote &&
    row.basis = basis && row.effectiveOn ≤ on).insertionSort fun a b =>
      b.effectiveOn ≤ a.effectiveOn).head?

end ExchangeRateRepository

namespace ProfitService

/-- `_rate`. -/
def rate (d : Db) (base quote : String) (basis : RateBasis) (on : Day) : Option ℚ × String :=
  if base = quote then (none, "币种相同")
  else
    match ExchangeRateRepository.latest d base quote basis on with
    | none => (none, "未配置")
    | some row => (some row.rate, row.source)

/-- `_purchase_rate`. -/
def purchaseRate (d : Db) (selling : String) (purchaseCurrency : Option String)
    (bookCurrency : String) (on : Day) (orderBook : Option ℚ × String) : Option ℚ × String :=
  match purchaseCurrency with
  | none => (none, "")
  | some currency =>
    if currency = selling then (none, "")
    else if currency = bookCurrency ∧ orderBook.1.isSome then orderBook
    else rate d selling currency .order on

/-- `_input`. -/
def costInput (req : MaterializeRequest) (line : ProfitSourceLine) (fact : Option SkuCostFact)
    (hsCode : String) (purchaseRate : Option ℚ × String) : LandedCostInput where
  market := req.market
  sellingCurrency := line.currency
  channel := req.channel
  firstMileMethod := req.firstMileMethod
  sellingPrice := some line.unitPrice
  purchaseAmount := fact.bind SkuCostFact.purchasePrice
  purchaseCurrency := fact.bind SkuCostFact.purchaseCurrency
  fxRate := purchaseRate.1
  fxSource := purchaseRate.2
  weightG := fact.map SkuCostFact.weightG
  volumeCm3 := fact.map fun fact => fact.lengthCm * fact.widthCm * fact.heightCm
  hsCode := hsCode
  declaredValue := some line.unitPrice
  declaredCurrency := some line.currency
  shipmentCost := req.shipmentCost
  shipmentCurrency := req.shipmentCurrency
  shipmentWeightG := req.shipmentWeightG
  shipmentVolumeCm3 := req.shipmentVolumeCm3
  shipmentValue := req.shipmentValue
  storageDays := req.storageDays

/-! ### Rows -/

/-- What a line is put under. A line of an unknown SKU is put under nothing. -/
def lineKey (line : ProfitSourceLine) : Option ProfitKey :=
  line.skuId.map fun skuId => ⟨skuId, line.shopId, line.statDate, line.currency⟩

/-- A line with what it costs. -/
def lineUnit (d : Db) (req : MaterializeRequest) (key : ProfitKey) (line : ProfitSourceLine) :
    ProfitUnit :=
  let fact := skuCost d key.skuId
  let orderBook := rate d key.currency req.bookCurrency .order key.statDate
  let purchase := purchaseRate d key.currency (fact.bind SkuCostFact.purchaseCurrency)
    req.bookCurrency key.statDate orderBook
  let hs := (fact.bind fun fact => hsCode d fact.spuId req.market).getD ""
  ⟨line.quantity, line.unitPrice, computeLandedCost (costInput req line fact hs purchase)
    (taxFacts d req.market key.statDate) (feeFacts d req.market key.statDate)
    (disabled d req.market req.channel)⟩

/-- What the lines of a key come to. -/
def rolled (d : Db) (req : MaterializeRequest) (key : ProfitKey) (lines : List ProfitSourceLine) :
    DailyRollup :=
  let same := key.currency = req.bookCurrency
  let order := rate d key.currency req.bookCurrency .order key.statDate
  let settlement := rate d key.currency req.bookCurrency .settlement key.statDate
  let book := rate d key.currency req.bookCurrency .book key.statDate
  let revenue := quantize (lines.map fun line => linePrice line.unitPrice line.quantity).sum
  let fx := fxGainLoss revenue (if same then none else order.1) (if same then none else settlement.1)
    order.2 settlement.2 req.bookCurrency same
  rollupDaily (lines.map (lineUnit d req key)) (if same then some 1 else book.1) fx

/-- `_line_json`. The amounts of the lines have six decimals. -/
def storedLine (line : CostLine) : StoredLine :=
  ⟨line.code, line.label, line.amount.map (Decimals.text 6), line.currency, line.formula,
    line.source, line.complete⟩

/-- The row that is stored. -/
def dailyRow (id : ℕ) (key : ProfitKey) (bookCurrency : String) (quantity : ℤ)
    (rolled : DailyRollup) : SkuProfitDaily where
  id := id
  skuId := key.skuId
  shopId := key.shopId
  statDate := key.statDate
  currency := key.currency
  bookCurrency := bookCurrency
  revenue := rolled.revenue
  costTotal := rolled.costTotal
  netProfit := rolled.netProfit
  netMargin := rolled.netMarginPercent
  bookRevenue := rolled.bookRevenue
  bookCostTotal := rolled.bookCostTotal
  bookNetProfit := rolled.bookNetProfit
  fxGain := rolled.fxGain
  quantity := quantity
  lines := rolled.lines.map storedLine
  fxFormula := rolled.fxFormula
  fxSource := rolled.fxSource
  complete := rolled.complete

/-- The checks of the table. -/
def violated (row : SkuProfitDaily) : Option String :=
  if row.quantity ≤ 0 then some "quantity" else if row.revenue < 0 then some "revenue" else none

/-- `_save_daily`. -/
def saveDaily (key : ProfitKey) (bookCurrency : String) (quantity : ℤ) (rolled : DailyRollup) :
    Work Unit := do
  match ← .select fun d => getKey d key with
  | none =>
    let id ← nextSnowflakeId
    let row := dailyRow id key bookCurrency quantity rolled
    match violated row with
    | some constraint => raise (.integrity constraint)
    | none => .insert fun d => { d with profits := d.profits ++ [row] }
  | some row =>
    let change (old : SkuProfitDaily) := dailyRow old.id old.key bookCurrency quantity rolled
    match violated (change row) with
    | some constraint => raise (.integrity constraint)
    | none =>
      .update (fun _ => [.profit row.id])
        (fun _ d => { d with profits := alter SkuProfitDaily.id row.id change d.profits })
        fun _ _ => ()

/-- The groups one after the other. The answer counts the rows that are not complete. -/
def saveAll (req : MaterializeRequest) : List (ProfitKey × List ProfitSourceLine) → Work ℕ
  | [] => return 0
  | (key, lines) :: rest => do
    let rolled ← .select fun d => rolled d req key lines
    saveDaily key req.bookCurrency (lines.map ProfitSourceLine.quantity).sum rolled
    let incomplete ← saveAll req rest
    return incomplete + if rolled.complete then 0 else 1

def materialize (req : MaterializeRequest) : Work MaterializeView := do
  let lines ← .select fun d => orderLines d req.dateFrom req.dateTo
  let groups := groups lineKey lines
  let incomplete ← saveAll req groups
  return ⟨groups.length, lines.countP fun line => line.skuId.isNone, incomplete⟩

end ProfitService

end CrossPilot
