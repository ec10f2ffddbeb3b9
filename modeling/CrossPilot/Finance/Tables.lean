import Mathlib.Tactic

/-!
# The tables of costs and profits

Rules, rates and daily profits of one tenant, as the services read and write them. Days are counted
from the epoch. Amounts, rates and shares have six decimals.
-/

namespace CrossPilot

/-- A day of the calendar, counted from the epoch. -/
abbrev Day := ℤ

/-- Where a rule or a rate is in force. -/
inductive RuleStatus
  | active | disabled
  deriving DecidableEq

/-! ### Taxes -/

inductive TaxType
  | duty | vat | gst | sst | ppn | salesTax | mpf | other
  deriving DecidableEq

def TaxType.value : TaxType → String
  | duty => "DUTY"
  | vat => "VAT"
  | gst => "GST"
  | sst => "SST"
  | ppn => "PPN"
  | salesTax => "SALES_TAX"
  | mpf => "MPF"
  | other => "OTHER"

/-- A tax of a country on the goods whose HS code begins in some way. -/
structure CountryTaxRule where
  id : ℕ
  country : String
  taxType : TaxType
  hsCodePattern : String := "*"
  rate : ℚ
  basisNumerator : ℕ := 1
  basisDenominator : ℕ := 1
  thresholdAmount : Option ℚ := none
  thresholdCurrency : Option String := none
  effectiveFrom : Day
  effectiveTo : Option Day := none
  version : ℕ
  status : RuleStatus := .active
  source : String
  verifiedAt : ℤ
  deriving DecidableEq

/-- A code of the Harmonized System. -/
structure HsCode where
  id : ℕ
  code : String
  deriving DecidableEq

/-- The code of a product in a market. -/
structure SpuHsBinding where
  spuId : ℕ
  market : String
  hsCodeId : ℕ
  deriving DecidableEq

/-! ### Fees -/

/-- A way to ship. A rule may be for any. -/
inductive Channel
  | air | seaFcl | seaLcl | express | packet | any
  deriving DecidableEq

inductive FeeCode
  | firstMile | brokerage | commission | payment | fulfillment | ads | returnRate | returnLoss
  | storage | fxReserve
  deriving DecidableEq

/-- What a fee is counted by. -/
inductive Charge
  | rate | fixed | perKg | perCbm | perCbmDay
  deriving DecidableEq

/-- A fee in a market. -/
structure LandedCostFee where
  id : ℕ
  market : String
  channel : Channel
  feeCode : FeeCode
  label : String := "*"
  charge : Charge
  amount : ℚ
  currency : Option String := none
  volumetricDivisor : Option ℕ := none
  effectiveFrom : Day
  effectiveTo : Option Day := none
  version : ℕ
  status : RuleStatus := .active
  source : String
  verifiedAt : ℤ
  deriving DecidableEq

/-! ### Costs -/

/-- A line of a landed cost. -/
inductive LineCode
  | purchase | firstMile | duty | importTax | brokerage | storage | fxReserve | commission | payment
  | fulfillment | ads | returnLoss
  deriving DecidableEq

namespace LineCode

/-- `LINE_CODES`. -/
def all : List LineCode :=
  [purchase, firstMile, duty, importTax, brokerage, storage, fxReserve, commission, payment,
    fulfillment, ads, returnLoss]

def value : LineCode → String
  | purchase => "PURCHASE"
  | firstMile => "FIRST_MILE"
  | duty => "DUTY"
  | importTax => "IMPORT_TAX"
  | brokerage => "BROKERAGE"
  | storage => "STORAGE"
  | fxReserve => "FX_RESERVE"
  | commission => "COMMISSION"
  | payment => "PAYMENT"
  | fulfillment => "FULFILLMENT"
  | ads => "ADS"
  | returnLoss => "RETURN"

/-- `LINE_LABELS`. -/
def label : LineCode → String
  | purchase => "采购成本"
  | firstMile => "头程物流费"
  | duty => "进口关税"
  | importTax => "进口环节税费"
  | brokerage => "报关清关固定费"
  | storage => "仓储费"
  | fxReserve => "汇兑预备金"
  | commission => "平台佣金"
  | payment => "支付手续费"
  | fulfillment => "平台物流费"
  | ads => "广告费"
  | returnLoss => "退货损失摊销"

end LineCode

/-- Whether a line is counted. A line without a row is. -/
structure LandedCostLineToggle where
  market : String
  channel : Channel
  lineCode : LineCode
  enabled : Bool
  deriving DecidableEq

/-! ### Profits -/

/-- What an exchange rate is for. -/
inductive RateBasis
  | order | settlement | book
  deriving DecidableEq

/-- One unit of the base currency is worth so many of the quote currency. -/
structure ExchangeRate where
  baseCurrency : String
  quoteCurrency : String
  rate : ℚ
  basis : RateBasis
  effectiveOn : Day
  source : String
  deriving DecidableEq

/-- A cost line as it is stored with a daily profit. -/
structure StoredLine where
  code : LineCode
  label : String
  amount : Option String
  currency : String
  formula : String
  source : String
  complete : Bool
  deriving DecidableEq

/-- The profit of a SKU in a shop on a day, in one currency. -/
structure SkuProfitDaily where
  id : ℕ
  skuId : ℕ
  shopId : ℕ
  statDate : Day
  currency : String
  bookCurrency : String
  revenue : ℚ
  costTotal : Option ℚ
  netProfit : Option ℚ
  netMargin : Option ℚ
  bookRevenue : Option ℚ
  bookCostTotal : Option ℚ
  bookNetProfit : Option ℚ
  fxGain : Option ℚ
  quantity : ℤ
  lines : List StoredLine
  fxFormula : String := ""
  fxSource : String := ""
  complete : Bool
  deriving DecidableEq

end CrossPilot
