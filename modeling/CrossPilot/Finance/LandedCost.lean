import CrossPilot.Finance.Tables
import CrossPilot.Lib.Decimals
import CrossPilot.Lib.Text

/-!
# Landed cost

What a unit costs until it is sold, line by line: the goods, the way to the warehouse, duty and
taxes, storage, and what the platform keeps. Rates and fees are given. A line without a rule, or
without what the rule needs, is incomplete and has no amount; it never counts as zero.

Amounts are exact and rounded to six decimals line by line.
-/

namespace CrossPilot

/-! ### Dates -/

/-- Year, month and day of a day counted from the epoch. -/
def civil (day : Day) : ℤ × ℤ × ℤ :=
  let z := day + 719468
  let era := z / 146097
  let doe := z % 146097
  let yoe := (doe - doe / 1460 + doe / 36524 - doe / 146096) / 365
  let doy := doe - (365 * yoe + yoe / 4 - yoe / 100)
  let mp := (5 * doy + 2) / 153
  let month := if mp < 10 then mp + 3 else mp - 9
  (yoe + era * 400 + if month ≤ 2 then 1 else 0, month, doy - (153 * mp + 2) / 5 + 1)

/-- `date.isoformat`. -/
def Day.isoformat (day : Day) : String :=
  let (year, month, dayOfMonth) := civil day
  Decimals.padded 4 year.toNat ++ "-" ++ Decimals.padded 2 month.toNat ++ "-" ++
    Decimals.padded 2 dayOfMonth.toNat

namespace LandedCost

/-! ### Facts -/

/-- A tax rule in force. -/
structure TaxFact where
  taxType : TaxType
  hsCodePattern : String
  rate : ℚ
  basisNumerator : ℕ
  basisDenominator : ℕ
  thresholdAmount : Option ℚ
  thresholdCurrency : Option String
  source : String
  verifiedAt : Option Day := none
  deriving DecidableEq

/-- A fee in force. -/
structure FeeFact where
  feeCode : FeeCode
  channel : Channel
  label : String
  charge : Charge
  amount : ℚ
  currency : Option String
  volumetricDivisor : Option ℕ
  source : String
  verifiedAt : Option Day := none
  deriving DecidableEq

/-- How the cost of a shipment is shared out among its units. -/
inductive FirstMileMethod
  | weight | volume | value | chargeable
  | other (name : String)
  deriving DecidableEq

structure LandedCostInput where
  market : String
  sellingCurrency : String
  channel : Channel
  firstMileMethod : FirstMileMethod
  sellingPrice : Option ℚ := none
  purchaseAmount : Option ℚ := none
  purchaseCurrency : Option String := none
  fxRate : Option ℚ := none
  fxSource : String := ""
  weightG : Option ℚ := none
  volumeCm3 : Option ℚ := none
  hsCode : String := ""
  declaredValue : Option ℚ := none
  declaredCurrency : Option String := none
  shipmentCost : Option ℚ := none
  shipmentCurrency : Option String := none
  shipmentWeightG : Option ℚ := none
  shipmentVolumeCm3 : Option ℚ := none
  shipmentValue : Option ℚ := none
  storageDays : Option ℕ := none

structure CostLine where
  code : LineCode
  label : String
  amount : Option ℚ
  currency : String
  formula : String
  source : String
  complete : Bool
  deriving DecidableEq

structure LandedCostResult where
  lines : List CostLine
  currency : String
  landedCost : Option ℚ
  netProfit : Option ℚ
  netMarginPercent : Option ℚ
  roiPercent : Option ℚ
  complete : Bool
  profitComplete : Bool
  deriving DecidableEq

def landedCodes : List LineCode :=
  [.purchase, .firstMile, .duty, .importTax, .brokerage, .storage, .fxReserve]

def deductionCodes : List LineCode := [.commission, .payment, .fulfillment, .ads, .returnLoss]

def importTaxTypes : List TaxType := [.vat, .gst, .sst, .ppn, .salesTax]

def quantize (value : ℚ) : ℚ := Decimals.quantize 6 value

def moneyText (value : ℚ) : String := Decimals.text 6 value

/-! ### Lines -/

/-- `_gap`: a line that is not complete. -/
def gap (code : LineCode) (currency formula : String) (source : String := "未配置") : CostLine :=
  ⟨code, code.label, none, currency, formula, source, false⟩

/-- `_ok`. -/
def ok (code : LineCode) (amount : ℚ) (currency formula source : String) : CostLine :=
  ⟨code, code.label, some (quantize amount), currency, formula, source, true⟩

/-- `_total`: nothing, if one of the lines is not complete. -/
def total (lines : List CostLine) : Option ℚ :=
  if lines.any fun line => !line.complete || line.amount.isNone then none
  else some (quantize (lines.filterMap CostLine.amount).sum)

/-- `_invested`. -/
def invested (purchase firstMile : CostLine) : Option ℚ :=
  if !purchase.complete || !firstMile.complete then none
  else
    match purchase.amount, firstMile.amount with
    | some goods, some way => some (quantize (goods + way))
    | _, _ => none

/-- `_cite`. -/
def cite (source : String) (verifiedAt : Option Day) : String :=
  match verifiedAt with
  | none => source
  | some day => source ++ "（核对于 " ++ day.isoformat ++ "）"

/-- A text that is neither missing nor empty. -/
def filled (text : Option String) : Option String := text.filter (· ≠ "")

/-- `_purchase`. -/
def purchase (data : LandedCostInput) (currency : String) : CostLine :=
  match data.purchaseAmount, filled data.purchaseCurrency with
  | some paid, some paidIn =>
    if paidIn = currency then
      let amount := quantize paid
      ok .purchase amount currency ("采购币种与售价币种相同，采购成本 = " ++ moneyText amount ++ " " ++
        currency ++ "。") "本次输入"
    else
      match data.fxRate.filter (0 < ·) with
      | none => gap .purchase currency "采购币种与售价币种不同，但没有填写汇率。"
      | some rate =>
        let amount := quantize (paid / rate)
        let stripped := Text.strip data.fxSource
        let origin := if stripped = "" then "未标注" else stripped
        ok .purchase amount currency ("采购成本 = " ++ moneyText paid ++ " " ++ paidIn ++ " / " ++
          moneyText rate ++ " = " ++ moneyText amount ++ " " ++ currency ++ "。汇率来源：" ++ origin ++
          "。") origin
  | _, _ => gap .purchase currency "未填写采购成本。"

/-! ### Duty and taxes -/

/-- `_pick_tax`: the rule with the longest pattern that the code begins with. -/
def pickTax (taxes : List TaxFact) (taxType : TaxType) (hsCode : String) : Option TaxFact :=
  let rows := taxes.filter fun row => row.taxType = taxType
  let specific := rows.filter fun row =>
    row.hsCodePattern ≠ "*" && row.hsCodePattern.toList.isPrefixOf hsCode.toList
  match specific with
  | [] =>
    match rows.filter fun row => row.hsCodePattern = "*" with
    | [row] => some row
    | _ => none
  | _ => specific.argmax fun row => row.hsCodePattern.length

/-- `_blocked_by_threshold`: nothing, if the threshold is in another currency. -/
def blockedByThreshold (amount : ℚ) (currency : String) (fact : TaxFact) : Option Bool :=
  match fact.thresholdAmount with
  | none => some false
  | some threshold =>
    if fact.thresholdCurrency ≠ some currency then none else some (amount < threshold)

/-- The declared value, if it is in the currency of the price. -/
def declaredIn (data : LandedCostInput) (currency : String) : Option ℚ :=
  if data.declaredCurrency = some currency then data.declaredValue else none

/-- `_duty`. -/
def duty (data : LandedCostInput) (taxes : List TaxFact) (currency : String) : CostLine :=
  match pickTax taxes .duty data.hsCode with
  | none => gap .duty currency "未配置进口关税。"
  | some fact =>
    let source := cite fact.source fact.verifiedAt
    match declaredIn data currency with
    | none => gap .duty currency "申报价值必须填写，且币种与售价一致。" source
    | some declared =>
      match blockedByThreshold declared currency fact with
      | none => gap .duty currency "关税门槛币种与申报价值币种不一致。" source
      | some true => ok .duty 0 currency ("申报价值 " ++ moneyText declared ++ " 低于门槛 " ++
          moneyText (fact.thresholdAmount.getD 0) ++ " " ++ fact.thresholdCurrency.getD "None" ++
          "，进口关税 = 0。") source
      | some false =>
        let amount := quantize (declared * fact.rate)
        ok .duty amount currency ("进口关税 = 申报价值 " ++ moneyText declared ++ " × 税率 " ++
          moneyText fact.rate ++ " = " ++ moneyText amount ++ " " ++ currency ++ "。") source

/-- The amount of a tax with its formula and its source. -/
def importTaxPart (declared dutyAmount : ℚ) (currency : String) (fact : TaxFact) :
    Except CostLine (ℚ × String × String) :=
  let source := cite fact.source fact.verifiedAt
  match blockedByThreshold declared currency fact with
  | none => .error
      (gap .importTax currency (fact.taxType.value ++ " 门槛币种与申报价值币种不一致。") source)
  | some true => .ok (0, fact.taxType.value ++ "：申报价值低于门槛 " ++
      moneyText (fact.thresholdAmount.getD 0) ++ "，税额 = 0", source)
  | some false =>
    let base := (declared + dutyAmount) * fact.basisNumerator / fact.basisDenominator
    let amount := quantize (base * fact.rate)
    .ok (amount, fact.taxType.value ++ " = (申报价值 " ++ moneyText declared ++ " + 关税 " ++
      moneyText dutyAmount ++ ") × " ++ toString fact.basisNumerator ++ "/" ++
      toString fact.basisDenominator ++ " × 税率 " ++ moneyText fact.rate ++ " = " ++
      moneyText amount, source)

/-- `_import_tax`. -/
def importTax (data : LandedCostInput) (taxes : List TaxFact) (currency : String)
    (duty : CostLine) : CostLine :=
  match importTaxTypes.filterMap fun taxType => pickTax taxes taxType data.hsCode with
  | [] => gap .importTax currency "未配置进口环节税（VAT/GST/SST/PPN/销售税）。"
  | facts =>
    match declaredIn data currency, if duty.complete then duty.amount else none with
    | some declared, some dutyAmount =>
      match facts.mapM (importTaxPart declared dutyAmount currency) with
      | .error line => line
      | .ok parts => ok .importTax (parts.map Prod.fst).sum currency
          (String.intercalate "；" (parts.map fun p => p.2.1) ++ "。")
          (String.intercalate "；" (parts.map fun p => p.2.2))
    | _, _ => gap .importTax currency "进口环节税依赖申报价值和已算出的关税。"

/-! ### Fees -/

/-- The one rule of a label: that for the channel, or else that for any channel. Without a rule the
label is passed over; with several there is no answer. -/
def pickLabel (rows : List FeeFact) (channel : Channel) (label : String) : Option (List FeeFact) :=
  let exact := rows.filter fun row => row.label = label && row.channel = channel
  let wild := rows.filter fun row => row.label = label && row.channel = .any
  match if exact = [] then wild else exact with
  | [] => some []
  | [row] => some [row]
  | _ => none

/-- `_pick_fees`. -/
def pickFees (fees : List FeeFact) (feeCode : FeeCode) (channel : Channel) :
    Option (List FeeFact) :=
  let rows := fees.filter fun row => row.feeCode = feeCode
  let labels := (rows.map FeeFact.label).dedup.insertionSort fun a b => a ≤ b
  (labels.mapM (pickLabel rows channel)).map List.flatten

/-- The rule for a fee that must have exactly one. -/
def pickFee (fees : List FeeFact) (feeCode : FeeCode) (channel : Channel) : Option FeeFact :=
  match pickFees fees feeCode channel with
  | some [row] => some row
  | _ => none

/-- `_brokerage`. -/
def brokerage (data : LandedCostInput) (fees : List FeeFact) (currency : String) : CostLine :=
  match pickFees fees .brokerage data.channel with
  | none => gap .brokerage currency "报关清关费用规则不唯一。"
  | some [] => gap .brokerage currency "未配置报关清关固定费。"
  | some chosen =>
    if chosen.any fun row => row.charge ≠ .fixed then
      gap .brokerage currency "报关清关费必须按固定金额配置。"
    else
      match chosen.find? fun row => row.currency ≠ some currency with
      | some row => gap .brokerage currency (row.label ++ " 的币种与售价币种不一致。")
          (cite row.source row.verifiedAt)
      | none => ok .brokerage (chosen.map fun row => quantize row.amount).sum currency
          ("报关清关固定费 = " ++ String.intercalate " + " (chosen.map fun row =>
            row.label ++ " = " ++ moneyText row.amount ++ " " ++ currency) ++ "。")
          (String.intercalate "；" (chosen.map fun row => cite row.source row.verifiedAt))

/-- `_storage`. -/
def storage (data : LandedCostInput) (fees : List FeeFact) (currency : String) : CostLine :=
  match data.storageDays with
  | none => gap .storage currency "未填写仓储天数。"
  | some 0 => ok .storage 0 currency "仓储天数 = 0，仓储费 = 0。" "本次输入"
  | some days =>
    match pickFee fees .storage data.channel with
    | none => gap .storage currency "仓储费规则缺失或不唯一。"
    | some row =>
      let source := cite row.source row.verifiedAt
      if row.charge ≠ .perCbmDay ∨ row.currency ≠ some currency then
        gap .storage currency "仓储费须按每立方米每天的售价币种配置。" source
      else
        match data.volumeCm3 with
        | none => gap .storage currency "未填写体积，无法计算仓储费。" source
        | some volume =>
          let amount := quantize (volume / 1000000 * days * row.amount)
          ok .storage amount currency ("仓储费 = 体积 " ++ moneyText volume ++
            " cm³ / 1000000 × " ++ toString days ++ " 天 × " ++ moneyText row.amount ++ " = " ++
            moneyText amount ++ " " ++ currency ++ "。") source

/-! ### The way to the warehouse -/

/-- `_allocation_metrics`: the share of a unit, the whole, and what is measured. -/
def allocationMetrics (data : LandedCostInput) (currency : String) (purchase : CostLine) :
    Option ℚ × Option ℚ × String :=
  match data.firstMileMethod with
  | .weight => (data.weightG, data.shipmentWeightG, "重量")
  | .volume => (data.volumeCm3, data.shipmentVolumeCm3, "体积")
  | _ =>
    let unitValue := declaredIn data currency
    (if unitValue = none ∧ purchase.complete then purchase.amount else unitValue,
      data.shipmentValue, "货值")

/-- `_allocate`. -/
def allocate (data : LandedCostInput) (currency : String) (purchase : CostLine) : CostLine :=
  match if data.shipmentCurrency = some currency then data.shipmentCost else none with
  | none => gap .firstMile currency "头程总额必须填写，且币种与售价一致。"
  | some cost =>
    match allocationMetrics data currency purchase with
    | (some unit, some whole, unitName) =>
      if whole ≤ 0 then gap .firstMile currency ("整票" ++ unitName ++ "必须大于 0。")
      else
        let amount := quantize (cost * unit / whole)
        ok .firstMile amount currency ("头程物流费 = 整票 " ++ moneyText cost ++ " × 单件" ++ unitName ++
          " " ++ moneyText unit ++ " / 整票" ++ unitName ++ " " ++ moneyText whole ++ " = " ++
          moneyText amount ++ " " ++ currency ++ "。") "本次输入的头程总额"
    | (_, _, unitName) => gap .firstMile currency
        ("按" ++ unitName ++ "分摊时，单件和整票的" ++ unitName ++ "都要填写。")

/-- The chargeable weight: the larger of the real and the volumetric one. -/
def chargeableWeight (data : LandedCostInput) (row : FeeFact) : Option ℚ × Option ℚ :=
  (data.weightG.map (· / 1000),
    match row.volumetricDivisor, data.volumeCm3 with
    | some divisor, some volume => if divisor = 0 then none else some (volume / divisor)
    | _, _ => none)

/-- `_chargeable`. -/
def chargeable (data : LandedCostInput) (fees : List FeeFact) (currency : String) : CostLine :=
  match pickFee fees .firstMile data.channel with
  | none => gap .firstMile currency "头程计费规则缺失或不唯一。"
  | some row =>
    let source := cite row.source row.verifiedAt
    if row.currency ≠ some currency then
      gap .firstMile currency "头程计费币种与售价币种不一致。" source
    else
      match row.charge with
      | .fixed => ok .firstMile row.amount currency
          ("头程物流费 = 固定 " ++ moneyText row.amount ++ " " ++ currency ++ "。") source
      | .perCbm =>
        match data.volumeCm3 with
        | none => gap .firstMile currency "按体积计头程时必须填写体积。" source
        | some volume =>
          let amount := quantize (volume / 1000000 * row.amount)
          ok .firstMile amount currency ("头程物流费 = " ++ moneyText volume ++
            " cm³ / 1000000 × " ++ moneyText row.amount ++ " = " ++ moneyText amount ++ " " ++
            currency ++ "。") source
      | .perKg =>
        let weights := chargeableWeight data row
        let basis := if weights.1.isSome && weights.2.isSome then "实重与体积重取大"
          else "按已填写的重量"
        let divisor := match row.volumetricDivisor.filter (· ≠ 0) with
          | some divisor => "体积重除数 " ++ toString divisor ++ "。"
          | none => "未配置体积重除数，只按实重。"
        match [weights.1, weights.2].reduceOption.max? with
        | none => gap .firstMile currency "按重量计头程时必须填写重量或可换算的体积。" source
        | some weight =>
          let amount := quantize (weight * row.amount)
          ok .firstMile amount currency ("头程物流费 = 计费重 " ++ moneyText weight ++ " kg × " ++
            moneyText row.amount ++ " = " ++ moneyText amount ++ " " ++ currency ++ "。" ++ basis ++
            "。" ++ divisor) source
      | _ => gap .firstMile currency "头程计费方式不在支持列表中。" source

/-- `_first_mile`. -/
def firstMile (data : LandedCostInput) (fees : List FeeFact) (currency : String)
    (purchase : CostLine) : CostLine :=
  match data.firstMileMethod with
  | .weight | .volume | .value => allocate data currency purchase
  | .chargeable => chargeable data fees currency
  | .other _ => gap .firstMile currency "头程分摊方式不在支持列表中。"

/-- `_fx_reserve`. -/
def fxReserve (fees : List FeeFact) (channel : Channel) (currency : String)
    (parts : List CostLine) : CostLine :=
  match pickFee fees .fxReserve channel with
  | none => gap .fxReserve currency "汇兑预备金费率缺失或不唯一。"
  | some row =>
    let source := cite row.source row.verifiedAt
    if row.charge ≠ .rate then gap .fxReserve currency "汇兑预备金必须按比例配置。" source
    else
      match total parts with
      | none => gap .fxReserve currency "到手成本其他项不完整，无法计算汇兑预备金。" source
      | some base =>
        let amount := quantize (base * row.amount)
        ok .fxReserve amount currency
          ("汇兑预备金 = (采购 + 头程 + 关税 + 进口环节税 + 报关费 + 仓储费) " ++ moneyText base ++
            " × 费率 " ++ moneyText row.amount ++ " = " ++ moneyText amount ++ " " ++ currency ++ "。")
          source

/-! ### What the platform keeps -/

/-- `_rate_of_price`. -/
def rateOfPrice (code : LineCode) (feeCode : FeeCode) (title : String) (price : Option ℚ)
    (fees : List FeeFact) (channel : Channel) (currency : String) : CostLine :=
  match pickFee fees feeCode channel with
  | none => gap code currency (title ++ "费率缺失或不唯一。")
  | some row =>
    let source := cite row.source row.verifiedAt
    if row.charge ≠ .rate then gap code currency (title ++ "必须按售价比例配置。") source
    else
      match price with
      | none => gap code currency ("未填写售价，无法计算" ++ title ++ "。") source
      | some price =>
        let amount := quantize (price * row.amount)
        ok code amount currency (title ++ " = 售价 " ++ moneyText price ++ " × 费率 " ++
          moneyText row.amount ++ " = " ++ moneyText amount ++ " " ++ currency ++ "。") source

/-- `_fulfillment`. -/
def fulfillment (price : Option ℚ) (fees : List FeeFact) (channel : Channel)
    (currency : String) : CostLine :=
  match pickFee fees .fulfillment channel with
  | none => gap .fulfillment currency "平台物流费规则缺失或不唯一。"
  | some row =>
    let source := cite row.source row.verifiedAt
    match row.charge with
    | .fixed =>
      if row.currency ≠ some currency then
        gap .fulfillment currency "平台物流费币种与售价币种不一致。" source
      else ok .fulfillment row.amount currency
        ("平台物流费 = 固定 " ++ moneyText row.amount ++ " " ++ currency ++ "。") source
    | .rate =>
      match price with
      | none => gap .fulfillment currency "未填写售价，无法按比例计算平台物流费。" source
      | some price =>
        let amount := quantize (price * row.amount)
        ok .fulfillment amount currency ("平台物流费 = 售价 " ++ moneyText price ++ " × 费率 " ++
          moneyText row.amount ++ " = " ++ moneyText amount ++ " " ++ currency ++ "。") source
    | _ => gap .fulfillment currency "平台物流费须按固定金额或售价比例配置。" source

/-- `_return_loss`. -/
def returnLoss (price : Option ℚ) (fees : List FeeFact) (channel : Channel)
    (currency : String) : CostLine :=
  match pickFee fees .returnRate channel, pickFee fees .returnLoss channel with
  | some left, some right =>
    let source := String.intercalate "；"
      [cite left.source left.verifiedAt, cite right.source right.verifiedAt]
    if left.charge ≠ .rate ∨ right.charge ≠ .rate then
      gap .returnLoss currency "退货率和损失率都必须按比例配置。" source
    else
      match price with
      | none => gap .returnLoss currency "未填写售价，无法计算退货损失摊销。" source
      | some price =>
        let amount := quantize (price * left.amount * right.amount)
        ok .returnLoss amount currency ("退货损失摊销 = 售价 " ++ moneyText price ++ " × 退货率 " ++
          moneyText left.amount ++ " × 损失率 " ++ moneyText right.amount ++ " = " ++
          moneyText amount ++ " " ++ currency ++ "。") source
  | _, _ => gap .returnLoss currency "退货率和损失率必须各配置一条。"

/-- `_price_lines`. -/
def priceLines (data : LandedCostInput) (fees : List FeeFact) (currency : String) :
    List CostLine :=
  let price := data.sellingPrice
  [rateOfPrice .commission .commission "平台佣金" price fees data.channel currency,
    rateOfPrice .payment .payment "支付手续费" price fees data.channel currency,
    fulfillment price fees data.channel currency,
    rateOfPrice .ads .ads "广告费" price fees data.channel currency,
    returnLoss price fees data.channel currency]

/-! ### All lines -/

/-- A line that is switched off costs nothing. -/
def gate (off : List LineCode) (currency : String) (line : CostLine) : CostLine :=
  if line.code ∈ off then
    ⟨line.code, line.code.label, some 0, currency, "本项已关闭。", "租户配置", true⟩
  else line

/-- The lines in their order. -/
def costLines (data : LandedCostInput) (taxes : List TaxFact) (fees : List FeeFact)
    (off : List LineCode) : List CostLine :=
  let currency := data.sellingCurrency
  let gate := gate off currency
  let purchase := gate (purchase data currency)
  let duty := gate (duty data taxes currency)
  let importTax := gate (importTax data taxes currency duty)
  let brokerage := gate (brokerage data fees currency)
  let storage := gate (storage data fees currency)
  let firstMile := gate (firstMile data fees currency purchase)
  let fxReserve := gate (fxReserve fees data.channel currency
    [purchase, firstMile, duty, importTax, brokerage, storage])
  [purchase, firstMile, duty, importTax, brokerage, storage, fxReserve] ++
    (priceLines data fees currency).map gate

/-- `compute_landed_cost`. -/
def computeLandedCost (data : LandedCostInput) (taxes : List TaxFact) (fees : List FeeFact)
    (disabled : List LineCode) : LandedCostResult :=
  let lines := costLines data taxes fees disabled
  let landedParts := lines.filter fun line => line.code ∈ landedCodes
  let deductionParts := lines.filter fun line => line.code ∈ deductionCodes
  let landed := total landedParts
  let net : Option ℚ :=
    match landed, data.sellingPrice, total deductionParts with
    | some landed, some price, some deducted => some (quantize (price - landed - deducted))
    | _, _, _ => none
  let margin : Option ℚ :=
    match net, data.sellingPrice with
    | some net, some price => if 0 < price then some (quantize (net / price * 100)) else none
    | _, _ => none
  let base :=
    match lines with
    | purchase :: firstMile :: _ => invested purchase firstMile
    | _ => none
  let roi : Option ℚ :=
    match net, base with
    | some net, some base => if 0 < base then some (quantize (net / base * 100)) else none
    | _, _ => none
  { lines
    currency := data.sellingCurrency
    landedCost := landed
    netProfit := net
    netMarginPercent := margin
    roiPercent := roi
    complete := landed.isSome
    profitComplete := net.isSome }

end LandedCost

end CrossPilot
