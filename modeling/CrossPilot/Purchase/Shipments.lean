import CrossPilot.Finance.Pricing
import CrossPilot.Finance.Materialize
import CrossPilot.Purchase.Orders

/-!
# Shipments on their first mile

A shipment is drafted with its lines and posted once. Posting shares its cost out among the lines,
moves the goods from the one warehouse to the other, where they are in transit, and works out for
each line what a unit costs on arrival. The unit cost of a SKU is averaged over what has come so far
and written down as a new row of its cost pool; in another currency it starts anew.
-/

namespace CrossPilot

open Transaction Table

/-- The column of a line of the unit cost. -/
def SkuCostPool.unit (pool : SkuCostPool) : LineCode → ℚ
  | .purchase => pool.purchaseUnit
  | .firstMile => pool.firstMileUnit
  | .duty => pool.dutyUnit
  | .importTax => pool.importTaxUnit
  | .brokerage => pool.brokerageUnit
  | .storage => pool.storageUnit
  | .fxReserve => pool.fxReserveUnit
  | _ => 0

def Sku.volume (sku : Sku) : ℚ := sku.lengthCm * sku.widthCm * sku.heightCm

namespace Purchasing

open FirstMile (PurchaseRuleError AllocMethod AllocInput AllocOutput allocate)
open LandedCost (quantize moneyText CostLine LandedCostInput LandedCostResult landedCodes
  computeLandedCost)
open Pricing (amountOf lineOf)
open LandedCostService (taxFacts feeFacts disabled)

/-! ### Unit costs -/

/-- `bind_first_mile`: the line of the first mile says how the cost was shared out. -/
def bindFirstMile (result : LandedCostResult) (formula source : String) : LandedCostResult :=
  let lines := result.lines.map fun line =>
    if line.code = .firstMile ∧ line.complete = true ∧ line.amount.isSome then
      { line with formula, source }
    else line
  let landed := LandedCost.total (lines.filter fun line => line.code ∈ landedCodes)
  { lines
    currency := result.currency
    landedCost := landed
    netProfit := none
    netMarginPercent := none
    roiPercent := none
    complete := landed.isSome
    profitComplete := false }

def incompleteLanded (result : LandedCostResult) : List LineCode :=
  (result.lines.filter fun line => line.code ∈ landedCodes && !line.complete).map CostLine.code

def weightedUnit (oldQty : ℤ) (oldUnit : ℚ) (newQty : ℤ) (newUnit : ℚ) :
    Except PurchaseRuleError ℚ :=
  if newQty ≤ 0 then .error ⟨"receipt", "到仓数量必须大于 0"⟩
  else if oldQty ≤ 0 then .ok (quantize newUnit)
  else .ok (quantize ((oldQty * oldUnit + newQty * newUnit) / (oldQty + newQty : ℤ)))

def averageFormula (label : String) (oldQty : ℤ) (oldUnit : ℚ) (newQty : ℤ)
    (newUnit averaged : ℚ) (currency : String) : String :=
  if oldQty ≤ 0 then label ++ " = 本次到仓 " ++ moneyText newUnit ++ " " ++ currency ++ "。"
  else label ++ " = (" ++ toString oldQty ++ " × " ++ moneyText oldUnit ++ " + " ++
    toString newQty ++ " × " ++ moneyText newUnit ++ ") / " ++ toString (oldQty + newQty) ++ " = " ++
    moneyText averaged ++ " " ++ currency ++ "。"

/-- The unit of a line so far, nothing counting as zero. -/
def oldUnit (previous : Option SkuCostPool) (code : LineCode) : ℚ :=
  (previous.map fun pool => pool.unit code).getD 0

/-- `_averaged`. -/
def averaged (previous : Option SkuCostPool) (cost : LandedCostResult) (oldQty newQty : ℤ) :
    Except PurchaseRuleError (List (LineCode × ℚ)) :=
  landedCodes.mapM fun code => do
    let amount ← weightedUnit oldQty (oldUnit previous code) newQty (amountOf cost code)
    return (code, amount)

/-- The average of a line. -/
def amountIn (amounts : List (LineCode × ℚ)) (code : LineCode) : ℚ :=
  ((amounts.find? fun p => p.1 = code).map Prod.snd).getD 0

/-- `_pool_lines`. -/
def poolLines (cost : LandedCostResult) (amounts : List (LineCode × ℚ))
    (previous : Option SkuCostPool) (oldQty newQty : ℤ) (currency : String)
    (arrivalLanded landed : ℚ) : List PoolLine :=
  (amounts.map fun p =>
    let arrival := lineOf cost p.1
    let formula := (arrival.map CostLine.formula).getD ""
    let source := (arrival.map CostLine.source).getD ""
    { code := .cost p.1
      label := p.1.label
      amount := moneyText p.2
      currency
      formula := if oldQty ≤ 0 then formula
        else averageFormula p.1.label oldQty (oldUnit previous p.1) newQty (amountOf cost p.1) p.2
          currency
      source := if oldQty ≤ 0 then source
        else match previous with
          | some pool => "sku_cost_pool#" ++ toString pool.id ++ "；" ++ source
          | none => source
      complete := true : PoolLine }) ++
  [{ code := .landed
     label := "到仓成本"
     amount := moneyText landed
     currency
     formula := averageFormula "到仓成本" oldQty ((previous.map SkuCostPool.landedUnit).getD 0) newQty
       arrivalLanded landed currency
     source := "采购 + 头程 + 关税 + 进口环节税 + 报关 + 仓储 + 汇兑预备金"
     complete := true }]

/-! ### What a unit costs on arrival -/

/-- `_purchase_price`: the price on the order of the shipment, or else that of the SKU. -/
def purchasePrice (d : Db) (shipment : FirstMileShipment) (sku : Sku) :
    Option ℚ × Option String :=
  match shipment.purchaseOrderId.bind fun orderId =>
    (itemsOf d orderId).find? fun item => item.skuId = sku.id with
  | some item => (some item.unitPrice, some (Text.strip item.currency))
  | none =>
    if sku.purchasePrice.isNone || sku.currency.isNone then (none, none)
    else (sku.purchasePrice, sku.currency.map Text.strip)

/-- `_fx`. -/
def fx (d : Db) (purchaseCurrency : Option String) (bookCurrency : String) (on : Day) :
    Option ℚ × String :=
  match purchaseCurrency with
  | none => (none, "")
  | some currency =>
    if currency = bookCurrency then (none, "")
    else
      match ExchangeRateRepository.latest d bookCurrency currency .book on with
      | none => (none, "")
      | some row => (some row.rate, row.source)

/-- `_hs`. -/
def hs (d : Db) (spuId : ℕ) (market : String) : String :=
  match d.hsBindings.find? fun b => b.spuId = spuId ∧ b.market = market with
  | none => ""
  | some binding =>
    ((d.hsCodes.find? fun code => code.id = binding.hsCodeId).map HsCode.code).getD ""

/-- The value that the cost of a shipment is shared out by. -/
def unitValue (d : Db) (shipment : FirstMileShipment) (sku : Sku) (on : Day) : ℚ :=
  let price := purchasePrice d shipment sku
  let currency := Text.strip shipment.currency
  match price.1 with
  | none => 0
  | some amount =>
    if price.2 = some currency then amount
    else
      match (fx d price.2 currency on).1 with
      | none => 0
      | some rate => quantize (amount / rate)

/-- What a line of a shipment counts for. -/
def allocInput (d : Db) (shipment : FirstMileShipment) (on : Day) (sku : Sku) (quantity : ℤ) :
    AllocInput :=
  ⟨sku.id, quantity, sku.weightG, sku.volume, unitValue d shipment sku on⟩

/-- The value that is declared for a unit. -/
def declaredValue (d : Db) (shipment : FirstMileShipment) (sku : Sku) (on : Day) : Option ℚ :=
  let price := purchasePrice d shipment sku
  let currency := Text.strip shipment.currency
  if price.2 = some currency then price.1
  else
    match (fx d price.2 currency on).1, price.1 with
    | some rate, some amount => some (quantize (amount / rate))
    | _, _ => none

/-- What `_write_pool` asks the cost of. -/
def poolInput (d : Db) (shipment : FirstMileShipment) (sku : Sku) (unitFirstMile : ℚ) (on : Day) :
    LandedCostInput :=
  let currency := Text.strip shipment.currency
  let price := purchasePrice d shipment sku
  let rate := fx d price.2 currency on
  let declared := declaredValue d shipment sku on
  { market := shipment.destinationMarket
    sellingCurrency := currency
    channel := shipment.channel
    firstMileMethod := .weight
    purchaseAmount := price.1
    purchaseCurrency := price.2
    fxRate := rate.1
    fxSource := rate.2
    weightG := some 1
    volumeCm3 := some sku.volume
    hsCode := hs d sku.spuId shipment.destinationMarket
    declaredValue := declared
    declaredCurrency := if declared.isNone then none else some currency
    shipmentCost := some unitFirstMile
    shipmentCurrency := some currency
    shipmentWeightG := some 1
    storageDays := some shipment.storageDays }

/-- The cost of a unit of a line, with the first mile as it was shared out. -/
def arrivalCost (d : Db) (shipment : FirstMileShipment) (sku : Sku) (line : AllocOutput) (on : Day) :
    LandedCostResult :=
  bindFirstMile
    (computeLandedCost (poolInput d shipment sku line.unitCost on)
      (taxFacts d shipment.destinationMarket on) (feeFacts d shipment.destinationMarket on)
      ((disabled d shipment.destinationMarket shipment.channel).filter (· ≠ .firstMile)))
    line.formula "头程物流单"

/-! ### Rows -/

def getShipment (shipmentId : ℕ) : Work FirstMileShipment := do
  orRaise .notFound (← .select fun d => d.firstMiles.find? fun s => s.id = shipmentId)

/-- A second shipment under an idempotency key is refused, and so is one without cost. -/
def addShipment (shipment : FirstMileShipment) : Work Unit := do
  let taken (d : Db) : Bool := shipment.idempotencyKey.isSome &&
    d.firstMiles.any fun s => s.idempotencyKey = shipment.idempotencyKey
  if shipment.costTotal ≤ 0 then raise (.integrity "ck_first_mile_shipment_cost_total")
  else
    let violated ← .update (fun _ => shipment.idempotencyKey.toList.map .firstMileKey)
      (fun _ d => if taken d then d else { d with firstMiles := d.firstMiles ++ [shipment] })
      fun _ d => taken d
    if violated then raise (.integrity "uq_first_mile_shipment_idempotency") else return ()

def saveShipment (shipmentId : ℕ) (change : FirstMileShipment → FirstMileShipment) : Work Unit :=
  .update (fun _ => [.firstMile shipmentId])
    (fun _ d => { d with firstMiles := alter FirstMileShipment.id shipmentId change d.firstMiles })
    fun _ _ => ()

/-- A SKU bears a part of the cost of a shipment once, and no negative one. -/
def addAllocation (row : FirstMileCostAllocation) : Work Unit := do
  let taken (d : Db) : Bool := d.costAllocations.any fun r =>
    r.shipmentId = row.shipmentId && r.skuId = row.skuId
  if ¬ (0 < row.quantity ∧ 0 ≤ row.allocatedCost) then
    raise (.integrity "ck_first_mile_cost_allocation_quantity")
  else
    let violated ← .update (fun _ => [.costAllocation row.shipmentId row.skuId])
      (fun _ d =>
        if taken d then d else { d with costAllocations := d.costAllocations ++ [row] })
      fun _ d => taken d
    if violated then raise (.integrity "uq_first_mile_cost_allocation_sku") else return ()

/-- No unit of a cost pool is negative. -/
def unitsNonneg (pool : SkuCostPool) : Bool :=
  (landedCodes.all fun code => 0 ≤ pool.unit code) && 0 ≤ pool.landedUnit

def addPool (row : SkuCostPool) : Work Unit :=
  if row.quantity ≤ 0 then raise (.integrity "ck_sku_cost_pool_quantity")
  else if ¬ unitsNonneg row then raise (.integrity "ck_sku_cost_pool_units")
  else .insert fun d => { d with costPools := d.costPools ++ [row] }

/-- `latest_for_sku`. -/
def latestForSku (pools : List SkuCostPool) (skuId : ℕ) : Option SkuCostPool :=
  ((pools.filter fun pool => pool.skuId = skuId).insertionSort fun a b => b.id ≤ a.id).head?

/-! ### Answers -/

structure AllocationView where
  id : ℕ
  skuId : ℕ
  quantity : ℤ
  allocatedCost : Option String
  currency : Option String
  method : AllocMethod
  formula : String
  source : String
  deriving DecidableEq

structure CostPoolView where
  id : ℕ
  skuId : ℕ
  quantity : ℤ
  currency : Option String
  units : List (Option String)
  landedUnit : Option String
  lines : List PoolLine
  source : String
  deriving DecidableEq

structure ShipmentView where
  id : ℕ
  purchaseOrderId : Option ℕ
  fromWarehouseId : Option ℕ
  toWarehouseId : Option ℕ
  channel : Channel
  destinationMarket : String
  costTotal : Option String
  currency : Option String
  allocMethod : AllocMethod
  storageDays : ℕ
  status : FirstMileStatus
  allocations : List AllocationView
  pools : List CostPoolView
  deriving DecidableEq

def allocationView (visible : Bool) (row : FirstMileCostAllocation) : AllocationView where
  id := row.id
  skuId := row.skuId
  quantity := row.quantity
  allocatedCost := shownMoney row.allocatedCost visible
  currency := if visible then some (Text.strip row.currency) else none
  method := row.method
  formula := if visible then row.formula else ""
  source := if visible then row.source else ""

/-- `_pool_view`. -/
def poolView (visible : Bool) (row : SkuCostPool) : CostPoolView where
  id := row.id
  skuId := row.skuId
  quantity := row.quantity
  currency := if visible then some (Text.strip row.currency) else none
  units := landedCodes.map fun code => shownMoney (row.unit code) visible
  landedUnit := shownMoney row.landedUnit visible
  lines := if visible then row.lines else []
  source := if visible then row.source else ""

/-- `_shipment_view`. -/
def shipmentView (shipment : FirstMileShipment) (visible : Bool) : Work ShipmentView := do
  let allocations ← .select fun d =>
    (d.costAllocations.filter fun r => r.shipmentId = shipment.id).insertionSort fun a b =>
      a.id ≤ b.id
  let pools ← .select fun d =>
    (d.costPools.filter fun r => r.shipmentId = shipment.id).insertionSort fun a b => a.id ≤ b.id
  return {
    id := shipment.id
    purchaseOrderId := shipment.purchaseOrderId
    fromWarehouseId := shipment.fromWarehouseId
    toWarehouseId := shipment.toWarehouseId
    channel := shipment.channel
    destinationMarket := shipment.destinationMarket
    costTotal := shownMoney shipment.costTotal visible
    currency := if visible then some (Text.strip shipment.currency) else none
    allocMethod := shipment.allocMethod
    storageDays := shipment.storageDays
    status := shipment.status
    allocations := allocations.map (allocationView visible)
    pools := pools.map (poolView visible) }

/-! ### Drafting -/

/-- `CONTENT_MARKETS`. -/
def contentMarkets : List String :=
  ["US", "CA", "MX", "UK", "GB", "DE", "FR", "IT", "ES", "JP", "AU", "SG", "MY", "TH", "ID", "VN", "PH",
    "TW", "BR"]

structure ShipmentCreate where
  channel : Channel
  destinationMarket : String
  costTotal : ℚ
  currency : String
  allocMethod : AllocMethod
  storageDays : ℕ := 0
  purchaseOrderId : Option ℕ := none
  fromWarehouseId : Option ℕ := none
  toWarehouseId : Option ℕ := none
  lines : List (ℕ × ℤ)
  channel_real : channel ≠ .any
  costTotal_pos : 0 < costTotal
  supported : allocMethod.supported = true
  quantity_pos : ∀ line ∈ lines, 0 < line.2
  lines_ne_nil : lines ≠ []

/-- `_check_shipment_refs`. -/
def checkShipmentRefs (payload : ShipmentCreate) : Work Unit := do
  .forEach payload.purchaseOrderId.toList fun orderId => do let _ ← getOrder orderId
  .forEach (payload.fromWarehouseId.toList ++ payload.toWarehouseId.toList) fun warehouseId => do
    let _ ← destination warehouseId

/-- A shipment that was not taken down before. -/
def draftShipment (payload : ShipmentCreate) (key : Option String) (visible : Bool) :
    Work ShipmentView := do
  checkShipmentRefs payload
  if payload.destinationMarket ∉ contentMarkets then raise (.paramInvalid "目的国不支持")
  else if ¬ (payload.lines.map Prod.fst).Nodup then raise (.paramInvalid "头程明细不能重复 SKU")
  else
    .forEach payload.lines fun line => do let _ ← getSku line.1
    let id ← nextSnowflakeId
    let row : FirstMileShipment :=
      { id, purchaseOrderId := payload.purchaseOrderId, fromWarehouseId := payload.fromWarehouseId
        toWarehouseId := payload.toWarehouseId, channel := payload.channel
        destinationMarket := payload.destinationMarket, costTotal := quantize payload.costTotal
        currency := payload.currency, allocMethod := payload.allocMethod
        storageDays := payload.storageDays, status := .draft, lines := payload.lines
        idempotencyKey := key }
    addShipment row
    shipmentView { row with costTotal := payload.costTotal } visible

def createShipment (payload : ShipmentCreate) (idempotencyKey : Option String) (visible : Bool) :
    Work ShipmentView := do
  let key ← cleanKey idempotencyKey
  match ← .select fun d =>
    if key.isSome then d.firstMiles.find? fun s => s.idempotencyKey = key else none with
  | some existing => shipmentView existing visible
  | none => draftShipment payload key visible

/-! ### Posting -/

/-- `_po_warehouse_type`. -/
def poWarehouseType (orderId : Option ℕ) : Work (Option WarehouseType) :=
  match orderId with
  | none => return none
  | some orderId => do
    let order ← getOrder orderId
    let warehouse ← getWarehouse order.warehouseId
    return some warehouse.warehouseType

/-- `_allocation_inputs`. -/
def allocationInputs (shipment : FirstMileShipment) (on : Day) : Work (List AllocInput) :=
  .collect shipment.lines fun line => do
    let sku ← getSku line.1
    .select fun d => allocInput d shipment on sku line.2

/-- The goods of a line leave for the other warehouse. -/
def moveLine (shipment : FirstMileShipment) (fromId toId : ℕ) (line : AllocOutput) : Work Unit := do
  postStock line.skuId fromId (-line.quantity) 0 "FIRST_MILE" (some shipment.id)
  postStock line.skuId toId 0 line.quantity "FIRST_MILE" (some shipment.id)

def moveLines (shipment : FirstMileShipment) (warehouseType : Option WarehouseType)
    (lines : List AllocOutput) : Work Unit :=
  match shipment.fromWarehouseId, shipment.toWarehouseId with
  | some fromId, some toId =>
    if shouldMoveStock shipment.fromWarehouseId shipment.toWarehouseId warehouseType then
      .forEach lines (moveLine shipment fromId toId)
    else return ()
  | _, _ => return ()

/-- An error of a rule that nobody catches. -/
def uncaught {α : Type} : Except PurchaseRuleError α → Work α
  | .ok a => pure a
  | .error e => raise (.value e.message)

/-- The row that `_write_pool` adds. -/
def poolRow (shipment : FirstMileShipment) (line : AllocOutput) (cost : LandedCostResult)
    (previous : Option SkuCostPool) (amounts : List (LineCode × ℚ)) (arrivalLanded landed : ℚ)
    (id : ℕ) : SkuCostPool :=
  let currency := Text.strip shipment.currency
  let oldQty := (previous.map SkuCostPool.quantity).getD 0
  { id, skuId := line.skuId, shipmentId := shipment.id
    purchaseOrderId := shipment.purchaseOrderId, quantity := oldQty + line.quantity, currency
    purchaseUnit := amountIn amounts .purchase
    firstMileUnit := amountIn amounts .firstMile
    dutyUnit := amountIn amounts .duty
    importTaxUnit := amountIn amounts .importTax
    brokerageUnit := amountIn amounts .brokerage
    storageUnit := amountIn amounts .storage
    fxReserveUnit := amountIn amounts .fxReserve
    landedUnit := landed
    lines := poolLines cost amounts previous oldQty line.quantity currency arrivalLanded landed
    source := "first_mile_shipment#" ++ toString shipment.id }

/-- `_write_pool`. -/
def writePool (shipment : FirstMileShipment) (line : AllocOutput) (on : Day) : Work Unit := do
  let sku ← getSku line.skuId
  let cost ← .select fun d => arrivalCost d shipment sku line on
  match if incompleteLanded cost = [] then cost.landedCost else none with
  | none => raise .costPoolIncomplete
  | some arrivalLanded =>
    let previous ← .select fun d => (latestForSku d.costPools line.skuId).filter fun pool =>
      Text.strip pool.currency = Text.strip shipment.currency
    let oldQty := (previous.map SkuCostPool.quantity).getD 0
    let amounts ← uncaught (averaged previous cost oldQty line.quantity)
    let landed ← uncaught (weightedUnit oldQty ((previous.map SkuCostPool.landedUnit).getD 0)
      line.quantity arrivalLanded)
    let id ← nextSnowflakeId
    addPool (poolRow shipment line cost previous amounts arrivalLanded landed id)

/-- The row of a line. -/
def allocationRow (shipment : FirstMileShipment) (id : ℕ) (line : AllocOutput) :
    FirstMileCostAllocation where
  id := id
  shipmentId := shipment.id
  skuId := line.skuId
  quantity := line.quantity
  allocatedCost := line.allocatedCost
  currency := Text.strip shipment.currency
  method := shipment.allocMethod
  formula := line.formula
  source := line.source

/-- A line bears its part of the cost. -/
def postLine (shipment : FirstMileShipment) (line : AllocOutput) (on : Day) : Work Unit := do
  let id ← nextSnowflakeId
  addAllocation (allocationRow shipment id line)
  writePool shipment line on

/-- `post_shipment`. The clock is read for the shares and then for each line. -/
def postShipment (shipmentId : ℕ) (clock : ℕ → Day) (visible : Bool) : Work ShipmentView := do
  let shipment ← getShipment shipmentId
  if shipment.status = .posted then shipmentView shipment visible
  else
    let warehouseType ← poWarehouseType shipment.purchaseOrderId
    let inputs ← allocationInputs shipment (clock 0)
    let lines ← raiseRule
      (allocate shipment.allocMethod shipment.costTotal (Text.strip shipment.currency) inputs)
    moveLines shipment warehouseType lines
    .forEach lines.zipIdx fun p => postLine shipment p.1 (clock (p.2 + 1))
    saveShipment shipment.id fun s => { s with status := .posted }
    shipmentView { shipment with status := .posted } visible

end Purchasing

end CrossPilot
