import CrossPilot.Inventory.Balance

/-!
# The stock service

Adjustments, postings of purchases, transfers between warehouses and stock taking. A transfer moves
goods out of the source on shipping and keeps them in transit at the destination until they are
received. A stock taking freezes the books when it begins and posts the difference to the count.
-/

namespace CrossPilot

open Transaction Table

/-! ### Looking things up -/

def getSku (skuId : ℕ) : Work Sku := do
  orRaise .notFound (← .select fun d => d.skus.find? fun s => s.id = skuId ∧ s.deleted = false)

def getWarehouse (warehouseId : ℕ) : Work Warehouse := do
  orRaise .notFound
    (← .select fun d => d.warehouses.find? fun w => w.id = warehouseId ∧ w.deleted = false)

/-- The default warehouse. -/
def getDefault : Work (Option Warehouse) :=
  .select fun d => d.warehouses.find? fun w => w.isDefault ∧ w.deleted = false

/-- The first warehouse that does not belong to a platform, the default one before the others. -/
def firstFulfillment : Work (Option Warehouse) :=
  .select fun d =>
    ((d.warehouses.filter fun w => w.deleted = false ∧ w.warehouseType ≠ .platform).insertionSort
      fun a b => (!b.isDefault && a.isDefault) ||
        (a.isDefault == b.isDefault && a.id ≤ b.id)).head?

/-- The balance of a SKU in a warehouse, created empty if there is none. -/
def ensure (skuId warehouseId : ℕ) : Work Inventory := do
  let _ ← getSku skuId
  let _ ← getWarehouse warehouseId
  match ← getPair skuId warehouseId with
  | some found => return found
  | none =>
    let id ← nextSnowflakeId
    let row : Inventory := { id, skuId, warehouseId }
    let violated ← .update (fun _ => [.pair skuId warehouseId])
      (fun _ d => if d.inventories.any (·.pair = row.pair) then d
        else { d with inventories := d.inventories ++ [row] })
      fun _ d => d.inventories.any (·.pair = row.pair)
    if violated then
      -- the savepoint takes back nothing but the insert
      orRaise (.integrity "uq_inventory_sku_warehouse") (← getPair skuId warehouseId)
    else
      .remember fun l => l.put row
      return row

/-! ### Adjustments and postings -/

/-- What an adjustment is for. -/
inductive AdjustKind
  | inbound | outbound | toDefective | adjust
  deriving DecidableEq

/-- A request to adjust a balance. -/
structure InventoryAdjust where
  skuId : ℕ
  warehouseId : ℕ
  kind : AdjustKind
  quantity : ℤ
  refType : String := ""
  refId : Option ℕ := none

/-- `_adjust_deltas`. -/
def adjustDeltas (kind : AdjustKind) (quantity : ℤ) : Delta × FlowType × Bucket :=
  match kind with
  | .inbound => ({ available := quantity }, .inbound, .available)
  | .outbound => ({ available := -quantity }, .outbound, .available)
  | .toDefective => ({ available := -quantity, defective := quantity }, .adjust, .available)
  | .adjust => ({ available := quantity }, .adjust, .available)

def adjust (payload : InventoryAdjust) : Work Inventory := do
  if payload.kind ≠ .adjust ∧ payload.quantity ≤ 0 then raise (.paramInvalid "数量必须大于 0")
  else if payload.kind = .adjust ∧ payload.quantity = 0 then
    raise (.paramInvalid "调整数量不能为 0")
  else
    let row ← ensure payload.skuId payload.warehouseId
    let (δ, flowType, bucket) := adjustDeltas payload.kind payload.quantity
    commitChange row
      ⟨flowType, |payload.quantity|, bucket,
        if payload.refType = "" then "ADJUST" else payload.refType, payload.refId⟩ δ

def setSafeStock (inventoryId : ℕ) (safeStock : ℤ) : Work Unit := do
  let row ← orRaise .notFound (← .select fun d => d.inventories.find? fun r => r.id = inventoryId)
  let change (r : Inventory) := { r with safeStock }
  .update (fun _ => [.inventory row.id])
    (fun _ d => { d with inventories := alter Inventory.id row.id change d.inventories })
    fun _ _ => ()

/-- Purchases and first-leg freight: goods on hand and goods in transit are noted apart. -/
def postStock (skuId warehouseId : ℕ) (availableDelta inTransitDelta : ℤ) (refType : String)
    (refId : Option ℕ) : Work Unit := do
  if availableDelta = 0 ∧ inTransitDelta = 0 then return ()
  else
    let row ← ensure skuId warehouseId
    let flowType : FlowType := if 0 < availableDelta then .inbound else .outbound
    let onHand : FlowNote := ⟨flowType, |availableDelta|, .available, refType, refId⟩
    let onTheWay : FlowNote := ⟨.adjust, |inTransitDelta|, .inTransit, refType, refId⟩
    let row ← if availableDelta = 0 then pure row
      else commitChange row onHand { available := availableDelta }
    if inTransitDelta = 0 then return ()
    else
      let _ ← commitChange row onTheWay { inTransit := inTransitDelta }

/-! ### Transfers -/

/-- One leg of a transfer. -/
structure StockMove where
  availableDelta : ℤ
  inTransitDelta : ℤ
  flowType : FlowType
  bucket : Bucket

/-- `_positive`. -/
def positive (quantity : ℤ) : Work Unit :=
  if quantity ≤ 0 then raise (.value "数量必须大于 0") else pure ()

/-- Out of the source, on the way to the destination. -/
def shipMoves (quantity : ℤ) : StockMove × StockMove :=
  (⟨-quantity, 0, .transferOut, .available⟩, ⟨0, quantity, .transferIn, .inTransit⟩)

/-- Arrived at the destination. -/
def receiveMove (quantity : ℤ) : StockMove := ⟨quantity, -quantity, .transferIn, .available⟩

/-- No longer on the way to the destination, back in the source. -/
def cancelTransitMoves (quantity : ℤ) : StockMove × StockMove :=
  (⟨0, -quantity, .transferIn, .inTransit⟩, ⟨quantity, 0, .transferOut, .available⟩)

def moveLeg (row : Inventory) (move : StockMove) (quantity : ℤ) (transferId : ℕ) : Work Unit := do
  let _ ← commitChange row ⟨move.flowType, quantity, move.bucket, "TRANSFER", some transferId⟩
    { available := move.availableDelta, inTransit := move.inTransitDelta }

def getTransfer (transferId : ℕ) : Work StockTransfer := do
  orRaise .notFound (← .select fun d => d.transfers.find? fun t => t.id = transferId)

def transferLinesFor (transferId : ℕ) : Work (List StockTransferLine) :=
  .select fun d => (d.transferLines.filter fun l => l.transferId = transferId).insertionSort
    fun a b => a.id ≤ b.id

/-- Move a transfer on, if it still is where the caller believes it to be. -/
def transitionTransfer (transferId : ℕ) (fromStatus toStatus : TransferStatus) : Work Bool :=
  let hit (t : StockTransfer) : Bool := t.id = transferId && t.status = fromStatus
  let locked (ts : List RowKey) (t : StockTransfer) : Bool := RowKey.transfer t.id ∈ ts && hit t
  let after (ts : List RowKey) (t : StockTransfer) :=
    if locked ts t then { t with status := toStatus } else t
  .update (fun d => (d.transfers.filter hit).map fun t => .transfer t.id)
    (fun ts d => { d with transfers := d.transfers.map (after ts) })
    fun ts d => (d.transfers.filter (locked ts)).length = 1

/-- `_transfer_view`: everything a transfer names must still be there. -/
def transferView (row : StockTransfer) : Work (StockTransfer × List StockTransferLine) := do
  let _ ← getWarehouse row.fromWarehouseId
  let _ ← getWarehouse row.toWarehouseId
  let lines ← transferLinesFor row.id
  .forEach lines fun line => do let _ ← getSku line.skuId
  return (row, lines)

def createTransfer (fromWarehouseId toWarehouseId : ℕ) (lines : List (ℕ × ℤ)) :
    Work (StockTransfer × List StockTransferLine) := do
  if fromWarehouseId = toWarehouseId then raise .transferWarehouse
  else
    let _ ← getWarehouse fromWarehouseId
    let _ ← getWarehouse toWarehouseId
    .forEach lines fun line => do let _ ← getSku line.1
    let id ← nextSnowflakeId
    let row : StockTransfer := ⟨id, fromWarehouseId, toWarehouseId, .draft⟩
    .insert fun d => { d with transfers := d.transfers ++ [row] }
    .forEach lines fun line => do
      let lineId ← nextSnowflakeId
      .insert fun d => { d with transferLines := d.transferLines ++ [⟨lineId, id, line.1, line.2⟩] }
    transferView row

def shipTransfer (transferId : ℕ) : Work (StockTransfer × List StockTransferLine) := do
  let row ← getTransfer transferId
  if row.status ≠ .draft then raise .transferState
  else
    let lines ← transferLinesFor row.id
    if !(← transitionTransfer row.id .draft .inTransit) then raise .transferState
    else
      .forEach lines fun line => do
        positive line.quantity
        let (sourceMove, destMove) := shipMoves line.quantity
        let source ← ensure line.skuId row.fromWarehouseId
        let dest ← ensure line.skuId row.toWarehouseId
        moveLeg source sourceMove line.quantity row.id
        moveLeg dest destMove line.quantity row.id
      transferView { row with status := .inTransit }

def receiveTransfer (transferId : ℕ) : Work (StockTransfer × List StockTransferLine) := do
  let row ← getTransfer transferId
  if row.status ≠ .inTransit then raise .transferState
  else
    let lines ← transferLinesFor row.id
    if !(← transitionTransfer row.id .inTransit .received) then raise .transferState
    else
      .forEach lines fun line => do
        let dest ← ensure line.skuId row.toWarehouseId
        positive line.quantity
        moveLeg dest (receiveMove line.quantity) line.quantity row.id
      transferView { row with status := .received }

def cancelTransfer (transferId : ℕ) : Work (StockTransfer × List StockTransferLine) := do
  let row ← getTransfer transferId
  let lines ← transferLinesFor row.id
  if row.status = .draft then
    if !(← transitionTransfer row.id .draft .cancelled) then raise .transferState
    else transferView { row with status := .cancelled }
  else if row.status ≠ .inTransit then raise .transferState
  else if !(← transitionTransfer row.id .inTransit .cancelled) then raise .transferState
  else
    .forEach lines fun line => do
      positive line.quantity
      let (destMove, sourceMove) := cancelTransitMoves line.quantity
      let dest ← ensure line.skuId row.toWarehouseId
      let source ← ensure line.skuId row.fromWarehouseId
      moveLeg dest destMove line.quantity row.id
      moveLeg source sourceMove line.quantity row.id
    transferView { row with status := .cancelled }

/-! ### Stock taking -/

def getTaking (takingId : ℕ) : Work StockTaking := do
  orRaise .notFound (← .select fun d => d.takings.find? fun t => t.id = takingId)

def takingLinesFor (takingId : ℕ) : Work (List StockTakingLine) :=
  .select fun d => (d.takingLines.filter fun l => l.takingId = takingId).insertionSort
    fun a b => a.id ≤ b.id

/-- Move a stock taking on, if it still is where the caller believes it to be. -/
def transitionTaking (takingId : ℕ) (fromStatus toStatus : TakingStatus) : Work Bool :=
  let hit (t : StockTaking) : Bool := t.id = takingId && t.status = fromStatus
  let locked (ts : List RowKey) (t : StockTaking) : Bool := RowKey.taking t.id ∈ ts && hit t
  let after (ts : List RowKey) (t : StockTaking) :=
    if locked ts t then { t with status := toStatus } else t
  .update (fun d => (d.takings.filter hit).map fun t => .taking t.id)
    (fun ts d => { d with takings := d.takings.map (after ts) })
    fun ts d => (d.takings.filter (locked ts)).length = 1

/-- `_taking_view`: everything a stock taking names must still be there. -/
def takingView (row : StockTaking) : Work (StockTaking × List StockTakingLine) := do
  let _ ← getWarehouse row.warehouseId
  let lines ← takingLinesFor row.id
  .forEach lines fun line => do let _ ← getSku line.skuId
  return (row, lines)

def createTaking (warehouseId : ℕ) : Work (StockTaking × List StockTakingLine) := do
  let _ ← getWarehouse warehouseId
  let balances ← .select fun d => d.inventories.filter fun r => r.warehouseId = warehouseId
  if balances.isEmpty then raise (.paramInvalid "该仓库没有库存可盘点")
  else
    let id ← nextSnowflakeId
    let row : StockTaking := { id, warehouseId, status := .draft }
    .insert fun d => { d with takings := d.takings ++ [row] }
    .forEach balances fun balance => do
      let held ← present balance
      let lineId ← nextSnowflakeId
      let line : StockTakingLine := ⟨lineId, id, held.skuId, held.available, none⟩
      .insert fun d => { d with takingLines := d.takingLines ++ [line] }
    takingView row

def recordCounts (takingId : ℕ) (counts : List (ℕ × ℤ)) :
    Work (StockTaking × List StockTakingLine) := do
  let row ← getTaking takingId
  if row.status ≠ .draft then raise .stockTakingState
  else
    .forEach counts fun item => do
      let line ← orRaise (.stockTakingState "盘点行不存在")
        (← .select fun d => d.takingLines.find? fun l => l.takingId = row.id ∧ l.skuId = item.1)
      let count (l : StockTakingLine) := { l with countedQty := some item.2 }
      .update (fun _ => [.takingLine line.id])
        (fun _ d => { d with takingLines := alter StockTakingLine.id line.id count d.takingLines })
        fun _ _ => ()
    takingView row

/-- How much the count differs from the books. -/
def takingDelta (bookQty countedQty : ℤ) : ℤ := countedQty - bookQty

/-- The balance stays within its bounds. -/
def takingFits (available occupied delta : ℤ) : Bool :=
  0 ≤ available + delta && occupied ≤ available + delta

/-- The differences to post, once every balance is found able to take its own. -/
def planTaking (warehouseId : ℕ) : List StockTakingLine → Work (List (ℕ × ℤ))
  | [] => return []
  | line :: rest => do
    let counted ← orRaise (.stockTakingState "还有 SKU 没有录入实盘") line.countedQty
    let delta := takingDelta line.bookQty counted
    let balance ← orRaise (.notFound "库存不存在") (← getPair line.skuId warehouseId)
    if !takingFits balance.available balance.occupied delta then raise .inventoryInsufficient
    else return (line.skuId, delta) :: (← planTaking warehouseId rest)

def postTaking (takingId : ℕ) : Work (StockTaking × List StockTakingLine) := do
  let row ← getTaking takingId
  if row.status ≠ .draft then raise .stockTakingState
  else
    let lines ← takingLinesFor row.id
    if lines.any (·.countedQty.isNone) then raise (.stockTakingState "还有 SKU 没有录入实盘")
    else
      let planned ← planTaking row.warehouseId lines
      if !(← transitionTaking row.id .draft .posted) then raise .stockTakingState
      else
        .forEach planned fun (skuId, delta) => do
          if delta = 0 then return ()
          else
            let _ ← adjust ⟨skuId, row.warehouseId, .adjust, delta, "STOCK_TAKING", some row.id⟩
        let summary : DiffSummary :=
          ⟨lines.length, total (fun p => max p.2 0) planned, total (fun p => max (-p.2) 0) planned⟩
        let sum (t : StockTaking) := { t with diffSummary := some summary }
        .update (fun _ => [.taking row.id])
          (fun _ d => { d with takings := alter StockTaking.id row.id sum d.takings })
          fun _ _ => ()
        takingView { row with status := .posted, diffSummary := some summary }

def cancelTaking (takingId : ℕ) : Work (StockTaking × List StockTakingLine) := do
  let row ← getTaking takingId
  if row.status ≠ .draft then raise .stockTakingState
  else if !(← transitionTaking row.id .draft .cancelled) then raise .stockTakingState
  else takingView { row with status := .cancelled }

end CrossPilot
