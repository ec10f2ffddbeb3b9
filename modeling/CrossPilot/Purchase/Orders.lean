import CrossPilot.Inventory.Service
import CrossPilot.Purchase.Rules

/-!
# Purchase orders

An order is drafted, submitted, approved and received. Goods of an approved order are on their way:
approving posts them as in transit at the warehouse of the order, editing posts what the change
makes of them, receiving and writing off take them out of transit, and so does cancelling. Each
request is one transaction.
-/

namespace CrossPilot

open Transaction Table

namespace Purchasing

open FirstMile (PurchaseRuleError)
open LandedCost (quantize moneyText)

/-! ### Looking things up -/

/-- `_clean_key`. -/
def cleanKey (value : Option String) : Work (Option String) :=
  match value.map Text.strip with
  | none | some "" => return none
  | some text =>
    if text.toList.any fun c => c ∈ ['%', '_', '#'] then raise (.paramInvalid "幂等键不能包含 %、_ 或 #")
    else return some text

/-- `_raise_rule`. -/
def raiseRule {α : Type} : Except PurchaseRuleError α → Work α
  | .ok a => pure a
  | .error e =>
    if e.code = "state" then raise (.purchaseState e.message) else raise (.receiptInvalid e.message)

def getSupplier (supplierId : ℕ) : Work Supplier := do
  orRaise .notFound
    (← .select fun d => d.suppliers.find? fun s => s.id = supplierId ∧ s.deleted = false)

def getOrder (orderId : ℕ) : Work PurchaseOrder := do
  orRaise .notFound (← .select fun d => d.purchaseOrders.find? fun o => o.id = orderId)

/-- `_destination`: a warehouse that goods can be sent to. -/
def destination (warehouseId : ℕ) : Work Warehouse := do
  let warehouse ← getWarehouse warehouseId
  match transitRegion warehouse.warehouseType with
  | .error e => raise (.paramInvalid e.message)
  | .ok _ => return warehouse

/-- The lines of an order. -/
def itemsOf (d : Db) (orderId : ℕ) : List PurchaseOrderItem :=
  (d.purchaseItems.filter fun r => r.purchaseOrderId = orderId).insertionSort fun a b => a.id ≤ b.id

def listForOrder (orderId : ℕ) : Work (List PurchaseOrderItem) := .select fun d => itemsOf d orderId

/-! ### Answers -/

structure PurchaseLineView where
  id : ℕ
  skuId : ℕ
  quantity : ℤ
  receivedQty : ℤ
  shortQty : ℤ
  openQty : ℤ
  unitPrice : Option String
  currency : Option String
  taxIncluded : Bool
  expectedOn : Option Day
  deriving DecidableEq

structure PurchaseOrderView where
  id : ℕ
  supplierId : ℕ
  supplierName : String
  warehouseId : ℕ
  warehouseType : WarehouseType
  status : PurchaseStatus
  currency : Option String
  totalAmount : Option String
  expectedOn : Option Day
  note : String
  lines : List PurchaseLineView
  deriving DecidableEq

def shownMoney (value : ℚ) (visible : Bool) : Option String :=
  if visible then some (moneyText value) else none

def lineView (visible : Bool) (row : PurchaseOrderItem) : PurchaseLineView where
  id := row.id
  skuId := row.skuId
  quantity := row.quantity
  receivedQty := row.receivedQty
  shortQty := row.shortQty
  openQty := row.openQty
  unitPrice := shownMoney row.unitPrice visible
  currency := if visible then some (Text.strip row.currency) else none
  taxIncluded := row.taxIncluded
  expectedOn := row.expectedOn

/-- `_order_view`: the supplier and the warehouse must still be there. -/
def orderView (order : PurchaseOrder) (visible : Bool) : Work PurchaseOrderView := do
  let supplier ← getSupplier order.supplierId
  let warehouse ← getWarehouse order.warehouseId
  let rows ← listForOrder order.id
  return {
    id := order.id
    supplierId := order.supplierId
    supplierName := supplier.name
    warehouseId := order.warehouseId
    warehouseType := warehouse.warehouseType
    status := order.status
    currency := if visible then some (Text.strip order.currency) else none
    totalAmount := shownMoney order.totalAmount visible
    expectedOn := order.expectedOn
    note := order.note
    lines := rows.map (lineView visible) }

/-! ### Rows -/

/-- Rows of one key are refused, and so is a second order under an idempotency key. -/
def addOrder (order : PurchaseOrder) : Work Unit := do
  let taken (d : Db) : Bool := order.idempotencyKey.isSome &&
    d.purchaseOrders.any fun o => o.idempotencyKey = order.idempotencyKey
  let violated ← .update (fun _ => order.idempotencyKey.toList.map .purchaseKey)
    (fun _ d => if taken d then d else { d with purchaseOrders := d.purchaseOrders ++ [order] })
    fun _ d => taken d
  if violated then raise (.integrity "uq_purchase_order_idempotency") else return ()

/-- An order has one line for a SKU. -/
def addItem (item : PurchaseOrderItem) : Work Unit := do
  let taken (d : Db) : Bool := d.purchaseItems.any fun r =>
    r.purchaseOrderId = item.purchaseOrderId && r.skuId = item.skuId
  let violated ← .update (fun _ => [.purchaseLine item.purchaseOrderId item.skuId])
    (fun _ d => if taken d then d else { d with purchaseItems := d.purchaseItems ++ [item] })
    fun _ d => taken d
  if violated then raise (.integrity "uq_purchase_order_item_sku") else return ()

def addReceipt (receipt : PurchaseReceipt) : Work Unit := do
  let taken (d : Db) : Bool := receipt.idempotencyKey.isSome &&
    d.receipts.any fun r => r.idempotencyKey = receipt.idempotencyKey
  let violated ← .update (fun _ => receipt.idempotencyKey.toList.map .receiptKey)
    (fun _ d => if taken d then d else { d with receipts := d.receipts ++ [receipt] })
    fun _ d => taken d
  if violated then raise (.integrity "uq_purchase_receipt_idempotency") else return ()

def saveOrder (orderId : ℕ) (change : PurchaseOrder → PurchaseOrder) : Work Unit :=
  .update (fun _ => [.purchaseOrder orderId])
    (fun _ d =>
      { d with purchaseOrders := alter PurchaseOrder.id orderId change d.purchaseOrders })
    fun _ _ => ()

def saveItem (itemId : ℕ) (change : PurchaseOrderItem → PurchaseOrderItem) : Work Unit :=
  .update (fun _ => [.purchaseItem itemId])
    (fun _ d =>
      { d with purchaseItems := alter PurchaseOrderItem.id itemId change d.purchaseItems })
    fun _ _ => ()

/-- Post goods of an order as in transit. -/
def moveInTransit (order : PurchaseOrder) (skuId : ℕ) (quantity : ℤ) : Work Unit :=
  postStock skuId order.warehouseId 0 quantity "PURCHASE_ORDER" (some order.id)

/-! ### Drafting -/

/-- A line to order. -/
structure PurchaseLineWrite where
  skuId : ℕ
  quantity : ℤ
  unitPrice : ℚ
  taxIncluded : Bool := false
  expectedOn : Option Day := none
  quantity_pos : 0 < quantity
  unitPrice_nonneg : 0 ≤ unitPrice

structure PurchaseOrderCreate where
  supplierId : ℕ
  warehouseId : ℕ
  currency : String
  expectedOn : Option Day := none
  note : String := ""
  lines : List PurchaseLineWrite
  lines_ne_nil : lines ≠ []

/-- `_extended`. -/
def extended (quantity : ℤ) (unitPrice : ℚ) : ℚ := quantize (unitPrice * quantity)

/-- The row of a line. The column keeps six decimals. -/
def PurchaseLineWrite.item (line : PurchaseLineWrite) (id orderId : ℕ) (currency : String)
    (actorId : ℕ) : PurchaseOrderItem where
  id := id
  purchaseOrderId := orderId
  skuId := line.skuId
  quantity := line.quantity
  unitPrice := quantize line.unitPrice
  currency := currency
  taxIncluded := line.taxIncluded
  expectedOn := line.expectedOn
  updatedBy := actorId

/-- `_insert_order`. -/
def insertOrder (payload : PurchaseOrderCreate) (actorId : ℕ) (idempotencyKey : Option String) :
    Work PurchaseOrder := do
  let _ ← getSupplier payload.supplierId
  let warehouse ← destination payload.warehouseId
  if ¬ (payload.lines.map PurchaseLineWrite.skuId).Nodup then
    raise (.paramInvalid "采购明细不能重复 SKU")
  else
    .forEach payload.lines fun line => do let _ ← getSku line.skuId
    let total := (payload.lines.map fun line => extended line.quantity line.unitPrice).sum
    let id ← nextSnowflakeId
    let order : PurchaseOrder :=
      { id, supplierId := payload.supplierId, warehouseId := warehouse.id, status := .draft
        currency := payload.currency, totalAmount := quantize total
        expectedOn := payload.expectedOn, note := payload.note, idempotencyKey
        updatedBy := actorId }
    addOrder order
    .forEach payload.lines fun line => do
      let itemId ← nextSnowflakeId
      addItem (line.item itemId order.id payload.currency actorId)
    return order

def createOrder (payload : PurchaseOrderCreate) (actorId : ℕ) (idempotencyKey : Option String)
    (visible : Bool) : Work PurchaseOrderView := do
  let key ← cleanKey idempotencyKey
  match ← .select fun d =>
    if key.isSome then d.purchaseOrders.find? fun o => o.idempotencyKey = key else none with
  | some existing => orderView existing visible
  | none =>
    let order ← insertOrder payload actorId key
    orderView order visible

/-! ### Editing -/

structure PurchaseOrderPatch where
  expectedOn : Option (Option Day) := none
  note : Option String := none
  lines : Option (List PurchaseLineWrite) := none

/-- What an edit does with one line: the SKU is new to the order, or its line is changed. -/
def applyLineEdit (order : PurchaseOrder) (actorId : ℕ) (current : List PurchaseOrderItem)
    (line : PurchaseLineWrite) : Work Unit := do
  match current.find? fun row => row.skuId = line.skuId with
  | none =>
    let _ ← getSku line.skuId
    if order.status ∈ openForReceipt then moveInTransit order line.skuId line.quantity
    let itemId ← nextSnowflakeId
    addItem (line.item itemId order.id (Text.strip order.currency) actorId)
  | some item =>
    let delta ← raiseRule (transitDeltaForQtyChange order.status item.quantity item.receivedQty
      item.shortQty line.quantity)
    if delta ≠ 0 then moveInTransit order item.skuId delta
    saveItem item.id fun r =>
      { r with
        quantity := line.quantity, unitPrice := quantize line.unitPrice
        taxIncluded := line.taxIncluded, expectedOn := line.expectedOn, updatedBy := actorId }

def applyEach (order : PurchaseOrder) (actorId : ℕ) (current : List PurchaseOrderItem) :
    List ℕ → List PurchaseLineWrite → Work Unit
  | _, [] => return ()
  | seen, line :: rest => do
    if line.skuId ∈ seen then raise (.paramInvalid "采购明细不能重复 SKU")
    else
      applyLineEdit order actorId current line
      applyEach order actorId current (line.skuId :: seen) rest

/-- The price of a line in the session: an edited one is not rounded yet. -/
def priceAfter (lines : List PurchaseLineWrite) (row : PurchaseOrderItem) : ℚ :=
  ((lines.find? fun line => line.skuId = row.skuId).map PurchaseLineWrite.unitPrice).getD
    row.unitPrice

/-- `_apply_line_edits`, with the new total. -/
def applyLineEdits (order : PurchaseOrder) (lines : List PurchaseLineWrite) (actorId : ℕ) :
    Work ℚ := do
  let current ← listForOrder order.id
  applyEach order actorId current [] lines
  let fresh ← listForOrder order.id
  return quantize (fresh.map fun row => extended row.quantity (priceAfter lines row)).sum

def updateOrder (orderId : ℕ) (payload : PurchaseOrderPatch) (actorId : ℕ) (visible : Bool) :
    Work PurchaseOrderView := do
  let order ← getOrder orderId
  raiseRule (assertCanEdit order.status)
  let totalAmount ← match payload.lines with
    | none => pure order.totalAmount
    | some lines => applyLineEdits order lines actorId
  let change (o : PurchaseOrder) : PurchaseOrder :=
    { o with
      note := payload.note.getD o.note, expectedOn := payload.expectedOn.getD o.expectedOn
      totalAmount, updatedBy := actorId }
  saveOrder order.id change
  orderView (change order) visible

/-! ### Moving an order on -/

/-- What an action does to the stock. -/
def moveStock (order : PurchaseOrder) (action : PurchaseAction) (rows : List PurchaseOrderItem) :
    Work Unit :=
  match action with
  | .approve => .forEach rows fun row => moveInTransit order row.skuId row.quantity
  | .cancel =>
    if order.status = .approved then
      .forEach rows fun row =>
        if row.openQty ≠ 0 then moveInTransit order row.skuId (-row.openQty) else return ()
    else return ()
  | _ => return ()

def transition (orderId : ℕ) (action : PurchaseAction) (actorId : ℕ) (visible : Bool) :
    Work PurchaseOrderView := do
  let order ← getOrder orderId
  let rows ← listForOrder order.id
  if action = .close ∧ ∃ row ∈ rows, row.openQty ≠ 0 then
    raise (.purchaseState "还有未结清的数量，请先短收或继续收货")
  else if action = .submit ∧ rows = [] then raise (.paramInvalid "采购单至少要有一行")
  else
    let status ← raiseRule
      (assertTransition order.status action (total PurchaseOrderItem.receivedQty rows))
    saveOrder order.id fun o => { o with status, updatedBy := actorId }
    moveStock order action rows
    orderView { order with status, updatedBy := actorId } visible

/-! ### Receiving -/

structure ReceiptLineWrite where
  itemId : ℕ
  quantity : ℤ := 0
  quantity_nonneg : 0 ≤ quantity

structure ReceiptCreate where
  disposition : Disposition
  allowOver : Bool := false
  note : String := ""
  lines : List ReceiptLineWrite
  lines_ne_nil : lines ≠ []

structure ReceiptView where
  id : ℕ
  purchaseOrderId : ℕ
  disposition : Disposition
  note : String
  order : PurchaseOrderView
  deriving DecidableEq

/-- The name of a receipt in the ledger. -/
def receiptRef : Disposition → String
  | .short => "PURCHASE_SHORT"
  | .receive => "PURCHASE_RECEIPT"

/-- What a plan makes of a line. -/
def ReceiptPlan.applied (plan : ReceiptPlan) (actorId : ℕ) (row : PurchaseOrderItem) :
    PurchaseOrderItem :=
  { row with receivedQty := plan.newReceived, shortQty := plan.newShort, updatedBy := actorId }

/-- The lines of a receipt, with what is noted of each. -/
def receiveLines (order : PurchaseOrder) (payload : ReceiptCreate) (actorId : ℕ)
    (rows : List PurchaseOrderItem) : List ReceiptLineWrite → Work (List ReceiptLine)
  | [] => return []
  | line :: rest => do
    let item ← orRaise .notFound (rows.find? fun row => row.id = line.itemId)
    let plan ← raiseRule (planReceive item.quantity item.receivedQty item.shortQty line.quantity
      payload.disposition payload.allowOver)
    saveItem item.id (plan.applied actorId)
    postStock item.skuId order.warehouseId plan.receiveQty (-plan.transitRelease)
      (receiptRef payload.disposition) (some order.id)
    let recorded ← receiveLines order payload actorId rows rest
    return ⟨item.id, item.skuId, plan.receiveQty, plan.transitRelease⟩ :: recorded

/-- A receipt that was not taken down before. -/
def receiveNow (orderId : ℕ) (payload : ReceiptCreate) (actorId : ℕ) (key : Option String)
    (visible : Bool) : Work ReceiptView := do
  let order ← getOrder orderId
  raiseRule (assertCanReceive order.status)
  let rows ← listForOrder order.id
  if ¬ (payload.lines.map ReceiptLineWrite.itemId).Nodup then
    raise (.receiptInvalid "收货明细重复")
  else
    let recorded ← receiveLines order payload actorId rows payload.lines
    let fresh ← listForOrder order.id
    let status :=
      nextReceiptStatus (fresh.map fun row => (row.quantity, row.receivedQty, row.shortQty))
    saveOrder order.id fun o => { o with status, updatedBy := actorId }
    let id ← nextSnowflakeId
    addReceipt ⟨id, order.id, payload.disposition, recorded, payload.note, key⟩
    let view ← orderView { order with status, updatedBy := actorId } visible
    return ⟨id, order.id, payload.disposition, payload.note, view⟩

def receive (orderId : ℕ) (payload : ReceiptCreate) (actorId : ℕ) (idempotencyKey : Option String)
    (visible : Bool) : Work ReceiptView := do
  let key ← cleanKey idempotencyKey
  match ← .select fun d =>
    if key.isSome then d.receipts.find? fun r => r.idempotencyKey = key else none with
  | some existing =>
    let order ← getOrder existing.purchaseOrderId
    let view ← orderView order visible
    return ⟨existing.id, order.id, existing.disposition, existing.note, view⟩
  | none => receiveNow orderId payload actorId key visible

end Purchasing

end CrossPilot
