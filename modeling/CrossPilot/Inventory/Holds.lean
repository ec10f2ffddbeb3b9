import CrossPilot.Inventory.Service

/-!
# Stock held for orders

A hold says which stock is set aside for an order item: `reserveOrder` opens it, `releaseOrder`
gives the stock back, `shipOrder` takes it out of the warehouse, `receiveReturn` puts returned goods
back. A hold is found by the id of its order item, and there is at most one for each.
-/

namespace CrossPilot

open Transaction Table

/-- The lines of an order. -/
def listItems (orderId : ℕ) : Work (List OrderItem) :=
  .select fun d => (d.items.filter fun i => i.orderId = orderId).insertionSort
    fun a b => a.id ≤ b.id

/-- The hold of an order item. -/
def getForItem (orderItemId : ℕ) : Work (Option InventoryHold) :=
  .select fun d => d.holds.find? fun h => h.orderItemId = orderItemId

/-- The holds of an order. -/
def listForOrder (orderId : ℕ) : Work (List InventoryHold) :=
  .select fun d => (d.holds.filter fun h => h.orderId = orderId).insertionSort
    fun a b => a.id ≤ b.id

/-- Add a hold. The unique index on the order item refuses a second one. -/
def addHold (orderId orderItemId skuId : ℕ) (quantity shortQty : ℤ)
    (allocations : List Allocation) (status : HoldStatus) : Work Unit := do
  let id ← nextSnowflakeId
  let hold : InventoryHold :=
    ⟨id, orderId, orderItemId, skuId, quantity, shortQty, allocations, status⟩
  let violated ← .update (fun _ => [.holdOf orderItemId])
    (fun _ d => if d.holds.any (·.orderItemId = orderItemId) then d
      else { d with holds := d.holds ++ [hold] })
    fun _ d => d.holds.any (·.orderItemId = orderItemId)
  if violated then raise (.integrity "uq_inventory_hold_order_item") else return ()

/-- Change the columns of a hold. -/
def updateHold (holdId : ℕ) (f : InventoryHold → InventoryHold) : Work Unit :=
  .update (fun _ => [.hold holdId])
    (fun _ d => { d with holds := alter InventoryHold.id holdId f d.holds }) fun _ _ => ()

/-- A hold in one of these states is not opened again. -/
def openOrDone : List HoldStatus := [.opened, .released, .shipped]

/-- Reserve a line of an order. What is not there is noted as short. -/
def reserveItem (item : OrderItem) : Work Unit := do
  match item.skuId, shouldReserveLine item.skuId item.quantity with
  | some skuId, true =>
    let existing ← getForItem item.id
    if existing.any fun h => h.status ∈ openOrDone then return ()
    else
      let (taken, short) ← draw skuId item.quantity .reserve "ORDER" item.orderId
      let status : HoldStatus := if taken.isEmpty then .short else .opened
      match existing with
      | none => addHold item.orderId item.id skuId (allocated taken) short taken status
      | some hold => updateHold hold.id fun h =>
        { h with quantity := allocated taken, shortQty := short, allocations := taken, status }
  | _, _ => return ()

def reserveOrder (orderId : ℕ) : Work Unit := do
  .forEach (← listItems orderId) reserveItem

/-- What becomes of reserved stock: it is free again, or it leaves the warehouse. -/
inductive Settlement
  | release | ship
  deriving DecidableEq

namespace Settlement

def delta (way : Settlement) (quantity : ℤ) : Delta :=
  match way with
  | release => { occupied := -quantity }
  | ship => { available := -quantity, occupied := -quantity }

def note (way : Settlement) (quantity : ℤ) (orderId : ℕ) : FlowNote :=
  match way with
  | release => ⟨.release, quantity, .occupied, "ORDER", some orderId⟩
  | ship => ⟨.ship, quantity, .available, "ORDER", some orderId⟩

/-- A balance that is missing is skipped on release, and an error on shipping. -/
def missing : Settlement → Work Unit
  | release => return ()
  | ship => raise (.notFound "库存不存在")

end Settlement

/-- Settle one allocation of a hold. -/
def settleAlloc (way : Settlement) (orderId skuId : ℕ) (alloc : Allocation) : Work Unit := do
  match ← getPair skuId alloc.warehouseId with
  | none => way.missing
  | some row =>
    let _ ← commitChange row (way.note alloc.quantity orderId) (way.delta alloc.quantity)

/-- Release the stock of a hold. -/
def releaseHold (hold : InventoryHold) : Work Unit := do
  if hold.status ≠ .opened then return ()
  else
    .forEach (readAllocs hold.allocations) (settleAlloc .release hold.orderId hold.skuId)
    updateHold hold.id fun h => { h with status := .released }

def releaseOrder (orderId : ℕ) : Work Unit := do
  .forEach (← listForOrder orderId) releaseHold

/-- Ship a line that has no stock set aside straight from the free stock. -/
def shipFree (item : OrderItem) (skuId : ℕ) : Work Unit := do
  let (taken, _) ← draw skuId item.quantity .outbound "ORDER" item.orderId
  addHold item.orderId item.id skuId (allocated taken) (item.quantity - allocated taken) taken
    .shipped

/-- Ship a line of an order. -/
def shipItem (item : OrderItem) : Work Unit := do
  match item.skuId, shouldReserveLine item.skuId item.quantity with
  | some skuId, true =>
    match ← getForItem item.id with
    | none => shipFree item skuId
    | some hold =>
      match hold.status with
      | .shipped => return ()
      | .opened =>
        .forEach (readAllocs hold.allocations) (settleAlloc .ship item.orderId skuId)
        updateHold hold.id fun h => { h with status := .shipped }
      | .short => updateHold hold.id fun h => { h with status := .shipped }
      | .released => shipFree item skuId
  | _, _ => return ()

def shipOrder (orderId : ℕ) : Work Unit := do
  .forEach (← listItems orderId) shipItem

/-! ### Returned goods -/

/-- The warehouse that goods of unknown origin go back to. -/
def returnWarehouse : Work (Option Warehouse) := do
  match ← getDefault with
  | some w => return some w
  | none => firstFulfillment

/-- Where the goods of a line go back to: where they came from, or else the default warehouse. -/
def returnTargets (item : OrderItem) : Work (List Allocation) := do
  let hold ← getForItem item.id
  let allocs := hold.elim [] fun h => readAllocs h.allocations
  if !allocs.isEmpty then return allocs
  else
    match ← returnWarehouse with
    | none => raise (.paramInvalid "请先创建仓库，才能把退货记入库存")
    | some w => return [⟨w.id, item.quantity⟩]

/-- Goods that can be sold again go to the stock on hand, others are defective. -/
def restockBucket (sellable : Bool) : Bucket := if sellable then .available else .defective

/-- Only a return that waits for its goods gets posted. -/
def markPosted (status : RestockStatus) : RestockStatus :=
  match status with
  | .deferred => .posted
  | s => s

/-- Put one line of a return back. -/
def receiveItem (row : ReturnOrder) (item : OrderItem) : Work Unit := do
  match item.skuId, shouldReserveLine item.skuId item.quantity with
  | some skuId, true =>
    .forEach (← returnTargets item) fun alloc => do
      let balance ← ensure skuId alloc.warehouseId
      let bucket := restockBucket row.restockSellable
      let δ : Delta := match bucket with
        | .available => { available := alloc.quantity }
        | _ => { defective := alloc.quantity }
      let _ ← commitChange balance ⟨.returnIn, alloc.quantity, bucket, "RETURN", some row.id⟩ δ
  | _, _ => return ()

/-- Put the goods of a return back. Returns the status of the return after it. -/
def receiveReturn (row : ReturnOrder) : Work RestockStatus := do
  if row.restockStatus ≠ .deferred then return row.restockStatus
  else
    .forEach (← listItems row.orderId) (receiveItem row)
    let after := markPosted row.restockStatus
    let mark (r : ReturnOrder) := { r with restockStatus := after }
    .update (fun _ => [.returnOrder row.id])
      (fun _ d => { d with returns := alter ReturnOrder.id row.id mark d.returns })
      fun _ _ => ()
    return after

end CrossPilot
