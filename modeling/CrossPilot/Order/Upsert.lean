import CrossPilot.Database
import CrossPilot.Lib.Table

/-!
# Writing an order snapshot

`upsert` stores what a platform says about an order. A snapshot is written if it is newer than what
is stored; the decision is taken on a row read before the write. The order's columns are written
where they differ from what was read; its items and fees are deleted and inserted anew, so that
every accepted snapshot gives the lines new ids.

The code does not set the SKU column of an item (`noSku`). The column is a parameter here, for the
results about lines that do carry their SKU.
-/

namespace CrossPilot

open Transaction Table

/-! ### Snapshots -/

/-- A line of a snapshot. -/
structure UnifiedOrderItem where
  platformSkuId : String
  platformProductId : String := ""
  quantity : ℤ
  unitPrice : ℚ := 0
  itemName : String := ""
  deriving DecidableEq

/-- A fee of a snapshot. -/
structure UnifiedFee where
  feeType : String
  amount : ℚ
  currency : String
  source : FeeSource := .platform
  deriving DecidableEq

/-- What a platform says about an order. -/
structure UnifiedOrder where
  platformOrderId : String
  platformStatus : String
  buyerName : Option String := none
  buyerCountry : Option String := none
  currency : String := "USD"
  totalAmount : ℚ := 0
  items : List UnifiedOrderItem
  paidAt : Option Instant := none
  updatedAt : Instant
  raw : String := ""
  buyerPhone : Option String := none
  shipState : Option String := none
  shipCity : Option String := none
  shipLine1 : Option String := none
  shipPostal : Option String := none
  fees : List UnifiedFee := []
  deriving DecidableEq

/-! ### Idempotency -/

/-- What becomes of a snapshot. -/
inductive WriteAction
  | insert | update | skip
  deriving DecidableEq

/-- The key under which polling and webhooks store the same order. -/
@[irreducible]
def orderIdempotencyKey (platform : String) (shopId : ℕ) (platformOrderId : String) :
    Option String :=
  let platformNorm := Text.lower (Text.strip platform)
  let shop := Text.strip (toString shopId)
  let orderId := Text.strip platformOrderId
  if platformNorm = "" ∨ shop = "" ∨ orderId = "" then none
  else some (platformNorm ++ ":" ++ shop ++ ":" ++ orderId)

/-- Only a snapshot that is strictly newer is written. -/
def decideWrite (storedUpdatedAt : Option Instant) (incomingUpdatedAt : Instant) : WriteAction :=
  match storedUpdatedAt with
  | none => .insert
  | some stored => if stored < incomingUpdatedAt then .update else .skip

/-! ### Columns -/

/-- `_money`: six places, ties to even. -/
def money (value : ℚ) : ℚ :=
  let scaled := value * 1000000
  let low := ⌊scaled⌋
  let rest := scaled - low
  let rounded := if rest < 1 / 2 then low else if 1 / 2 < rest then low + 1
    else if low % 2 = 0 then low else low + 1
  rounded / 1000000

/-- `_line_amount`. -/
def lineAmount (order : UnifiedOrder) : ℚ :=
  if order.items.isEmpty then money order.totalAmount
  else money (order.items.map fun item => item.unitPrice * (item.quantity : ℚ)).sum

/-- The last four digits of a phone number, if it has as many. -/
def phoneLast4 (phone : Option String) : Option String :=
  let digits := (phone.getD "").toList.filter Text.isDigit
  if digits.length < 4 then none else some (String.ofList (digits.drop (digits.length - 4)))

/-- An entry of a JSON object, left out if the text is missing or empty. -/
def entry (name : String) (value : Option String) : TextMap :=
  match value with
  | none => []
  | some text => if text = "" then [] else [(name, text)]

/-- `payload or None`. -/
def orNone (payload : TextMap) : Option TextMap := if payload.isEmpty then none else some payload

/-- `_buyer`. -/
def buyer (order : UnifiedOrder) : Option TextMap :=
  orNone (entry "name" order.buyerName ++ entry "country" order.buyerCountry ++
    entry "phone" order.buyerPhone ++ entry "phone_last4" (phoneLast4 order.buyerPhone))

/-- `_ship_to`. -/
def shipTo (order : UnifiedOrder) : Option TextMap :=
  orNone (entry "country" order.buyerCountry ++ entry "state" order.shipState ++
    entry "city" order.shipCity ++ entry "line1" order.shipLine1 ++
    entry "postal_code" order.shipPostal ++ entry "phone" order.buyerPhone)

def paidOrLater : List UnifiedStatus := [.paid, .shipped, .delivered, .completed]
def shippedOrLater : List UnifiedStatus := [.shipped, .delivered, .completed]
def deliveredOrLater : List UnifiedStatus := [.delivered, .completed]

/-- `_stamp`: when the order came to a status for the first time. -/
def stamp (row : SalesOrder) (status : UnifiedStatus) (order : UnifiedOrder) : SalesOrder :=
  let moment := order.updatedAt
  { row with
    paidAt := if status ∈ paidOrLater ∧ row.paidAt = none then some (order.paidAt.getD moment)
      else row.paidAt
    shippedAt := if status ∈ shippedOrLater ∧ row.shippedAt = none then some moment
      else row.shippedAt
    deliveredAt := if status ∈ deliveredOrLater ∧ row.deliveredAt = none then some moment
      else row.deliveredAt }

/-- `_apply_status`: the row as the snapshot and the decision want it. -/
def applyStatus (row : SalesOrder) (order : UnifiedOrder) (decision : StatusDecision) :
    SalesOrder :=
  let wording := if order.platformStatus = "" then decision.toStatus.value else order.platformStatus
  let after := { row with
    platformStatus := Text.truncate 64 wording
    unifiedStatus := decision.toStatus
    buyerInfo := buyer order
    shipTo := CrossPilot.shipTo order
    currency := order.currency
    itemAmount := lineAmount order
    totalAmount := money order.totalAmount
    platformUpdatedAt := some order.updatedAt
    paidAt := if order.paidAt = none then row.paidAt else order.paidAt
    rawPayload := order.raw }
  if decision.kind = .apply then stamp after decision.toStatus order else after

/-- `_new_order`. -/
def newOrder (id : ℕ) (shop : Shop) (order : UnifiedOrder) (key : String)
    (decision : StatusDecision) : SalesOrder :=
  applyStatus { id, shopId := shop.id, platformCode := shop.platformCode
                platformOrderId := order.platformOrderId, idempotencyKey := key
                platformStatus := "", unifiedStatus := decision.toStatus
                currency := order.currency } order decision

/-- A column is written if it differs from what was read. -/
def written {α : Type} [DecidableEq α] (loaded changed stored : α) : α :=
  if changed = loaded then stored else changed

/-- The stored row after the columns that were changed have been written. -/
def SalesOrder.merge (loaded changed stored : SalesOrder) : SalesOrder :=
  { stored with
    platformStatus := written loaded.platformStatus changed.platformStatus stored.platformStatus
    unifiedStatus := written loaded.unifiedStatus changed.unifiedStatus stored.unifiedStatus
    buyerInfo := written loaded.buyerInfo changed.buyerInfo stored.buyerInfo
    shipTo := written loaded.shipTo changed.shipTo stored.shipTo
    currency := written loaded.currency changed.currency stored.currency
    itemAmount := written loaded.itemAmount changed.itemAmount stored.itemAmount
    totalAmount := written loaded.totalAmount changed.totalAmount stored.totalAmount
    platformUpdatedAt :=
      written loaded.platformUpdatedAt changed.platformUpdatedAt stored.platformUpdatedAt
    paidAt := written loaded.paidAt changed.paidAt stored.paidAt
    shippedAt := written loaded.shippedAt changed.shippedAt stored.shippedAt
    deliveredAt := written loaded.deliveredAt changed.deliveredAt stored.deliveredAt
    reviewStatus := written loaded.reviewStatus changed.reviewStatus stored.reviewStatus
    rawPayload := written loaded.rawPayload changed.rawPayload stored.rawPayload }

/-! ### Statements -/

def getByKey (key : String) : Work (Option SalesOrder) :=
  .select fun d => d.orders.find? fun o => o.idempotencyKey = key

def getOrder (orderId : ℕ) : Work (Option SalesOrder) :=
  .select fun d => d.orders.find? fun o => o.id = orderId

/-- Write the changed columns of an order, if there are any. -/
def saveOrder (loaded changed : SalesOrder) : Work Unit :=
  .update (fun _ => if changed = loaded then [] else [.order loaded.id])
    (fun _ d => { d with orders := alter SalesOrder.id loaded.id (loaded.merge changed) d.orders })
    fun _ _ => ()

/-- What the row of a line holds in its SKU column, by its shop and its wording. -/
abbrev SkuColumn := ℕ → UnifiedOrderItem → Option ℕ

/-- The column is left empty. -/
def noSku : SkuColumn := fun _ _ => none

/-- The row of a line. -/
def itemRow (column : SkuColumn) (row : SalesOrder) (id : ℕ) (item : UnifiedOrderItem) :
    OrderItem where
  id := id
  orderId := row.id
  skuId := column row.shopId item
  platformSkuId := Text.truncate 128 item.platformSkuId
  platformProductId := Text.truncate 128 item.platformProductId
  itemName := Text.truncate 512 item.itemName
  quantity := item.quantity
  unitPrice := money item.unitPrice
  currency := row.currency

def addItem (column : SkuColumn) (row : SalesOrder) (item : UnifiedOrderItem) : Work Unit := do
  let id ← nextSnowflakeId
  .insert fun d => { d with items := d.items ++ [itemRow column row id item] }

/-- `_replace_items`. Pending changes of the order row go to the database with the new items. -/
def replaceItems (column : SkuColumn) (row : SalesOrder) (order : UnifiedOrder)
    (pending : Work Unit) : Work Unit := do
  .update (fun d => (d.items.filter fun i => i.orderId = row.id).map fun i => .item i.id)
    (fun ts d => { d with
      items := d.items.filter fun i => ¬ (RowKey.item i.id ∈ ts ∧ i.orderId = row.id) })
    fun _ _ => ()
  pending
  .forEach order.items (addItem column row)

/-- The row of a fee. -/
def feeRow (row : SalesOrder) (id : ℕ) (fee : UnifiedFee) : OrderFee where
  id := id
  orderId := row.id
  feeType := Text.truncate 32 fee.feeType
  amount := money fee.amount
  currency := Text.truncate 3 fee.currency
  source := fee.source

def addFee (row : SalesOrder) (fee : UnifiedFee) : Work Unit := do
  let id ← nextSnowflakeId
  .insert fun d => { d with fees := d.fees ++ [feeRow row id fee] }

/-- `_replace_fees`. -/
def replaceFees (row : SalesOrder) (order : UnifiedOrder) : Work Unit := do
  .update (fun d => (d.fees.filter fun f => f.orderId = row.id).map fun f => .fee f.id)
    (fun ts d => { d with
      fees := d.fees.filter fun f => ¬ (RowKey.fee f.id ∈ ts ∧ f.orderId = row.id) })
    fun _ _ => ()
  .forEach order.fees (addFee row)

/-- `_replace_children`. -/
def replaceChildren (column : SkuColumn) (row : SalesOrder) (order : UnifiedOrder)
    (pending : Work Unit) : Work Unit := do
  replaceItems column row order pending
  replaceFees row order

/-- Add an order. The unique index on the key refuses a second one. -/
def addOrder (row : SalesOrder) : Work Unit := do
  let violated ← .update (fun _ => [.orderKey row.idempotencyKey])
    (fun _ d => if d.orders.any (·.idempotencyKey = row.idempotencyKey) then d
      else { d with orders := d.orders ++ [row] })
    fun _ d => d.orders.any (·.idempotencyKey = row.idempotencyKey)
  if violated then raise (.integrity "uq_sales_order_idempotency_key") else return ()

/-- What `upsert` returns, with the row as the session has it from then on. -/
abbrev Upserted := WriteAction × Option StatusDecision × Option SalesOrder

/-- Store a snapshot in an order that has been read. -/
def overwrite (column : SkuColumn) (existing : SalesOrder) (order : UnifiedOrder)
    (resolve : Option UnifiedStatus → StatusDecision) : Work Upserted := do
  let decision := resolve (some existing.unifiedStatus)
  let row := applyStatus existing order decision
  replaceChildren column row order (saveOrder existing row)
  return (.update, some decision, some row)

/-- Store a snapshot as a new order. -/
def insertNew (column : SkuColumn) (shop : Shop) (order : UnifiedOrder) (key : String)
    (resolve : Option UnifiedStatus → StatusDecision) : Work Upserted := do
  let decision := resolve none
  let id ← nextSnowflakeId
  let row := newOrder id shop order key decision
  addOrder row
  replaceChildren column row order (return ())
  return (.insert, some decision, some row)

/-- Another transaction was faster to insert the order. -/
def raced (column : SkuColumn) (order : UnifiedOrder) (key : String)
    (resolve : Option UnifiedStatus → StatusDecision) (e : ServiceError) : Work Upserted := do
  if !e.isDatabase then raise e
  else
    match ← getByKey key with
    | none => raise e
    | some row =>
      if decideWrite row.platformUpdatedAt order.updatedAt ≠ .update then
        return (.skip, none, none)
      else overwrite column row order resolve

/-- The key of a snapshot. -/
def UnifiedOrder.key (order : UnifiedOrder) (shop : Shop) : Option String :=
  orderIdempotencyKey shop.platformCode shop.id order.platformOrderId

def orderKey (shop : Shop) (order : UnifiedOrder) : Work String :=
  orRaise (.value "幂等键需要 platform、shop_id 和 platform_order_id") (order.key shop)

/-- Store a snapshot, unless what is stored is as new. -/
def upsert (column : SkuColumn) (shop : Shop) (order : UnifiedOrder)
    (resolve : Option UnifiedStatus → StatusDecision) : Work Upserted := do
  let key ← orderKey shop order
  let existing ← getByKey key
  if decideWrite (existing.bind (·.platformUpdatedAt)) order.updatedAt = .skip then
    return (.skip, none, none)
  else
    let store := match existing with
      | none => insertNew column shop order key resolve
      | some row => overwrite column row order resolve
    .nested store (raced column order key resolve)

end CrossPilot
