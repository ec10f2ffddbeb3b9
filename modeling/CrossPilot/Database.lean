import CrossPilot.Finance.Tables
import CrossPilot.Lib.ReadCommitted
import CrossPilot.Lib.Text
import CrossPilot.Order.Status
import CrossPilot.Purchase.FirstMile

/-!
# The tables of one tenant

The rows that orders and stock live in, as the services read and write them, and the session of a
worker: SQLAlchemy's identity map for balances, which may hold values that are out of date, and the
stream of snowflake ids the worker will draw. Everything belongs to one tenant; the tenant filter
is not part of the model. Audit columns are left out where no function reads them. A column with a
check on its values has an enumeration for its type.

The work of one database transaction is a program over these (`Work`).
-/

namespace CrossPilot

/-- Microseconds since the epoch, UTC. -/
abbrev Instant := ℤ

/-- The UTC day of an instant, counted from the epoch. -/
def utcDay (t : Instant) : ℤ := t / 86400000000

/-! ### Stock -/

/-- The kind of a warehouse. -/
inductive WarehouseType
  | localWarehouse | overseas | fba | platform
  deriving DecidableEq

/-- A warehouse. -/
structure Warehouse where
  id : ℕ
  warehouseType : WarehouseType := .localWarehouse
  isDefault : Bool := false
  deleted : Bool := false
  deriving DecidableEq

/-- The balance of a SKU in a warehouse. -/
structure Inventory where
  id : ℕ
  skuId : ℕ
  warehouseId : ℕ
  available : ℤ := 0
  occupied : ℤ := 0
  inTransit : ℤ := 0
  defective : ℤ := 0
  safeStock : ℤ := 2
  version : ℕ := 0
  deriving DecidableEq

/-- What a line of the stock ledger records. -/
inductive FlowType
  | inbound | outbound | reserve | release | ship | returnIn | adjust | transferOut | transferIn
  deriving DecidableEq

/-- A line of the stock ledger. -/
structure InventoryFlow where
  inventoryId : ℕ
  skuId : ℕ
  warehouseId : ℕ
  flowType : FlowType
  quantity : ℤ
  refType : String
  refId : Option ℕ
  beforeQty : ℤ
  afterQty : ℤ
  deriving DecidableEq

/-- A quantity taken from a warehouse. -/
structure Allocation where
  warehouseId : ℕ
  quantity : ℤ
  deriving DecidableEq

/-- The state of a hold. -/
inductive HoldStatus
  | opened | released | shipped | short
  deriving DecidableEq

/-- The stock held for one order item. -/
structure InventoryHold where
  id : ℕ
  orderId : ℕ
  orderItemId : ℕ
  skuId : ℕ
  quantity : ℤ
  shortQty : ℤ
  allocations : List Allocation
  status : HoldStatus
  deriving DecidableEq

/-- The state of a transfer between warehouses. -/
inductive TransferStatus
  | draft | inTransit | received | cancelled
  deriving DecidableEq

/-- A transfer between two warehouses. -/
structure StockTransfer where
  id : ℕ
  fromWarehouseId : ℕ
  toWarehouseId : ℕ
  status : TransferStatus
  deriving DecidableEq

/-- A line of a transfer. -/
structure StockTransferLine where
  id : ℕ
  transferId : ℕ
  skuId : ℕ
  quantity : ℤ
  deriving DecidableEq

/-- The state of a stock taking. -/
inductive TakingStatus
  | draft | posted | cancelled
  deriving DecidableEq

/-- What a posted stock taking found. -/
structure DiffSummary where
  lines : ℕ
  gainQty : ℤ
  lossQty : ℤ
  deriving DecidableEq

/-- A stock taking of one warehouse. -/
structure StockTaking where
  id : ℕ
  warehouseId : ℕ
  status : TakingStatus
  diffSummary : Option DiffSummary := none
  deriving DecidableEq

/-- A line of a stock taking: what the books said when it began, and what was counted. -/
structure StockTakingLine where
  id : ℕ
  takingId : ℕ
  skuId : ℕ
  bookQty : ℤ
  countedQty : Option ℤ := none
  deriving DecidableEq

/-! ### Goods -/

/-- A stock keeping unit. -/
structure Sku where
  id : ℕ
  deleted : Bool := false
  spuId : ℕ := 0
  weightG : ℚ := 1
  lengthCm : ℚ := 1
  widthCm : ℚ := 1
  heightCm : ℚ := 1
  purchasePrice : Option ℚ := none
  currency : Option String := none
  deriving DecidableEq

/-- The state of a listing. -/
inductive ListingStatus
  | draft | linked | unlisted
  deriving DecidableEq

/-- The link from a platform SKU of a shop to a SKU. -/
structure Listing where
  id : ℕ
  skuId : ℕ
  shopId : ℕ
  platformSkuId : Option String
  status : ListingStatus
  deleted : Bool := false
  platformProductId : Option String := none
  price : Option ℚ := none
  currency : Option String := none
  deriving DecidableEq

/-- What of a listing is compared with the platform. -/
inductive DiffField
  | price | currency
  deriving DecidableEq

/-- The state of a difference. -/
inductive DiffStatus
  | pending | accepted | dismissed
  deriving DecidableEq

/-- A field of a listing that the platform shows in another way. -/
structure ListingDiff where
  id : ℕ
  listingId : ℕ
  shopId : ℕ
  fieldName : DiffField
  localValue : Option String
  remoteValue : String
  status : DiffStatus := .pending
  deriving DecidableEq

/-- What a batch of listings does. -/
inductive BatchKind
  | publish | price
  deriving DecidableEq

/-- The state of a batch. -/
inductive BatchStatus
  | pending | running | succeeded | partly | failed
  deriving DecidableEq

/-- A batch of listings to publish, or of prices to change. -/
structure ListingBatch where
  id : ℕ
  kind : BatchKind
  status : BatchStatus
  total : ℕ
  succeeded : ℕ := 0
  failed : ℕ := 0
  skipped : ℕ := 0
  deriving DecidableEq

/-- The state of a line of a batch. -/
inductive BatchItemStatus
  | pending | succeeded | failed | skipped
  deriving DecidableEq

/-- A line of a batch. -/
structure ListingBatchItem where
  id : ℕ
  batchId : ℕ
  skuId : ℕ
  shopId : ℕ
  listingId : Option ℕ
  status : BatchItemStatus
  errorMessage : Option String := none
  priceBefore : Option ℚ
  currencyBefore : Option String
  priceAfter : Option ℚ
  currencyAfter : Option String
  deriving DecidableEq

/-- A shop on a platform. -/
structure Shop where
  id : ℕ
  platformCode : String
  shopName : String := ""
  siteCode : String := ""
  deriving DecidableEq

/-! ### Orders -/

/-- Whether an order may be shipped. -/
inductive ReviewStatus
  | autoPassed | pending | approved | rejected
  deriving DecidableEq

/-- A JSON object with text values. -/
abbrev TextMap := List (String × String)

/-- An order. -/
structure SalesOrder where
  id : ℕ
  shopId : ℕ
  platformCode : String
  platformOrderId : String
  idempotencyKey : String
  platformStatus : String
  unifiedStatus : UnifiedStatus
  buyerInfo : Option TextMap := none
  shipTo : Option TextMap := none
  currency : String
  itemAmount : ℚ := 0
  shippingAmount : ℚ := 0
  taxAmount : ℚ := 0
  discountAmount : ℚ := 0
  totalAmount : ℚ := 0
  platformUpdatedAt : Option Instant := none
  paidAt : Option Instant := none
  shippedAt : Option Instant := none
  deliveredAt : Option Instant := none
  reviewStatus : ReviewStatus := .autoPassed
  rawPayload : String := ""
  createdAt : Instant := 0
  deriving DecidableEq

/-- A line of an order. `skuId` is empty as long as nobody knows the SKU. -/
structure OrderItem where
  id : ℕ
  orderId : ℕ
  skuId : Option ℕ
  platformSkuId : String
  platformProductId : String
  itemName : String
  quantity : ℤ
  unitPrice : ℚ
  currency : String
  deriving DecidableEq

/-- Who states a fee. -/
inductive FeeSource
  | platform | system
  deriving DecidableEq

/-- A fee of an order. -/
structure OrderFee where
  id : ℕ
  orderId : ℕ
  feeType : String
  amount : ℚ
  currency : String
  source : FeeSource
  deriving DecidableEq

/-- A line of the status log. -/
structure OrderStatusLog where
  id : ℕ
  orderId : ℕ
  fromStatus : Option UnifiedStatus
  toStatus : UnifiedStatus
  platformStatus : String
  operatorId : Option ℕ
  source : StatusChangeSource
  remark : Option String
  deriving DecidableEq

/-- How the last attempt to ship went. -/
inductive ShipmentStatus
  | succeeded | failed
  deriving DecidableEq

/-- The last shipment of an order. -/
structure Shipment where
  id : ℕ
  orderId : ℕ
  carrier : String
  trackingNo : String
  status : ShipmentStatus
  failureReason : Option String
  shippedAt : Option Instant
  attempt : ℕ
  deriving DecidableEq

/-- An amount above which orders of a currency are reviewed. -/
structure OrderReviewRule where
  currency : String
  amountGt : ℚ
  enabled : Bool
  deriving DecidableEq

/-- The state of a return. -/
inductive ReturnStatus
  | requested | approved | rejected | refunded
  deriving DecidableEq

/-- Whether the goods of a return have been put back. -/
inductive RestockStatus
  | none | deferred | posted
  deriving DecidableEq

/-- A return of an order. -/
structure ReturnOrder where
  id : ℕ
  orderId : ℕ
  reason : String
  status : ReturnStatus
  refundAmount : ℚ
  currency : String
  restockFlag : Bool
  restockSellable : Bool
  restockStatus : RestockStatus
  deriving DecidableEq

/-! ### Purchases -/

/-- A supplier. -/
structure Supplier where
  id : ℕ
  name : String
  idempotencyKey : Option String := none
  deleted : Bool := false
  deriving DecidableEq

/-- Who supplies a SKU. -/
structure SkuSupplier where
  id : ℕ
  supplierId : ℕ
  skuId : ℕ
  isDefault : Bool := false
  deleted : Bool := false
  deriving DecidableEq

/-- The state of a purchase order. -/
inductive PurchaseStatus
  | draft | pending | approved | partially | received | closed | cancelled
  deriving DecidableEq

/-- A purchase order. -/
structure PurchaseOrder where
  id : ℕ
  supplierId : ℕ
  warehouseId : ℕ
  status : PurchaseStatus
  currency : String
  totalAmount : ℚ
  expectedOn : Option Day := none
  note : String := ""
  idempotencyKey : Option String := none
  updatedBy : ℕ := 0
  deriving DecidableEq

/-- A line of a purchase order. More may be received than was ordered. -/
structure PurchaseOrderItem where
  id : ℕ
  purchaseOrderId : ℕ
  skuId : ℕ
  quantity : ℤ
  receivedQty : ℤ := 0
  shortQty : ℤ := 0
  unitPrice : ℚ
  currency : String
  taxIncluded : Bool := false
  expectedOn : Option Day := none
  updatedBy : ℕ := 0
  deriving DecidableEq

/-- Whether goods have come or will not come. -/
inductive Disposition
  | receive | short
  deriving DecidableEq

/-- A line of a receipt. -/
structure ReceiptLine where
  itemId : ℕ
  skuId : ℕ
  receiveQty : ℤ
  transitRelease : ℤ
  deriving DecidableEq

/-- A receipt of goods of a purchase order. -/
structure PurchaseReceipt where
  id : ℕ
  purchaseOrderId : ℕ
  disposition : Disposition
  lines : List ReceiptLine
  note : String := ""
  idempotencyKey : Option String := none
  deriving DecidableEq

/-- The state of a shipment on its first mile. -/
inductive FirstMileStatus
  | draft | posted
  deriving DecidableEq

/-- A shipment on its first mile. A line is a SKU and a quantity. -/
structure FirstMileShipment where
  id : ℕ
  purchaseOrderId : Option ℕ := none
  fromWarehouseId : Option ℕ := none
  toWarehouseId : Option ℕ := none
  channel : Channel
  destinationMarket : String
  costTotal : ℚ
  currency : String
  allocMethod : FirstMile.AllocMethod
  storageDays : ℕ := 0
  status : FirstMileStatus := .draft
  lines : List (ℕ × ℤ)
  idempotencyKey : Option String := none
  deriving DecidableEq

/-- What a SKU bears of the cost of a shipment. -/
structure FirstMileCostAllocation where
  id : ℕ
  shipmentId : ℕ
  skuId : ℕ
  quantity : ℤ
  allocatedCost : ℚ
  currency : String
  method : FirstMile.AllocMethod
  formula : String
  source : String
  deriving DecidableEq

/-- What a line of a cost pool is about. -/
inductive PoolCode
  | cost (code : LineCode)
  | landed
  deriving DecidableEq

/-- A line of the breakdown of a unit cost. -/
structure PoolLine where
  code : PoolCode
  label : String
  amount : String
  currency : String
  formula : String
  source : String
  complete : Bool
  deriving DecidableEq

/-- The unit cost of a SKU from a shipment on, averaged over what has come so far. -/
structure SkuCostPool where
  id : ℕ
  skuId : ℕ
  shipmentId : ℕ
  purchaseOrderId : Option ℕ := none
  quantity : ℤ
  currency : String
  purchaseUnit : ℚ
  firstMileUnit : ℚ
  dutyUnit : ℚ
  importTaxUnit : ℚ
  brokerageUnit : ℚ
  storageUnit : ℚ
  fxReserveUnit : ℚ
  landedUnit : ℚ
  lines : List PoolLine
  source : String
  deriving DecidableEq

/-- The tables. -/
structure Db where
  warehouses : List Warehouse := []
  inventories : List Inventory := []
  flows : List InventoryFlow := []
  holds : List InventoryHold := []
  transfers : List StockTransfer := []
  transferLines : List StockTransferLine := []
  takings : List StockTaking := []
  takingLines : List StockTakingLine := []
  skus : List Sku := []
  listings : List Listing := []
  shops : List Shop := []
  orders : List SalesOrder := []
  items : List OrderItem := []
  fees : List OrderFee := []
  statusLogs : List OrderStatusLog := []
  shipments : List Shipment := []
  reviewRules : List OrderReviewRule := []
  returns : List ReturnOrder := []
  batches : List ListingBatch := []
  batchItems : List ListingBatchItem := []
  suppliers : List Supplier := []
  supplierLinks : List SkuSupplier := []
  purchaseOrders : List PurchaseOrder := []
  purchaseItems : List PurchaseOrderItem := []
  receipts : List PurchaseReceipt := []
  firstMiles : List FirstMileShipment := []
  costAllocations : List FirstMileCostAllocation := []
  costPools : List SkuCostPool := []
  diffs : List ListingDiff := []
  taxRules : List CountryTaxRule := []
  hsCodes : List HsCode := []
  hsBindings : List SpuHsBinding := []
  landedFees : List LandedCostFee := []
  lineToggles : List LandedCostLineToggle := []
  exchangeRates : List ExchangeRate := []
  profits : List SkuProfitDaily := []
  deriving DecidableEq

/-! ### Programs -/

/-- What a statement can lock: a row, or the place of a row in a unique index. -/
inductive RowKey
  | inventory (id : ℕ)
  | pair (skuId warehouseId : ℕ)
  | hold (id : ℕ)
  | holdOf (orderItemId : ℕ)
  | order (id : ℕ)
  | orderKey (key : String)
  | item (id : ℕ)
  | fee (id : ℕ)
  | shipment (orderId : ℕ)
  | returnOrder (id : ℕ)
  | reviewRule (currency : String)
  | transfer (id : ℕ)
  | taking (id : ℕ)
  | takingLine (id : ℕ)
  | listing (id : ℕ)
  | batch (id : ℕ)
  | warehouse (id : ℕ)
  | supplier (id : ℕ)
  | supplierKey (key : String)
  | supplierLink (id : ℕ)
  | purchaseOrder (id : ℕ)
  | purchaseKey (key : String)
  | purchaseItem (id : ℕ)
  | purchaseLine (purchaseOrderId skuId : ℕ)
  | receiptKey (key : String)
  | firstMile (id : ℕ)
  | firstMileKey (key : String)
  | costAllocation (shipmentId skuId : ℕ)
  | diff (id : ℕ)
  | profit (id : ℕ)
  | taxRule (id : ℕ)
  | taxVersion (country : String) (taxType : TaxType) (hsCodePattern : String) (version : ℕ)
  | landedFee (id : ℕ)
  | feeVersion (market : String) (channel : Channel) (feeCode : FeeCode) (label : String)
      (version : ℕ)
  deriving DecidableEq

/-- What a service raises: an error of the application with its code, an error of a platform, a
constraint of the database, or an exception of Python. -/
inductive ServiceError
  | app (code : ℕ) (message : String)
  | adapter (message : String)
  | integrity (constraint : String)
  | value (message : String)
  deriving DecidableEq

namespace ServiceError

def paramInvalid (message : String) : ServiceError := .app 10001 message
def notFound (message : String := "资源不存在") : ServiceError := .app 10002 message
def orderNotFound : ServiceError := .app 50001 "订单不存在"
def orderState (message : String) : ServiceError := .app 50002 message
def returnNotFound : ServiceError := .app 50001 "退货单不存在"
def returnState : ServiceError := .app 50006 "退货单当前状态不能做这个操作"
def inventoryInsufficient : ServiceError := .app 60001 "库存不足"
def inventoryConflict : ServiceError := .app 60003 "库存正在被其他操作更新，请重试"
def transferWarehouse : ServiceError := .app 60005 "调出仓和调入仓不能相同"
def transferState : ServiceError := .app 60006 "调拨单当前状态不能执行该操作"
def stockTakingState (message : String := "盘点单当前状态不能执行该操作") : ServiceError :=
  .app 60007 message

def conflict (message : String := "操作冲突") : ServiceError := .app 10003 message
def purchaseState (message : String := "采购单当前状态不能执行该操作") : ServiceError :=
  .app 60008 message
def receiptInvalid (message : String := "收货数量不合法") : ServiceError := .app 60009 message
def costPoolIncomplete : ServiceError := .app 70008 "到仓成本配置不完整，不能回写"

/-- After an error of the database the transaction accepts no further statement. -/
def isDatabase : ServiceError → Bool
  | integrity _ => true
  | _ => false

end ServiceError

/-- What comes of two steps comes of the first and then of the second. -/
lemma bind_eq_ok {ε α β : Type} {x : Except ε α} {f : α → Except ε β} {b : β} :
    (x >>= f) = .ok b ↔ ∃ a, x = .ok a ∧ f a = .ok b := by
  cases x with
  | error e => simp [bind, Except.bind]
  | ok a => simp [bind, Except.bind]

/-- Two steps fail in the first or in the second. -/
lemma bind_eq_error {ε α β : Type} {x : Except ε α} {f : α → Except ε β} {e : ε} :
    (x >>= f) = .error e ↔ x = .error e ∨ ∃ a, x = .ok a ∧ f a = .error e := by
  cases x with
  | error e => simp [bind, Except.bind]
  | ok a => simp [bind, Except.bind]

/-- A check that raises, and what is done after it. -/
lemma refused_eq_ok {ε α β : Type} {p : Prop} [Decidable p] {e : ε} {f : α → Except ε β}
    {x : Except ε β} {b : β} :
    (if p then Except.error e >>= f else x) = .ok b ↔ ¬ p ∧ x = .ok b := by
  split_ifs with h <;> simp [h, bind, Except.bind]

/-- A check that may raise, and what is done whether it is made or not. -/
lemma of_checked {ε α β : Type} {p : Prop} [Decidable p] {x : Except ε α} {y : Except ε β} {b : β}
    (h : (if p then x >>= fun _ => y else y) = .ok b) : y = .ok b := by
  split_ifs at h
  · obtain ⟨_, -, h⟩ := bind_eq_ok.mp h
    exact h
  · exact h

/-- The memory of a worker: the balances in its identity map and the ids it will draw. -/
structure Session where
  seen : List Inventory := []
  ids : ℕ → ℕ

/-- The work of one transaction. -/
abbrev Work (α : Type) := Transaction.Prog Session Db RowKey ServiceError α

/-- The state of a transaction that runs alone. -/
abbrev WorkState := Transaction.St Session Db

/-- `next_snowflake_id`. -/
def nextSnowflakeId : Work ℕ := do
  let id ← .query fun l _ => l.ids 0
  .remember fun l => { l with ids := fun n => l.ids (n + 1) }
  return id

@[simp] lemma wp_nextSnowflakeId {Q : ℕ → WorkState → Prop} {E : ServiceError → WorkState → Prop}
    {s : WorkState} : nextSnowflakeId.wp Q E s ↔ Q (s.session.ids 0)
      { s with session := { s.session with ids := fun n => s.session.ids (n + 1) } } := Iff.rfl

/-- Raise. -/
def raise {α : Type} (e : ServiceError) : Work α := .fail e

/-- `get_or_404` and its like. -/
def orRaise {α : Type} (e : ServiceError) : Option α → Work α
  | some a => pure a
  | none => raise e

end CrossPilot
