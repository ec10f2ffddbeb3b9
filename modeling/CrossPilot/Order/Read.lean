import CrossPilot.Lib.Like
import CrossPilot.Order.Privacy

/-!
# Reading orders

The statements behind the list, the detail and the export of orders. An order is joined with its
shop and its shipment, chosen by the filters of the request, and the result is sorted and cut off.
A condition on a column that is empty is not fulfilled.

The filters read the columns as they are stored. What a role sees of them is decided later.
-/

namespace CrossPilot

/-! ### Queries -/

/-- The lists an operator works off. -/
inductive OrderQueue
  | toShip | exception
  deriving DecidableEq

/-- What may be wrong with an order. -/
inductive ExceptionKind
  | skuUnmatched | addressInvalid | shipDueSoon | shipOverdue | reviewPending
  deriving DecidableEq

/-- A bound on an amount. `NaN` is above every number. -/
inductive Bound
  | finite (amount : ℚ)
  | infinity | negInfinity | nan
  deriving DecidableEq

/-- `amount >= bound`. -/
def Bound.atMost : Bound → ℚ → Bool
  | finite low, amount => low ≤ amount
  | negInfinity, _ => true
  | infinity, _ | nan, _ => false

/-- `amount <= bound`. -/
def Bound.atLeast : Bound → ℚ → Bool
  | finite high, amount => amount ≤ high
  | negInfinity, _ => false
  | infinity, _ | nan, _ => true

/-- What a list is asked for. -/
structure OrderListQuery where
  limit : ℕ
  platformCode : Option String := none
  shopId : Option ℕ := none
  siteCode : Option String := none
  unifiedStatus : Option UnifiedStatus := none
  createdFrom : Option Instant := none
  createdTo : Option Instant := none
  amountMin : Option Bound := none
  amountMax : Option Bound := none
  sku : Option String := none
  keyword : Option String := none
  beforeCreatedAt : Option Instant := none
  beforeId : Option ℕ := none
  queue : Option OrderQueue := none
  exceptionKind : Option ExceptionKind := none
  slaHours : ℤ := 48
  warnHours : ℤ := 4
  asOf : Option Instant := none
  beforeRank : Option ℕ := none
  beforePaidAt : Option Instant := none
  deriving DecidableEq

/-- An order with what is joined to it. -/
structure OrderHit where
  order : SalesOrder
  shopName : String
  siteCode : String
  shipmentStatus : Option ShipmentStatus
  failureReason : Option String
  trackingNo : Option String
  carrier : Option String
  attempt : Option ℕ
  deriving DecidableEq

/-- How the database folds the letters of two texts it compares without regard to case. -/
structure Collation where
  fold : Char → Char
  fold_ne : fold 'a' ≠ fold 'b'

/-- The answer of the database depends on its locale and on the time. -/
structure ReadContext where
  collation : Collation
  now : Instant

/-- `timedelta(hours=n)`. -/
def hours (n : ℤ) : ℤ := n * 3600000000

/-! ### Conditions -/

section Conditions

variable (ctx : ReadContext) (db : Db) (query : OrderListQuery) (order : SalesOrder)

/-- `if value: stmt.where(...)`. -/
def whenGiven (value : Option String) (condition : String → Bool) : Bool :=
  match value with
  | none => true
  | some text => text == "" || condition text

/-- The shop of an order. -/
def shopOf : Option Shop := db.shops.find? fun shop => shop.id = order.shopId

/-- The shipment of an order. -/
def shipmentOf : Option Shipment := db.shipments.find? fun s => s.orderId = order.id

/-- `column.ilike(_contains(value), escape="\\")`. -/
def contains (value text : String) : Bool :=
  Like.ilike ctx.collation.fold text (Like.containing value)

/-- `_sku_exists`. -/
def skuExists (value : String) : Bool :=
  db.items.any fun item => item.orderId = order.id &&
    (contains ctx value item.platformSkuId || contains ctx value item.itemName)

/-- `_keyword`. -/
def keywordClause (keyword : String) : Bool :=
  contains ctx keyword order.platformOrderId ||
    (field order.buyerInfo "name").any (contains ctx keyword) ||
    skuExists ctx db order keyword ||
    (keyword.toList.all Text.isDigit && keyword.length = 4 &&
      field order.buyerInfo "phone_last4" = some keyword)

/-- `_clock`. -/
def clock : Instant := query.asOf.getD ctx.now

def overdueBefore : Instant := clock ctx query - hours query.slaHours

def soonBefore : Instant := clock ctx query - hours (max (query.slaHours - query.warnHours) 0)

/-- `_ship_rank`: overdue orders first, then those that are due soon. -/
def shipRank : ℕ :=
  match order.paidAt with
  | none => 2
  | some paid =>
    if paid ≤ overdueBefore ctx query then 0
    else if paid ≤ soonBefore ctx query then 1
    else 2

/-- `_deadline_page`: what comes after the last order of the page before. -/
def deadlinePage : Bool :=
  match query.beforeRank, query.beforeId with
  | some beforeRank, some beforeId =>
    let rank := shipRank ctx query order
    rank > beforeRank || rank = beforeRank &&
      match query.beforePaidAt, order.paidAt with
      | none, none => order.id < beforeId
      | none, some _ => false
      | some paid, some p => paid < p || p = paid && order.id < beforeId
      | some _, none => true
  | _, _ => true

/-- A text that is missing or empty. -/
def blank (value : Option String) : Bool := value = none || value = some ""

/-- The address cannot be delivered to. -/
def addressClause : Bool :=
  order.shipTo = none || blank (field order.shipTo "country") ||
    (blank (field order.shipTo "line1") && blank (field order.shipTo "city"))

/-- When the order was paid, if it still waits. -/
def paidOpen : Option Instant := if order.unifiedStatus = .paid then order.paidAt else none

/-- `_exception_clause`. -/
def exceptionClause : Bool :=
  let kind := query.exceptionKind
  let asked (k : ExceptionKind) : Bool := kind = none || kind = some k
  (asked .skuUnmatched && db.items.any fun item => item.orderId = order.id && item.skuId = none) ||
    (asked .addressInvalid && addressClause order) ||
    (kind = some .shipOverdue &&
      (paidOpen order).any fun paid => paid ≤ overdueBefore ctx query) ||
    (kind = some .shipDueSoon &&
      (paidOpen order).any fun paid => paid ≤ soonBefore ctx query && overdueBefore ctx query < paid) ||
    (kind = none && (paidOpen order).any fun paid => paid ≤ soonBefore ctx query) ||
    (asked .reviewPending && order.reviewStatus = .pending)

/-- The list an order is on. -/
def queueClause : Bool :=
  if query.queue = some .toShip then
    order.unifiedStatus = .paid &&
      (order.reviewStatus = .autoPassed || order.reviewStatus = .approved) &&
      deadlinePage ctx query order
  else if query.queue = some .exception ∨ query.exceptionKind ≠ none then
    exceptionClause ctx db query order
  else true

/-- What comes after the last order of the page before. -/
def cursorClause : Bool :=
  match query.queue, query.beforeCreatedAt, query.beforeId with
  | some .toShip, _, _ => true
  | _, some createdAt, some id =>
    order.createdAt < createdAt || order.createdAt = createdAt && order.id < id
  | _, _, _ => true

/-- `_filter`. -/
def orderFilter : Bool :=
  whenGiven query.platformCode (fun code => order.platformCode == code) &&
    query.shopId.all (fun id => order.shopId == id) &&
    whenGiven query.siteCode (fun code => (shopOf db order).any fun shop => shop.siteCode == code) &&
    query.unifiedStatus.all (fun status => order.unifiedStatus = status) &&
    query.createdFrom.all (fun t => t ≤ order.createdAt) &&
    query.createdTo.all (fun t => order.createdAt ≤ t) &&
    query.amountMin.all (fun bound => bound.atMost order.totalAmount) &&
    query.amountMax.all (fun bound => bound.atLeast order.totalAmount) &&
    whenGiven query.sku (skuExists ctx db order) &&
    whenGiven query.keyword (keywordClause ctx db order) &&
    queueClause ctx db query order &&
    cursorClause query order

end Conditions

/-! ### Rows -/

/-- `_hit`. -/
def hit (db : Db) (order : SalesOrder) : OrderHit :=
  let shop := shopOf db order
  let shipment := shipmentOf db order
  { order
    shopName := (shop.map Shop.shopName).getD ""
    siteCode := (shop.map Shop.siteCode).getD ""
    shipmentStatus := shipment.map Shipment.status
    failureReason := shipment.bind Shipment.failureReason
    trackingNo := shipment.map Shipment.trackingNo
    carrier := shipment.map Shipment.carrier
    attempt := shipment.map Shipment.attempt }

/-- The newest order first. -/
def newestFirst (a b : SalesOrder) : Prop :=
  b.createdAt < a.createdAt ∨ a.createdAt = b.createdAt ∧ b.id ≤ a.id

/-- The order whose time runs out first. Orders that are not paid come last. -/
def shipFirst (ctx : ReadContext) (query : OrderListQuery) (a b : SalesOrder) : Prop :=
  let rankA := shipRank ctx query a
  let rankB := shipRank ctx query b
  rankA < rankB ∨ rankA = rankB ∧
    match a.paidAt, b.paidAt with
    | some p, some q => p < q ∨ p = q ∧ b.id ≤ a.id
    | some _, none => True
    | none, some _ => False
    | none, none => b.id ≤ a.id

instance (a b : SalesOrder) : Decidable (newestFirst a b) :=
  inferInstanceAs (Decidable (_ ∨ _))

instance (ctx : ReadContext) (query : OrderListQuery) (a b : SalesOrder) :
    Decidable (shipFirst ctx query a b) := by
  unfold shipFirst
  cases a.paidAt <;> cases b.paidAt <;> infer_instance

namespace OrderReadRepository

def listOrders (ctx : ReadContext) (db : Db) (query : OrderListQuery) : List OrderHit :=
  let rows := db.orders.filter (orderFilter ctx db query)
  let sorted := if query.queue = some .toShip then rows.insertionSort (shipFirst ctx query)
    else rows.insertionSort newestFirst
  (sorted.take query.limit).map (hit db)

def getOrder (db : Db) (orderId : ℕ) : Option OrderHit :=
  (db.orders.find? fun order => order.id = orderId).map (hit db)

def unmatchedOrderIds (db : Db) (orderIds : List ℕ) : List ℕ :=
  (db.items.filter fun item => orderIds.contains item.orderId && item.skuId = none).map OrderItem.orderId

def listItems (db : Db) (orderId : ℕ) : List OrderItem :=
  (db.items.filter fun item => item.orderId = orderId).insertionSort fun a b => a.id ≤ b.id

def listFees (db : Db) (orderIds : List ℕ) : List OrderFee :=
  (db.fees.filter fun fee => orderIds.contains fee.orderId).insertionSort fun a b => a.id ≤ b.id

/-- `OrderStatusLogRepository.list_for_order`. -/
def listLogs (db : Db) (orderId : ℕ) : List OrderStatusLog :=
  ((db.statusLogs.filter fun log => log.orderId = orderId).insertionSort
    fun a b => a.id ≤ b.id).take 200

end OrderReadRepository

/-- A list of one order. -/
lemma listOrders_singleton {ctx : ReadContext} {db : Db} {query : OrderListQuery}
    {order : SalesOrder} (hlimit : 0 < query.limit) :
    OrderReadRepository.listOrders ctx { db with orders := [order] } query =
      if orderFilter ctx db query order then [hit db order] else [] := by
  have hfilter : orderFilter ctx { db with orders := [order] } query =
      orderFilter ctx db query := rfl
  have hhit : hit { db with orders := [order] } = hit db := rfl
  obtain ⟨n, hn⟩ := Nat.exists_eq_succ_of_ne_zero hlimit.ne'
  simp only [OrderReadRepository.listOrders, hfilter, hhit, hn]
  by_cases hpass : orderFilter ctx db query order
  · simp [hpass]
  · simp [hpass]

end CrossPilot
