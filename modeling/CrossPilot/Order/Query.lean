import CrossPilot.Order.Read
import CrossPilot.Order.Upsert

/-!
# The order list, the detail of an order, and the export

What a member gets to see of the orders. List and export share their filters, the list goes page by
page with a cursor that holds the last order's place, and every order is shown through `maskParty`.
-/

namespace CrossPilot

open OrderReadRepository

/-! ### Cursors -/

/-- A value of a JSON object. -/
inductive CursorValue
  | text (s : String)
  | number (q : ℚ)
  | bool (b : Bool)
  | null | nested
  deriving DecidableEq

/-- A JSON object. -/
abbrev CursorPayload := List (String × CursorValue)

/-- How cursors and times are written. A cursor that cannot be read is an empty object; one that
holds no object makes the reader fail. -/
structure Codec where
  decodeCursor : String → Except String CursorPayload
  encodeCursor : CursorPayload → String
  fromisoformat : String → Option Instant
  isoformat : Instant → String

/-- The settings of the desk, and what else an answer depends on. -/
structure QueryContext extends ReadContext where
  shipSlaHours : ℤ
  shipWarnHours : ℤ
  exportMaxRows : ℕ
  codec : Codec
  stamp : Instant → String
  xlsx : List String → List (List String) → String

/-- A desk with the settings of the code, on a database that folds the letters of ASCII. -/
def plainDesk : QueryContext where
  collation := ⟨Char.toLower, by decide⟩
  now := 0
  shipSlaHours := 48
  shipWarnHours := 4
  exportMaxRows := 5000
  codec := ⟨fun _ => .ok [], fun _ => "", fun _ => none, fun _ => ""⟩
  stamp := fun _ => ""
  xlsx := fun _ _ => ""

namespace CursorValue

/-- The text of a value that is one and reads as a number. -/
def digits? : Option CursorValue → Option String
  | some (text s) => if Text.isDigits s then some s else none
  | _ => none

/-- `value in {0, 1, 2}`. A value that is no scalar cannot be looked up. -/
def rank? : Option CursorValue → Except ServiceError (Option ℕ)
  | some nested => .error (.value "unhashable type")
  | some (number q) => .ok ([0, 1, 2].find? fun n => (n : ℚ) = q)
  | some (bool b) => .ok (some b.toNat)
  | _ => .ok none

end CursorValue

/-- `int(raw_id)`. -/
def intOf (digits : String) : Except ServiceError ℕ :=
  match Text.toInt digits with
  | some n => .ok n
  | none => .error (.value "invalid literal for int() with base 10")

/-- `decode_cursor`. -/
def decodeCursor (codec : Codec) (cursor : String) : Except ServiceError CursorPayload :=
  match codec.decodeCursor cursor with
  | .ok payload => .ok payload
  | .error message => .error (.value message)

/-- The place after which a page of the list begins. -/
def readOrderCursor (codec : Codec) (cursor : Option String) :
    Except ServiceError (Option (Instant × ℕ)) := do
  let text := cursor.getD ""
  if text = "" then return none
  let payload ← decodeCursor codec text
  match payload.lookup "t", CursorValue.digits? (payload.lookup "id") with
  | some (.text rawTime), some rawId =>
    match codec.fromisoformat rawTime with
    | none => return none
    | some moment => return some (moment, ← intOf rawId)
  | _, _ => return none

/-- The place after which a page of the orders to ship begins. -/
structure DeadlineCursor where
  rank : ℕ
  paidAt : Option Instant
  id : ℕ

def readDeadlineCursor (codec : Codec) (cursor : Option String) :
    Except ServiceError (Option DeadlineCursor) := do
  let text := cursor.getD ""
  if text = "" then return none
  let payload ← decodeCursor codec text
  if payload.lookup "k" ≠ some (.text "d") then return none
  match ← CursorValue.rank? (payload.lookup "r"),
      CursorValue.digits? (payload.lookup "id") with
  | some rank, some rawId =>
    match payload.lookup "t" with
    | some (.text rawTime) =>
      if rawTime = "" then return some ⟨rank, none, ← intOf rawId⟩
      match codec.fromisoformat rawTime with
      | none => return none
      | some moment => return some ⟨rank, some moment, ← intOf rawId⟩
    | _ => return some ⟨rank, none, ← intOf rawId⟩
  | _, _ => return none

def writeOrderCursor (codec : Codec) (createdAt : Instant) (orderId : ℕ) : String :=
  codec.encodeCursor [("t", .text (codec.isoformat createdAt)), ("id", .text (toString orderId))]

/-! ### Exceptions -/

def addressInvalid (shipTo : Option TextMap) : Bool :=
  let country := cleanText (field shipTo "country")
  let line1 := cleanText (field shipTo "line1")
  let city := cleanText (field shipTo "city")
  country = none || (line1 = none && city = none)

def shipDeadline (paidAt : Option Instant) (slaHours : ℤ) : Option Instant :=
  paidAt.map fun paid => paid + hours slaHours

/-- Whether the time to ship has run out, or is about to. Only orders that wait are timed. -/
def shipWindow (unifiedStatus : UnifiedStatus) (paidAt : Option Instant) (now : Instant)
    (slaHours warnHours : ℤ) : Option ExceptionKind :=
  if unifiedStatus ≠ .paid then none
  else
    match shipDeadline paidAt slaHours with
    | none => none
    | some deadline =>
      if deadline ≤ now then some .shipOverdue
      else if deadline - hours (max warnHours 0) ≤ now then some .shipDueSoon
      else none

def classifyExceptions (order : SalesOrder) (skuUnmatched : Bool) (now : Instant)
    (slaHours warnHours : ℤ) : List ExceptionKind :=
  (if skuUnmatched then [.skuUnmatched] else []) ++
    (if addressInvalid order.shipTo then [.addressInvalid] else []) ++
    (shipWindow order.unifiedStatus order.paidAt now slaHours warnHours).toList ++
    (if order.reviewStatus = .pending then [.reviewPending] else [])

def writeDeadlineCursor (ctx : QueryContext) (order : SalesOrder) : String :=
  let rank : ℕ := match shipWindow order.unifiedStatus order.paidAt ctx.now ctx.shipSlaHours
      ctx.shipWarnHours with
    | some .shipOverdue => 0
    | some .shipDueSoon => 1
    | _ => 2
  let paid := (order.paidAt.map ctx.codec.isoformat).getD ""
  ctx.codec.encodeCursor
    [("k", .text "d"), ("r", .number rank), ("t", .text paid), ("id", .text (toString order.id))]

/-! ### Requests -/

/-- The filters of the list and of the export, as they are sent. -/
structure OrderFilters where
  platformCode : Option String := none
  shopId : Option ℕ := none
  siteCode : Option String := none
  unifiedStatus : Option String := none
  createdFrom : Option Instant := none
  createdTo : Option Instant := none
  amountMin : Option Bound := none
  amountMax : Option Bound := none
  sku : Option String := none
  keyword : Option String := none

def supportedPlatforms : List String := ["amazon", "shopee", "lazada", "tiktok"]

def ServiceError.platformUnsupported : ServiceError := .app 30001 "平台不支持"

namespace OrderQueue

def value : OrderQueue → String
  | toShip => "to_ship"
  | exception => "exception"

def all : List OrderQueue := [toShip, exception]

end OrderQueue

namespace ExceptionKind

def value : ExceptionKind → String
  | skuUnmatched => "SKU_UNMATCHED"
  | addressInvalid => "ADDRESS_INVALID"
  | shipDueSoon => "SHIP_DUE_SOON"
  | shipOverdue => "SHIP_OVERDUE"
  | reviewPending => "REVIEW_PENDING"

def all : List ExceptionKind :=
  [skuUnmatched, addressInvalid, shipDueSoon, shipOverdue, reviewPending]

end ExceptionKind

/-- A choice that is made by its text. -/
def chosen {α : Type} (find : String → Option α) (e : ServiceError) (text : Option String) :
    Except ServiceError (Option α) :=
  match cleanText text with
  | none => .ok none
  | some t =>
    match find t with
    | none => .error e
    | some a => .ok (some a)

/-- Where a page begins. -/
inductive Place
  | start
  | after (createdAt : Instant) (id : ℕ)
  | afterDeadline (cursor : DeadlineCursor)

namespace Place

def createdAt : Place → Option Instant
  | after t _ => some t
  | _ => none

def id : Place → Option ℕ
  | start => none
  | after _ id => some id
  | afterDeadline c => some c.id

def rank : Place → Option ℕ
  | afterDeadline c => some c.rank
  | _ => none

def paidAt : Place → Option Instant
  | afterDeadline c => c.paidAt
  | _ => none

end Place

/-- `_query`. -/
def orderQuery (ctx : QueryContext) (limit : ℕ) (filters : OrderFilters) (place : Place)
    (queue exceptionKind : Option String) (asOf : Option Instant) :
    Except ServiceError OrderListQuery := do
  let platform ← chosen (fun t => supportedPlatforms.find? fun code => code == Text.lower t)
    .platformUnsupported filters.platformCode
  let status ← chosen (fun t => parseUnified (some t)) (.paramInvalid "统一状态不在九态之内")
    filters.unifiedStatus
  let desk ← chosen (fun t => OrderQueue.all.find? fun q => q.value == t)
    (.paramInvalid "订单队列不正确") queue
  let kind ← chosen (fun t => ExceptionKind.all.find? fun k => k.value == t)
    (.paramInvalid "异常类型不正确") exceptionKind
  return {
    limit
    platformCode := platform
    shopId := filters.shopId
    siteCode := (cleanText filters.siteCode).map Text.upper
    unifiedStatus := status
    createdFrom := filters.createdFrom
    createdTo := filters.createdTo
    amountMin := filters.amountMin
    amountMax := filters.amountMax
    sku := cleanText filters.sku
    keyword := cleanText filters.keyword
    beforeCreatedAt := place.createdAt
    beforeId := place.id
    queue := desk
    exceptionKind := kind
    slaHours := ctx.shipSlaHours
    warnHours := ctx.shipWarnHours
    asOf
    beforeRank := place.rank
    beforePaidAt := place.paidAt }

/-! ### Views -/

/-- An order in the list. -/
structure OrderListItem where
  id : ℕ
  shopId : ℕ
  shopName : String
  siteCode : String
  platformCode : String
  platformOrderId : String
  unifiedStatus : UnifiedStatus
  platformStatus : String
  currency : String
  totalAmount : ℚ
  paidAt : Option Instant
  createdAt : Instant
  buyerName : Option String
  shipmentStatus : Option ShipmentStatus
  failureReason : Option String
  reviewStatus : ReviewStatus
  exceptions : List ExceptionKind
  shipDeadline : Option Instant
  deriving DecidableEq

/-- A page of a list. -/
structure OrderPage where
  items : List OrderListItem
  cursor : Option String
  hasMore : Bool
  deriving DecidableEq

/-- What is shown of the last shipment. -/
structure ShipmentView where
  carrier : Option String
  trackingNo : Option String
  status : Option ShipmentStatus
  failureReason : Option String
  attempt : Option ℕ
  shippedAt : Option Instant
  deriving DecidableEq

/-- What is shown of a line. -/
structure OrderItemView where
  id : ℕ
  platformSkuId : String
  platformProductId : String
  itemName : String
  quantity : ℤ
  unitPrice : ℚ
  currency : String
  deriving DecidableEq

/-- What is shown of a fee. -/
structure OrderFeeView where
  id : ℕ
  feeType : String
  amount : ℚ
  currency : String
  source : FeeSource
  deriving DecidableEq

/-- What is shown of a change of status. -/
structure TimelineView where
  id : ℕ
  fromStatus : Option UnifiedStatus
  toStatus : UnifiedStatus
  platformStatus : String
  operatorId : Option ℕ
  source : StatusChangeSource
  remark : Option String
  deriving DecidableEq

/-- An order in full. -/
structure OrderDetail extends OrderListItem where
  itemAmount : ℚ
  shippingAmount : ℚ
  taxAmount : ℚ
  discountAmount : ℚ
  shippedAt : Option Instant
  buyer : PartyView
  shipTo : AddressView
  items : List OrderItemView
  fees : List OrderFeeView
  shipment : ShipmentView
  timeline : List TimelineView
  trackingNo : Option String
  carrier : Option String
  deriving DecidableEq

/-- A file to download. -/
structure FilePayload where
  filename : String
  content : String
  rowCount : ℕ
  truncated : Bool
  deriving DecidableEq

/-- `_list_item`. -/
def listItem (ctx : QueryContext) (roleCode : RoleCode) (h : OrderHit) (skuUnmatched : Bool) :
    OrderListItem :=
  let order := h.order
  { id := order.id
    shopId := order.shopId
    shopName := h.shopName
    siteCode := h.siteCode
    platformCode := order.platformCode
    platformOrderId := order.platformOrderId
    unifiedStatus := order.unifiedStatus
    platformStatus := order.platformStatus
    currency := order.currency
    totalAmount := order.totalAmount
    paidAt := order.paidAt
    createdAt := order.createdAt
    buyerName := (maskParty roleCode order.buyerInfo order.shipTo).1.name
    shipmentStatus := h.shipmentStatus
    failureReason := h.failureReason
    reviewStatus := order.reviewStatus
    exceptions := classifyExceptions order skuUnmatched ctx.now ctx.shipSlaHours ctx.shipWarnHours
    shipDeadline :=
      if order.unifiedStatus = .paid then shipDeadline order.paidAt ctx.shipSlaHours else none }

/-- `_detail`. -/
def orderDetail (ctx : QueryContext) (roleCode : RoleCode) (h : OrderHit) (items : List OrderItem)
    (fees : List OrderFee) (logs : List OrderStatusLog) : OrderDetail :=
  let order := h.order
  let party := maskParty roleCode order.buyerInfo order.shipTo
  { listItem ctx roleCode h (items.any fun item => item.skuId = none) with
    itemAmount := order.itemAmount
    shippingAmount := order.shippingAmount
    taxAmount := order.taxAmount
    discountAmount := order.discountAmount
    shippedAt := order.shippedAt
    buyer := party.1
    shipTo := party.2
    items := items.map fun item => ⟨item.id, item.platformSkuId, item.platformProductId,
      item.itemName, item.quantity, item.unitPrice, item.currency⟩
    fees := fees.map fun fee => ⟨fee.id, fee.feeType, fee.amount, fee.currency, fee.source⟩
    shipment := ⟨h.carrier, h.trackingNo, h.shipmentStatus, h.failureReason, h.attempt,
      order.shippedAt⟩
    timeline := logs.map fun log => ⟨log.id, log.fromStatus, log.toStatus, log.platformStatus,
      log.operatorId, log.source, log.remark⟩
    trackingNo := h.trackingNo
    carrier := h.carrier }

/-! ### The export -/

/-- A column of the export. -/
inductive ExportField
  | platformOrderId | platformCode | shopName | siteCode | unifiedStatus | currency | itemAmount
  | shippingAmount | taxAmount | discountAmount | totalAmount | paidAt | buyerName | feeDetail
  deriving DecidableEq

namespace ExportField

def all : List ExportField :=
  [platformOrderId, platformCode, shopName, siteCode, unifiedStatus, currency, itemAmount,
   shippingAmount, taxAmount, discountAmount, totalAmount, paidAt, buyerName, feeDetail]

def value : ExportField → String
  | platformOrderId => "platform_order_id"
  | platformCode => "platform_code"
  | shopName => "shop_name"
  | siteCode => "site_code"
  | unifiedStatus => "unified_status"
  | currency => "currency"
  | itemAmount => "item_amount"
  | shippingAmount => "shipping_amount"
  | taxAmount => "tax_amount"
  | discountAmount => "discount_amount"
  | totalAmount => "total_amount"
  | paidAt => "paid_at"
  | buyerName => "buyer_name"
  | feeDetail => "fee_detail"

def label : ExportField → String
  | platformOrderId => "平台订单号"
  | platformCode => "平台"
  | shopName => "店铺"
  | siteCode => "站点"
  | unifiedStatus => "状态"
  | currency => "币种"
  | itemAmount => "商品金额"
  | shippingAmount => "运费"
  | taxAmount => "税费"
  | discountAmount => "折扣"
  | totalAmount => "订单金额"
  | paidAt => "付款时间"
  | buyerName => "买家"
  | feeDetail => "费用明细"

/-- `DEFAULT_EXPORT_FIELDS`. -/
def default : List ExportField := [platformOrderId, unifiedStatus, currency, totalAmount, feeDetail]

end ExportField

/-- `_export_fields`: the columns that are asked for, each once. -/
def exportFields (fields : List String) : Except ServiceError (List ExportField) := do
  if fields.isEmpty then return ExportField.default
  let chosen ← fields.foldlM (fun chosen name =>
    let key := Text.strip name
    match ExportField.all.find? fun f => f.value == key with
    | none => .error (.paramInvalid ("不支持导出字段 " ++ key))
    | some f => .ok (if f ∈ chosen then chosen else chosen ++ [f])) []
  if chosen.isEmpty then .error (.paramInvalid "请选择导出字段") else return chosen

/-- Six decimal places. -/
def moneyToStr (value : ℚ) : String :=
  let scaled := (money value * 1000000).num
  let digits := toString scaled.natAbs
  let padded := String.ofList (List.replicate (7 - digits.length) '0') ++ digits
  let whole := padded.toList.take (padded.length - 6)
  let rest := padded.toList.drop (padded.length - 6)
  (if scaled < 0 then "-" else "") ++ String.ofList whole ++ "." ++ String.ofList rest

/-- `_export_row`. -/
def exportRow (ctx : QueryContext) (roleCode : RoleCode) (h : OrderHit) (fields : List ExportField)
    (fees : List OrderFee) : List String :=
  let order := h.order
  fields.map fun
    | .platformOrderId => order.platformOrderId
    | .platformCode => order.platformCode
    | .shopName => h.shopName
    | .siteCode => h.siteCode
    | .unifiedStatus => order.unifiedStatus.value
    | .currency => order.currency
    | .itemAmount => moneyToStr order.itemAmount
    | .shippingAmount => moneyToStr order.shippingAmount
    | .taxAmount => moneyToStr order.taxAmount
    | .discountAmount => moneyToStr order.discountAmount
    | .totalAmount => moneyToStr order.totalAmount
    | .paidAt => (order.paidAt.map ctx.codec.isoformat).getD ""
    | .buyerName => (maskParty roleCode order.buyerInfo order.shipTo).1.name.getD ""
    | .feeDetail => String.intercalate "; "
        (fees.map fun fee => fee.feeType ++ ":" ++ moneyToStr fee.amount ++ " " ++ fee.currency)

/-! ### Answers -/

/-- A request for a page of the list. -/
structure ListRequest extends OrderFilters where
  limit : ℕ := 20
  cursor : Option String := none
  queue : Option String := none
  exceptionKind : Option String := none

/-- A request for a file. -/
structure ExportRequest extends OrderFilters where
  fields : List String := []

/-- A request to read orders. -/
inductive OrderRequest
  | list (r : ListRequest)
  | detail (orderId : ℕ)
  | file (r : ExportRequest)

/-- What is answered. -/
inductive OrderResponse
  | page (p : OrderPage)
  | detail (d : OrderDetail)
  | file (f : FilePayload)
  deriving DecidableEq

namespace OrderQueryService

/-- Where the page that is asked for begins. -/
def beginning (ctx : QueryContext) (r : ListRequest) : Except ServiceError Place :=
  if r.queue = some "to_ship" then
    (readDeadlineCursor ctx.codec r.cursor).map fun cursor =>
      (cursor.map Place.afterDeadline).getD .start
  else
    (readOrderCursor ctx.codec r.cursor).map fun cursor =>
      (cursor.map fun p => Place.after p.1 p.2).getD .start

/-- The query behind a page: one more order than is shown, to know whether there are more. -/
def listQuery (ctx : QueryContext) (r : ListRequest) : Except ServiceError OrderListQuery := do
  let place ← beginning ctx r
  orderQuery ctx (r.limit + 1) r.toOrderFilters place r.queue r.exceptionKind (some ctx.now)

/-- The page that is made of the orders that were found. -/
def orderPage (ctx : QueryContext) (roleCode : RoleCode) (r : ListRequest) (db : Db)
    (hits : List OrderHit) : OrderPage :=
  let hasMore : Bool := r.limit < hits.length
  let visible := hits.take r.limit
  let unmatched := unmatchedOrderIds db (visible.map fun h => h.order.id)
  let nextCursor := if hasMore then visible.getLast?.map fun last =>
      if r.queue = some "to_ship" then writeDeadlineCursor ctx last.order
      else writeOrderCursor ctx.codec last.order.createdAt last.order.id
    else none
  ⟨visible.map fun h => listItem ctx roleCode h (unmatched.contains h.order.id), nextCursor, hasMore⟩

def listOrders (ctx : QueryContext) (roleCode : RoleCode) (r : ListRequest) (db : Db) :
    Except ServiceError OrderPage := do
  let query ← listQuery ctx r
  return orderPage ctx roleCode r db (OrderReadRepository.listOrders ctx.toReadContext db query)

/-- An order that was found, with its lines, its fees and its history. -/
def orderInFull (ctx : QueryContext) (roleCode : RoleCode) (db : Db) (h : OrderHit) : OrderDetail :=
  orderDetail ctx roleCode h (OrderReadRepository.listItems db h.order.id) (listFees db [h.order.id])
    (listLogs db h.order.id)

def getOrder (ctx : QueryContext) (roleCode : RoleCode) (orderId : ℕ) (db : Db) :
    Except ServiceError OrderDetail :=
  match OrderReadRepository.getOrder db orderId with
  | none => .error .orderNotFound
  | some h => .ok (orderInFull ctx roleCode db h)

def exportQuery (ctx : QueryContext) (r : ExportRequest) : Except ServiceError OrderListQuery :=
  orderQuery ctx (ctx.exportMaxRows + 1) r.toOrderFilters .start none none none

/-- The file that is made of the orders that were found. -/
def orderFile (ctx : QueryContext) (roleCode : RoleCode) (fields : List ExportField) (db : Db)
    (hits : List OrderHit) : FilePayload :=
  let truncated : Bool := ctx.exportMaxRows < hits.length
  let visible := hits.take ctx.exportMaxRows
  let fees := listFees db (visible.map fun h => h.order.id)
  let rows := visible.map fun h =>
    exportRow ctx roleCode h fields (fees.filter fun fee => fee.orderId = h.order.id)
  { filename := "orders-" ++ ctx.stamp ctx.now ++ ".xlsx"
    content := ctx.xlsx (fields.map ExportField.label) rows
    rowCount := rows.length
    truncated }

def exportOrders (ctx : QueryContext) (roleCode : RoleCode) (r : ExportRequest) (db : Db) :
    Except ServiceError FilePayload := do
  let fields ← exportFields r.fields
  let query ← exportQuery ctx r
  return orderFile ctx roleCode fields db
    (OrderReadRepository.listOrders ctx.toReadContext db query)

/-- The answer to a request of a member with a role. -/
def respond (ctx : QueryContext) (roleCode : RoleCode) (request : OrderRequest) (db : Db) :
    Except ServiceError OrderResponse :=
  match request with
  | .list r => (listOrders ctx roleCode r db).map .page
  | .detail orderId => (getOrder ctx roleCode orderId db).map .detail
  | .file r => (exportOrders ctx roleCode r db).map .file

end OrderQueryService

/-! ### Queries that are not refused -/

namespace OrderQueryService

variable {ctx : QueryContext} {query : OrderListQuery}

/-- What a query keeps of the request. -/
lemma orderQuery_ok {limit : ℕ} {filters : OrderFilters} {place : Place}
    {queue exceptionKind : Option String} {asOf : Option Instant}
    (h : orderQuery ctx limit filters place queue exceptionKind asOf = .ok query) :
    query.limit = limit ∧ query.keyword = cleanText filters.keyword ∧
      query.shopId = filters.shopId := by
  obtain ⟨_, _, h⟩ := bind_eq_ok.1 h
  obtain ⟨_, _, h⟩ := bind_eq_ok.1 h
  obtain ⟨_, _, h⟩ := bind_eq_ok.1 h
  obtain ⟨_, _, h⟩ := bind_eq_ok.1 h
  cases h
  exact ⟨rfl, rfl, rfl⟩

lemma listQuery_ok {r : ListRequest} (h : listQuery ctx r = .ok query) :
    query.limit = r.limit + 1 ∧ query.keyword = cleanText r.keyword ∧ query.shopId = r.shopId := by
  obtain ⟨_, _, h⟩ := bind_eq_ok.1 h
  exact orderQuery_ok h

lemma exportQuery_ok {r : ExportRequest} (h : exportQuery ctx r = .ok query) :
    query.limit = ctx.exportMaxRows + 1 ∧ query.keyword = cleanText r.keyword ∧
      query.shopId = r.shopId :=
  orderQuery_ok h

/-- A page shows that an order was found, if only by saying that there are more. -/
lemma orderPage_ne (roleCode : RoleCode) (r : ListRequest) (db db' : Db) (h : OrderHit) :
    orderPage ctx roleCode r db [h] ≠ orderPage ctx roleCode r db' [] := by
  intro hsame
  have hmore := congrArg OrderPage.hasMore hsame
  have hitems := congrArg (fun p => p.items.length) hsame
  simp only [orderPage, List.length_singleton, List.length_nil, List.length_map,
    List.length_take, decide_eq_decide] at hmore hitems
  omega

/-- A file shows that an order was found, if only by being cut off. -/
lemma orderFile_ne (roleCode : RoleCode) (fields : List ExportField) (db db' : Db) (h : OrderHit) :
    orderFile ctx roleCode fields db [h] ≠ orderFile ctx roleCode fields db' [] := by
  intro hsame
  have htruncated := congrArg FilePayload.truncated hsame
  have hrows := congrArg FilePayload.rowCount hsame
  simp only [orderFile, List.length_singleton, List.length_nil, List.length_map,
    List.length_take, decide_eq_decide] at htruncated hrows
  omega

lemma respond_list {roleCode : RoleCode} {r : ListRequest} {db : Db}
    (h : listQuery ctx r = .ok query) : respond ctx roleCode (.list r) db =
      .ok (.page (orderPage ctx roleCode r db
        (OrderReadRepository.listOrders ctx.toReadContext db query))) := by
  simp only [respond, listOrders, h]
  rfl

lemma respond_list_error {roleCode : RoleCode} {r : ListRequest} {db : Db} {e : ServiceError}
    (h : listQuery ctx r = .error e) : respond ctx roleCode (.list r) db = .error e := by
  simp only [respond, listOrders, h]
  rfl

lemma respond_export {roleCode : RoleCode} {r : ExportRequest} {db : Db}
    {fields : List ExportField} (hfields : exportFields r.fields = .ok fields)
    (h : exportQuery ctx r = .ok query) : respond ctx roleCode (.file r) db =
      .ok (.file (orderFile ctx roleCode fields db
        (OrderReadRepository.listOrders ctx.toReadContext db query))) := by
  simp only [respond, exportOrders, hfields, h]
  rfl

lemma respond_export_error {roleCode : RoleCode} {r : ExportRequest} {db : Db} {e : ServiceError}
    (h : (do let _ ← exportFields r.fields; exportQuery ctx r) = .error e) :
    respond ctx roleCode (.file r) db = .error e := by
  cases hfields : exportFields r.fields with
  | error e' =>
    rw [hfields] at h
    cases h
    simp only [respond, exportOrders, hfields]
    rfl
  | ok fields =>
    rw [hfields] at h
    change exportQuery ctx r = .error e at h
    simp only [respond, exportOrders, hfields, h]
    rfl

end OrderQueryService

end CrossPilot
