import CrossPilot.Lib.Numerals
import CrossPilot.Order.Status
import CrossPilot.Sync.Pushed

/-!
# Reading the orders of a platform

Each adapter turns a JSON object of its platform into a `UnifiedOrder`. Fields are read one after
another, and the first that cannot be read ends the reading: with an `AdapterError` if it is an
amount, with an exception of Python's otherwise.

The texts of fractions, lists and objects, ISO dates and `str.upper` are parameters.
-/

namespace CrossPilot.Adapters

open Webhook Decimals

/-! ### Values of Python -/

/-- What the parsers take from Python's libraries. -/
structure Library extends Python where
  upper : String → String

/-- The exceptions that the readings raise by themselves. -/
inductive Exception
  | keyError (key : String)
  | typeError
  | valueError
  | attributeError
  | overflowError
  | osError
  deriving DecidableEq

/-- How a reading fails. -/
inductive Failure
  | adapter (message : String) (platform : Platform) (decision : RetryDecision)
  | raised (e : Exception)
  deriving DecidableEq

/-- `payload.get(key, default)`. -/
def getOr (o : JsonObject) (key : String) (default : Json) : Json := (o.lookup key).getD default

/-- `payload[key]`. -/
def subscript (o : JsonObject) (key : String) : Except Failure Json :=
  match o.lookup key with
  | some value => .ok value
  | none => .error (.raised (.keyError key))

/-- A value whose method `get` is called. -/
def asObject : Json → Except Failure JsonObject
  | .dict entries => .ok entries
  | _ => .error (.raised .attributeError)

/-- What a loop over a value goes through. -/
def iterate : Json → Except Failure (List Json)
  | .list items => .ok items
  | .dict entries => .ok (entries.map fun entry => .str entry.1)
  | .str s => .ok (s.toList.map fun c => .str (String.singleton c))
  | _ => .error (.raised .typeError)

/-- `int(value)`. -/
def toInteger (value : Json) : Except Failure ℤ :=
  match value.toInt with
  | .ok n => .ok n
  | .error .typeError => .error (.raised .typeError)
  | .error .valueError => .error (.raised .valueError)
  | .error .overflowError => .error (.raised .overflowError)

/-- `value[0]` of a value that is not empty. -/
def first : Json → Except Failure Json
  | .list (item :: _) => .ok item
  | .str s => .ok (.str (Text.truncate 1 s))
  | .dict _ => .error (.raised (.keyError "0"))
  | _ => .error (.raised .typeError)

/-! ### `oauth_parse` -/

/-- `_dec`. -/
def dec (py : Library) (value : Json) : Option Numeral := Numeral.ofText (py.str value)

def requireMoney (py : Library) (platform : Platform) (value : Json) : Except Failure Numeral :=
  match dec py value with
  | some amount => .ok amount
  | none => .error (.adapter "订单金额无法解析" platform .failFast)

/-- What `_dt_from_iso` reads. -/
def isoTime (py : Library) (value : String) : Option Datetime :=
  py.fromisoformat (Text.replace "Z" "+00:00" value)

/-- `_dt_from_iso`. -/
def dtFromIso (py : Library) (value : String) : Except Failure Datetime :=
  match isoTime py value with
  | some t => .ok t
  | none => .error (.raised .valueError)

/-- `_dt_from_unix`: the seconds have to be a `time_t`, their year an `int`, and the year one of a
`datetime`. -/
def dtFromUnix (n : ℤ) : Except Failure Datetime :=
  if n < -2 ^ 63 ∨ 2 ^ 63 ≤ n then .error (.raised .overflowError)
  else if n < -67768040609740800 ∨ 67768036191676799 < n then .error (.raised .osError)
  else if n < -62135596800 ∨ 253402300799 < n then .error (.raised .valueError)
  else .ok (.aware (n * 1000000))

/-- `_dict`. -/
def dictOf : Json → JsonObject
  | .dict entries => entries
  | _ => []

/-- `_opt_str`. -/
def optStr (py : Library) : Json → Option String
  | .null => none
  | value => Webhook.orNone (Text.strip (py.str value))

/-- `str(value or default)`. -/
def textOr (py : Library) (value : Json) (default : String) : String :=
  py.str (value.orElse (.str default))

structure UnifiedOrderItem where
  platformSkuId : String
  platformProductId : String
  quantity : ℤ
  unitPrice : Numeral
  itemName : String
  deriving DecidableEq

structure UnifiedFee where
  feeType : String
  amount : Numeral
  currency : String
  source : String := "platform"
  deriving DecidableEq

/-- An order as an adapter reads it. What is read as an amount need not be a finite number. -/
structure UnifiedOrder where
  platform : Platform
  shopId : String
  platformOrderId : String
  platformStatus : String
  unifiedStatus : String
  buyerName : Option String
  buyerCountry : Option String
  currency : String
  totalAmount : Numeral
  items : List UnifiedOrderItem
  paidAt : Option Datetime
  updatedAt : Datetime
  raw : JsonObject
  buyerPhone : Option String
  shipState : Option String
  shipCity : Option String
  shipLine1 : Option String
  shipPostal : Option String
  fees : List UnifiedFee

/-- The kind of a fee and its amount, if a row has both. -/
def feeOf (py : Library) (row : JsonObject) : Option (String × Json) :=
  match optStr py (((row.get "fee_type").orElse (row.get "FeeType")).orElse (row.get "type")),
    getOr row "amount" (row.get "Amount") with
  | some _, .null => none
  | some feeType, amount => some (feeType, amount)
  | none, _ => none

/-- A row of fees. Rows without a kind or an amount are passed over. -/
def readFee (py : Library) (platform : Platform) (currency : String) (row : JsonObject) :
    Except Failure (Option UnifiedFee) :=
  match feeOf py row with
  | none => .ok none
  | some (feeType, amount) => do
    let feeCurrency :=
      (optStr py ((row.get "currency").orElse (row.get "CurrencyCode"))).getD currency
    let amount ← requireMoney py platform amount
    return some {
      feeType := Text.truncate 32 (py.upper feeType)
      amount
      currency := Text.truncate 3 feeCurrency }

/-- The objects among some values. -/
def objects (rows : List Json) : List JsonObject :=
  rows.filterMap fun row => match row with
    | .dict entries => some entries
    | _ => none

/-- The rows of a list, and none of anything else. -/
def listOf : Json → List Json
  | .list rows => rows
  | _ => []

/-- `_fees`. -/
def readFees (py : Library) (platform : Platform) (currency : String) (rows : Json) :
    Except Failure (List UnifiedFee) := do
  let fees ← (objects (listOf rows)).mapM (readFee py platform currency)
  return fees.reduceOption

/-- The fields of an item, by platform. -/
structure ItemKeys where
  sku : String
  product : String
  quantity : String
  name : String

/-- An item, once its price has been found. -/
def readItem (py : Library) (platform : Platform) (keys : ItemKeys) (row : JsonObject)
    (price : Json) : Except Failure UnifiedOrderItem := do
  let quantity ← toInteger ((row.get keys.quantity).orElse (.int 0))
  let unitPrice ← requireMoney py platform price
  return {
    platformSkuId := py.textOf (row.get keys.sku)
    platformProductId := py.textOf (row.get keys.product)
    quantity
    unitPrice
    itemName := py.textOf (row.get keys.name) }

/-- The items of an order whose price is a field of the item. -/
def readItems (py : Library) (platform : Platform) (keys : ItemKeys) (priceKey : String)
    (items : Json) : Except Failure (List UnifiedOrderItem) := do
  let rows ← iterate (items.orElse (.list []))
  rows.mapM fun row => do
    let row ← asObject row
    readItem py platform keys row (row.get priceKey)

def amazonKeys : ItemKeys where
  sku := "SellerSKU"
  product := "ASIN"
  quantity := "QuantityOrdered"
  name := "Title"

def shopeeKeys : ItemKeys where
  sku := "model_id"
  product := "item_id"
  quantity := "model_quantity_purchased"
  name := "item_name"

def lazadaKeys : ItemKeys where
  sku := "sku"
  product := "product_id"
  quantity := "quantity"
  name := "name"

def tiktokKeys : ItemKeys where
  sku := "sku_id"
  product := "product_id"
  quantity := "quantity"
  name := "product_name"

def amazonItem (py : Library) (row : Json) : Except Failure UnifiedOrderItem := do
  let row ← asObject row
  let itemPrice ← asObject ((row.get "ItemPrice").orElse (.dict []))
  readItem py .amazon amazonKeys row (getOr itemPrice "Amount" (.str "0"))

/-- A time that an order has if a field is set. -/
def readPaidAt (read : Json → Except Failure Datetime) (value : Json) :
    Except Failure (Option Datetime) :=
  if value.truthy then some <$> read value else .ok none

/-- When an Amazon order was changed, or else bought. -/
def amazonUpdated (raw : JsonObject) : Except Failure Json :=
  if (raw.get "LastUpdateDate").truthy then .ok (raw.get "LastUpdateDate")
  else subscript raw "PurchaseDate"

def amazonOrder (py : Library) (shopId unifiedStatus : String) (raw : JsonObject) :
    Except Failure UnifiedOrder := do
  let total := (raw.get "OrderTotal").orElse (.dict [])
  let rows ← iterate ((raw.get "OrderItems").orElse (.list []))
  let items ← rows.mapM (amazonItem py)
  let buyer := dictOf (raw.get "BuyerInfo")
  let address := dictOf (raw.get "ShippingAddress")
  let total ← asObject total
  let currency := textOr py (total.get "CurrencyCode") "USD"
  let orderId ← subscript raw "AmazonOrderId"
  let totalAmount ← requireMoney py .amazon (total.get "Amount")
  let paidAt ← readPaidAt (fun value => dtFromIso py (py.str value)) (raw.get "PurchaseDate")
  let updated ← amazonUpdated raw
  let updatedAt ← dtFromIso py (py.str updated)
  let fees ← readFees py .amazon currency (raw.get "OrderFees")
  return {
    platform := .amazon
    shopId
    platformOrderId := py.str orderId
    platformStatus := py.textOf (raw.get "OrderStatus")
    unifiedStatus
    buyerName := optStr py (buyer.get "BuyerName")
    buyerCountry := optStr py (address.get "CountryCode")
    currency
    totalAmount
    items
    paidAt
    updatedAt
    raw
    buyerPhone := optStr py (buyer.get "BuyerPhone")
    shipState := optStr py (address.get "StateOrRegion")
    shipCity := optStr py (address.get "City")
    shipLine1 := optStr py (address.get "AddressLine1")
    shipPostal := optStr py (address.get "PostalCode")
    fees }

/-- A time in seconds. -/
def readUnix (value : Json) : Except Failure Datetime := do
  let n ← toInteger value
  dtFromUnix n

def shopeeOrder (py : Library) (shopId unifiedStatus : String) (raw : JsonObject) :
    Except Failure UnifiedOrder := do
  let items ← readItems py .shopee shopeeKeys "model_discounted_price" (raw.get "item_list")
  let address := dictOf (raw.get "recipient_address")
  let currency := textOr py (raw.get "currency") "SGD"
  let orderId ← subscript raw "order_sn"
  let totalAmount ← requireMoney py .shopee (raw.get "total_amount")
  let paidAt ← readPaidAt readUnix (raw.get "pay_time")
  let updatedAt ← readUnix (((raw.get "update_time").orElse (raw.get "pay_time")).orElse (.int 0))
  let fees ← readFees py .shopee currency (raw.get "fee_list")
  return {
    platform := .shopee
    shopId
    platformOrderId := py.str orderId
    platformStatus := py.textOf (raw.get "order_status")
    unifiedStatus
    buyerName := optStr py (raw.get "buyer_username")
    buyerCountry := optStr py ((raw.get "region").orElse (address.get "region"))
    currency
    totalAmount
    items
    paidAt
    updatedAt
    raw
    buyerPhone := optStr py ((raw.get "buyer_phone").orElse (address.get "phone"))
    shipState := optStr py (address.get "state")
    shipCity := optStr py (address.get "city")
    shipLine1 := optStr py (address.get "full_address")
    shipPostal := optStr py (address.get "zipcode")
    fees }

/-- The first of the statuses of a Lazada order, which is the status of the order. -/
def lazadaStatus (raw : JsonObject) : Except Failure Json :=
  let statuses := (raw.get "statuses").orElse (.list [])
  if statuses.truthy then first statuses else .ok (.str "")

/-- A date as Lazada writes it, in the format of ISO 8601. -/
@[irreducible]
def lazadaDate (py : Library) (value : Json) : String :=
  Text.replace " " "T" (Text.replace " +0000" "+00:00" (py.textOf value))

/-- When a Lazada order was changed. Without a date, the clock is read. -/
def lazadaUpdatedAt (py : Library) (now : Instant) (updated : String) : Except Failure Datetime :=
  if updated ≠ "" then dtFromIso py updated else .ok (.aware now)

def lazadaOrder (py : Library) (now : Instant) (shopId unifiedStatus : String)
    (raw : JsonObject) : Except Failure UnifiedOrder := do
  let status ← lazadaStatus raw
  let items ← readItems py .lazada lazadaKeys "item_price" (raw.get "items")
  let created := lazadaDate py (raw.get "created_at")
  let updated := lazadaDate py ((raw.get "updated_at").orElse (raw.get "created_at"))
  let address := dictOf (raw.get "address_shipping")
  let currency := textOr py (raw.get "currency") "SGD"
  let orderId ← subscript raw "order_id"
  let totalAmount ← requireMoney py .lazada (raw.get "price")
  let paidAt ← readPaidAt (fun _ => dtFromIso py created) (.str created)
  let updatedAt ← lazadaUpdatedAt py now updated
  let fees ← readFees py .lazada currency (raw.get "fee_list")
  return {
    platform := .lazada
    shopId
    platformOrderId := py.str orderId
    platformStatus := py.str status
    unifiedStatus
    buyerName := optStr py (raw.get "customer_first_name")
    buyerCountry := optStr py (address.get "country")
    currency
    totalAmount
    items
    paidAt
    updatedAt
    raw
    buyerPhone := optStr py (address.get "phone")
    shipState := optStr py (address.get "address3")
    shipCity := optStr py (address.get "city")
    shipLine1 := optStr py (address.get "address1")
    shipPostal := optStr py (address.get "post_code")
    fees }

def tiktokOrder (py : Library) (shopId unifiedStatus : String) (raw : JsonObject) :
    Except Failure UnifiedOrder := do
  let payment := (raw.get "payment").orElse (.dict [])
  let items ← readItems py .tiktok tiktokKeys "sale_price" (raw.get "line_items")
  let address := dictOf (raw.get "recipient_address")
  let payment ← asObject payment
  let currency := textOr py (payment.get "currency") "USD"
  let orderId ← subscript raw "id"
  let totalAmount ← requireMoney py .tiktok (payment.get "total_amount")
  let paidAt ← readPaidAt readUnix (raw.get "paid_time")
  let updatedAt ← readUnix (((raw.get "update_time").orElse (raw.get "paid_time")).orElse (.int 0))
  let fees ← readFees py .tiktok currency ((payment.get "fee_list").orElse (raw.get "fee_list"))
  return {
    platform := .tiktok
    shopId
    platformOrderId := py.str orderId
    platformStatus := py.textOf (raw.get "status")
    unifiedStatus
    buyerName := optStr py (raw.get "buyer_nickname")
    buyerCountry := optStr py (address.get "region_code")
    currency
    totalAmount
    items
    paidAt
    updatedAt
    raw
    buyerPhone := optStr py (address.get "phone_number")
    shipState := optStr py (address.get "state")
    shipCity := optStr py (address.get "city")
    shipLine1 := optStr py ((address.get "address_line1").orElse (address.get "full_address"))
    shipPostal := optStr py (address.get "postal_code")
    fees }

end CrossPilot.Adapters
