import CrossPilot.Lib.Text
import CrossPilot.Sync.Webhook

/-!
# Reading what platforms push

Each adapter reads the shop, the order, its status and the time from a pushed body, and joins some of
the fields of the body to the id of the event. The JSON decoder, the ISO dates, the hash and Python's
texts of lists, objects and fractions are parameters.
-/

namespace CrossPilot.Webhook

/-! ### Values of Python -/

/-- A `float`. -/
inductive PyFloat
  | finite (q : ℚ) | infinite (negative : Bool) | nan
  deriving DecidableEq

/-- A value as `json.loads` gives it. -/
inductive Json
  | null
  | bool (b : Bool)
  | int (n : ℤ)
  | float (x : PyFloat)
  | str (s : String)
  | list (items : List Json)
  | dict (entries : List (String × Json))

abbrev JsonObject := List (String × Json)

/-- `payload.get(key)`. -/
def JsonObject.get (o : JsonObject) (key : String) : Json := (o.lookup key).getD .null

/-- Python's truth of a value. -/
def Json.truthy : Json → Bool
  | .null => false
  | .bool b => b
  | .int n => n ≠ 0
  | .float x => x ≠ .finite 0
  | .str s => s ≠ ""
  | .list items => !items.isEmpty
  | .dict entries => !entries.isEmpty

/-- `a or b`. -/
def Json.orElse (a b : Json) : Json := if a.truthy then a else b

/-- An instant if the `datetime` has a time zone, else what the clock shows, in microseconds. -/
inductive Datetime
  | aware (micros : ℤ) | naive (micros : ℤ)
  deriving DecidableEq

/-- Errors of `json.loads`: a text that is not JSON, or any other. -/
inductive DecodeError
  | json | other (message : String)

/-- What the adapters take from Python's libraries. `repr` gives the texts of fractions, lists and
objects. -/
structure Python where
  loads : ByteArray → Except DecodeError Json
  loadsText : String → Except DecodeError Json
  repr : Json → String
  fromisoformat : String → Option Datetime
  sha256 : ByteArray → String

/-- `str(value)`. -/
def Python.str (py : Python) : Json → String
  | .null => "None"
  | .bool b => if b then "True" else "False"
  | .int n => toString n
  | .str s => s
  | j => py.repr j

/-- `str(value or "")`. -/
def Python.textOf (py : Python) (j : Json) : String := py.str (j.orElse (.str ""))

/-- Errors of `int`. -/
inductive IntError
  | typeError | valueError | overflowError
  deriving DecidableEq

/-- `int(value)`. -/
def Json.toInt : Json → Except IntError ℤ
  | .bool b => .ok (if b then 1 else 0)
  | .int n => .ok n
  | .float (.finite q) => .ok (q.num.tdiv q.den)
  | .float (.infinite _) => .error .overflowError
  | .float .nan => .error .valueError
  | .str s => (Text.readInt s).elim (.error .valueError) .ok
  | .null | .list _ | .dict _ => .error .typeError

/-- `int(value or 0)`, and 0 for what is no number. An infinite number is not caught. -/
def Json.intOrZero (j : Json) : Except HandlingError ℤ :=
  match (j.orElse (.int 0)).toInt with
  | .ok n => .ok n
  | .error .overflowError => .error (.other "cannot convert float infinity to integer")
  | .error _ => .ok 0

/-! ### `webhook_common` -/

/-- `load_object`. -/
def loadObject (py : Python) (body : ByteArray) : Except HandlingError JsonObject :=
  match py.loads body with
  | .error .json => .error (.adapter "Webhook 不是合法 JSON" .failFast)
  | .error (.other message) => .error (.other message)
  | .ok (.dict entries) => .ok entries
  | .ok _ => .error (.adapter "Webhook 不是对象" .failFast)

/-- `nested_dict`. -/
def nestedDict (o : JsonObject) (key : String) : JsonObject :=
  match o.get key with
  | .dict entries => entries
  | _ => []

/-- `as_int`. -/
def asInt (j : Json) (default : ℤ) : ℤ :=
  match j with
  | .int n => n
  | .str s => (Text.readInt s).getD default
  | _ => default

/-- `unix_time`. The years of a `datetime` are 1 to 9999. -/
def unixTime (j : Json) : Option Datetime :=
  match j with
  | .int _ | .float _ | .str _ =>
    match j.toInt with
    | .ok n => if -62135596800 ≤ n ∧ n ≤ 253402300799 then some (.aware (n * 1000000)) else none
    | .error _ => none
  | _ => none

/-- The texts of the parts of an event id: absent and blank parts are left out. -/
def presentParts (py : Python) (parts : List Json) : List String :=
  parts.filterMap fun part => match part with
    | .null => none
    | part => if Text.strip (py.str part) = "" then none else some (Text.strip (py.str part))

/-- The parts, joined by colons. -/
def rawId (py : Python) (parts : List Json) : String := ":".intercalate (presentParts py parts)

/-- Whether the joined parts are an id as they stand. -/
def isShort (raw : String) : Bool := raw.length ≤ 180 && !raw.toList.any Text.isSpace

/-- `coalesce_id`. -/
def coalesceId (py : Python) (parts : List Json) : String :=
  let raw := rawId py parts
  if raw = "" then py.sha256 "empty".toUTF8
  else if isShort raw then raw
  else py.sha256 raw.toUTF8

/-! ### The adapters -/

/-- The four platforms. -/
inductive Platform
  | amazon | shopee | lazada | tiktok
  deriving DecidableEq

def Platform.code : Platform → String
  | .amazon => "amazon"
  | .shopee => "shopee"
  | .lazada => "lazada"
  | .tiktok => "tiktok"

/-- An event with everything an adapter reads. -/
structure PushedEvent extends WebhookEvent where
  platform : String
  eventId : String
  platformStatus : Option String := none
  occurredAt : Option Datetime := none
  deriving DecidableEq

/-- `text or None`. -/
def orNone (s : String) : Option String := if s = "" then none else some s

/-- What TikTok's event ids are made of. -/
def tiktokIdParts (py : Python) (payload : JsonObject) : List Json :=
  let data := nestedDict payload "data"
  [.str "tiktok", payload.get "tts_notification_id", .str (py.textOf (payload.get "shop_id")),
    .str (py.textOf (data.get "order_id")), .str (py.textOf (data.get "order_status"))]

/-- `TikTokAdapter.parse_webhook`. -/
def parseTiktokWebhook (py : Python) (body : ByteArray) : Except HandlingError PushedEvent := do
  let payload ← loadObject py body
  let data := nestedDict payload "data"
  let shopId := py.textOf (payload.get "shop_id")
  let orderId := py.textOf (data.get "order_id")
  let status := py.textOf (data.get "order_status")
  let eventType ← (payload.get "type").intOrZero
  return {
    platform := "tiktok"
    eventId := coalesceId py (tiktokIdParts py payload)
    kind :=
      if eventType = 1 then (if status = "UNPAID" then .orderCreated else .orderStatusChanged)
      else .ignored
    platformShopId := shopId
    platformOrderId := orNone orderId
    platformStatus := orNone status
    occurredAt := unixTime ((data.get "update_time").orElse (payload.get "timestamp")) }

/-- What Shopee's event ids are made of. -/
def shopeeIdParts (py : Python) (payload : JsonObject) : List Json :=
  let data := nestedDict payload "data"
  [.str "shopee", payload.get "msg_id", .str (py.textOf (payload.get "shop_id")),
    .str (py.textOf ((data.get "ordersn").orElse (data.get "order_sn"))),
    .str (py.textOf ((data.get "status").orElse (data.get "order_status"))),
    data.get "update_time"]

/-- `_shopee_kind`. -/
def shopeeKind (code : ℤ) (status : String) : WebhookKind :=
  if code = 8 then .inventoryChanged
  else if code = 10 then .messageCreated
  else if code ≠ 3 then .ignored
  else if status = "UNPAID" then .orderCreated
  else .orderStatusChanged

/-- `ShopeeAdapter.parse_webhook`. -/
def parseShopeeWebhook (py : Python) (body : ByteArray) : Except HandlingError PushedEvent := do
  let payload ← loadObject py body
  let data := nestedDict payload "data"
  let shopId := py.textOf (payload.get "shop_id")
  let orderSn := py.textOf ((data.get "ordersn").orElse (data.get "order_sn"))
  let status := py.textOf ((data.get "status").orElse (data.get "order_status"))
  let updated := unixTime ((data.get "update_time").orElse (payload.get "timestamp"))
  let code ← (payload.get "code").intOrZero
  return {
    platform := "shopee"
    eventId := coalesceId py (shopeeIdParts py payload)
    kind := shopeeKind code status
    platformShopId := shopId
    platformOrderId := orNone orderSn
    platformStatus := orNone status
    occurredAt := updated }

/-- What Lazada's event ids are made of. -/
def lazadaIdParts (py : Python) (payload : JsonObject) : List Json :=
  let data := nestedDict payload "data"
  [.str "lazada", .str (py.textOf (payload.get "seller_id")),
    .str (py.textOf (data.get "trade_order_id")), .str (py.textOf (data.get "order_status")),
    (data.get "status_update_time").orElse (payload.get "timestamp")]

/-- `LazadaAdapter.parse_webhook`. -/
def parseLazadaWebhook (py : Python) (body : ByteArray) : Except HandlingError PushedEvent := do
  let payload ← loadObject py body
  let data := nestedDict payload "data"
  let sellerId := py.textOf (payload.get "seller_id")
  let orderId := py.textOf (data.get "trade_order_id")
  let status := py.textOf (data.get "order_status")
  let messageType := asInt (payload.get "message_type") (-1)
  return {
    platform := "lazada"
    eventId := coalesceId py (lazadaIdParts py payload)
    kind :=
      if messageType = 0 then (if status = "unpaid" then .orderCreated else .orderStatusChanged)
      else .ignored
    platformShopId := sellerId
    platformOrderId := orNone orderId
    platformStatus := orNone status
    occurredAt := unixTime ((data.get "status_update_time").orElse (payload.get "timestamp")) }

/-- `kind in _CONFIRM_TYPES`. -/
def isConfirmType (kind : String) : Bool :=
  ["SubscriptionConfirmation", "UnsubscribeConfirmation"].contains kind

/-- `_notification_body`. -/
def notificationBody (py : Python) (payload : JsonObject) : Except HandlingError JsonObject :=
  match payload.get "Type" with
  | .str "Notification" =>
    match payload.get "Message" with
    | .str message =>
      match py.loadsText message with
      | .error .json => .error (.adapter "SNS Message 不是合法 JSON" .failFast)
      | .error (.other text) => .error (.other text)
      | .ok (.dict entries) => .ok entries
      | .ok _ => .error (.adapter "SNS Message 不是对象" .failFast)
    | _ => .error (.adapter "SNS Message 不是字符串" .failFast)
  | _ => .ok payload

/-- `_order_change`. -/
def orderChange (inner : JsonObject) : JsonObject :=
  match inner.get "Payload" with
  | .dict body => nestedDict body "OrderChangeNotification"
  | _ => []

/-- `_amazon_kind`. -/
def amazonKind (notificationType status : String) : WebhookKind :=
  if notificationType = "ORDER_CHANGE" then
    if ["Pending", "PendingAvailability"].contains status then .orderCreated
    else .orderStatusChanged
  else if ["LISTINGS_ITEM_STATUS_CHANGE", "LISTINGS_ITEM_ISSUES_CHANGE"].contains notificationType
  then .inventoryChanged
  else .ignored

/-- `_event_time`. -/
def eventTime (py : Python) (j : Json) : Option Datetime :=
  match j with
  | .str s =>
    if s = "" then none
    else py.fromisoformat (String.ofList
      (s.toList.flatMap fun c => if c = 'Z' then "+00:00".toList else [c]))
  | _ => none

/-- The status in a change of an order. -/
def summaryStatus (py : Python) (change : JsonObject) : String :=
  match change.get "Summary" with
  | .dict summary => py.textOf (JsonObject.get summary "OrderStatus")
  | _ => ""

/-- The id in the metadata of a notification. -/
def notificationId (py : Python) (inner : JsonObject) : String :=
  match inner.get "NotificationMetadata" with
  | .dict metadata => py.textOf (JsonObject.get metadata "NotificationId")
  | _ => ""

/-- What the ids of Amazon's confirmations are made of. -/
def confirmIdParts (py : Python) (payload : JsonObject) : List Json :=
  [.str "amazon", .str (py.textOf (payload.get "Type")), .str (py.textOf (payload.get "MessageId"))]

/-- What the ids of Amazon's notifications are made of. -/
def notificationIdParts (py : Python) (payload inner : JsonObject) : List Json :=
  let change := orderChange inner
  [.str "amazon", (Json.str (notificationId py inner)).orElse (payload.get "MessageId"),
    .str (py.textOf (change.get "AmazonOrderId")), .str (summaryStatus py change)]

/-- `parse_amazon_webhook`. -/
def parseAmazonWebhook (py : Python) (body : ByteArray) : Except HandlingError PushedEvent := do
  let payload ← loadObject py body
  if isConfirmType (py.textOf (payload.get "Type")) then
    return {
      platform := "amazon"
      eventId := coalesceId py (confirmIdParts py payload)
      kind := .subscriptionConfirm
      platformShopId := ""
      subscribeUrl := some (py.textOf (payload.get "SubscribeURL")) }
  else
    let inner ← notificationBody py payload
    let change := orderChange inner
    let status := summaryStatus py change
    return {
      platform := "amazon"
      eventId := coalesceId py (notificationIdParts py payload inner)
      kind := amazonKind (py.textOf (inner.get "NotificationType")) status
      platformShopId := py.textOf (change.get "SellerId")
      platformOrderId := orNone (py.textOf (change.get "AmazonOrderId"))
      platformStatus := orNone status
      occurredAt := eventTime py (inner.get "EventTime") }

/-- The adapter's `parse_webhook`. -/
def parseWebhook (py : Python) : Platform → ByteArray → Except HandlingError PushedEvent
  | .amazon => parseAmazonWebhook py
  | .shopee => parseShopeeWebhook py
  | .lazada => parseLazadaWebhook py
  | .tiktok => parseTiktokWebhook py

end CrossPilot.Webhook
