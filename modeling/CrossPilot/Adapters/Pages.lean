import CrossPilot.Adapters.OauthParse

/-!
# The orders an adapter fetches

The body of an answer is a page of orders, or a single order. `fetchOrders` reads all of it;
`fetchOrder` does too, and then looks for the order that was asked for. The request before that is left
out.
-/

namespace CrossPilot.Adapters

open Webhook

/-- `status_mapping`. -/
def statusMapping : Platform → List (String × String)
  | .amazon =>
    [("Pending", "PENDING"), ("PendingAvailability", "PENDING"), ("Unshipped", "PAID"),
      ("InvoiceUnconfirmed", "PAID"), ("PartiallyShipped", "SHIPPED"), ("Shipped", "SHIPPED"),
      ("Canceled", "CANCELLED"), ("Unfulfillable", "CANCELLED")]
  | .shopee =>
    [("UNPAID", "PENDING"), ("READY_TO_SHIP", "PAID"), ("PROCESSED", "PAID"),
      ("RETRY_SHIP", "PAID"), ("SHIPPED", "SHIPPED"), ("TO_CONFIRM_RECEIVE", "SHIPPED"),
      ("IN_CANCEL", "REFUNDING"), ("CANCELLED", "CANCELLED"), ("TO_RETURN", "RETURNED"),
      ("COMPLETED", "COMPLETED")]
  | .lazada =>
    [("unpaid", "PENDING"), ("pending", "PAID"), ("packed", "PAID"), ("repacked", "PAID"),
      ("ready_to_ship", "PAID"), ("shipped", "SHIPPED"), ("delivered", "DELIVERED"),
      ("confirmed", "COMPLETED"), ("canceled", "CANCELLED"), ("returned", "RETURNED"),
      ("failed", "CANCELLED"), ("shipped_back", "RETURNED"), ("shipped_back_success", "RETURNED")]
  | .tiktok =>
    [("UNPAID", "PENDING"), ("ON_HOLD", "PENDING"), ("AWAITING_SHIPMENT", "PAID"),
      ("AWAITING_COLLECTION", "PAID"), ("IN_TRANSIT", "SHIPPED"), ("DELIVERED", "DELIVERED"),
      ("COMPLETED", "COMPLETED"), ("CANCELLED", "CANCELLED")]

/-- `unified_status`. -/
def unifiedStatus (platform : Platform) (platformStatus : String) : String :=
  ((resolveTarget platformStatus (statusMapping platform)).map UnifiedStatus.value).getD ""

structure PageResult where
  items : List UnifiedOrder
  nextCursor : Option String := none

/-- Where an adapter finds the orders of a page and the next cursor. -/
structure PageKeys where
  body : String
  rows : String
  token : String

/-- The object that holds the rows, if there is one, else the answer itself. -/
def payloadOf (keys : PageKeys) (raw : JsonObject) : JsonObject :=
  match raw.get keys.body with
  | .dict body => body
  | _ => raw

/-- The orders in an answer: the rows of a page, or a single order. -/
def rowsOf (keys : PageKeys) (single : JsonObject) (raw : JsonObject) : List JsonObject :=
  match (payloadOf keys raw).get keys.rows with
  | .list rows => objects rows
  | _ => [single]

/-- `str(token) if token else None`, on a page. -/
def cursorOf (py : Library) (keys : PageKeys) (raw : JsonObject) : Option String :=
  let body := payloadOf keys raw
  match body.get keys.rows with
  | .list _ => if (body.get keys.token).truthy then some (py.str (body.get keys.token)) else none
  | _ => none

/-- An answer, with a single order where it holds no rows. -/
def readPage (py : Library) (keys : PageKeys) (read : JsonObject → Except Failure UnifiedOrder)
    (single raw : JsonObject) : Except Failure PageResult := do
  let items ← (rowsOf keys single raw).mapM read
  return { items, nextCursor := cursorOf py keys raw }

/-- The status of a Lazada order, for the mapping: anything but a list has none. -/
def lazadaFirstStatus (py : Library) (row : JsonObject) : String :=
  match (row.get "statuses").orElse (.list []) with
  | .list (status :: _) => py.str status
  | _ => ""

def amazonPage (py : Library) (shopId : String) (raw : JsonObject) : Except Failure PageResult :=
  readPage py { body := "payload", rows := "Orders", token := "NextToken" }
    (fun row =>
      amazonOrder py shopId (unifiedStatus .amazon (py.textOf (row.get "OrderStatus"))) row)
    raw raw

def shopeePage (py : Library) (shopId : String) (raw : JsonObject) : Except Failure PageResult :=
  readPage py { body := "response", rows := "order_list", token := "next_cursor" }
    (fun row =>
      shopeeOrder py shopId (unifiedStatus .shopee (py.textOf (row.get "order_status"))) row)
    raw raw

def lazadaPage (py : Library) (now : Instant) (shopId : String) (raw : JsonObject) :
    Except Failure PageResult :=
  readPage py { body := "data", rows := "orders", token := "next_cursor" }
    (fun row => lazadaOrder py now shopId (unifiedStatus .lazada (lazadaFirstStatus py row)) row)
    raw raw

/-- A single order may be wrapped as a page is (`_payload`). -/
def tiktokPage (py : Library) (shopId : String) (raw : JsonObject) : Except Failure PageResult :=
  let keys : PageKeys := { body := "data", rows := "orders", token := "next_page_token" }
  readPage py keys
    (fun row => tiktokOrder py shopId (unifiedStatus .tiktok (py.textOf (row.get "status"))) row)
    (payloadOf keys raw) raw

/-- `fetch_orders`, after the request. -/
def fetchOrders (py : Library) (now : Instant) (shopId : String) (platform : Platform)
    (raw : JsonObject) : Except Failure PageResult :=
  match platform with
  | .amazon => amazonPage py shopId raw
  | .shopee => shopeePage py shopId raw
  | .lazada => lazadaPage py now shopId raw
  | .tiktok => tiktokPage py shopId raw

def matchingOrder (page : PageResult) (platformOrderId : String) : Option UnifiedOrder :=
  page.items.find? fun item => item.platformOrderId = platformOrderId

/-- `fetch_order`, after the request. -/
def fetchOrder (py : Library) (now : Instant) (shopId : String) (platform : Platform)
    (platformOrderId : String) (raw : JsonObject) : Except Failure (Option UnifiedOrder) := do
  let page ← fetchOrders py now shopId platform raw
  return matchingOrder page platformOrderId

end CrossPilot.Adapters
