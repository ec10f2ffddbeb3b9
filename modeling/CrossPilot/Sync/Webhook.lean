import CrossPilot.Order.Upsert
import CrossPilot.Sync.Retry

/-!
# Events pushed by a platform

A worker takes an event, finds the shop it is for, gets the order from the platform and stores it.
Whatever it asks others for may fail; such answers are given (`Attempt`). An error that the worker
knows is tried again, at most as often as the settings and the queue allow, and then the event is
parked as a dead letter. Two layers translate errors of the platform for it. Errors of any other kind
end the task.
-/

namespace CrossPilot.Webhook

/-! ### One attempt -/

/-- What an event is about. -/
inductive WebhookKind
  | orderStatusChanged | orderCreated | inventoryChanged | messageCreated | subscriptionConfirm
  | ignored
  deriving DecidableEq

/-- An event as an adapter reads it. -/
structure WebhookEvent where
  kind : WebhookKind
  platformShopId : String
  platformOrderId : Option String := none
  subscribeUrl : Option String := none
  deriving DecidableEq

/-- What is raised while an event is handled: an error of the handling (`WebhookProcessError`), of a
platform (`AdapterError`), of the HTTP client, or anything else. -/
inductive HandlingError
  | process (message : String) (retryable : Bool)
  | adapter (message : String) (decision : RetryDecision)
  | http (message : String)
  | other (message : String)
  deriving DecidableEq

/-- The answers an attempt gets: from the adapter that reads the body, the test of a subscription
address and the call to it, the search for shops that are in use and bound to the platform's shop,
the shop and its credential, the platform (with the decryption of the credential), and the storing of
the order. -/
structure Attempt where
  parseWebhook : Except HandlingError WebhookEvent
  hostAllowed : String → Except HandlingError Bool
  useFixtureTransport : Bool
  callSubscription : String → Except HandlingError ℕ
  listActiveIdentities : String → Except HandlingError (List (ℕ × ℕ))
  getShop : ℕ → Except HandlingError Shop
  hasCredential : ℕ → Except HandlingError Bool
  fetchOrder : Shop → String → Except HandlingError (Option UnifiedOrder)
  ingestOrder : Shop → UnifiedOrder → Except HandlingError WriteAction

/-- What `apply` reports: what was written, or that no shop, or not only one, is bound. -/
inductive Applied
  | written (action : WriteAction)
  | shopNotFound
  deriving DecidableEq

/-- What the handling of an event reports. -/
inductive Outcome
  | ignored (kind : WebhookKind)
  | deferred (kind : WebhookKind) (milestone : String)
  | subscribeUrlIgnored
  | subscribeSkipped
  | confirmed
  | applied (kind : WebhookKind) (result : Applied)
  deriving DecidableEq

/-- `_ingest`. -/
def ingest (a : Attempt) (shopId : ℕ) (platformOrderId : String) :
    Except HandlingError WriteAction := do
  let shop ← a.getShop shopId
  if !(← a.hasCredential shop.id) then throw (.process "店铺凭证不存在" false)
  else
    match a.fetchOrder shop platformOrderId with
    | .error (.adapter message decision) => throw (.process message (decision ≠ .failFast))
    | .error e => throw e
    | .ok none => throw (.process "平台没有返回这笔订单" false)
    | .ok (some order) => a.ingestOrder shop order

/-- `LiveOrderSink.apply`, with `_locate_shop`. -/
def applyOrder (a : Attempt) (platformShopId platformOrderId : String) :
    Except HandlingError Applied := do
  match ← a.listActiveIdentities platformShopId with
  | [(_, shopId)] => return .written (← ingest a shopId platformOrderId)
  | _ => return .shopNotFound

def confirmSubscription (a : Attempt) (subscribeUrl : String) : Except HandlingError Outcome := do
  if !(← a.hostAllowed subscribeUrl) then return .subscribeUrlIgnored
  else if a.useFixtureTransport then return .subscribeSkipped
  else
    match a.callSubscription subscribeUrl with
    | .error (.http _) => throw (.process "订阅确认失败" true)
    | .error e => throw e
    | .ok status => if 400 ≤ status then throw (.process "订阅确认失败" true) else return .confirmed

/-- `WebhookDispatcher.handle`. -/
def handle (a : Attempt) : Except HandlingError Outcome := do
  let event ← a.parseWebhook
  match event.kind with
  | .ignored => return .ignored event.kind
  | .subscriptionConfirm => confirmSubscription a (event.subscribeUrl.getD "")
  | .inventoryChanged => return .deferred event.kind "M3"
  | .messageCreated => return .deferred event.kind "M5"
  | .orderCreated | .orderStatusChanged =>
    let platformOrderId := event.platformOrderId.getD ""
    if event.platformShopId = "" ∨ platformOrderId = "" then
      throw (.process "订单事件缺少店铺或订单号" false)
    else return .applied event.kind (← applyOrder a event.platformShopId platformOrderId)

def dispatchWebhookBody (a : Attempt) : Except HandlingError Outcome :=
  match handle a with
  | .error (.adapter message decision) => .error (.process message (decision = .retry))
  | r => r

/-! ### The task -/

/-- The arguments of the task. -/
structure Message where
  platform : String
  body : String
  eventId : String
  kind : String
  deriving DecidableEq

def deadLetterForTask (m : Message) (error : String) : DeadLetter where
  taskName := "sync.webhook_event"
  tenantId := 0
  kwargs := [("platform", m.platform), ("body", m.body), ("event_id", m.eventId), ("kind", m.kind)]
  error := error

/-- How the task function ends: it returns, or reports a failure, or it raises, or asks to be run
again. -/
inductive TaskEnd
  | returned (outcome : Outcome)
  | failed (error : String)
  | raised (error : HandlingError)
  | retried (countdown : ℚ)
  deriving DecidableEq

/-- The settings a worker runs with: those of the retries, and how often Celery runs a task again. -/
structure Worker where
  policy : SyncPolicy
  uniform : ℚ → ℚ → ℚ
  maxRetries : ℕ

/-- `_park_webhook`. -/
def parkWebhook (m : Message) (error : String) (queue : List DeadLetter) : List DeadLetter :=
  queue ++ [deadLetterForTask m error]

/-- `_retry_webhook`. `task.retry` raises `MaxRetriesExceededError` after the last retry. -/
def retryWebhook (w : Worker) (m : Message) (error : String) (retries : ℕ)
    (queue : List DeadLetter) : TaskEnd × List DeadLetter :=
  let plan := planRetry w.policy w.uniform .retry retries false
  if plan.action ≠ .retry then (.failed error, parkWebhook m error queue)
  else if w.maxRetries < retries + 1 then (.failed error, parkWebhook m error queue)
  else (.retried plan.delaySeconds, queue)

def webhookEvent (w : Worker) (m : Message) (a : Attempt) (retries : ℕ) (queue : List DeadLetter) :
    TaskEnd × List DeadLetter :=
  match dispatchWebhookBody a with
  | .ok outcome => (.returned outcome, queue)
  | .error (.process error retryable) =>
    if retryable then retryWebhook w m error retries queue
    else (.failed error, parkWebhook m error queue)
  | .error e => (.raised e, queue)

/-- Celery: the task is run again if it asks for it. There is no answer if the fuel does not do. -/
def runTask (w : Worker) (m : Message) (attempts : ℕ → Attempt) :
    ℕ → ℕ → List DeadLetter → Option (TaskEnd × List DeadLetter)
  | 0, _, _ => none
  | fuel + 1, retries, queue =>
    match webhookEvent w m (attempts retries) retries queue with
    | (.retried _, queue) => runTask w m attempts fuel (retries + 1) queue
    | r => some r

end CrossPilot.Webhook
