import CrossPilot.Inventory.Holds
import CrossPilot.Order.Upsert

/-!
# Ingesting an order snapshot

`ingestOrder` stores a snapshot and draws the consequences: an applied change of status is logged,
the review of the order is brought up to date, and stock is reserved, shipped or released. Polling,
webhooks and manual syncs all go through it. `ingestPage` is the loop of a polling task over one
page, in one transaction: an order that fails is passed over.
-/

namespace CrossPilot

open Transaction

/-! ### Review -/

/-- An order above the amount of an enabled rule for its currency needs a review. -/
def amountNeedsReview (total : ℚ) (currency : String) (rules : List OrderReviewRule) : Bool :=
  let code := Text.upper (Text.strip currency)
  rules.any fun rule => rule.enabled && Text.upper rule.currency == code && rule.amountGt < total

/-- What an operator has decided is not overwritten. -/
def nextReviewStatus (current : ReviewStatus) (total : ℚ) (currency : String)
    (rules : List OrderReviewRule) : ReviewStatus :=
  if current ∈ [.approved, .rejected] then current
  else if amountNeedsReview total currency rules then .pending
  else .autoPassed

def applyReview (order : SalesOrder) : Work Unit := do
  let rules ← .select (·.reviewRules)
  let reviewStatus := nextReviewStatus order.reviewStatus order.totalAmount order.currency rules
  saveOrder order { order with reviewStatus }

/-! ### The log and the stock -/

/-- Add a line to the status log. -/
def appendLog (orderId : ℕ) (fromStatus : Option UnifiedStatus) (toStatus : UnifiedStatus)
    (platformStatus : String) (operatorId : Option ℕ) (source : StatusChangeSource)
    (remark : Option String) : Work Unit := do
  let id ← nextSnowflakeId
  let line : OrderStatusLog := ⟨id, orderId, fromStatus, toStatus,
    Text.truncate 64 platformStatus, operatorId, source, remark⟩
  .insert fun d => { d with statusLogs := d.statusLogs ++ [line] }

def unmappedRemark : String := "平台状态尚未配置映射"

/-- Log a decision that was applied. -/
def logDecision (row : SalesOrder) (order : UnifiedOrder) (source : StatusChangeSource)
    (operatorId : Option ℕ) (decision : StatusDecision) : Work Unit :=
  appendLog row.id decision.fromStatus decision.toStatus order.platformStatus operatorId source
    (if decision.unmapped then some unmappedRemark else none)

/-- `_sync_inventory`: stock is reserved on payment, and released on a cancellation before
shipping. -/
def syncInventory (orderId : ℕ) (decision : StatusDecision) : Work Unit := do
  let toStatus := decision.toStatus
  let fromStatus := decision.fromStatus
  if toStatus = .cancelled ∧ fromStatus ∈ [none, some .pending, some .paid] then
    releaseOrder orderId
  else if toStatus = .paid ∧ fromStatus ∈ UnifiedStatus.unpaid then
    reserveOrder orderId
  else if toStatus ∈ UnifiedStatus.outbound ∧ fromStatus ∈ UnifiedStatus.unpaid then
    reserveOrder orderId
    shipOrder orderId
  else if toStatus ∈ UnifiedStatus.outbound ∧ fromStatus = some .paid then
    shipOrder orderId
  else return ()

/-! ### Snapshots -/

/-- The settings an order is ingested with: what the SKU column of its items holds, how the
platform's wording is mapped, and on whose behalf it happens. -/
structure Intake where
  column : SkuColumn := noSku
  table : List (String × String)
  shop : Shop
  source : StatusChangeSource := .system
  operatorId : Option ℕ := none

/-- The decision on a snapshot, by the status of the order. -/
def Intake.resolve (intake : Intake) (order : UnifiedOrder) (current : Option UnifiedStatus) :
    StatusDecision :=
  decideStatus current (resolveTarget order.platformStatus intake.table) intake.source

/-- What follows when a snapshot has been stored. -/
def afterUpsert (intake : Intake) (order : UnifiedOrder) (row : SalesOrder)
    (decision : Option StatusDecision) : Work Unit := do
  match decision.filter fun decision => decision.kind = .apply with
  | some decision =>
    logDecision row order intake.source intake.operatorId decision
    applyReview row
    syncInventory row.id decision
  | none => applyReview row

/-- The consequences of an upsert. A second query finds the row that the session already has. -/
def afterWrite (intake : Intake) (order : UnifiedOrder) (key : String) :
    Upserted → Work (WriteAction × Option StatusDecision)
  | (.skip, decision, _) => return (.skip, decision)
  | (action, decision, held) => do
    match ← getByKey key, held with
    | some _, some row =>
      afterUpsert intake order row decision
      return (action, decision)
    | _, _ => return (action, decision)

def ingestOrder (intake : Intake) (order : UnifiedOrder) :
    Work (WriteAction × Option StatusDecision) := do
  let key ← orderKey intake.shop order
  let result ← upsert intake.column intake.shop order (intake.resolve order)
  afterWrite intake order key result

/-- After an error of the database nothing of the transaction can be committed; any other exception
is logged and the page goes on. -/
def passOver (e : ServiceError) : Work Unit := if e.isDatabase then raise e else return ()

/-- One order of a page. -/
def ingestOne (intake : Intake) (order : UnifiedOrder) : Work Unit := do
  let _ ← orderKey intake.shop order
  .attempt (do let _ ← ingestOrder intake order) passOver

/-- `_ingest`. -/
def ingestPage (intake : Intake) (orders : List UnifiedOrder) : Work Unit :=
  .forEach orders (ingestOne intake)

end CrossPilot
