import CrossPilot.Order.Desk

/-!
# Shipping by hand

`batchShip` ships orders that an operator has picked, each behind a savepoint of its own: the
shipment is pushed to the platform, the order is moved to `shipped`, and its stock leaves the
warehouse. If any of it fails, it is undone, and the reason is kept for the next attempt. The
platform's answer is a parameter.
-/

namespace CrossPilot

open Transaction Table

/-- What shipping an order goes by. -/
structure ShipTarget where
  orderId : ℕ
  platformOrderId : String
  unifiedStatus : UnifiedStatus
  attempt : ℕ
  shopId : ℕ
  platformCode : String
  platformStatus : String
  reviewStatus : ReviewStatus
  deriving DecidableEq

/-- What has become of one order of a batch. -/
structure ShipLine where
  orderId : ℕ
  platformOrderId : String
  ok : Bool
  trackingNo : Option String
  message : String
  deriving DecidableEq

/-- What the platform says to a carrier and a tracking number. -/
abbrev TrackingPusher := ShipTarget → String → String → Except ServiceError Unit

/-- Who ships, when and with whom. -/
structure Dispatch where
  push : TrackingPusher
  carrier : String
  operatorId : ℕ
  now : Instant

/-- Why an order may not be shipped, by its status. -/
def refuseShip (unifiedStatus : UnifiedStatus) : Option String :=
  if (decideStatus (some unifiedStatus) (some .shipped) .manual).kind = .apply then none
  else some "当前状态不能发货"

def orderTrackingPrefix : String := "CP"

def makeTrackingNo (orderId attempt : ℕ) : String :=
  Text.truncate 64 (orderTrackingPrefix ++ toString orderId ++ "A" ++ toString attempt)

/-- `_public_reason`. -/
def publicReason (e : ServiceError) : String :=
  let shown (message : String) :=
    let text := Text.strip message
    Text.truncate 200 (if text = "" then "发货回传失败" else text)
  match e with
  | .app _ message => shown message
  | .adapter message => shown message
  | _ => "发货回传失败"

def getShipment (orderId : ℕ) : Work (Option Shipment) :=
  .select fun d => d.shipments.find? fun r => r.orderId = orderId

/-- `load`. -/
def loadTarget (orderId : ℕ) : Work (Option (ShipTarget × SalesOrder)) := do
  match ← getOrder orderId with
  | none => return none
  | some order =>
    let shipment ← getShipment order.id
    return some (⟨order.id, order.platformOrderId, order.unifiedStatus,
      shipment.elim 0 (·.attempt), order.shopId, order.platformCode, order.platformStatus,
      order.reviewStatus⟩, order)

/-- `save`: one row for each order, overwritten by the next attempt. -/
def saveShipment (row : Shipment) : Work Unit := do
  let cut : Shipment := { row with
    carrier := Text.truncate 64 row.carrier
    trackingNo := Text.truncate 64 row.trackingNo
    failureReason := row.failureReason.map (Text.truncate 500) }
  match ← getShipment row.orderId with
  | none =>
    let id ← nextSnowflakeId
    let new : Shipment := { cut with id }
    let violated ← .update (fun _ => [.shipment row.orderId])
      (fun _ d => if d.shipments.any (·.orderId = row.orderId) then d
        else { d with shipments := d.shipments ++ [new] })
      fun _ d => d.shipments.any (·.orderId = row.orderId)
    if violated then raise (.integrity "uq_shipment_tenant_id_order_id") else return ()
  | some old =>
    let overwritten (r : Shipment) : Shipment := { cut with id := r.id, orderId := r.orderId }
    .update (fun _ => [.shipment row.orderId])
      (fun _ d => { d with shipments := alter Shipment.id old.id overwritten d.shipments })
      fun _ _ => ()

/-- `commit_success`. A second query finds the row that the session already has. -/
def commitSuccess (dispatch : Dispatch) (target : ShipTarget) (held : SalesOrder)
    (trackingNo : String) (attempt : ℕ) : Work Unit := do
  match ← getOrder target.orderId with
  | none => raise .orderNotFound
  | some _ =>
    let shipped := { held with unifiedStatus := .shipped, shippedAt := some dispatch.now }
    saveOrder held shipped
    appendLog held.id (some held.unifiedStatus) .shipped held.platformStatus
      (some dispatch.operatorId) .manual
      (some (Text.truncate 500 (dispatch.carrier ++ " " ++ trackingNo)))
    saveShipment ⟨0, held.id, dispatch.carrier, trackingNo, .succeeded, none, some dispatch.now,
      attempt⟩
    shipOrder held.id

/-- `commit_failure`. -/
def commitFailure (dispatch : Dispatch) (target : ShipTarget) (reason : String) (attempt : ℕ) :
    Work Unit :=
  saveShipment ⟨0, target.orderId, dispatch.carrier, "", .failed, some reason, none, attempt⟩

/-- `_record_failure`. -/
def recordFailure (dispatch : Dispatch) (target : ShipTarget) (reason : String) (attempt : ℕ) :
    Work Unit :=
  .nested (commitFailure dispatch target reason attempt) fun _ => return ()

/-- Tell the platform, and then move the order. -/
def pushAndCommit (dispatch : Dispatch) (target : ShipTarget) (held : SalesOrder)
    (trackingNo : String) (attempt : ℕ) : Work Unit := do
  match dispatch.push target dispatch.carrier trackingNo with
  | .error e => raise e
  | .ok _ => commitSuccess dispatch target held trackingNo attempt

/-- A savepoint that is rolled back takes with it what the session knows of the balances. -/
def expire : Work Unit := .remember fun l => { l with seen := [] }

/-- `_ship_one`. -/
def shipOne (dispatch : Dispatch) (orderId : ℕ) : Work ShipLine := do
  match ← loadTarget orderId with
  | none => return ⟨orderId, "", false, none, "订单不存在"⟩
  | some (target, held) =>
    match (refuseShip target.unifiedStatus).or (reviewBlocksShip target.reviewStatus) with
    | some reason => return ⟨target.orderId, target.platformOrderId, false, none, reason⟩
    | none =>
      let attempt := target.attempt + 1
      let trackingNo := makeTrackingNo target.orderId attempt
      let attempted : Work ShipLine := do
        pushAndCommit dispatch target held trackingNo attempt
        return ⟨target.orderId, target.platformOrderId, true, some trackingNo, "已回传平台"⟩
      .nested attempted fun e => do
        expire
        let message := publicReason e
        recordFailure dispatch target message attempt
        return ⟨target.orderId, target.platformOrderId, false, none, message⟩

/-- Where the database breaks off, if it does: at which statement from here, and with what. -/
abbrev Fault := Option (ℕ × ServiceError)

def breakOff {α : Type} (fault : Fault) (work : Work α) : Work α :=
  match fault with
  | none => work
  | some (n, e) => work.cutAt e n

/-- The attempt behind the savepoint, with whether the platform has taken the tracking number, and
with a database that may break off in the local steps after that. -/
def attemptShip (fault : Fault) (dispatch : Dispatch) (target : ShipTarget) (held : SalesOrder) :
    Work (ShipLine × Bool) := do
  let attempt := target.attempt + 1
  let trackingNo := makeTrackingNo target.orderId attempt
  let attempted : Work ShipLine := do
    match dispatch.push target dispatch.carrier trackingNo with
    | .error e => raise e
    | .ok _ => breakOff fault (commitSuccess dispatch target held trackingNo attempt)
    return ⟨target.orderId, target.platformOrderId, true, some trackingNo, "已回传平台"⟩
  let line ← .nested attempted fun e => do
    expire
    let message := publicReason e
    recordFailure dispatch target message attempt
    return ⟨target.orderId, target.platformOrderId, false, none, message⟩
  return (line, (dispatch.push target dispatch.carrier trackingNo).isOk)

/-- `_ship_one` with such an attempt. -/
def shipOneTold (fault : Fault) (dispatch : Dispatch) (orderId : ℕ) : Work (ShipLine × Bool) := do
  match ← loadTarget orderId with
  | none => return (⟨orderId, "", false, none, "订单不存在"⟩, false)
  | some (target, held) =>
    match (refuseShip target.unifiedStatus).or (reviewBlocksShip target.reviewStatus) with
    | some reason => return (⟨target.orderId, target.platformOrderId, false, none, reason⟩, false)
    | none => attemptShip fault dispatch target held

/-- Where nothing breaks off, this is how an order is shipped. -/
lemma map_shipOneTold (dispatch : Dispatch) (orderId : ℕ) :
    (shipOneTold none dispatch orderId).map Prod.fst = shipOne dispatch orderId := by
  unfold shipOneTold shipOne Prog.map
  simp only [Prog.bind_eq, Prog.bind_assoc]
  congr 1
  funext loaded
  cases loaded with
  | none => rfl
  | some found =>
    obtain ⟨target, held⟩ := found
    cases hrefuse : (refuseShip target.unifiedStatus).or (reviewBlocksShip target.reviewStatus) with
    | some reason => simp only [hrefuse, Prog.pure_eq, Prog.bind]
    | none =>
      simp only [hrefuse, attemptShip, pushAndCommit, breakOff, Prog.pure_eq, Prog.bind_eq,
        Prog.bind_assoc, Prog.bind, Prog.bind_ret]
      cases dispatch.push target dispatch.carrier (makeTrackingNo target.orderId (target.attempt + 1))
      · rfl
      · rfl

/-- `run_ship_batch`. -/
def runShipBatch (dispatch : Dispatch) : List ℕ → Work (List ShipLine)
  | [] => return []
  | orderId :: rest => do
    let line ← shipOne dispatch orderId
    return line :: (← runShipBatch dispatch rest)

def orderBatchShipLimit : ℕ := 200

def checkBatchSize (count : ℕ) : Work Unit :=
  if count < 1 then raise (.paramInvalid "请选择订单")
  else if orderBatchShipLimit < count then
    raise (.paramInvalid ("单批最多 " ++ toString orderBatchShipLimit ++ " 单"))
  else return ()

/-- `dedupe_ids` keeps the first of equal ids. -/
def dedupeIds (orderIds : List ℕ) : List ℕ := orderIds.eraseDups

@[irreducible]
def batchShip (dispatch : Dispatch) (orderIds : List ℕ) : Work (List ShipLine) := do
  let unique := dedupeIds orderIds
  checkBatchSize unique.length
  let carrier := Text.strip dispatch.carrier
  if carrier = "" then raise (.paramInvalid "请填写承运商")
  else runShipBatch { dispatch with carrier } unique

end CrossPilot
