import CrossPilot.Inventory.Holds
import CrossPilot.Lib.Decimals
import CrossPilot.Order.Ingest

/-!
# The order desk

What an operator decides by hand: the review of an order, and its returns. A return is requested,
then approved or rejected, and an approved one is refunded. Approving and refunding also move the
order, along the edges that are open to an operator.
-/

namespace CrossPilot

open Transaction Table

/-! ### Review -/

/-- Why an order may not be shipped, by its review. -/
def reviewBlocksShip (reviewStatus : ReviewStatus) : Option String :=
  match reviewStatus with
  | .pending => some "订单待人工审核，不能发货"
  | .rejected => some "订单审核未通过，不能发货"
  | _ => none

/-- `_order`. -/
def deskOrder (orderId : ℕ) : Work SalesOrder := do
  orRaise .orderNotFound (← getOrder orderId)

/-- What an operator can make of a review. -/
inductive ReviewDecision
  | approve | reject
  deriving DecidableEq

def ReviewDecision.status : ReviewDecision → ReviewStatus
  | approve => .approved
  | reject => .rejected

def decideReview (orderId : ℕ) (decision : ReviewDecision) : Work Unit := do
  let order ← deskOrder orderId
  if order.reviewStatus ≠ .pending then raise (.orderState "只有待审核订单可以人工裁定")
  else saveOrder order { order with reviewStatus := decision.status }

/-! ### Review rules -/

/-- `save_rule` of the repository: one rule for each currency, and the columns that differ from what
was read. The column of the amount has six decimals. -/
def storeRule (currency : String) (amountGt : ℚ) (enabled : Bool) : Work Unit := do
  match ← .select fun d => d.reviewRules.find? fun r => r.currency = currency with
  | none =>
    let row : OrderReviewRule := ⟨currency, Decimals.quantize 6 amountGt, enabled⟩
    let violated ← .update (fun _ => [.reviewRule currency])
      (fun _ d => if d.reviewRules.any (·.currency = currency) then d
        else { d with reviewRules := d.reviewRules ++ [row] })
      fun _ d => d.reviewRules.any (·.currency = currency)
    if violated then raise (.integrity "uq_order_review_rule_tenant_id_currency") else return ()
  | some loaded =>
    let change (stored : OrderReviewRule) : OrderReviewRule := { stored with
      amountGt := if amountGt = loaded.amountGt then stored.amountGt
        else Decimals.quantize 6 amountGt
      enabled := written loaded.enabled enabled stored.enabled }
    .update (fun _ => [.reviewRule currency])
      (fun _ d => { d with
        reviewRules := alter OrderReviewRule.currency currency change d.reviewRules })
      fun _ _ => ()

def saveRule (currency : String) (amountGt : ℚ) (enabled : Bool) : Work Unit :=
  let code := Text.upper (Text.strip currency)
  if code.length ≠ 3 ∨ ¬ code.toList.all Char.isAlpha then raise (.paramInvalid "币种需要 3 位字母")
  else if amountGt < 0 then raise (.paramInvalid "审核金额不能为负")
  else storeRule code amountGt enabled

/-! ### Returns -/

/-- What an operator can do with a return. -/
inductive ReturnAction
  | approve | reject | refund
  deriving DecidableEq

/-- The next status of a return. There is none if the action is not open. -/
def decideReturn (current : ReturnStatus) (action : ReturnAction) : Option ReturnStatus :=
  match current, action with
  | .requested, .approve => some .approved
  | .requested, .reject => some .rejected
  | .approved, .refund => some .refunded
  | _, _ => none

def restockAfterRefund (restockFlag : Bool) : RestockStatus :=
  if restockFlag then .deferred else .none

/-- What a return is created from. -/
structure ReturnWrite where
  reason : String
  refundAmount : ℚ
  restockFlag : Bool := false
  restockSellable : Bool := true
  deriving DecidableEq

def createReturn (orderId : ℕ) (payload : ReturnWrite) : Work ReturnOrder := do
  let order ← deskOrder orderId
  let text := Text.strip payload.reason
  if text = "" then raise (.paramInvalid "请填写退货原因")
  else if payload.refundAmount < 0 ∨ order.totalAmount < payload.refundAmount then
    raise (.paramInvalid "退款金额需要在 0 和订单金额之间")
  else
    let id ← nextSnowflakeId
    let row : ReturnOrder := ⟨id, order.id, Text.truncate 500 text, .requested,
      payload.refundAmount, order.currency, payload.restockFlag, payload.restockSellable, .none⟩
    .insert fun d => { d with returns := d.returns ++ [row] }
    return row

/-- `_move_order`. -/
def moveOrder (order : SalesOrder) (target : UnifiedStatus) (userId : ℕ) (remark : String) :
    Work Unit := do
  let decision := decideStatus (some order.unifiedStatus) (some target) .manual
  if decision.kind ≠ .apply then raise (.orderState "当前订单状态不能进入退款流程")
  else
    saveOrder order { order with unifiedStatus := target }
    appendLog order.id (some order.unifiedStatus) target order.platformStatus (some userId) .manual
      (some remark)

/-- Put the goods of a refunded return back, if that is wanted. -/
def restock (row : ReturnOrder) : Work RestockStatus := do
  let waiting := { row with restockStatus := restockAfterRefund row.restockFlag }
  if row.restockFlag then receiveReturn waiting else return waiting.restockStatus

/-- What an action does to the order of a return. Returns whether the goods are back. -/
def returnEffect (row : ReturnOrder) (order : SalesOrder) (action : ReturnAction) (userId : ℕ) :
    Work RestockStatus :=
  match action with
  | .approve => do
    moveOrder order .refunding userId "退货审核通过"
    return row.restockStatus
  | .reject => return row.restockStatus
  | .refund => do
    moveOrder order .refunded userId "退款完成"
    restock row

def transitionReturn (returnId : ℕ) (action : ReturnAction) (userId : ℕ) : Work Unit := do
  let row ← orRaise .returnNotFound
    (← .select fun d => d.returns.find? fun r => r.id = returnId)
  let status ← orRaise .returnState (decideReturn row.status action)
  let order ← deskOrder row.orderId
  let restockStatus ← returnEffect row order action userId
  let moved (r : ReturnOrder) := { r with status, restockStatus }
  .update (fun _ => [.returnOrder row.id])
    (fun _ d => { d with returns := alter ReturnOrder.id row.id moved d.returns })
    fun _ _ => ()

end CrossPilot
