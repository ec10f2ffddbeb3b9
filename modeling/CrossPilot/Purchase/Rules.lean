import CrossPilot.Database

/-!
# The rules of purchasing

The states of a purchase order, what may be received, and what is on the way meanwhile. An order of
goods is open for what was neither received nor written off as short; more may come than was
ordered, and then nothing is open.
-/

namespace CrossPilot

namespace Purchasing

open FirstMile (PurchaseRuleError)

/-- What a buyer can do with an order besides editing and receiving it. -/
inductive PurchaseAction
  | submit | reject | approve | cancel | close
  deriving DecidableEq

/-- `OPEN_FOR_RECEIPT`. -/
def openForReceipt : List PurchaseStatus := [.approved, .partially]

/-- `OPEN_FOR_EDIT`. -/
def openForEdit : List PurchaseStatus := [.draft, .pending, .approved, .partially]

def openQty (ordered received short : ℤ) : ℤ := max 0 (ordered - received - short)

/-- The status after an action. -/
def assertTransition (status : PurchaseStatus) (action : PurchaseAction) (received : ℤ) :
    Except PurchaseRuleError PurchaseStatus :=
  match action, status with
  | .submit, .draft => .ok .pending
  | .reject, .pending => .ok .draft
  | .approve, .pending => .ok .approved
  | .cancel, .draft | .cancel, .pending => .ok .cancelled
  | .cancel, .approved =>
    if 0 < received then .error ⟨"state", "已经收过货，不能取消"⟩ else .ok .cancelled
  | .close, .partially | .close, .received => .ok .closed
  | _, _ => .error ⟨"state", "采购单当前状态不能执行该操作"⟩

def assertCanEdit (status : PurchaseStatus) : Except PurchaseRuleError Unit :=
  if status ∈ openForEdit then .ok () else .error ⟨"state", "采购单当前状态不能变更"⟩

def assertCanReceive (status : PurchaseStatus) : Except PurchaseRuleError Unit :=
  if status ∈ openForReceipt then .ok () else .error ⟨"state", "采购单当前状态不能收货"⟩

def transitDeltaForQtyChange (status : PurchaseStatus) (ordered received short newOrdered : ℤ) :
    Except PurchaseRuleError ℤ :=
  if newOrdered ≤ 0 then .error ⟨"receipt", "数量必须大于 0"⟩
  else if newOrdered < received + short then .error ⟨"receipt", "数量不能小于已收加短收"⟩
  else do
    assertCanEdit status
    if status ∈ [.draft, .pending] then return 0
    else return openQty newOrdered received short - openQty ordered received short

/-- What a line of a receipt does. -/
structure ReceiptPlan where
  receiveQty : ℤ
  transitRelease : ℤ
  newReceived : ℤ
  newShort : ℤ
  deriving DecidableEq

def planReceive (ordered received short quantity : ℤ) (disposition : Disposition)
    (allowOver : Bool) : Except PurchaseRuleError ReceiptPlan :=
  let remaining := openQty ordered received short
  match disposition with
  | .short =>
    if remaining ≤ 0 then .error ⟨"receipt", "没有剩余数量可以短收"⟩
    else .ok ⟨0, remaining, received, short + remaining⟩
  | .receive =>
    if quantity ≤ 0 then .error ⟨"receipt", "收货数量必须大于 0"⟩
    else if remaining < quantity ∧ allowOver = false then .error ⟨"receipt", "超收需要明确确认"⟩
    else .ok ⟨quantity, min quantity remaining, received + quantity, short⟩

/-- A line is what was ordered, received and written off. -/
def nextReceiptStatus (lines : List (ℤ × ℤ × ℤ)) : PurchaseStatus :=
  if lines ≠ [] ∧ lines.all fun l => openQty l.1 l.2.1 l.2.2 = 0 then .received
  else if lines.any fun l => l.2.1 ≠ 0 || l.2.2 ≠ 0 then .partially
  else .approved

/-- Where goods in transit are on their way to. -/
inductive TransitRegion
  | domestic | overseas
  deriving DecidableEq

def transitRegion : WarehouseType → Except PurchaseRuleError TransitRegion
  | .localWarehouse => .ok .domestic
  | .overseas | .fba => .ok .overseas
  | .platform => .error ⟨"state", "平台仓不能作为采购或头程目的仓"⟩

/-- Goods bought for a warehouse abroad are on their way to it already. -/
def shouldMoveStock (fromId toId : Option ℕ) (poWarehouseType : Option WarehouseType) : Bool :=
  match fromId, toId with
  | some here, some there =>
    here ≠ there && poWarehouseType ∉ [some .overseas, some .fba]
  | _, _ => false

/-! ### What the rules come to -/

lemma openQty_nonneg (ordered received short : ℤ) : 0 ≤ openQty ordered received short :=
  le_max_left _ _

lemma openQty_fresh {ordered : ℤ} (h : 0 < ordered) : openQty ordered 0 0 = ordered := by
  simp [openQty, h.le]

/-- An accepted change of a quantity moves what is open as far as it says, if the goods are on their
way. -/
lemma transitDelta_ok {status : PurchaseStatus} {ordered received short newOrdered delta : ℤ}
    (h : transitDeltaForQtyChange status ordered received short newOrdered = .ok delta) :
    0 < newOrdered ∧ received + short ≤ newOrdered ∧ status ∈ openForEdit ∧
      delta = if status ∈ openForReceipt then
        openQty newOrdered received short - openQty ordered received short else 0 := by
  unfold transitDeltaForQtyChange at h
  by_cases hpos : newOrdered ≤ 0
  · rw [if_pos hpos] at h
    cases h
  rw [if_neg hpos] at h
  by_cases hless : newOrdered < received + short
  · rw [if_pos hless] at h
    cases h
  rw [if_neg hless] at h
  obtain ⟨_, hedit, h⟩ := bind_eq_ok.mp h
  refine ⟨not_le.mp hpos, not_lt.mp hless, ?_⟩
  cases status <;> simp [assertCanEdit, openForEdit, openForReceipt, pure, Except.pure] at hedit h ⊢
  all_goals exact h.symm

/-- An accepted line of a receipt. What it receives and what it writes off was asked for, and what
it takes out of transit is what is no longer open. -/
lemma planReceive_ok {ordered received short quantity : ℤ} {disposition : Disposition}
    {allowOver : Bool} {plan : ReceiptPlan}
    (h : planReceive ordered received short quantity disposition allowOver = .ok plan) :
    0 ≤ plan.receiveQty ∧ plan.newReceived = received + plan.receiveQty ∧
      short ≤ plan.newShort ∧
      plan.transitRelease =
        openQty ordered received short - openQty ordered plan.newReceived plan.newShort ∧
      0 ≤ plan.transitRelease := by
  unfold planReceive at h
  cases disposition with
  | short =>
    simp only at h
    split_ifs at h with hrem
    cases h
    simp only [openQty] at hrem ⊢
    omega
  | receive =>
    simp only at h
    split_ifs at h with hpos hover
    cases h
    simp only [openQty]
    refine ⟨(not_le.mp hpos).le, trivial, le_rfl, ?_, ?_⟩
    all_goals omega

/-- An accepted line of a receipt is not empty. -/
lemma planReceive_moves {ordered received short quantity : ℤ} {disposition : Disposition}
    {allowOver : Bool} {plan : ReceiptPlan}
    (h : planReceive ordered received short quantity disposition allowOver = .ok plan) :
    plan.receiveQty ≠ 0 ∨ -plan.transitRelease ≠ 0 := by
  unfold planReceive at h
  cases disposition with
  | short =>
    simp only at h
    split_ifs at h with hrem
    cases h
    exact .inr (by simpa using fun h => hrem h.le)
  | receive =>
    simp only at h
    split_ifs at h with hpos hover
    cases h
    exact .inl fun h => hpos h.le

end Purchasing

/-- What is open of a line. -/
def PurchaseOrderItem.openQty (row : PurchaseOrderItem) : ℤ :=
  Purchasing.openQty row.quantity row.receivedQty row.shortQty

end CrossPilot
