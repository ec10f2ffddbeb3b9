import CrossPilot.Inventory.Rules
import CrossPilot.Order.Ship
import CrossPilot.Order.StockStep

/-!
# What an operator's moves do

Shipping by hand and the steps of a return, in a transaction that runs alone. Each puts the row of
the order with its new status in place (`Placed`). Shipping then works on the holds of the order's
current lines, and a return leaves the holds as they are.
-/

namespace CrossPilot

open Transaction Table Prog

/-- The row of an order is in place; only logs and shipments may have changed besides. -/
structure Placed (row : SalesOrder) (s s' : WorkState) : Prop where
  orders : s'.data.orders = put SalesOrder.id row s.data.orders
  frame : s'.data = { s.data with
    orders := s'.data.orders
    statusLogs := s'.data.statusLogs
    shipments := s'.data.shipments }
  books : ∀ c, Books c s → Books c s'

namespace Placed

variable {row : SalesOrder} {s s' s'' : WorkState}

lemma holds (h : Placed row s s') : s'.data.holds = s.data.holds := by
  rw [h.frame]

lemma items (h : Placed row s s') : s'.data.items = s.data.items := by
  rw [h.frame]

lemma returns (h : Placed row s s') : s'.data.returns = s.data.returns := by
  rw [h.frame]

lemma ordersWf (h : Placed row s s') (hw : OrdersWf s.data) {held : SalesOrder}
    (hmem : held ∈ s.data.orders) (hid : row.id = held.id)
    (hkey : row.idempotencyKey = held.idempotencyKey) : OrdersWf s'.data := by
  refine ⟨?_, ?_⟩
  · rw [h.orders]
    exact hw.ids.put row
  · rw [h.orders]
    refine hw.keys.put_of hw.ids fun o ho hk => ?_
    rw [hid, hw.keys.eq_of_key_eq ho hmem (hk.trans hkey)]

lemma withShipments (h : Placed row s s')
    (hdata : s''.data = { s'.data with shipments := s''.data.shipments })
    (hbooks : ∀ c, Books c s' → Books c s'') : Placed row s s'' := by
  refine ⟨?_, ?_, fun c hb => hbooks c (h.books c hb)⟩
  · rw [hdata]
    exact h.orders
  · rw [hdata, h.frame]

/-- Savepoints are of no consequence. -/
lemma unmark {marks : List Db} (h : Placed row { s with marks } s') : Placed row s s' :=
  ⟨h.orders, h.frame, fun c hb => h.books c (hb.of_frame rfl rfl rfl rfl rfl)⟩

end Placed

section moves

variable {s : WorkState} {Q : Unit → WorkState → Prop} {E : ServiceError → WorkState → Prop}
  {held row : SalesOrder}

/-- The row is saved, and the move is logged. -/
lemma wp_saveAndLog {orderId : ℕ} {fromStatus : Option UnifiedStatus} {toStatus : UnifiedStatus}
    {platformStatus : String} {operatorId : Option ℕ} {source : StatusChangeSource}
    {remark : Option String} (hw : OrdersWf s.data) (hmem : held ∈ s.data.orders)
    (hid : row.id = held.id) (hmerge : held.merge row held = row)
    (h : ∀ s', Placed row s s' → s'.marks = s.marks → Q () s') :
    (saveOrder held row).wp (fun _ => (appendLog orderId fromStatus toStatus platformStatus
      operatorId source remark).wp Q E) E s := by
  rw [wp_saveOrder hw.ids hmem hid hmerge]
  simp only [appendLog, bind_eq, wp_bind, wp_nextSnowflakeId, wp_insert]
  refine h _ ⟨rfl, rfl, fun c hb => ?_⟩ rfl
  have hput : Books c
      { s with data := { s.data with orders := put SalesOrder.id row s.data.orders } } :=
    hb.put_order hmem hid rfl rfl
  exact hput.draw.of_frame rfl rfl rfl rfl rfl

/-- An operator moves an order along an edge that is open to him, or is refused. -/
lemma wp_moveOrder {target : UnifiedStatus} {userId : ℕ} {remark : String}
    (hw : OrdersWf s.data) (hmem : held ∈ s.data.orders)
    (h : target ∈ held.unifiedStatus.manualTargets → ∀ s',
      Placed { held with unifiedStatus := target } s s' → Q () s')
    (he : ∀ e, E e s) : (moveOrder held target userId remark).wp Q E s := by
  unfold moveOrder
  by_cases happly : (decideStatus (some held.unifiedStatus) (some target) .manual).kind = .apply
  swap
  · rw [if_pos happly]
    exact he _
  obtain ⟨t, ht, -, hallowed, -⟩ := decideStatus_apply_iff.mp happly
  rw [← Option.some.inj ht] at hallowed
  rw [if_neg (not_not.mpr happly), bind_eq, wp_bind]
  refine wp_saveAndLog hw hmem ?_ ?_ fun s' hs _ => h (by simpa [allowed] using hallowed) s' hs
  · rfl
  · simp [SalesOrder.merge, written_self]

/-- Only the shipments change. -/
lemma wp_saveShipment {shipment : Shipment}
    (h : ∀ s', s'.data = { s.data with shipments := s'.data.shipments } → s'.marks = s.marks →
      (∀ c, Books c s → Books c s') → Q () s') : (saveShipment shipment).wp Q E s := by
  unfold saveShipment
  rw [bind_eq, wp_bind, getShipment, wp_select]
  cases hfind : s.data.shipments.find? fun r => r.orderId = shipment.orderId with
  | none =>
    have hany : s.data.shipments.any (fun r => r.orderId = shipment.orderId) = false := by
      simpa using List.find?_eq_none.mp hfind
    simp only [bind_eq, wp_bind, wp_nextSnowflakeId, wp_update, hany, Bool.false_eq_true, if_false,
      pure_eq, wp_ret]
    exact h _ rfl rfl fun c hb => hb.draw.of_frame rfl rfl rfl rfl rfl
  | some old =>
    exact h _ rfl rfl fun c hb => hb.of_frame rfl rfl rfl rfl rfl

/-- What shipping by hand makes of an order, up to its stock: `row` is its row from then on. -/
structure ShippedByHand (held row : SalesOrder) (s s₁ s' : WorkState) : Prop where
  id : row.id = held.id
  key : row.idempotencyKey = held.idempotencyKey
  status : row.unifiedStatus = .shipped
  placed : Placed row s s₁
  steps : HoldSteps (ShipStep s₁.data held.id) s₁ s'
  all : ∀ item ∈ s₁.data.items, item.orderId = held.id → (∃ skuId, Reservable item skuId) →
    ∃ hold ∈ s'.data.holds, hold.orderItemId = item.id ∧ hold.status = .shipped

lemma plain_saveShipment (shipment : Shipment) : (saveShipment shipment).Plain Session.Drawn := by
  refine (Plain.select _).bind fun found => ?_
  cases found with
  | none =>
    refine plain_nextSnowflakeId.bind fun id => (Plain.update _ _ _).bind fun violated => ?_
    cases violated with
    | true => exact .fail _
    | false => exact .ret ()
  | some old => exact .update _ _ _

lemma plain_commitSuccess (dispatch : Dispatch) (target : ShipTarget) (held : SalesOrder)
    (trackingNo : String) (attempt : ℕ) :
    (commitSuccess dispatch target held trackingNo attempt).Plain Session.Drawn := by
  refine (Plain.select _).bind fun found => ?_
  cases found with
  | none => exact .fail _
  | some _ =>
    refine (Plain.update _ _ _).bind fun _ => ?_
    refine (plain_nextSnowflakeId.bind fun _ => .update _ _ _).bind fun _ => ?_
    exact (plain_saveShipment _).bind fun _ =>
      plainRules.work (K := []) (.shipOrder held.id) fun _ _ h => by cases h

lemma ShippedByHand.books {row : SalesOrder} {s₁ s' : WorkState} {c : ℕ → ℕ → ℤ}
    (h : ShippedByHand held row s s₁ s') (hb : Books c s) : Books c s' :=
  h.steps.books (h.placed.books c hb)

/-- The order is moved and its stock shipped. An error means that stock of the order had been
released. -/
lemma wp_commitSuccess {c : ℕ → ℕ → ℤ} {dispatch : Dispatch} {target : ShipTarget}
    {trackingNo : String} {attempt : ℕ} (hb : Books c s) (hw : OrdersWf s.data)
    (hmem : held ∈ s.data.orders) (htarget : target.orderId = held.id)
    (h : ∀ row s₁ s', ShippedByHand held row s s₁ s' → s'.marks = s.marks → Q () s')
    (he : HasReleased s.data held.id → ∀ e s', s.session.Drawn s'.session → s'.marks = s.marks →
      E e s') :
    (commitSuccess dispatch target held trackingNo attempt).wp Q E s := by
  have hplain := (plain_commitSuccess dispatch target held trackingNo attempt).wp
    Session.Drawn.refl Session.Drawn.trans s
  refine wp_mono (wp_and (Q := Q) (E := fun _ s' => HasReleased s.data held.id ∧ s'.marks = s.marks)
    ?_ hplain) (fun _ _ h => h.1) fun e s' h => he h.1.1 e s' h.2.1 h.1.2
  unfold commitSuccess
  have hfind : s.data.orders.find? (fun o => o.id = target.orderId) = some held :=
    (find?_eq_some_iff hw.ids).mpr ⟨hmem, htarget.symm⟩
  rw [bind_eq, wp_bind, getOrder, wp_select, hfind]
  simp only [bind_eq, wp_bind]
  let shipped := { held with unifiedStatus := .shipped, shippedAt := some dispatch.now }
  refine wp_saveAndLog hw hmem ?_ ?_ fun s₁ hplaced hmarks₁ => ?_
  · rfl
  · simp [SalesOrder.merge, written_self]
  refine wp_saveShipment fun s₂ hdata hmarks hbooks => ?_
  have hplaced' := hplaced.withShipments hdata hbooks
  refine wp_shipOrder (hplaced'.books c hb) (fun s' hs hall => ?_) fun hreleased s' _ hm => ?_
  · exact h shipped s₂ s' ⟨rfl, rfl, rfl, hplaced', hs, hall⟩
      (hs.marks.trans (hmarks.trans hmarks₁))
  · refine ⟨?_, hm.trans (hmarks.trans hmarks₁)⟩
    rw [HasReleased, hplaced'.items, hplaced'.holds] at hreleased
    exact hreleased

end moves

/-! ### Returned goods -/

/-- A return whose goods are nowhere. -/
def ReturnOrder.unposted (r : ReturnOrder) : ReturnOrder := { r with restockStatus := .none }

/-- Only balances, the ledger and what is noted of the goods of one return differ from `d`. -/
structure OnlyStock (d : Db) (returnId : ℕ) (s : WorkState) : Prop where
  frame : s.data = { d with
    inventories := s.data.inventories
    flows := s.data.flows
    returns := s.data.returns }
  returns : alter ReturnOrder.id returnId ReturnOrder.unposted s.data.returns =
    alter ReturnOrder.id returnId ReturnOrder.unposted d.returns

lemma OnlyStock.of_eq {d : Db} {returnId : ℕ} {s s' : WorkState} (h : OnlyStock d returnId s)
    (hdata : s'.data = { s.data with
      inventories := s'.data.inventories
      flows := s'.data.flows }) : OnlyStock d returnId s' := by
  refine ⟨?_, ?_⟩
  · rw [hdata, h.frame]
  · rw [hdata]
    exact h.returns

section restock

variable {d : Db} {returnId : ℕ}

lemma onlyStock_present (row : Inventory) : Maintains (OnlyStock d returnId) (present row) := by
  refine (Maintains.query _).bind fun held => ?_
  cases held with
  | some held => exact .ret _
  | none => exact (Maintains.remember fun _ h => h.of_eq rfl).bind fun _ => .ret _

lemma onlyStock_getPair (skuId warehouseId : ℕ) :
    Maintains (OnlyStock d returnId) (getPair skuId warehouseId) := by
  refine (Maintains.select _).bind fun found => ?_
  cases found with
  | none => exact .ret _
  | some row => exact (onlyStock_present row).bind fun _ => .ret _

lemma onlyStock_refresh (inventoryId : ℕ) : Maintains (OnlyStock d returnId) (refresh inventoryId) := by
  refine (Maintains.select _).bind fun found => ?_
  cases found with
  | none => exact .ret _
  | some row => exact (Maintains.remember fun _ h => h.of_eq rfl).bind fun _ => .ret _

lemma onlyStock_ensure (skuId warehouseId : ℕ) :
    Maintains (OnlyStock d returnId) (ensure skuId warehouseId) := by
  refine ((Maintains.select _).bind fun _ => maintains_orRaise _ _).bind fun _ =>
    ((Maintains.select _).bind fun _ => maintains_orRaise _ _).bind fun _ =>
    (onlyStock_getPair _ _).bind fun found => ?_
  cases found with
  | some row => exact .ret _
  | none =>
    refine ((Maintains.query _).bind fun _ => (Maintains.remember fun _ h => h.of_eq rfl).bind fun _ =>
      .ret _).bind fun id => (Maintains.update fun s h => h.of_eq ?_).bind fun violated =>
      maintains_ite ((onlyStock_getPair _ _).bind fun _ => maintains_orRaise _ _)
        ((Maintains.remember fun _ h => h.of_eq rfl).bind fun _ => .ret _)
    dsimp only
    split <;> rfl

lemma onlyStock_applyOnce (row : Inventory) (δ : Delta) :
    Maintains (OnlyStock d returnId) (applyOnce row δ) := by
  refine Maintains.bind ((Maintains.update fun s h => h.of_eq rfl).bind fun _ =>
    maintains_ite (.ret _) ((onlyStock_refresh _).bind fun found => ?_)) fun status => ?_
  · cases found with
    | none => exact .ret _
    | some current => exact .ret _
  · cases status with
    | applied => exact (onlyStock_refresh _).bind fun _ => .ret _
    | conflict => exact (onlyStock_refresh _).bind fun _ => .ret _
    | _ => exact .ret _

lemma onlyStock_commitLoop (note : FlowNote) (δ : Delta) (tries : ℕ) (row : Inventory) :
    Maintains (OnlyStock d returnId) (commitLoop note δ tries row) := by
  induction tries generalizing row with
  | zero => exact .fail _
  | succ tries ih =>
    refine (onlyStock_applyOnce row δ).bind fun r => ?_
    obtain ⟨status, fresh⟩ := r
    cases status <;> cases fresh
    case applied.some fresh => exact (Maintains.insert fun s h => h.of_eq rfl).bind fun _ => .ret _
    case conflict.some fresh => exact ih fresh
    all_goals exact .fail _

/-- Goods that come back change the balances, the ledger and the return. -/
theorem onlyStock_receiveReturn (row : ReturnOrder) :
    Maintains (OnlyStock d row.id) (receiveReturn row) := by
  refine maintains_receiveReturn_of onlyStock_ensure
    (fun row note δ _ => onlyStock_commitLoop note δ versionRetries row) row fun s after h => ?_
  refine ⟨?_, ?_⟩
  · dsimp only
    conv_lhs => rw [h.frame]
  · rw [← h.returns]
    exact alter_alter fun _ => rfl

end restock

/-! ### Returns -/

lemma wp_deskOrder {s : WorkState} {Q : SalesOrder → WorkState → Prop}
    {E : ServiceError → WorkState → Prop} {orderId : ℕ} (hids : Keyed SalesOrder.id s.data.orders)
    (h : ∀ o ∈ s.data.orders, o.id = orderId → Q o s) (he : ∀ e, E e s) :
    (deskOrder orderId).wp Q E s := by
  rw [deskOrder, bind_eq, wp_bind, getOrder, wp_select]
  cases hfind : s.data.orders.find? fun o => o.id = orderId with
  | none => exact he _
  | some o =>
    obtain ⟨hmem, hid⟩ := (find?_eq_some_iff hids).mp hfind
    exact h o hmem hid

/-- A requested return is a new row for an order that exists. -/
lemma wp_createReturn {s : WorkState} {Q : ReturnOrder → WorkState → Prop}
    {E : ServiceError → WorkState → Prop} {orderId : ℕ} {payload : ReturnWrite}
    (hids : Keyed SalesOrder.id s.data.orders)
    (h : ∀ o ∈ s.data.orders, ∀ row : ReturnOrder, row.id = s.session.ids 0 → row.orderId = o.id →
      row.status = .requested → Q row ⟨{ s.session with ids := fun n => s.session.ids (n + 1) },
        { s.data with returns := s.data.returns ++ [row] }, s.marks⟩)
    (he : ∀ e, E e s) : (createReturn orderId payload).wp Q E s := by
  simp only [createReturn, bind_eq, wp_bind]
  apply wp_deskOrder hids
  · intro order horder _
    -- the text in the condition is not to be evaluated
    generalize Text.strip payload.reason = text
    split_ifs
    · exact he _
    · exact he _
    · exact h order horder _ rfl rfl rfl
  · exact he

/-- Where an action on a return moves its order to. -/
def ReturnAction.target : ReturnAction → Option UnifiedStatus
  | .approve => some .refunding
  | .reject => none
  | .refund => some .refunded

/-- What an action on the return `r` of the order `o` does. -/
structure Transitioned (c : ℕ → ℕ → ℤ) (action : ReturnAction) (r : ReturnOrder) (o : SalesOrder)
    (s s' : WorkState) : Prop where
  books : Books c s'
  status : ∃ status restockStatus, decideReturn r.status action = some status ∧
    s'.data.returns = alter ReturnOrder.id r.id (fun x => { x with status, restockStatus })
      s.data.returns
  holds : s'.data.holds = s.data.holds
  orders : s'.data.orders = action.target.elim s.data.orders fun target =>
    put SalesOrder.id { o with unifiedStatus := target } s.data.orders
  edge : ∀ target ∈ action.target, target ∈ o.unifiedStatus.manualTargets

/-- What an action does to the order of a return, before the return itself is saved. -/
lemma wp_returnEffect {c : ℕ → ℕ → ℤ} {s : WorkState} {r : ReturnOrder} {o : SalesOrder}
    {action : ReturnAction} {userId : ℕ} {Q : RestockStatus → WorkState → Prop}
    {E : ServiceError → WorkState → Prop} (hb : Books c s) (hw : OrdersWf s.data)
    (ho : o ∈ s.data.orders)
    (h : ∀ restocked s', Books c s' → s'.data.holds = s.data.holds →
      alter ReturnOrder.id r.id ReturnOrder.unposted s'.data.returns =
        alter ReturnOrder.id r.id ReturnOrder.unposted s.data.returns →
      (s'.data.orders = action.target.elim s.data.orders fun target =>
        put SalesOrder.id { o with unifiedStatus := target } s.data.orders) →
      (∀ target ∈ action.target, target ∈ o.unifiedStatus.manualTargets) → Q restocked s')
    (he : ∀ e s', E e s') : (returnEffect r o action userId).wp Q E s := by
  cases action with
  | reject =>
    refine h _ s hb rfl rfl rfl fun target ht => ?_
    cases ht
  | approve =>
    rw [returnEffect, bind_eq, wp_bind]
    refine wp_moveOrder hw ho (fun hopen s₁ hp => ?_) fun _ => he _ _
    refine h _ s₁ (hp.books c hb) hp.holds ?_ hp.orders fun target ht => ?_
    · rw [hp.returns]
    · cases ht
      exact hopen
  | refund =>
    rw [returnEffect, bind_eq, wp_bind]
    refine wp_moveOrder hw ho (fun hopen s₁ hp => ?_) fun _ => he _ _
    have htarget : ∀ target ∈ ReturnAction.refund.target, target ∈ o.unifiedStatus.manualTargets := by
      intro target ht
      cases ht
      exact hopen
    unfold restock
    dsimp only
    split
    · refine wp_mono (wp_and (maintains_receiveReturn _ s₁ (hp.books c hb))
        (onlyStock_receiveReturn _ s₁ ⟨rfl, rfl⟩)) (fun _ s₂ ⟨hb₂, hframe, hreturns⟩ => ?_)
        fun _ _ _ => he _ _
      refine h _ s₂ hb₂ ?_ ?_ ?_ htarget
      · rw [hframe]
        exact hp.holds
      · rw [hreturns, hp.returns]
      · rw [hframe]
        exact hp.orders
    · refine h _ s₁ (hp.books c hb) hp.holds ?_ hp.orders htarget
      rw [hp.returns]

/-- An action on a return is refused, or moves the return and its order. -/
theorem wp_transitionReturn {c : ℕ → ℕ → ℤ} {s : WorkState} {returnId : ℕ} {action : ReturnAction}
    {userId : ℕ} {Q : Unit → WorkState → Prop} {E : ServiceError → WorkState → Prop}
    (hb : Books c s) (hw : OrdersWf s.data)
    (h : ∀ r ∈ s.data.returns, r.id = returnId → ∀ o ∈ s.data.orders, o.id = r.orderId →
      ∀ s', Transitioned c action r o s s' → Q () s')
    (he : ∀ e s', E e s') : (transitionReturn returnId action userId).wp Q E s := by
  rw [transitionReturn, bind_eq, wp_bind, wp_select]
  cases hfind : s.data.returns.find? fun r => r.id = returnId with
  | none => exact he _ _
  | some r =>
    have hr := List.mem_of_find?_eq_some hfind
    have hid : r.id = returnId := by simpa using List.find?_some hfind
    simp only [orRaise, pure_eq, bind_eq, wp_bind, wp_ret]
    cases hnext : decideReturn r.status action with
    | none => exact he _ _
    | some status =>
      simp only [wp_ret]
      refine wp_deskOrder hw.ids (fun o ho hoid => ?_) fun _ => he _ _
      refine wp_returnEffect hb hw ho (fun restocked s' hb' hholds hreturns horders hopen => ?_) he
      refine h r hr hid o ho hoid _ ⟨hb'.of_frame rfl rfl rfl rfl rfl,
        ⟨status, restocked, hnext, ?_⟩, hholds, horders, hopen⟩
      -- the last change covers what has been noted of the goods before
      let moved (x : ReturnOrder) := { x with status, restockStatus := restocked }
      have hcover : ∀ rows, alter ReturnOrder.id r.id moved
          (alter ReturnOrder.id r.id ReturnOrder.unposted rows) =
            alter ReturnOrder.id r.id moved rows := fun _ => alter_alter fun _ => rfl
      have hboth := congrArg (alter ReturnOrder.id r.id moved) hreturns
      rw [hcover, hcover] at hboth
      exact hboth

/-- The work ends as it would, or where the database breaks off. -/
lemma wp_breakOff {α : Type} {fault : Fault} {work : Work α} {s : WorkState}
    {Q : α → WorkState → Prop} {E : ServiceError → WorkState → Prop}
    (hplain : work.Plain Session.Drawn) (h : work.wp Q E s)
    (he : fault ≠ none → ∀ e s', s.session.Drawn s'.session → s'.marks = s.marks → E e s') :
    (breakOff fault work).wp Q E s := by
  cases fault with
  | none => exact h
  | some cut =>
    obtain ⟨n, e⟩ := cut
    exact wp_cutAt hplain Session.Drawn.refl Session.Drawn.trans h (he (by simp) e)

/-- Only a paid order is shipped by hand. -/
lemma refuseShip_eq_none {status : UnifiedStatus} (h : refuseShip status = none) :
    status = .paid := by
  cases status <;> first | rfl | exact absurd h (by decide)

section ship

variable {c : ℕ → ℕ → ℤ} {s : WorkState} {dispatch : Dispatch} {orderId : ℕ}

/-- The platform takes some tracking number for the order. -/
def Dispatch.Takes (dispatch : Dispatch) (orderId : ℕ) : Prop :=
  ∃ target trackingNo, target.orderId = orderId ∧
    (dispatch.push target dispatch.carrier trackingNo).isOk = true

/-- Nothing has come of shipping an order but a shipment that has failed. If the platform has taken
the number all the same, then something has gone wrong after that. -/
structure NotShipped (fault : Fault) (dispatch : Dispatch) (orderId : ℕ) (s : WorkState)
    (line : ShipLine) (told : Bool) (s' : WorkState) : Prop where
  order : line.orderId = orderId
  failed : line.ok = false
  frame : s'.data = { s.data with shipments := s'.data.shipments }
  books : ∀ c, Books c s → Books c s'
  taken : told = true → dispatch.Takes orderId
  broken : told = true → fault ≠ none ∨ HasReleased s.data orderId

/-- After a rollback to a savepoint, the session has drawn ids for nothing. -/
lemma Books.rolledBack {s₁ : WorkState} {marks : List Db} (hb : Books c s)
    (hdrawn : s.session.Drawn s₁.session) :
    Books c { session := { s₁.session with seen := [] }, data := s.data, marks } := by
  obtain ⟨n, hn⟩ := hdrawn
  refine ⟨⟨hb.ready.shelf, fun held hheld => absurd hheld List.not_mem_nil⟩, ⟨?_, ?_⟩, hb.wf,
    hb.slack, hb.occupied⟩
  · intro i j hij
    change s₁.session.ids i = s₁.session.ids j at hij
    rw [hn, hn] at hij
    have := hb.fresh.injective hij
    omega
  · intro k
    change ¬Uses s.data (s₁.session.ids k)
    rw [hn]
    exact hb.fresh.unused _

/-- What the attempt changed is undone before the failure is recorded. -/
lemma wp_failed {s₁ : WorkState} {target : ShipTarget} {message : String} {attempt : ℕ}
    {Q : Unit → WorkState → Prop} {E : ServiceError → WorkState → Prop}
    (hmarks : s₁.marks = s.data :: s.marks) (hdrawn : s.session.Drawn s₁.session)
    (h : ∀ s', s'.data = { s.data with shipments := s'.data.shipments } →
      (∀ c, Books c s → Books c s') → Q () s') :
    expire.wp (fun _ => (recordFailure dispatch target message attempt).wp Q E) E
      { s₁ with data := s₁.marks.headD s₁.data, marks := s₁.marks.tail } := by
  rw [expire, wp_remember, recordFailure, wp_nested]
  refine wp_saveShipment fun s' hdata hmarks' hbooks => h _ ?_ fun c hb => ?_
  · simpa [hmarks] using hdata
  · have hback := hbooks c (by simpa [hmarks] using hb.rolledBack hdrawn)
    exact hback.of_frame rfl rfl rfl rfl rfl

/-- An attempt at a paid order ships it, or nothing comes of it. -/
lemma wp_attemptShip {fault : Fault} {target : ShipTarget} {held : SalesOrder}
    {Q : ShipLine × Bool → WorkState → Prop} {E : ServiceError → WorkState → Prop}
    (hb : Books c s) (hw : OrdersWf s.data) (hmem : held ∈ s.data.orders) (hid : held.id = orderId)
    (htarget : target.orderId = held.id)
    (hskip : ∀ line told s', NotShipped fault dispatch orderId s line told s' → Q (line, told) s')
    (hship : dispatch.Takes orderId → ∀ row s₁ s₂ line s', ShippedByHand held row s s₁ s₂ →
      s'.data = s₂.data → (∀ c, Books c s → Books c s') → line.orderId = orderId →
        line.ok = true → Q (line, true) s') :
    (attemptShip fault dispatch target held).wp Q E s := by
  have hnot : ∀ (told : Bool) (e : ServiceError) (s₁ : WorkState),
      s.session.Drawn s₁.session → s₁.marks = s.data :: s.marks →
      (told = true → dispatch.Takes orderId) →
      (told = true → fault ≠ none ∨ HasReleased s.data orderId) →
      expire.wp (fun _ => (recordFailure dispatch target (publicReason e)
          (target.attempt + 1)).wp (fun _ s' => Q (⟨target.orderId, target.platformOrderId,
            false, none, publicReason e⟩, told) s') E) E
        { s₁ with data := s₁.marks.headD s₁.data, marks := s₁.marks.tail } := by
    intro told e s₁ hdrawn hmarks htaken hbroken
    refine wp_failed hmarks hdrawn fun s' hframe hbooks => hskip _ _ s' ?_
    exact ⟨htarget.trans hid, rfl, hframe, hbooks, htaken, hbroken⟩
  unfold attemptShip
  simp only [bind_eq, wp_bind, wp_nested, pure_eq, wp_ret]
  cases hpush : dispatch.push target dispatch.carrier
    (makeTrackingNo target.orderId (target.attempt + 1)) with
  | error e =>
    exact hnot false e { s with marks := s.data :: s.marks } (.refl _) rfl (fun h => by cases h)
      fun h => by cases h
  | ok _ =>
    have htaken : dispatch.Takes orderId := ⟨target, _, htarget.trans hid, by rw [hpush]; rfl⟩
    simp only [wp_bind, wp_ret]
    refine wp_breakOff (s := { s with marks := s.data :: s.marks }) (plain_commitSuccess _ _ _ _ _)
      ?_ fun hfault e s₁ hdrawn hmarks =>
        hnot true e s₁ hdrawn hmarks (fun _ => htaken) fun _ => .inl hfault
    refine wp_commitSuccess (s := { s with marks := s.data :: s.marks })
      (hb.of_frame rfl rfl rfl rfl rfl) hw hmem htarget ?_ ?_
    · intro row s₁ s₂ hs _
      exact hship htaken row s₁ s₂ _ _ { hs with placed := hs.placed.unmark } rfl
        (fun c hb => (hs.books (hb.of_frame rfl rfl rfl rfl rfl)).of_frame rfl rfl rfl rfl rfl)
        (htarget.trans hid) rfl
    · intro hreleased e s₁ hdrawn hmarks
      exact hnot true e s₁ hdrawn hmarks (fun _ => htaken) fun _ => .inr (hid ▸ hreleased)

/-- Shipping one order either leaves everything but its shipment as it is, or ships a paid order. -/
theorem wp_shipOneTold {fault : Fault} {Q : ShipLine × Bool → WorkState → Prop}
    {E : ServiceError → WorkState → Prop} (hb : Books c s) (hw : OrdersWf s.data)
    (hskip : ∀ line told s', NotShipped fault dispatch orderId s line told s' → Q (line, told) s')
    (hship : ∀ held ∈ s.data.orders, held.id = orderId → held.unifiedStatus = .paid →
      dispatch.Takes orderId → ∀ row s₁ s₂ line s', ShippedByHand held row s s₁ s₂ →
        s'.data = s₂.data → (∀ c, Books c s → Books c s') → line.orderId = orderId →
          line.ok = true → Q (line, true) s') :
    (shipOneTold fault dispatch orderId).wp Q E s := by
  unfold shipOneTold loadTarget
  simp only [bind_eq, wp_bind, getOrder, wp_select]
  cases hfind : s.data.orders.find? fun o => o.id = orderId with
  | none => exact hskip _ _ s ⟨rfl, rfl, rfl, fun _ hb => hb, by simp, by simp⟩
  | some held =>
    obtain ⟨hmem, hid⟩ := (find?_eq_some_iff hw.ids).mp hfind
    simp only [wp_bind, getShipment, wp_select, pure_eq, wp_ret]
    cases hrefuse : (refuseShip held.unifiedStatus).or (reviewBlocksShip held.reviewStatus) with
    | some reason => exact hskip _ _ s ⟨hid, rfl, rfl, fun _ hb => hb, by simp, by simp⟩
    | none =>
      have hpaid := refuseShip_eq_none (Option.or_eq_none_iff.mp hrefuse).1
      exact wp_attemptShip hb hw hmem hid rfl hskip (hship held hmem hid hpaid)

/-- Shipping one order either leaves everything but its shipment as it is, or ships a paid order. -/
theorem wp_shipOne {Q : ShipLine → WorkState → Prop} {E : ServiceError → WorkState → Prop}
    (hb : Books c s) (hw : OrdersWf s.data)
    (hskip : ∀ line s', s'.data = { s.data with shipments := s'.data.shipments } → Q line s')
    (hship : ∀ held ∈ s.data.orders, held.id = orderId → held.unifiedStatus = .paid →
      ∀ row s₁ s₂ line s', ShippedByHand held row s s₁ s₂ → s'.data = s₂.data → Q line s') :
    (shipOne dispatch orderId).wp Q E s := by
  rw [← map_shipOneTold, Prog.map, wp_bind]
  exact wp_shipOneTold hb hw (fun line told s' hs => hskip line s' hs.frame)
    fun held hmem hid hpaid _ row s₁ s₂ line s' hs hdata _ _ _ =>
      hship held hmem hid hpaid row s₁ s₂ line s' hs hdata

/-- The request to ship one order. -/
theorem wp_batchShip_one {Q : List ShipLine → WorkState → Prop}
    {E : ServiceError → WorkState → Prop} (hb : Books c s) (hw : OrdersWf s.data)
    (hskip : ∀ lines s', s'.data = { s.data with shipments := s'.data.shipments } → Q lines s')
    (hship : ∀ held ∈ s.data.orders, held.id = orderId → held.unifiedStatus = .paid →
      ∀ row s₁ s₂ lines s', ShippedByHand held row s s₁ s₂ → s'.data = s₂.data → Q lines s')
    (he : ∀ e, E e s) : (batchShip dispatch [orderId]).wp Q E s := by
  unfold batchShip
  have hunique : dedupeIds [orderId] = [orderId] := rfl
  have hsize : checkBatchSize [orderId].length = .ret () := rfl
  simp only [hunique, hsize, bind_eq, wp_bind, wp_ret]
  split
  · exact he _
  · simp only [runShipBatch, bind_eq, wp_bind, pure_eq, wp_ret]
    exact wp_shipOne hb hw (fun line s' hs => hskip [line] s' hs)
      fun held hmem hid hpaid row s₁ s₂ line s' hs hd =>
        hship held hmem hid hpaid row s₁ s₂ [line] s' hs hd

end ship

end CrossPilot
