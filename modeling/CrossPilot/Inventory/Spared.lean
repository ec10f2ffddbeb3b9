import CrossPilot.Inventory.Rules
import CrossPilot.Lib.LastRead
import CrossPilot.Order.Ship

/-!
# Rows of other tables

Reserving, releasing and shipping the stock of an order writes balances, ledger lines and holds. A
row of any other table is neither locked nor changed by it.
-/

namespace CrossPilot

open Transaction

/-- A row of a table that reserving, releasing and shipping do not write. -/
structure ForeignRow {V : Type} (row : Row Db RowKey V) : Prop where
  balance_ne : ∀ id, row.lock ≠ .inventory id
  hold_ne : ∀ id, row.lock ≠ .hold id
  holdOf_ne : ∀ orderItemId, row.lock ≠ .holdOf orderItemId
  balances : ∀ d balances, row.seen { d with inventories := balances } = row.seen d
  ledger : ∀ d flows, row.seen { d with flows := flows } = row.seen d
  holds : ∀ d holds, row.seen { d with holds := holds } = row.seen d

namespace ForeignRow

variable {V : Type} {row : Row Db RowKey V} (h : ForeignRow row)

/-- The program leaves the row alone and draws ids at most. -/
abbrev Spared (row : Row Db RowKey V) {α : Type} (p : Work α) : Prop :=
  p.Spares row Session.Drawn

lemma spares_orRaise {α : Type} (e : ServiceError) (o : Option α) : Spared row (orRaise e o) := by
  cases o with
  | none => exact .fail e
  | some a => exact .ret a

lemma spares_nextSnowflakeId : Spared row nextSnowflakeId :=
  (Prog.Spares.query _).bind fun _ =>
    (Prog.Spares.remember fun _ => ⟨1, fun _ => rfl⟩).bind fun _ => .ret _

lemma spares_present (balance : Inventory) : Spared row (present balance) := by
  refine (Prog.Spares.query _).bind fun held => ?_
  cases held with
  | some held => exact .ret held
  | none => exact (Prog.Spares.remember fun l => .refl l).bind fun _ => .ret balance

lemma spares_refresh (inventoryId : ℕ) : Spared row (refresh inventoryId) := by
  refine (Prog.Spares.select _).bind fun found => ?_
  cases found with
  | none => exact .ret none
  | some balance => exact (Prog.Spares.remember fun l => .refl l).bind fun _ => .ret _

lemma spares_getPair (skuId warehouseId : ℕ) : Spared row (getPair skuId warehouseId) := by
  refine (Prog.Spares.select _).bind fun found => ?_
  cases found with
  | none => exact .ret none
  | some balance => exact (spares_present balance).bind fun _ => .ret _

lemma spares_listForSku (skuId : ℕ) : Spared row (listForSku skuId) := by
  refine (Prog.Spares.select _).bind fun pairs => ?_
  induction pairs with
  | nil => exact .ret []
  | cons pair rest ih => exact (spares_present pair.1).bind fun _ => ih.bind fun _ => .ret _

include h

lemma spares_applyOnce (balance : Inventory) (δ : Delta) : Spared row (applyOnce balance δ) := by
  have hchange : Spared row (applyChange balance.id balance.version δ) := by
    refine (Prog.Spares.update (fun d hlock => ?_) fun ts d => h.balances _ _).bind
      fun rowcount => ?_
    · obtain ⟨r, -, hr⟩ := List.mem_map.mp hlock
      exact h.balance_ne r.id hr.symm
    · split
      · exact .ret _
      · refine (spares_refresh _).bind fun found => ?_
        cases found with
        | none => exact .ret _
        | some current => exact .ret _
  refine hchange.bind fun status => ?_
  cases status with
  | applied => exact (spares_refresh _).bind fun _ => .ret _
  | conflict => exact (spares_refresh _).bind fun _ => .ret _
  | _ => exact .ret _

lemma spares_appendFlow (balance : Inventory) (note : FlowNote) (beforeQty afterQty : ℤ) :
    Spared row (appendFlow balance note beforeQty afterQty) := .insert fun _ => h.ledger _ _

lemma spares_commitChange (balance : Inventory) (note : FlowNote) (δ : Delta) :
    Spared row (commitChange balance note δ) := by
  unfold commitChange
  induction versionRetries generalizing balance with
  | zero => exact .fail _
  | succ tries ih =>
    refine (h.spares_applyOnce balance δ).bind fun r => ?_
    obtain ⟨status, fresh⟩ := r
    cases status <;> cases fresh
    case applied.some fresh => exact (h.spares_appendFlow _ _ _ _).bind fun _ => .ret _
    case conflict.some fresh => exact ih fresh
    all_goals exact .fail _

/-! ### Draws -/

lemma spares_takePlanned (mode : DrawMode) (refType : String) (refId : ℕ)
    (pairs : List (Inventory × Warehouse)) (planned : List Allocation) (state : DrawState) :
    Spared row (takePlanned mode refType refId pairs planned state) := by
  induction planned generalizing state with
  | nil => exact .ret state
  | cons alloc rest ih =>
    refine (spares_orRaise _ _).bind fun pair => (h.spares_applyOnce _ _).bind fun r => ?_
    obtain ⟨status, fresh⟩ := r
    cases status <;> cases fresh
    case applied.some fresh => exact (h.spares_appendFlow _ _ _ _).bind fun _ => ih _
    all_goals exact .ret _

lemma spares_draw (skuId : ℕ) (quantity : ℤ) (mode : DrawMode) (refType : String) (refId : ℕ) :
    Spared row (draw skuId quantity mode refType refId) := by
  have hloop (rounds : ℕ) (state : DrawState) :
      Spared row (drawLoop skuId mode refType refId rounds state) := by
    induction rounds generalizing state with
    | zero => exact .ret state
    | succ rounds ih =>
      simp only [drawLoop]
      split
      · exact .ret state
      · refine (spares_listForSku skuId).bind fun pairs => ?_
        split
        · exact .fail _
        · split
          · exact .ret state
          · refine (h.spares_takePlanned _ _ _ _ _ _).bind fun state' => ?_
            split
            · exact ih state'
            · exact .ret state'
  exact (hloop _ _).bind fun _ => .ret _

/-! ### Holds -/

lemma spares_addHold (orderId orderItemId skuId : ℕ) (quantity shortQty : ℤ)
    (allocations : List Allocation) (status : HoldStatus) :
    Spared row (addHold orderId orderItemId skuId quantity shortQty allocations status) := by
  refine spares_nextSnowflakeId.bind fun id =>
    (Prog.Spares.update (fun _ hlock => ?_) fun _ d => ?_).bind fun violated => ?_
  · exact h.holdOf_ne orderItemId (List.mem_singleton.mp hlock)
  · split
    · rfl
    · exact h.holds _ _
  · cases violated with
    | true => exact .fail _
    | false => exact .ret _

lemma spares_updateHold (holdId : ℕ) (f : InventoryHold → InventoryHold) :
    Spared row (updateHold holdId f) :=
  .update (fun _ hlock => h.hold_ne holdId (List.mem_singleton.mp hlock)) fun _ _ => h.holds _ _

lemma spares_settleAlloc (way : Settlement) (orderId skuId : ℕ) (alloc : Allocation) :
    Spared row (settleAlloc way orderId skuId alloc) := by
  refine (spares_getPair _ _).bind fun found => ?_
  cases found with
  | none => cases way with
    | release => exact .ret ()
    | ship => exact .fail _
  | some balance => exact (h.spares_commitChange _ _ _).bind fun _ => .ret ()

lemma spares_reserveItem (item : OrderItem) : Spared row (reserveItem item) := by
  unfold reserveItem
  split
  · refine (Prog.Spares.select _).bind fun existing => ?_
    split
    · exact .ret ()
    · refine (h.spares_draw _ _ _ _ _).bind fun r => ?_
      cases existing with
      | none => exact h.spares_addHold _ _ _ _ _ _ _
      | some hold => exact h.spares_updateHold _ _
  · exact .ret ()

lemma spares_shipItem (item : OrderItem) : Spared row (shipItem item) := by
  have hfree (skuId : ℕ) : Spared row (shipFree item skuId) :=
    (h.spares_draw _ _ _ _ _).bind fun _ => h.spares_addHold _ _ _ _ _ _ _
  unfold shipItem
  split
  · refine (Prog.Spares.select _).bind fun found => ?_
    cases found with
    | none => exact hfree _
    | some hold =>
      dsimp only
      split
      · exact .ret ()
      · refine (Prog.Spares.forEach fun alloc _ => ?_).bind fun _ => h.spares_updateHold _ _
        exact h.spares_settleAlloc _ _ _ _
      · exact h.spares_updateHold _ _
      · exact hfree _
  · exact .ret ()

lemma spares_releaseHold (hold : InventoryHold) : Spared row (releaseHold hold) := by
  unfold releaseHold
  split
  · exact .ret ()
  · refine (Prog.Spares.forEach fun alloc _ => ?_).bind fun _ => h.spares_updateHold _ _
    exact h.spares_settleAlloc _ _ _ _

/-! ### Orders -/

lemma spares_reserveOrder (orderId : ℕ) : Spared row (reserveOrder orderId) :=
  (Prog.Spares.select _).bind fun _ => .forEach fun item _ => h.spares_reserveItem item

lemma spares_releaseOrder (orderId : ℕ) : Spared row (releaseOrder orderId) :=
  (Prog.Spares.select _).bind fun _ => .forEach fun hold _ => h.spares_releaseHold hold

lemma spares_shipOrder (orderId : ℕ) : Spared row (shipOrder orderId) :=
  (Prog.Spares.select _).bind fun _ => .forEach fun item _ => h.spares_shipItem item

lemma spares_syncInventory (orderId : ℕ) (decision : StatusDecision) :
    Spared row (syncInventory orderId decision) := by
  simp only [syncInventory]
  split_ifs
  · exact h.spares_releaseOrder orderId
  · exact h.spares_reserveOrder orderId
  · exact (h.spares_reserveOrder orderId).bind fun _ => h.spares_shipOrder orderId
  · exact h.spares_shipOrder orderId
  · exact .ret ()

omit h in
/-- A row of a table other than that of the shipments. -/
lemma spares_saveShipment (hlock : ∀ orderId, row.lock ≠ .shipment orderId)
    (hseen : ∀ d shipments, row.seen { d with shipments := shipments } = row.seen d)
    (shipment : Shipment) : Spared row (saveShipment shipment) := by
  refine (Prog.Spares.select _).bind fun found => ?_
  cases found with
  | none =>
    refine spares_nextSnowflakeId.bind fun id =>
      (Prog.Spares.update (fun _ hmem => ?_) fun _ d => ?_).bind fun violated => ?_
    · exact hlock _ (List.mem_singleton.mp hmem)
    · dsimp only
      split
      · rfl
      · exact hseen _ _
    · cases violated with
      | true => exact .fail _
      | false => exact .ret ()
  | some old =>
    exact .update (fun _ hmem => hlock _ (List.mem_singleton.mp hmem)) fun _ _ => hseen _ _

end ForeignRow

end CrossPilot
