import CrossPilot.Inventory.Runs
import CrossPilot.Order.Ingest

/-!
# What storing a snapshot does

`upsert` in a transaction that runs alone: it either leaves everything as it is, since the stored
row is as new as the snapshot, or puts the row of the snapshot in place and gives the order new
lines (`Replaced`). The books of reserved stock are not touched. The ids of the new lines are ones
that no hold has, so that an order has no holds for its current lines after it has been stored.
-/

namespace CrossPilot

open Transaction Table Prog

/-- The unique indexes of the orders. -/
structure OrdersWf (d : Db) : Prop where
  ids : Keyed SalesOrder.id d.orders
  keys : Keyed SalesOrder.idempotencyKey d.orders

lemma written_self {α : Type} [DecidableEq α] (loaded changed : α) :
    written loaded changed loaded = changed := by
  unfold written
  split
  · rename_i h
    exact h.symm
  · rfl

/-- Nobody else has changed the row: then it becomes what the writer wants. -/
lemma merge_applyStatus (existing : SalesOrder) (order : UnifiedOrder) (decision : StatusDecision) :
    existing.merge (applyStatus existing order decision) existing =
      applyStatus existing order decision := by
  unfold SalesOrder.merge
  simp only [written_self]
  by_cases h : decision.kind = .apply <;> simp [applyStatus, stamp, h]

@[simp] lemma applyStatus_id (row : SalesOrder) (order : UnifiedOrder) (decision : StatusDecision) :
    (applyStatus row order decision).id = row.id := by
  by_cases h : decision.kind = .apply <;> simp [applyStatus, stamp, h]

@[simp] lemma applyStatus_key (row : SalesOrder) (order : UnifiedOrder)
    (decision : StatusDecision) :
    (applyStatus row order decision).idempotencyKey = row.idempotencyKey := by
  by_cases h : decision.kind = .apply <;> simp [applyStatus, stamp, h]

@[simp] lemma applyStatus_shopId (row : SalesOrder) (order : UnifiedOrder)
    (decision : StatusDecision) : (applyStatus row order decision).shopId = row.shopId := by
  by_cases h : decision.kind = .apply <;> simp [applyStatus, stamp, h]

@[simp] lemma applyStatus_platformCode (row : SalesOrder) (order : UnifiedOrder)
    (decision : StatusDecision) :
    (applyStatus row order decision).platformCode = row.platformCode := by
  by_cases h : decision.kind = .apply <;> simp [applyStatus, stamp, h]

@[simp] lemma applyStatus_unifiedStatus (row : SalesOrder) (order : UnifiedOrder)
    (decision : StatusDecision) :
    (applyStatus row order decision).unifiedStatus = decision.toStatus := by
  by_cases h : decision.kind = .apply <;> simp [applyStatus, stamp, h]

@[simp] lemma applyStatus_platformUpdatedAt (row : SalesOrder) (order : UnifiedOrder)
    (decision : StatusDecision) :
    (applyStatus row order decision).platformUpdatedAt = some order.updatedAt := by
  by_cases h : decision.kind = .apply <;> simp [applyStatus, stamp, h]

/-- The columns of a row that come from the platform show this snapshot. The time of payment is kept
if the snapshot does not have it. -/
structure Mirrors (order : UnifiedOrder) (row : SalesOrder) : Prop where
  platformStatus : row.platformStatus = Text.truncate 64
    (if order.platformStatus = "" then row.unifiedStatus.value else order.platformStatus)
  buyerInfo : row.buyerInfo = buyer order
  shipTo : row.shipTo = CrossPilot.shipTo order
  currency : row.currency = order.currency
  itemAmount : row.itemAmount = lineAmount order
  totalAmount : row.totalAmount = money order.totalAmount
  updatedAt : row.platformUpdatedAt = some order.updatedAt
  paidAt : order.paidAt ≠ none → row.paidAt = order.paidAt
  rawPayload : row.rawPayload = order.raw

lemma mirrors_applyStatus (row : SalesOrder) (order : UnifiedOrder) (decision : StatusDecision) :
    Mirrors order (applyStatus row order decision) := by
  have hpaid : order.paidAt ≠ none → (applyStatus row order decision).paidAt = order.paidAt := by
    intro hpaid
    by_cases h : decision.kind = .apply <;> simp [applyStatus, stamp, h, hpaid]
  by_cases h : decision.kind = .apply
  · exact ⟨by simp [applyStatus, stamp, h], by simp [applyStatus, stamp, h],
      by simp [applyStatus, stamp, h], by simp [applyStatus, stamp, h],
      by simp [applyStatus, stamp, h], by simp [applyStatus, stamp, h],
      by simp [applyStatus, stamp, h], hpaid, by simp [applyStatus, stamp, h]⟩
  · exact ⟨by simp [applyStatus, h], by simp [applyStatus, h], by simp [applyStatus, h],
      by simp [applyStatus, h], by simp [applyStatus, h], by simp [applyStatus, h],
      by simp [applyStatus, h], hpaid, by simp [applyStatus, h]⟩

/-- The review is not a column of the platform. -/
lemma Mirrors.review {order : UnifiedOrder} {row : SalesOrder} (h : Mirrors order row)
    (status : ReviewStatus) : Mirrors order { row with reviewStatus := status } :=
  ⟨h.platformStatus, h.buyerInfo, h.shipTo, h.currency, h.itemAmount, h.totalAmount, h.updatedAt,
    h.paidAt, h.rawPayload⟩

/-! ### The lines -/

/-- The new lines of an order. -/
def newLines (column : SkuColumn) (row : SalesOrder) (ids : ℕ → ℕ)
    (items : List UnifiedOrderItem) : List OrderItem :=
  items.mapIdx fun i item => itemRow column row (ids i) item

section statements

variable {column : SkuColumn} {row : SalesOrder} {s : WorkState} {Q : Unit → WorkState → Prop}
  {E : ServiceError → WorkState → Prop}

/-- The stream of ids after some have been drawn. -/
def Session.drawn (l : Session) (k : ℕ) : Session := { l with ids := fun n => l.ids (n + k) }

lemma wp_addItems (items : List UnifiedOrderItem) :
    (Prog.forEach items (addItem column row)).wp Q E s ↔ Q () { s with
      session := s.session.drawn items.length
      data := { s.data with items := s.data.items ++ newLines column row s.session.ids items } } := by
  induction items generalizing s with
  | nil => simp [Prog.forEach, newLines, Session.drawn]
  | cons item rest ih =>
    rw [Prog.forEach, wp_bind]
    simp only [addItem, bind_eq, wp_bind, wp_nextSnowflakeId, wp_insert, ih]
    simp [newLines, Session.drawn, List.mapIdx_cons, Nat.add_assoc]

lemma wp_addFees (fees : List UnifiedFee) :
    (Prog.forEach fees (addFee row)).wp Q E s ↔ Q () { s with
      session := s.session.drawn fees.length
      data := { s.data with
        fees := s.data.fees ++ fees.mapIdx fun i fee => feeRow row (s.session.ids i) fee } } := by
  induction fees generalizing s with
  | nil => simp [Prog.forEach, Session.drawn]
  | cons fee rest ih =>
    rw [Prog.forEach, wp_bind]
    simp only [addFee, bind_eq, wp_bind, wp_nextSnowflakeId, wp_insert, ih]
    simp [Session.drawn, List.mapIdx_cons, Nat.add_assoc]

/-- The lines and fees of the order are gone. -/
def Db.withoutLines (d : Db) (orderId : ℕ) : Db :=
  { d with items := d.items.filter fun i => i.orderId ≠ orderId }

def Db.withoutFees (d : Db) (orderId : ℕ) : Db :=
  { d with fees := d.fees.filter fun f => f.orderId ≠ orderId }

lemma wp_replaceItems {order : UnifiedOrder} {pending : Work Unit} :
    (replaceItems column row order pending).wp Q E s ↔
      pending.wp (fun _ s₁ => Q () { s₁ with
        session := s₁.session.drawn order.items.length
        data := { s₁.data with
          items := s₁.data.items ++ newLines column row s₁.session.ids order.items } })
        E { s with data := s.data.withoutLines row.id } := by
  have hkept : s.data.items.filter (fun i => ¬ (RowKey.item i.id ∈
      (s.data.items.filter fun i => i.orderId = row.id).map (fun i => RowKey.item i.id) ∧
        i.orderId = row.id)) = s.data.items.filter fun i => i.orderId ≠ row.id := by
    apply List.filter_congr
    intro i hi
    by_cases h : i.orderId = row.id
    · simp only [h, and_true, ne_eq, not_true_eq_false, decide_false, decide_eq_false_iff_not,
        not_not]
      exact List.mem_map.mpr ⟨i, by simpa using ⟨hi, h⟩, rfl⟩
    · simp [h]
  simp only [replaceItems, bind_eq, wp_bind, wp_update, hkept, wp_addItems]
  rfl

lemma wp_replaceFees {order : UnifiedOrder} :
    (replaceFees row order).wp Q E s ↔ Q () { s with
      session := s.session.drawn order.fees.length
      data := { s.data.withoutFees row.id with
        fees := (s.data.withoutFees row.id).fees ++
          order.fees.mapIdx fun i fee => feeRow row (s.session.ids i) fee } } := by
  have hkept : s.data.fees.filter (fun f => ¬ (RowKey.fee f.id ∈
      (s.data.fees.filter fun f => f.orderId = row.id).map (fun f => RowKey.fee f.id) ∧
        f.orderId = row.id)) = s.data.fees.filter fun f => f.orderId ≠ row.id := by
    apply List.filter_congr
    intro f hf
    by_cases h : f.orderId = row.id
    · simp only [h, and_true, ne_eq, not_true_eq_false, decide_false, decide_eq_false_iff_not,
        not_not]
      exact List.mem_map.mpr ⟨f, by simpa using ⟨hf, h⟩, rfl⟩
    · simp [h]
  simp only [replaceFees, bind_eq, wp_bind, wp_update, hkept, wp_addFees]
  rfl

end statements

/-! ### Storing -/

/-- The row of a snapshot is in place, with new lines; `k` ids have been drawn, the new lines have
theirs from the `j`-th on. -/
structure Replaced (column : SkuColumn) (order : UnifiedOrder) (row : SalesOrder) (j k : ℕ)
    (s s' : WorkState) : Prop where
  session : s'.session = s.session.drawn k
  marks : s'.marks = s.marks
  orders : s'.data.orders = put SalesOrder.id row s.data.orders
  items : s'.data.items = s.data.items.filter (fun i => i.orderId ≠ row.id) ++
    newLines column row (fun n => s.session.ids (n + j)) order.items
  drawn : j + order.items.length ≤ k
  known : Uses s.data row.id ∨ ∃ n < j, row.id = s.session.ids n
  frame : s'.data = { s.data with
    orders := s'.data.orders
    items := s'.data.items
    fees := s'.data.fees }

/-- The fees of a snapshot. -/
def newFees (row : SalesOrder) (ids : ℕ → ℕ) (fees : List UnifiedFee) : List OrderFee :=
  fees.mapIdx fun i fee => feeRow row (ids i) fee

/-- The row of a snapshot is in place, with new lines and new fees. -/
structure Rewritten (column : SkuColumn) (order : UnifiedOrder) (row : SalesOrder) (j k : ℕ)
    (s s' : WorkState) : Prop extends Replaced column order row j k s s' where
  fees : ∃ ids, s'.data.fees = s.data.fees.filter (fun f => f.orderId ≠ row.id) ++
    newFees row ids order.fees

lemma mem_newLines {column : SkuColumn} {row : SalesOrder} {ids : ℕ → ℕ}
    {items : List UnifiedOrderItem} {i : OrderItem} :
    i ∈ newLines column row ids items ↔
      ∃ n item, items[n]? = some item ∧ i = itemRow column row (ids n) item := by
  unfold newLines
  rw [List.mem_mapIdx]
  constructor
  · rintro ⟨n, h, rfl⟩
    exact ⟨n, items[n], List.getElem?_eq_getElem h, rfl⟩
  · rintro ⟨n, item, h, rfl⟩
    obtain ⟨hn, rfl⟩ := List.getElem?_eq_some_iff.mp h
    exact ⟨n, hn, rfl⟩

lemma keyed_newLines {column : SkuColumn} {row : SalesOrder} {ids : ℕ → ℕ}
    (hids : Function.Injective ids) (items : List UnifiedOrderItem) :
    Keyed OrderItem.id (newLines column row ids items) := by
  have hmap : (newLines column row ids items).map OrderItem.id =
      (List.range items.length).map ids := by
    unfold newLines
    apply List.ext_getElem
    · simp
    · intro n h₁ h₂
      simp [itemRow]
  unfold Keyed
  rw [hmap]
  exact (List.nodup_range).map hids

namespace Replaced

variable {column : SkuColumn} {order : UnifiedOrder} {row : SalesOrder} {j k : ℕ}
  {s s' : WorkState} {c : ℕ → ℕ → ℤ}

lemma holds (h : Replaced column order row j k s s') : s'.data.holds = s.data.holds := by
  rw [h.frame]

lemma inventories (h : Replaced column order row j k s s') :
    s'.data.inventories = s.data.inventories := by
  rw [h.frame]

/-- A line of the order has an id that was not in use. -/
lemma item_id (h : Replaced column order row j k s s') {i : OrderItem} (hi : i ∈ s'.data.items)
    (ho : i.orderId = row.id) : ∃ n < k, i.id = s.session.ids n := by
  rw [h.items] at hi
  rcases List.mem_append.mp hi with hi | hi
  · simp [ho] at hi
  · obtain ⟨n, item, hn, rfl⟩ := mem_newLines.mp hi
    have hlt := (List.getElem?_eq_some_iff.mp hn).1
    have := h.drawn
    exact ⟨n + j, by omega, rfl⟩

/-- No hold is for a current line of the order. -/
lemma hold_ne (h : Replaced column order row j k s s') (hf : Fresh s) {hold : InventoryHold}
    (hh : hold ∈ s'.data.holds) {i : OrderItem} (hi : i ∈ s'.data.items)
    (ho : i.orderId = row.id) : hold.orderItemId ≠ i.id := by
  obtain ⟨n, -, hid⟩ := h.item_id hi ho
  intro heq
  rw [h.holds] at hh
  exact hf.unused n (.hold hh (.inr (.inl (hid.symm.trans heq.symm))))

/-- The books are as they were. -/
theorem books (h : Replaced column order row j k s s') (hb : Books c s) : Books c s' := by
  obtain ⟨⟨hshelf, hcoherent⟩, ⟨hinj, hunused⟩, hwf, hslack, hocc⟩ := hb
  have hitem : ∀ i ∈ s'.data.items, i ∈ s.data.items ∨
      i.orderId = row.id ∧ ∃ n < k, i.id = s.session.ids n := by
    intro i hi
    by_cases ho : i.orderId = row.id
    · exact .inr ⟨ho, h.item_id hi ho⟩
    · rw [h.items] at hi
      rcases List.mem_append.mp hi with hi | hi
      · exact .inl (List.mem_filter.mp hi).1
      · obtain ⟨n, item, -, rfl⟩ := mem_newLines.mp hi
        exact absurd rfl ho
  have hids : ∀ n, s'.session.ids n = s.session.ids (n + k) := by
    intro n
    rw [h.session]
    rfl
  -- an id that was drawn is not drawn again, and neither is the id of the order
  have hpast : ∀ {n m : ℕ}, m < k → s'.session.ids n ≠ s.session.ids m := by
    intro n m hm heq
    rw [hids] at heq
    have := hinj heq
    omega
  have horder : ∀ n, s'.session.ids n ≠ row.id := by
    intro n heq
    rcases h.known with huses | ⟨m, hm, hrow⟩
    · rw [hids] at heq
      exact hunused _ (heq ▸ huses)
    · exact hpast (by have := h.drawn; omega) (heq.trans hrow)
  refine ⟨⟨h.inventories ▸ hshelf, ?_⟩, ⟨?_, ?_⟩, ⟨h.holds ▸ hwf.ids, h.holds ▸ hwf.items, ?_,
    h.holds ▸ hwf.positive, h.holds ▸ hwf.quantity, h.holds ▸ hwf.short, ?_⟩, hslack, ?_⟩
  · rw [h.session, h.inventories]
    exact hcoherent
  · intro m n hmn
    rw [hids, hids] at hmn
    have := hinj hmn
    omega
  · rintro n (⟨hm, hid⟩ | ⟨hm, hid⟩ | ⟨hm, hid⟩ | ⟨hm, hid⟩)
    · rw [h.holds] at hm
      rw [hids] at hid
      exact hunused _ (.hold hm hid)
    · rcases hitem _ hm with hold | ⟨ho, m, hm', heq⟩
      · rw [hids] at hid
        exact hunused _ (.item hold hid)
      · rcases hid with hid | hid
        · exact hpast hm' (hid.trans heq)
        · exact horder n (hid.trans ho)
    · rw [h.orders] at hm
      rcases mem_put.mp hm with rfl | ⟨hm, -⟩
      · exact horder n hid
      · rw [hids] at hid
        exact hunused _ (.order hm hid)
    · rw [h.inventories] at hm
      rw [hids] at hid
      exact hunused _ (.balance hm hid)
  · rw [h.items]
    unfold Keyed
    rw [List.map_append, List.nodup_append]
    refine ⟨(List.filter_sublist.map _).nodup hwf.lines, keyed_newLines ?_ _, ?_⟩
    · intro m n hmn
      have := hinj hmn
      omega
    · intro a ha b hb heq
      obtain ⟨i, hi, rfl⟩ := List.mem_map.mp ha
      obtain ⟨i', hi', rfl⟩ := List.mem_map.mp hb
      obtain ⟨n, item, -, rfl⟩ := mem_newLines.mp hi'
      exact hunused _ (.item (List.mem_filter.mp hi).1 (.inl heq.symm))
  · intro hold hh i hi heq
    rcases hitem i hi with hin | ⟨ho, n, -, hid⟩
    · rw [h.holds] at hh
      exact hwf.linked hold hh i hin heq
    · rw [h.holds] at hh
      exact absurd (.hold hh (.inr (.inl (hid.symm.trans heq.symm)))) (hunused n)
  · intro t w
    have := hocc t w
    unfold balanceAt heldIn at this ⊢
    rw [h.inventories, h.holds]
    exact this

lemma ordersWf (h : Replaced column order row j k s s') (hw : OrdersWf s.data)
    (hkey : ∀ o ∈ s.data.orders, o.idempotencyKey = row.idempotencyKey → o.id = row.id) :
    OrdersWf s'.data := by
  refine ⟨?_, ?_⟩
  · rw [h.orders]
    exact hw.ids.put row
  · rw [h.orders]
    exact hw.keys.put_of hw.ids hkey

/-- A savepoint is of no consequence if nothing fails. -/
lemma unmark {s' : WorkState}
    (h : Replaced column order row j k { s with marks := s.data :: s.marks } s') :
    Replaced column order row j k s { s' with marks := s'.marks.tail } :=
  ⟨h.session, by rw [h.marks]; rfl, h.orders, h.items, h.drawn, h.known, h.frame⟩

end Replaced

lemma Rewritten.unmark {column : SkuColumn} {order : UnifiedOrder} {row : SalesOrder} {j k : ℕ}
    {s s' : WorkState} (h : Rewritten column order row j k { s with marks := s.data :: s.marks } s') :
    Rewritten column order row j k s { s' with marks := s'.marks.tail } :=
  ⟨h.toReplaced.unmark, h.fees⟩

section upsert

variable {column : SkuColumn} {shop : Shop} {order : UnifiedOrder} {key : String}
  {resolve : Option UnifiedStatus → StatusDecision} {s : WorkState} {Q : Upserted → WorkState → Prop}
  {E : ServiceError → WorkState → Prop}

lemma put_merge {existing row : SalesOrder} {orders : List SalesOrder}
    (hids : Keyed SalesOrder.id orders) (hmem : existing ∈ orders) (hid : row.id = existing.id)
    (hmerge : existing.merge row existing = row) :
    alter SalesOrder.id existing.id (existing.merge row) orders = put SalesOrder.id row orders := by
  rw [put_of_mem hmem hid.symm, hid]
  apply List.map_congr_left
  intro o ho
  split
  · rename_i heq
    rw [hids.eq_of_key_eq ho hmem heq, hmerge]
  · rfl

/-- Nobody else has changed the row. -/
lemma wp_saveOrder {Q : Unit → WorkState → Prop} {loaded changed : SalesOrder}
    (hids : Keyed SalesOrder.id s.data.orders) (hmem : loaded ∈ s.data.orders)
    (hid : changed.id = loaded.id) (hmerge : loaded.merge changed loaded = changed) :
    (saveOrder loaded changed).wp Q E s ↔
      Q () { s with data := { s.data with orders := put SalesOrder.id changed s.data.orders } } := by
  simp only [saveOrder, wp_update, put_merge hids hmem hid hmerge]

/-- The row that was read is overwritten. -/
lemma wp_overwrite {existing : SalesOrder} (hw : OrdersWf s.data) (hmem : existing ∈ s.data.orders)
    (h : ∀ row s' k, row = applyStatus existing order (resolve (some existing.unifiedStatus)) →
      Rewritten column order row 0 k s s' →
      Q (.update, some (resolve (some existing.unifiedStatus)), some row) s') :
    (overwrite column existing order resolve).wp Q E s := by
  simp only [overwrite, replaceChildren, bind_eq, wp_bind, wp_replaceItems, wp_replaceFees, pure_eq,
    wp_ret]
  rw [wp_saveOrder (s := { s with data := s.data.withoutLines _ }) hw.ids hmem
    (applyStatus_id _ _ _) (merge_applyStatus _ _ _)]
  refine h _ _ (order.fees.length + order.items.length) rfl
    ⟨⟨?_, rfl, rfl, rfl, by omega, ?_, rfl⟩, _, rfl⟩
  · simp [Session.drawn, Nat.add_assoc]
  · exact .inl (.order hmem (applyStatus_id _ _ _))

/-- A new order is added. -/
lemma wp_insertNew (hnone : ∀ o ∈ s.data.orders, o.idempotencyKey ≠ key)
    (hunused : ∀ o ∈ s.data.orders, o.id ≠ s.session.ids 0)
    (h : ∀ row s' k, row = newOrder (s.session.ids 0) shop order key (resolve none) →
      Rewritten column order row 1 k s s' →
      Q (.insert, some (resolve none), some row) s') :
    (insertNew column shop order key resolve).wp Q E s := by
  have hkey : ∀ id, (newOrder id shop order key (resolve none)).idempotencyKey = key := fun id => by
    simp [newOrder]
  have hid : ∀ id, (newOrder id shop order key (resolve none)).id = id := fun id => by
    simp [newOrder]
  have hany : s.data.orders.any (fun o => o.idempotencyKey = key) = false := by
    simpa using hnone
  have hput : s.data.orders ++ [newOrder (s.session.ids 0) shop order key (resolve none)] =
      put SalesOrder.id (newOrder (s.session.ids 0) shop order key (resolve none))
        s.data.orders := by
    rw [put_of_forall_ne]
    intro o ho heq
    rw [hid] at heq
    exact hunused o ho heq
  simp only [insertNew, addOrder, bind_eq, wp_bind, wp_nextSnowflakeId, wp_update, hkey, hany,
    Bool.false_eq_true, if_false, pure_eq, wp_ret, replaceChildren, wp_replaceItems,
    wp_replaceFees]
  refine h _ _ (1 + order.items.length + order.fees.length) rfl
    ⟨⟨?_, rfl, hput, rfl, by omega, .inr ⟨0, by omega, hid _⟩, rfl⟩, _, rfl⟩
  simp only [Session.drawn]
  congr 1
  funext n
  congr 1
  omega

lemma wp_orderKey {Q : String → WorkState → Prop}
    (hkey : order.key shop = some key) : (orderKey shop order).wp Q E s ↔ Q key s := by
  rw [orderKey, hkey]
  rfl

/-- The stored row is as new as the snapshot, or newer. -/
def UpToDate (row : SalesOrder) (order : UnifiedOrder) : Prop :=
  ∃ stored, row.platformUpdatedAt = some stored ∧ order.updatedAt ≤ stored

lemma decideWrite_eq_skip {row : SalesOrder} :
    decideWrite row.platformUpdatedAt order.updatedAt = .skip ↔ UpToDate row order := by
  unfold decideWrite UpToDate
  cases row.platformUpdatedAt with
  | none => simp
  | some stored =>
    simp only [Option.some.injEq, exists_eq_left']
    split
    · rename_i hlt
      simpa using hlt
    · rename_i hle
      simpa using hle

/-- A snapshot is passed over, stored as a new order, or stored in the row of its order. -/
theorem wp_upsert (hw : OrdersWf s.data) (hunused : ∀ o ∈ s.data.orders, o.id ≠ s.session.ids 0)
    (hkey : order.key shop = some key)
    (hskip : ∀ existing ∈ s.data.orders, existing.idempotencyKey = key →
      UpToDate existing order → Q (.skip, none, none) s)
    (hinsert : ∀ row s' k, (∀ o ∈ s.data.orders, o.idempotencyKey ≠ key) →
      row = newOrder (s.session.ids 0) shop order key (resolve none) →
      Rewritten column order row 1 k s s' → Q (.insert, some (resolve none), some row) s')
    (hupdate : ∀ existing ∈ s.data.orders, existing.idempotencyKey = key →
      ¬ UpToDate existing order → ∀ row s' k,
      row = applyStatus existing order (resolve (some existing.unifiedStatus)) →
      Rewritten column order row 0 k s s' →
      Q (.update, some (resolve (some existing.unifiedStatus)), some row) s') :
    (upsert column shop order resolve).wp Q E s := by
  rw [upsert, bind_eq, wp_bind, wp_orderKey hkey]
  simp only [getByKey, bind_eq, wp_bind, wp_select]
  cases hfind : s.data.orders.find? fun o => o.idempotencyKey = key with
  | none =>
    have hnone : ∀ o ∈ s.data.orders, o.idempotencyKey ≠ key := fun o ho => by
      simpa using List.find?_eq_none.mp hfind o ho
    have hins : decideWrite ((none : Option SalesOrder).bind (·.platformUpdatedAt))
        order.updatedAt ≠ .skip := by simp [decideWrite]
    rw [if_neg hins, wp_nested]
    refine wp_insertNew (s := { s with marks := s.data :: s.marks }) hnone hunused ?_
    exact fun row s' k hrow hr => hinsert row _ k hnone hrow hr.unmark
  | some existing =>
    obtain ⟨hmem, hek⟩ := (find?_eq_some_iff hw.keys).mp hfind
    simp only [Option.bind_some]
    by_cases hup : UpToDate existing order
    · rw [if_pos (decideWrite_eq_skip.mpr hup)]
      exact hskip existing hmem hek hup
    · rw [if_neg fun heq => hup (decideWrite_eq_skip.mp heq), wp_nested]
      refine wp_overwrite (s := { s with marks := s.data :: s.marks }) hw hmem ?_
      exact fun row s' k hrow hr => hupdate existing hmem hek hup row _ k hrow hr.unmark

end upsert

end CrossPilot
