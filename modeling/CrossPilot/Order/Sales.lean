import CrossPilot.Inventory.Spared
import CrossPilot.Order.Matching

/-!
# What has been sold

`sales_since` counts what was sold of a SKU on a platform by the lines of orders that were created in
a window, whatever the status of the order. An accepted snapshot deletes the lines of its order and
inserts them anew: as of now, and without SKU. So the sales stay the same exactly if the old lines
in the window come to nothing for every SKU (`sales_kept_iff`), and exactly then the order adds
nothing to the sales at all.

Lines have a time of creation by their ids, for a line that is inserted anew has a new id.
-/

namespace CrossPilot

open Transaction Table Prog

/-- The order of a line is one of a platform. -/
def isOn (d : Db) (platform : String) (orderId : ℕ) : Bool :=
  d.orders.any fun o => o.id = orderId && o.platformCode = platform

/-- A line of a SKU that was created in the window. -/
def inWindow (createdAt : ℕ → Instant) (since : Instant) (skuId : ℕ) (i : OrderItem) : Bool :=
  i.skuId = some skuId && since ≤ createdAt i.id

def totalQuantity (items : List OrderItem) : ℤ := (items.map OrderItem.quantity).sum

/-- `sales_since`, of a SKU on a platform. -/
def salesSince (createdAt : ℕ → Instant) (since : Instant) (d : Db) (skuId : ℕ)
    (platform : String) : ℤ :=
  totalQuantity (d.items.filter fun i =>
    inWindow createdAt since skuId i && isOn d platform i.orderId)

/-- What the lines of an order that were created in the window come to. -/
def windowQuantity (createdAt : ℕ → Instant) (since : Instant) (d : Db) (orderId skuId : ℕ) : ℤ :=
  totalQuantity (d.items.filter fun i => inWindow createdAt since skuId i && i.orderId = orderId)

/-- The sales of every SKU on every platform are the same. -/
def SalesKept (createdAt : ℕ → Instant) (since : Instant) (d d' : Db) : Prop :=
  ∀ skuId platform,
    salesSince createdAt since d' skuId platform = salesSince createdAt since d skuId platform

/-- The sales would be the same without the order. -/
def AddsNothing (createdAt : ℕ → Instant) (since : Instant) (d : Db) (orderId : ℕ) : Prop :=
  SalesKept createdAt since d (d.withoutLines orderId)

/-- An order that was never paid, or that is cancelled. -/
def SalesOrder.Unsold (o : SalesOrder) : Prop := o.paidAt = none ∨ o.unifiedStatus = .cancelled

/-- No SKU has been sold by the lines of an order in the window, on balance. -/
def NothingSold (createdAt : ℕ → Instant) (since : Instant) (d : Db) (orderId : ℕ) : Prop :=
  ∀ skuId, windowQuantity createdAt since d orderId skuId = 0

section quantities

variable {createdAt : ℕ → Instant} {since : Instant} {d d' : Db} {skuId orderId : ℕ}
  {platform : String} {items : List OrderItem} {p q : OrderItem → Bool}

lemma totalQuantity_filter_split (items : List OrderItem) (p q : OrderItem → Bool) :
    totalQuantity (items.filter p) =
      totalQuantity (items.filter fun i => p i && !q i) +
        totalQuantity (items.filter fun i => p i && q i) := by
  induction items with
  | nil => rfl
  | cons i items ih =>
    simp only [totalQuantity] at ih ⊢
    cases hp : p i <;> cases hq : q i <;> simp [hp, hq, ih] <;> ring

/-- The sales without an order, and what its lines add. -/
lemma salesSince_eq_add (hon : isOn d platform orderId = true) :
    salesSince createdAt since d skuId platform =
      salesSince createdAt since (d.withoutLines orderId) skuId platform +
        windowQuantity createdAt since d orderId skuId := by
  rw [salesSince, totalQuantity_filter_split _ _ fun i => i.orderId = orderId]
  congr 1
  · rw [salesSince, Db.withoutLines, List.filter_filter]
    congr 1
    apply List.filter_congr
    intro i _
    by_cases h : i.orderId = orderId <;> simp [h, isOn]
  · rw [windowQuantity]
    congr 1
    apply List.filter_congr
    intro i _
    by_cases h : i.orderId = orderId
    · simp [h, hon]
    · simp [h]

/-- An order on another platform adds nothing here. -/
lemma salesSince_eq_of_not_isOn (hon : isOn d platform orderId = false) :
    salesSince createdAt since d skuId platform =
      salesSince createdAt since (d.withoutLines orderId) skuId platform := by
  rw [salesSince, salesSince, Db.withoutLines, List.filter_filter]
  congr 1
  apply List.filter_congr
  intro i _
  by_cases h : i.orderId = orderId
  · simp [h, hon]
  · simp [h, isOn]

/-- An order adds nothing to the sales exactly if its lines in the window come to nothing. -/
lemma addsNothing_iff {o : SalesOrder} (ho : o ∈ d.orders) :
    AddsNothing createdAt since d o.id ↔ NothingSold createdAt since d o.id := by
  have hon : isOn d o.platformCode o.id = true := by
    rw [isOn, List.any_eq_true]
    exact ⟨o, ho, by simp⟩
  constructor
  · intro h skuId
    have hsame := h skuId o.platformCode
    rw [salesSince_eq_add hon] at hsame
    omega
  · intro h skuId platform
    cases hp : isOn d platform o.id with
    | true => rw [salesSince_eq_add hp, h skuId, add_zero]
    | false => exact (salesSince_eq_of_not_isOn hp).symm

/-- Lines without a SKU are not sold. -/
lemma salesSince_append {new : List OrderItem} (hnew : ∀ i ∈ new, i.skuId = none)
    (hitems : d'.items = (d.withoutLines orderId).items ++ new)
    (hon : ∀ orderId, isOn d' platform orderId = isOn d platform orderId) :
    salesSince createdAt since d' skuId platform =
      salesSince createdAt since (d.withoutLines orderId) skuId platform := by
  have hnone : new.filter (fun i =>
      inWindow createdAt since skuId i && isOn d' platform i.orderId) = [] := by
    rw [List.filter_eq_nil_iff]
    intro i hi
    simp [inWindow, hnew i hi]
  rw [salesSince, hitems, List.filter_append, hnone, List.append_nil, salesSince]
  congr 1
  apply List.filter_congr
  intro i _
  rw [hon]
  rfl

end quantities

/-! ### Storing a snapshot -/

/-- The orders and their lines, taken for one row. -/
def salesBook : Row Db RowKey (List SalesOrder × List OrderItem) where
  lock := .orderKey ""
  seen d := (d.orders, d.items)
  absent := ([], [])
  Final _ := True

lemma foreignRow_salesBook : ForeignRow salesBook where
  balance_ne _ h := by cases h
  hold_ne _ h := by cases h
  holdOf_ne _ h := by cases h
  balances _ _ := rfl
  ledger _ _ := rfl
  holds _ _ := rfl

/-- The step for the stock touches neither orders nor lines. -/
lemma wp_stockStep_salesBook (orderId : ℕ) (decision : StatusDecision) (s : WorkState) :
    (stockStep orderId decision).wp
      (fun _ s' => s'.data.orders = s.data.orders ∧ s'.data.items = s.data.items)
      (fun _ _ => True) s := by
  rw [stockStep]
  split
  · have hspares := (foreignRow_salesBook.spares_syncInventory orderId decision).wp
      Session.Drawn.refl Session.Drawn.trans s
    refine wp_mono hspares (fun _ s' h => ?_) fun _ _ _ => trivial
    exact ⟨congrArg Prod.fst h.1, congrArg Prod.snd h.1⟩
  · exact ⟨rfl, rfl⟩

section stored

variable {intake : Intake} {order : UnifiedOrder} {d : Db} {l : Session} {s' : WorkState}
  {r : WriteAction × Option StatusDecision} {o : SalesOrder}

/-- The platforms of the orders stay. -/
lemma isOn_put {row : SalesOrder} (hw : OrdersWf d) (ho : o ∈ d.orders) (hid : o.id = row.id)
    (hplatform : o.platformCode = row.platformCode) {d' : Db}
    (horders : d'.orders = put SalesOrder.id row d.orders) (platform : String) (orderId : ℕ) :
    isOn d' platform orderId = isOn d platform orderId := by
  rw [isOn, isOn, Bool.eq_iff_iff, List.any_eq_true, List.any_eq_true, horders]
  constructor
  · rintro ⟨x, hx, hp⟩
    rcases mem_put.mp hx with rfl | ⟨hmem, -⟩
    · exact ⟨o, ho, by rwa [hid, hplatform]⟩
    · exact ⟨x, hmem, hp⟩
  · rintro ⟨x, hx, hp⟩
    by_cases heq : x.id = row.id
    · have hsame : x = o := hw.ids.eq_of_key_eq hx ho (heq.trans hid.symm)
      refine ⟨row, mem_put.mpr (.inl rfl), ?_⟩
      rwa [hsame, hid, hplatform] at hp
    · exact ⟨x, mem_put.mpr (.inr ⟨hx, heq⟩), hp⟩

/-- A newer snapshot of a stored order gives the order new lines, and its platform stays. -/
lemma ingest_lines (hw : OrdersWf d) (hf : Fresh ⟨l, d, []⟩)
    (hexec : (ingestOrder intake order).exec ⟨l, d, []⟩ = (.ok r, s')) (ho : o ∈ d.orders)
    (hkey : order.key intake.shop = some o.idempotencyKey) (hnewer : ¬ UpToDate o order) :
    (∃ row ids, s'.data.items = (d.withoutLines o.id).items ++
        newLines intake.column row ids order.items) ∧
      ∀ platform orderId, isOn s'.data platform orderId = isOn d platform orderId := by
  have hrun : (ingestOrder intake order).wp (fun _ s' =>
      (∃ row ids, s'.data.items = (d.withoutLines o.id).items ++
          newLines intake.column row ids order.items) ∧
        ∀ platform orderId, isOn s'.data platform orderId = isOn d platform orderId)
      (fun _ _ => True) ⟨l, d, []⟩ := by
    refine wp_ingestOrder hf hw hkey (fun e he hk hup => ?_) fun row s₁ action hi _ => ?_
    · rw [hw.keys.eq_of_key_eq he ho hk] at hup
      exact absurd hup hnewer
    refine wp_mono (wp_stockStep_salesBook _ _ s₁) (fun _ s₂ hs => ?_) fun _ _ h => h
    obtain ⟨horders, hitems⟩ := hs
    have hid := (hi.found o ho rfl).1
    obtain ⟨ids, hlines⟩ := hi.items
    refine ⟨⟨row, ids, ?_⟩, fun platform orderId => ?_⟩
    · rw [hitems, hlines, hid]
      rfl
    · exact isOn_put hw ho hid (hi.platform o ho rfl) (horders.trans hi.orders) platform orderId
  exact (wp_of_exec hexec).mp hrun

/-- A newer snapshot of a stored order leaves the sales as they were, and orders that were not sold
add nothing to them, exactly if the lines of the order in the window come to nothing. -/
theorem sales_kept_iff (hcolumn : intake.column = noSku) (hw : OrdersWf d) (hf : Fresh ⟨l, d, []⟩)
    (hexec : (ingestOrder intake order).exec ⟨l, d, []⟩ = (.ok r, s')) (ho : o ∈ d.orders)
    (hkey : order.key intake.shop = some o.idempotencyKey) (hnewer : ¬ UpToDate o order)
    (createdAt : ℕ → Instant) (since : Instant) :
    (SalesKept createdAt since d s'.data ∧ (o.Unsold → AddsNothing createdAt since d o.id)) ↔
      NothingSold createdAt since d o.id := by
  obtain ⟨⟨row, ids, hitems⟩, hon⟩ := ingest_lines hw hf hexec ho hkey hnewer
  have hnew : ∀ i ∈ newLines intake.column row ids order.items, i.skuId = none := by
    intro i hi
    obtain ⟨n, item, -, rfl⟩ := mem_newLines.mp hi
    rw [hcolumn]
    rfl
  -- the new lines are not sold, so the order adds nothing any more
  have hkept : SalesKept createdAt since d s'.data ↔ AddsNothing createdAt since d o.id := by
    apply forall₂_congr
    intro skuId platform
    rw [salesSince_append hnew hitems (hon platform)]
  rw [hkept, addsNothing_iff ho]
  exact ⟨fun h => h.1, fun h => ⟨h, fun _ => h⟩⟩

end stored

/-- Two pieces of a SKU have been paid for, and five more have been ordered but not paid. -/
def soldShop : Db := { linkedShop with
  orders := [
    { id := 6, shopId := 4, platformCode := "tiktok", platformOrderId := "A"
      idempotencyKey := "tiktok:4:A", platformStatus := "AWAITING_SHIPMENT"
      unifiedStatus := .paid, currency := "USD", platformUpdatedAt := some 0, paidAt := some 0 },
    { id := 8, shopId := 4, platformCode := "tiktok", platformOrderId := "B"
      idempotencyKey := "tiktok:4:B", platformStatus := "UNPAID"
      unifiedStatus := .pending, currency := "USD", platformUpdatedAt := some 0 }]
  items := [
    ⟨7, 6, some 3, "S", "", "", 2, 0, "USD"⟩,
    ⟨9, 8, some 3, "S", "", "", 5, 0, "USD"⟩] }

/-- A newer snapshot of the paid order comes in. -/
def soldRun : Except ServiceError (WriteAction × Option StatusDecision) × WorkState :=
  (ingestOrder linkedIntake paidSnapshot).exec ⟨newWorker, soldShop, []⟩

lemma soldRun_ok : soldRun.1 = .ok (.update, some ⟨.unchanged, some .paid, .paid, false⟩) := by
  decide +kernel

theorem sales_kept_iff_soldShop : ∃ o ∈ soldShop.orders, o.id = 6 ∧
    ((SalesKept (fun _ => 1) 0 soldShop soldRun.2.data ∧
        (o.Unsold → AddsNothing (fun _ => 1) 0 soldShop o.id)) ↔
      NothingSold (fun _ => 1) 0 soldShop o.id) := by
  refine ⟨_, List.mem_cons_self, rfl, ?_⟩
  refine sales_kept_iff rfl ⟨by decide, by decide⟩ (worker_newWorker (by decide)).fresh
    (Prod.ext soldRun_ok rfl) List.mem_cons_self (by decide +kernel) ?_ _ _
  rw [← decideWrite_eq_skip]
  decide

/-- The paid pieces are forgotten, and the unpaid ones count. -/
theorem sales_not_kept :
    soldRun.1 = .ok (.update, some ⟨.unchanged, some .paid, .paid, false⟩) ∧
      salesSince (fun _ => 1) 0 soldShop 3 "tiktok" = 7 ∧
      salesSince (fun _ => 1) 0 soldRun.2.data 3 "tiktok" = 5 ∧
      ∃ o ∈ soldShop.orders, o.Unsold ∧
        salesSince (fun _ => 1) 0 (soldShop.withoutLines o.id) 3 "tiktok" = 2 := by
  refine ⟨soldRun_ok, by decide +kernel, by decide +kernel, _,
    List.mem_cons_of_mem _ List.mem_cons_self, .inl rfl, by decide +kernel⟩

end CrossPilot
