import CrossPilot.Order.Ingested

/-!
# Paid goods of a known SKU

A line of a paid order whose platform SKU is linked to a SKU should have stock reserved for it, or
be noted as short. The link is never looked at: the SKU column of an item row is left empty, and
a line without a SKU reserves nothing. So the rule is kept by the snapshots that have no linked
line, and by no others (`paidGoodsHeld_iff`).
-/

namespace CrossPilot

open Transaction Table Prog

/-- The SKU that a platform SKU of a shop is linked to. -/
def linkedSkuId (d : Db) (shopId : ℕ) (platformSkuId : String) : Option ℕ :=
  (d.listings.find? fun l => l.deleted = false ∧ l.shopId = shopId ∧
    l.platformSkuId = some platformSkuId ∧ l.status = .linked).map (·.skuId)

/-- The lines of the order whose SKU is known have a hold that accounts for all of their quantity,
and no balance of any other SKU has moved. -/
structure PaidGoodsHeld (shopId orderId : ℕ) (order : UnifiedOrder) (d d' : Db) : Prop where
  held : ∀ item ∈ order.items, ∀ skuId, linkedSkuId d shopId item.platformSkuId = some skuId →
    ∃ line ∈ d'.items, line.orderId = orderId ∧
      line.platformSkuId = Text.truncate 128 item.platformSkuId ∧
      ∃ hold ∈ d'.holds, hold.orderItemId = line.id ∧ hold.skuId = skuId ∧
        hold.quantity + hold.shortQty = item.quantity
  untouched : ∀ skuId, (∀ item ∈ order.items, linkedSkuId d shopId item.platformSkuId ≠ some skuId) →
    ∀ b w, balanceAt d' b skuId w = balanceAt d b skuId w

/-- Lines without a SKU reserve nothing. -/
lemma wp_reserveOrder_of_unmatched {s : WorkState} {Q : Unit → WorkState → Prop}
    {E : ServiceError → WorkState → Prop} {orderId : ℕ}
    (hitems : ∀ i ∈ s.data.items, i.orderId = orderId → i.skuId = none) :
    (reserveOrder orderId).wp Q E s ↔ Q () s := by
  rw [reserveOrder, bind_eq, wp_bind, wp_listItems, forEach_eq_ret, wp_ret]
  intro i hi
  rw [(List.perm_insertionSort _ _).mem_iff] at hi
  obtain ⟨hi, ho⟩ := List.mem_filter.mp hi
  apply reserveItem_of_not
  rw [hitems i hi (by simpa using ho)]
  rfl

/-- A decision for `paid` leads to nothing but a reservation. -/
lemma stockStep_paid (orderId : ℕ) {decision : StatusDecision} (h : decision.toStatus = .paid) :
    stockStep orderId decision = .ret () ∨ stockStep orderId decision = reserveOrder orderId := by
  unfold stockStep syncInventory
  rw [h]
  split
  · by_cases hfrom : decision.fromStatus ∈ UnifiedStatus.unpaid
    · simp [hfrom]
    · simp [hfrom, UnifiedStatus.outbound]
  · exact .inl rfl

/-- A snapshot that moves an order to `paid` keeps the rule for paid goods exactly if none of its
lines is linked. -/
theorem paidGoodsHeld_iff {intake : Intake} (hcolumn : intake.column = noSku) {order : UnifiedOrder}
    {d : Db} {l : Session} {s' : WorkState} {action : WriteAction} {decision : StatusDecision}
    (hw : OrdersWf d) (hf : Fresh ⟨l, d, []⟩)
    (hexec : (ingestOrder intake order).exec ⟨l, d, []⟩ = (.ok (action, some decision), s'))
    (hpaid : decision.toStatus = .paid) :
    ∃ row ∈ s'.data.orders, order.key intake.shop = some row.idempotencyKey ∧
      (PaidGoodsHeld intake.shop.id row.id order d s'.data ↔
        ∀ item ∈ order.items, linkedSkuId d intake.shop.id item.platformSkuId = none) := by
  obtain ⟨key, hkey⟩ := key_of_ingested hexec
  have hrun : (ingestOrder intake order).wp (fun r s' => ∀ decision, r.2 = some decision →
      decision.toStatus = .paid → ∃ row ∈ s'.data.orders, row.idempotencyKey = key ∧
        (PaidGoodsHeld intake.shop.id row.id order d s'.data ↔
          ∀ item ∈ order.items, linkedSkuId d intake.shop.id item.platformSkuId = none))
      (fun _ _ => True) ⟨l, d, []⟩ := by
    refine wp_ingestOrder hf hw hkey (fun _ _ _ _ decision hnone => ?_) ?_
    · cases hnone
    intro row s₁ action hi _
    -- the step for the stock does nothing
    have hend : ∀ Q : Unit → WorkState → Prop, Q () s₁ →
        ∀ decision : StatusDecision, decision.toStatus = .paid →
          (stockStep row.id decision).wp Q (fun _ _ => True) s₁ := by
      intro Q hQ decision hpaid
      rcases stockStep_paid row.id hpaid with hstep | hstep
      · rw [hstep]
        exact hQ
      · rw [hstep, wp_reserveOrder_of_unmatched]
        · exact hQ
        · intro i hi' ho
          obtain ⟨id, item, -, rfl⟩ := hi.mem_items hi' ho
          rw [hcolumn]
          rfl
    by_cases hpaid : (decisionOn intake order key d).toStatus = .paid
    swap
    · refine wp_mono (wp_trivial _ s₁) (fun _ s₂ _ decision heq hpaid' => ?_) fun _ _ h => h
      cases heq
      exact absurd hpaid' hpaid
    refine hend _ (fun decision _ _ => ⟨row, hi.mem_orders, hi.rowKey, ?_⟩) _ hpaid
    constructor
    · intro hheld item hitem
      by_contra hlinked
      obtain ⟨skuId, hsku⟩ := Option.ne_none_iff_exists'.mp hlinked
      obtain ⟨line, hline, ho, -, hold, hh, hid, -⟩ := hheld.held item hitem skuId hsku
      rw [hi.holds] at hh
      exact hi.fresh line hline ho hold hh hid
    · intro hnone
      refine ⟨fun item hitem skuId hsku => ?_, fun skuId _ b w => ?_⟩
      · rw [hnone item hitem] at hsku
        cases hsku
      · unfold balanceAt
        rw [hi.inventories]
  obtain ⟨row, hrow, hrowKey, h⟩ := (wp_of_exec hexec).mp hrun decision rfl hpaid
  exact ⟨row, hrow, by rw [hkey, hrowKey], h⟩

/-- A shop that sells one linked SKU, with ten pieces on hand. -/
def linkedShop : Db where
  warehouses := [{ id := 1, isDefault := true }]
  inventories := [{ id := 2, skuId := 3, warehouseId := 1, available := 10 }]
  skus := [{ id := 3 }]
  shops := [{ id := 4, platformCode := "tiktok" }]
  listings := [{ id := 5, skuId := 3, shopId := 4, platformSkuId := some "S", status := .linked }]

/-- How the shop's orders are ingested. -/
def linkedIntake : Intake where
  table := [("AWAITING_SHIPMENT", "PAID"), ("UNPAID", "PENDING"), ("SHIPPED", "SHIPPED")]
  shop := { id := 4, platformCode := "tiktok" }

/-- Two pieces, paid. -/
def paidSnapshot : UnifiedOrder where
  platformOrderId := "A"
  platformStatus := "AWAITING_SHIPMENT"
  items := [{ platformSkuId := "S", quantity := 2 }]
  updatedAt := 1

theorem paidGoodsHeld_iff_linkedShop :
    ∃ row ∈ ((ingestOrder linkedIntake paidSnapshot).exec
        ⟨newWorker, linkedShop, []⟩).2.data.orders,
      paidSnapshot.key linkedIntake.shop = some row.idempotencyKey ∧
      (PaidGoodsHeld 4 row.id paidSnapshot linkedShop ((ingestOrder linkedIntake
          paidSnapshot).exec ⟨newWorker, linkedShop, []⟩).2.data ↔
        ∀ item ∈ paidSnapshot.items, linkedSkuId linkedShop 4 item.platformSkuId = none) := by
  have hexec : (ingestOrder linkedIntake paidSnapshot).exec ⟨newWorker, linkedShop, []⟩ =
      (.ok (.insert, some ⟨.apply, none, .paid, false⟩), _) := Prod.ext (by decide +kernel) rfl
  exact paidGoodsHeld_iff rfl ⟨by decide, by decide⟩ (worker_newWorker (by decide)).fresh hexec rfl

theorem not_paidGoodsHeld_linkedShop :
    let run := (ingestOrder linkedIntake paidSnapshot).exec ⟨newWorker, linkedShop, []⟩
    run.1 = .ok (.insert, some ⟨.apply, none, .paid, false⟩) ∧
      ∀ orderId, ¬ PaidGoodsHeld 4 orderId paidSnapshot linkedShop run.2.data := by
  refine ⟨by decide +kernel, fun orderId h => ?_⟩
  obtain ⟨line, hline, -, -, hold, hh, -⟩ :=
    h.held { platformSkuId := "S", quantity := 2 } (List.mem_singleton.mpr rfl) 3 (by decide)
  have hnone : ((ingestOrder linkedIntake paidSnapshot).exec
      ⟨newWorker, linkedShop, []⟩).2.data.holds = [] := by decide +kernel
  rw [hnone] at hh
  cases hh

end CrossPilot
