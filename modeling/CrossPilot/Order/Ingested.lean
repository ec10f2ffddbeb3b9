import CrossPilot.Order.Stored

/-!
# What ingesting a snapshot does

`ingestOrder` in a transaction that runs alone. A snapshot that is not newer than what is stored
changes nothing. Any other is stored, logged if its status applies, and reviewed (`Ingested`), and
what is left to do then is the step for the stock.
-/

namespace CrossPilot

open Transaction Table Prog

/-- The decision on a snapshot, by what is stored under its key. -/
def decisionOn (intake : Intake) (order : UnifiedOrder) (key : String) (d : Db) : StatusDecision :=
  intake.resolve order
    ((d.orders.find? fun o => o.idempotencyKey = key).map (·.unifiedStatus))

lemma decisionOn_of_mem {intake : Intake} {order : UnifiedOrder} {key : String} {d : Db}
    (hw : OrdersWf d) {o : SalesOrder} (ho : o ∈ d.orders) (hk : o.idempotencyKey = key) :
    decisionOn intake order key d = intake.resolve order (some o.unifiedStatus) := by
  rw [decisionOn, (find?_eq_some_iff hw.keys).mpr ⟨ho, hk⟩]
  rfl

/-- The step for the stock, if the decision applies. -/
def stockStep (orderId : ℕ) (decision : StatusDecision) : Work Unit :=
  if decision.kind = .apply then syncInventory orderId decision else .ret ()

/-- The line of the status log for a decision. -/
def logLine (id : ℕ) (row : SalesOrder) (order : UnifiedOrder) (intake : Intake)
    (decision : StatusDecision) : OrderStatusLog :=
  ⟨id, row.id, decision.fromStatus, decision.toStatus, Text.truncate 64 order.platformStatus,
    intake.operatorId, intake.source, if decision.unmapped then some unmappedRemark else none⟩

/-- A snapshot has been stored, logged and reviewed, with `row` for its order. -/
structure Ingested (intake : Intake) (order : UnifiedOrder) (key : String) (row : SalesOrder)
    (s s' : WorkState) : Prop where
  status : row.unifiedStatus = (decisionOn intake order key s.data).toStatus
  updatedAt : row.platformUpdatedAt = some order.updatedAt
  rowKey : row.idempotencyKey = key
  found : ∀ o ∈ s.data.orders, o.idempotencyKey = key → o.id = row.id ∧ ¬ UpToDate o order
  platform : ∀ o ∈ s.data.orders, o.idempotencyKey = key → o.platformCode = row.platformCode
  new : (∀ o ∈ s.data.orders, o.idempotencyKey ≠ key) → ¬ Uses s.data row.id
  orders : s'.data.orders = put SalesOrder.id row s.data.orders
  items : ∃ ids : ℕ → ℕ, s'.data.items = s.data.items.filter (fun i => i.orderId ≠ row.id) ++
    newLines intake.column row ids order.items
  logs : ∃ id, s'.data.statusLogs = s.data.statusLogs ++
    if (decisionOn intake order key s.data).kind = .apply then
      [logLine id row order intake (decisionOn intake order key s.data)] else []
  fresh : ∀ i ∈ s'.data.items, i.orderId = row.id →
    ∀ h ∈ s.data.holds, h.orderItemId ≠ i.id
  frame : s'.data = { s.data with
    orders := s'.data.orders
    items := s'.data.items
    fees := s'.data.fees
    statusLogs := s'.data.statusLogs }
  marks : s'.marks = s.marks
  books : ∀ c, Books c s → Books c s'
  ordersWf : OrdersWf s'.data

namespace Ingested

variable {intake : Intake} {order : UnifiedOrder} {key : String} {row : SalesOrder}
  {s s' : WorkState}

lemma holds (h : Ingested intake order key row s s') : s'.data.holds = s.data.holds := by
  rw [h.frame]

lemma inventories (h : Ingested intake order key row s s') :
    s'.data.inventories = s.data.inventories := by
  rw [h.frame]

lemma mem_orders (h : Ingested intake order key row s s') : row ∈ s'.data.orders := by
  rw [h.orders]
  exact mem_put.mpr (.inl rfl)

/-- The current lines of the order are those of the snapshot. -/
lemma mem_items (h : Ingested intake order key row s s') {i : OrderItem}
    (hi : i ∈ s'.data.items) (ho : i.orderId = row.id) :
    ∃ id, ∃ item ∈ order.items, i = itemRow intake.column row id item := by
  obtain ⟨ids, hitems⟩ := h.items
  rw [hitems] at hi
  rcases List.mem_append.mp hi with hi | hi
  · simp [ho] at hi
  · obtain ⟨n, item, hn, rfl⟩ := mem_newLines.mp hi
    exact ⟨_, item, List.mem_of_getElem? hn, rfl⟩

end Ingested

/-- The stored row and its fees show the snapshot as well. -/
structure Mirrored (intake : Intake) (order : UnifiedOrder) (key : String) (row : SalesOrder)
    (s s' : WorkState) : Prop extends Ingested intake order key row s s' where
  mirrors : Mirrors order row
  fees : ∃ ids, s'.data.fees = s.data.fees.filter (fun f => f.orderId ≠ row.id) ++
    newFees row ids order.fees

section ingest

variable {intake : Intake} {order : UnifiedOrder} {key : String} {row : SalesOrder}
  {s : WorkState} {E : ServiceError → WorkState → Prop}

/-- The review puts a row with another review status in place. -/
lemma wp_applyReview {Q : Unit → WorkState → Prop} (hw : OrdersWf s.data)
    (hmem : row ∈ s.data.orders)
    (h : ∀ status s', s' = { s with data := { s.data with
        orders := put SalesOrder.id { row with reviewStatus := status } s.data.orders } } →
      Q () s') :
    (applyReview row).wp Q E s := by
  let status := nextReviewStatus row.reviewStatus row.totalAmount row.currency s.data.reviewRules
  simp only [applyReview, bind_eq, wp_bind, wp_select]
  refine (wp_saveOrder hw.ids hmem ?_ ?_).mpr ?_
  · rfl
  · simp [SalesOrder.merge, written_self]
  · exact h status _ rfl

/-- An order's columns are not part of the books. -/
lemma Books.put_order {c : ℕ → ℕ → ℤ} {s' : WorkState} (hb : Books c s) {row' : SalesOrder}
    (hmem : row ∈ s.data.orders) (hid : row'.id = row.id) (hsession : s'.session = s.session)
    (hdata : s'.data = { s.data with orders := put SalesOrder.id row' s.data.orders }) :
    Books c s' := by
  obtain ⟨⟨hshelf, hcoherent⟩, ⟨hinj, hunused⟩, hwf, hslack, hocc⟩ := hb
  obtain ⟨hids, hitems, hlines, hpos, hqty, hshort, hlinked⟩ := hwf
  refine ⟨⟨?_, ?_⟩, ⟨hsession ▸ hinj, fun n huses => hunused n ?_⟩, ?_, hslack, ?_⟩
  · rw [hdata]
    exact hshelf
  · rw [hdata, hsession]
    exact hcoherent
  · rw [hsession, hdata] at huses
    rcases huses with ⟨hm, heq⟩ | ⟨hm, heq⟩ | ⟨hm, heq⟩ | ⟨hm, heq⟩
    · exact .hold hm heq
    · exact .item hm heq
    · rcases mem_put.mp hm with rfl | ⟨hm, -⟩
      · exact .order hmem (heq.trans hid)
      · exact .order hm heq
    · exact .balance hm heq
  · rw [hdata]
    exact ⟨hids, hitems, hlines, hpos, hqty, hshort, hlinked⟩
  · intro t w
    rw [hdata]
    exact hocc t w

/-- From the stored row on: the log, the review, and then the stock. -/
lemma wp_afterUpsert {Q : Unit → WorkState → Prop} {j k : ℕ} {s₁ : WorkState}
    (hf : Fresh s) (hr : Rewritten intake.column order row j k s s₁) (hw₁ : OrdersWf s₁.data)
    (hmirrors : Mirrors order row)
    (hstatus : row.unifiedStatus = (decisionOn intake order key s.data).toStatus)
    (hkey : row.idempotencyKey = key)
    (hfound : ∀ o ∈ s.data.orders, o.idempotencyKey = key → o.id = row.id ∧ ¬ UpToDate o order)
    (hplatform : ∀ o ∈ s.data.orders, o.idempotencyKey = key → o.platformCode = row.platformCode)
    (hnew : (∀ o ∈ s.data.orders, o.idempotencyKey ≠ key) → ¬ Uses s.data row.id)
    (h : ∀ row' s', Mirrored intake order key row' s s' →
      (stockStep row'.id (decisionOn intake order key s.data)).wp Q E s') :
    (afterUpsert intake order row (some (decisionOn intake order key s.data))).wp Q E s₁ := by
  have hrow : row ∈ s₁.data.orders := by
    rw [hr.orders]
    exact mem_put.mpr (.inl rfl)
  have hfresh : ∀ i ∈ s₁.data.items, i.orderId = row.id →
      ∀ h ∈ s.data.holds, h.orderItemId ≠ i.id := fun i hi ho hold hh =>
    hr.hold_ne hf (hr.holds ▸ hh) hi ho
  -- whatever the log has become, the review and the stock follow
  have hreview : ∀ (s₂ : WorkState) (lines : List OrderStatusLog),
      s₂.data = { s₁.data with statusLogs := lines } → s₂.marks = s₁.marks →
      (∀ c, Books c s₁ → Books c s₂) → (∃ id, lines = s.data.statusLogs ++
        if (decisionOn intake order key s.data).kind = .apply then
          [logLine id row order intake (decisionOn intake order key s.data)] else []) →
      ((applyReview row).bind fun _ =>
        stockStep row.id (decisionOn intake order key s.data)).wp Q E s₂ := by
    intro s₂ lines hdata hmarks hbooks hlog
    have hw₂ : OrdersWf s₂.data := by
      rw [hdata]
      exact ⟨hw₁.ids, hw₁.keys⟩
    have hrow₂ : row ∈ s₂.data.orders := by
      rw [hdata]
      exact hrow
    rw [wp_bind]
    refine wp_applyReview hw₂ hrow₂ fun status s₃ hs₃ => ?_
    have horders : s₃.data.orders =
        put SalesOrder.id { row with reviewStatus := status } s.data.orders := by
      rw [hs₃]
      simp only [hdata, hr.orders]
      exact put_put rfl
    have hdata₃ : s₃.data = { s₁.data with orders := s₃.data.orders, statusLogs := lines } := by
      rw [hs₃, hdata]
    have hdata' : s₃.data = { s₂.data with
        orders := put SalesOrder.id { row with reviewStatus := status } s₂.data.orders } := by
      rw [hs₃]
    have hitems₃ : s₃.data.items = s₁.data.items := by rw [hdata₃]
    have hfees₃ : s₃.data.fees = s₁.data.fees := by rw [hdata₃]
    refine h { row with reviewStatus := status } s₃ ⟨⟨hstatus, hmirrors.updatedAt, hkey, hfound,
      hplatform, hnew, horders, ⟨fun n => s.session.ids (n + j), ?_⟩, ?_, ?_, ?_, ?_, fun c hc => ?_, ?_⟩,
      hmirrors.review status, ?_⟩
    · rw [hitems₃, hr.items]
      rfl
    · obtain ⟨id, hid'⟩ := hlog
      refine ⟨id, ?_⟩
      rw [hdata₃]
      exact hid'
    · rw [hitems₃]
      exact hfresh
    · rw [hdata₃, hr.frame]
    · rw [hs₃]
      exact hmarks.trans hr.marks
    · have hid : ({ row with reviewStatus := status } : SalesOrder).id = row.id := rfl
      exact (hbooks c (hr.books hc)).put_order hrow₂ hid (by rw [hs₃]) hdata'
    · rw [hdata']
      refine ⟨hw₂.ids.put _, hw₂.keys.put_of hw₂.ids fun o ho hk => ?_⟩
      rw [hw₂.keys.eq_of_key_eq ho hrow₂ hk]
    · obtain ⟨ids, hfees⟩ := hr.fees
      refine ⟨ids, ?_⟩
      rw [hfees₃, hfees]
      rfl
  unfold afterUpsert
  by_cases happly : (decisionOn intake order key s.data).kind = .apply
  · simp only [Option.filter_some, happly, decide_true, if_true, bind_eq, logDecision, appendLog,
      wp_bind, wp_nextSnowflakeId, wp_insert]
    have := hreview { s₁ with
        session := s₁.session.drawn 1
        data := { s₁.data with statusLogs := s₁.data.statusLogs ++
          [logLine (s₁.session.ids 0) row order intake (decisionOn intake order key s.data)] } }
      _ rfl rfl (fun c hc => hc.draw.of_frame rfl rfl rfl rfl rfl)
      ⟨s₁.session.ids 0, by rw [if_pos happly, hr.frame]⟩
    rw [wp_bind] at this
    simp only [stockStep, happly, if_true] at this
    exact this
  · have hsame : s₁.data.statusLogs = s.data.statusLogs := by rw [hr.frame]
    have := hreview s₁ _ rfl rfl (fun c hc => hc) ⟨0, by rw [if_neg happly, hsame, List.append_nil]⟩
    simpa [stockStep, happly, Option.filter_some] using this

/-- The query for the row that has just been stored finds one. -/
lemma wp_afterWrite {Q : WriteAction × Option StatusDecision → WorkState → Prop}
    {action : WriteAction} (haction : action ≠ .skip) {decision : Option StatusDecision}
    (hw : OrdersWf s.data) (hmem : row ∈ s.data.orders) (hkey : row.idempotencyKey = key)
    (h : (afterUpsert intake order row decision).wp (fun _ => Q (action, decision)) E s) :
    (afterWrite intake order key (action, decision, some row)).wp Q E s := by
  have hfind := (find?_eq_some_iff hw.keys).mpr ⟨hmem, hkey⟩
  cases action with
  | skip => exact absurd rfl haction
  | _ =>
    simp only [afterWrite, getByKey, bind_eq, wp_bind, wp_select, hfind, pure_eq, wp_ret]
    exact h

/-- Ingesting leaves everything as it is, or comes down to the step for the stock in a state in
which the snapshot has been stored, logged and reviewed. -/
theorem wp_ingestOrder_mirrored {Q : WriteAction × Option StatusDecision → WorkState → Prop}
    (hf : Fresh s) (hw : OrdersWf s.data)
    (hkey : order.key intake.shop = some key)
    (hskip : ∀ existing ∈ s.data.orders, existing.idempotencyKey = key →
      UpToDate existing order → Q (.skip, none) s)
    (hstored : ∀ row s' action, Mirrored intake order key row s s' → action ≠ .skip →
      (stockStep row.id (decisionOn intake order key s.data)).wp
        (fun _ => Q (action, some (decisionOn intake order key s.data))) E s') :
    (ingestOrder intake order).wp Q E s := by
  rw [ingestOrder, bind_eq, wp_bind, wp_orderKey hkey, bind_eq, wp_bind]
  refine wp_upsert hw (fun o ho heq => hf.unused 0 (.order ho heq.symm)) hkey ?_ ?_ ?_
  · exact hskip
  · intro row s₁ k hnone hrow hr
    have hfind : s.data.orders.find? (fun o => o.idempotencyKey = key) = none :=
      List.find?_eq_none.mpr fun o ho => by simpa using hnone o ho
    have hd : intake.resolve order none = decisionOn intake order key s.data := by
      rw [decisionOn, hfind]
      rfl
    have hrowKey : row.idempotencyKey = key := by simp [hrow, newOrder]
    have hw₁ : OrdersWf s₁.data := hr.ordersWf hw fun o ho hk =>
      absurd (hk.trans hrowKey) (hnone o ho)
    rw [hd] at hrow ⊢
    refine wp_afterWrite (by decide) hw₁ (hr.orders ▸ mem_put.mpr (.inl rfl)) hrowKey ?_
    have hmirrors : Mirrors order row := by
      rw [hrow]
      exact mirrors_applyStatus _ _ _
    refine wp_afterUpsert hf hr hw₁ hmirrors (by simp [hrow, newOrder]) hrowKey
      (fun o ho hk => absurd hk (hnone o ho)) (fun o ho hk => absurd hk (hnone o ho))
      (fun _ => ?_) fun row' s' h =>
        hstored row' s' _ h (by decide)
    rw [hrow]
    simpa [newOrder] using hf.unused 0
  · intro existing hmem hek hup row s₁ k hrow hr
    have hfind := (find?_eq_some_iff hw.keys).mpr ⟨hmem, hek⟩
    have hd : intake.resolve order (some existing.unifiedStatus) =
        decisionOn intake order key s.data := by
      rw [decisionOn, hfind]
      rfl
    have hrowKey : row.idempotencyKey = key := by simp [hrow, hek]
    have honly : ∀ o ∈ s.data.orders, o.idempotencyKey = key → o = existing := fun o ho hk =>
      hw.keys.eq_of_key_eq ho hmem (hk.trans hek.symm)
    have hid : existing.id = row.id := by simp [hrow]
    have hw₁ : OrdersWf s₁.data := hr.ordersWf hw fun o ho hk => by
      rw [honly o ho (hk.trans hrowKey), hid]
    rw [hd] at hrow ⊢
    refine wp_afterWrite (by decide) hw₁ (hr.orders ▸ mem_put.mpr (.inl rfl)) hrowKey ?_
    have hmirrors : Mirrors order row := by
      rw [hrow]
      exact mirrors_applyStatus _ _ _
    refine wp_afterUpsert hf hr hw₁ hmirrors (by simp [hrow]) hrowKey
      (fun o ho hk => ?_) (fun o ho hk => ?_) (fun hnone => absurd hek (hnone existing hmem))
      fun row' s' h => hstored row' s' _ h (by decide)
    · rw [honly o ho hk]
      exact ⟨hid, hup⟩
    · rw [honly o ho hk, hrow, applyStatus_platformCode]

/-- As `wp_ingestOrder_mirrored`, without what the row and the fees show. -/
theorem wp_ingestOrder {Q : WriteAction × Option StatusDecision → WorkState → Prop}
    (hf : Fresh s) (hw : OrdersWf s.data)
    (hkey : order.key intake.shop = some key)
    (hskip : ∀ existing ∈ s.data.orders, existing.idempotencyKey = key →
      UpToDate existing order → Q (.skip, none) s)
    (hstored : ∀ row s' action, Ingested intake order key row s s' → action ≠ .skip →
      (stockStep row.id (decisionOn intake order key s.data)).wp
        (fun _ => Q (action, some (decisionOn intake order key s.data))) E s') :
    (ingestOrder intake order).wp Q E s :=
  wp_ingestOrder_mirrored hf hw hkey hskip fun row s' action hm haction =>
    hstored row s' action hm.toIngested haction

/-- A snapshot that is ingested has a key. -/
lemma key_of_ingested {s' : WorkState} {r : WriteAction × Option StatusDecision}
    (hexec : (ingestOrder intake order).exec s = (.ok r, s')) :
    ∃ key, order.key intake.shop = some key := by
  cases hkey : order.key intake.shop with
  | some key => exact ⟨key, rfl⟩
  | none =>
    have hfail : (ingestOrder intake order).wp (fun _ _ => False) (fun _ _ => True) s := by
      rw [ingestOrder, bind_eq, wp_bind, orderKey, hkey]
      exact trivial
    exact absurd ((wp_of_exec hexec).mp hfail) id

end ingest

end CrossPilot
