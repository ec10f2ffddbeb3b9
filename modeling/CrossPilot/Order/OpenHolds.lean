import CrossPilot.Order.ByHand
import CrossPilot.Order.Matching

/-!
# Whom open holds belong to

An open hold should belong to a paid order. The status of an order is moved by snapshots, by
shipping by hand and by returns, and only some of these look after the holds: a snapshot that
refunds a paid order does not, nor does the approval of a return, and shipping does not find the
holds of lines that have been replaced. The rule holds in every state of a run whose moves do none
of this (`SafeRun.heldForPaid`).
-/

namespace CrossPilot

open Transaction Table Prog

/-- An open hold belongs to a paid order. -/
def HeldForPaid (d : Db) : Prop :=
  ∀ h ∈ d.holds, h.status = .opened → ∃ o ∈ d.orders, o.id = h.orderId ∧ o.unifiedStatus = .paid

instance (d : Db) : Decidable (HeldForPaid d) :=
  inferInstanceAs (Decidable (∀ h ∈ d.holds, _ → _))

/-! ### Moves -/

/-- What can happen to an order. -/
inductive Move
  | ingest (intake : Intake) (order : UnifiedOrder)
  | ship (dispatch : Dispatch) (orderId : ℕ)
  | createReturn (orderId : ℕ) (payload : ReturnWrite)
  | transitionReturn (returnId : ℕ) (action : ReturnAction) (userId : ℕ)

namespace Move

def work : Move → Work Unit
  | ingest intake order => do let _ ← ingestOrder intake order
  | ship dispatch orderId => do let _ ← batchShip dispatch [orderId]
  | createReturn orderId payload => do let _ ← CrossPilot.createReturn orderId payload
  | transitionReturn returnId action userId => CrossPilot.transitionReturn returnId action userId

/-- A move leaves no open hold behind: a snapshot moves a paid order with an open hold nowhere but
to `cancelled`, an order that is shipped by hand has open holds for its current lines only, and a
return of a paid order is approved only if it has no open hold. -/
def Safe (d : Db) : Move → Prop
  | ingest intake order => ∀ o ∈ d.orders, order.key intake.shop = some o.idempotencyKey →
      o.unifiedStatus = .paid → NoneOpen d o.id ∨
        (intake.resolve order (some .paid)).toStatus ∈ [UnifiedStatus.paid, .cancelled]
  | ship _ orderId => ∀ h ∈ d.holds, h.orderId = orderId → h.status = .opened →
      ∃ item ∈ d.items, item.id = h.orderItemId ∧ Reservable item h.skuId
  | createReturn _ _ => True
  | transitionReturn returnId action _ => action = .approve →
      ∀ r ∈ d.returns, r.id = returnId → ∀ o ∈ d.orders, o.id = r.orderId →
        o.unifiedStatus = .paid → NoneOpen d o.id

end Move

/-- Moves happen one after the other, each in a transaction of its own, and all of them are safe. -/
inductive SafeRun (d₀ : Db) : Db → Prop
  | start : SafeRun d₀ d₀
  | move {d : Db} (m : Move) (l : Session) : SafeRun d₀ d → Worker d l → m.Safe d →
    SafeRun d₀ (m.work.commit l d)

/-! ### One move -/

/-- What a run keeps. -/
structure Sound (c : ℕ → ℕ → ℤ) (d : Db) : Prop where
  inBooks : InBooks c d
  ordersWf : OrdersWf d
  law : HeldForPaid d

section moves

variable {c : ℕ → ℕ → ℤ} {d d' : Db} {l : Session} {row : SalesOrder}

/-- An order gets a new row, and no hold changes but its own. -/
lemma HeldForPaid.put (hlaw : HeldForPaid d)
    (horders : d'.orders = put SalesOrder.id row d.orders)
    (hothers : ∀ h ∈ d'.holds, h.orderId ≠ row.id → h ∈ d.holds)
    (hrow : row.unifiedStatus = .paid ∨ NoneOpen d' row.id) : HeldForPaid d' := by
  intro h hh hst
  rw [horders]
  by_cases ho : h.orderId = row.id
  · rcases hrow with hpaid | hnone
    · exact ⟨row, mem_put.mpr (.inl rfl), ho.symm, hpaid⟩
    · exact absurd hst (hnone h hh ho)
  · obtain ⟨o, hmem, hid, hpaid⟩ := hlaw h (hothers h hh ho) hst
    exact ⟨o, mem_put.mpr (.inr ⟨hmem, by rwa [hid]⟩), hid, hpaid⟩

/-- Only a paid order has open holds. -/
lemma HeldForPaid.noneOpen (hlaw : HeldForPaid d) (hids : Keyed SalesOrder.id d.orders)
    {o : SalesOrder} (ho : o ∈ d.orders) (hst : o.unifiedStatus ≠ .paid) : NoneOpen d o.id := by
  intro h hh hid hopen
  obtain ⟨o', ho', hid', hpaid⟩ := hlaw h hh hopen
  rw [hids.eq_of_key_eq ho' ho (hid'.trans hid)] at hpaid
  exact hst hpaid

/-- An order that nobody knows has no holds. -/
lemma HeldForPaid.noneOpen_of_unused {orderId : ℕ} (hunused : ¬ Uses d orderId) :
    NoneOpen d orderId := fun _ hh hid _ => hunused (.hold hh (.inr (.inr hid.symm)))

/-- What holds after every way a snapshot can be ingested holds after a transaction that does it. -/
lemma commit_ingest {intake : Intake} {order : UnifiedOrder} {R : Db → Prop} (hskip : R d)
    (hstored : ∀ key, order.key intake.shop = some key →
      (ingestOrder intake order).wp (fun _ s' => R s'.data) (fun _ _ => R d) ⟨l, d, []⟩) :
    R ((Move.ingest intake order).work.commit l d) := by
  refine commit_of_wp ?_
  rw [Move.work, bind_eq, wp_bind]
  cases hkey : order.key intake.shop with
  | some key => exact hstored key hkey
  | none =>
    rw [ingestOrder, bind_eq, wp_bind, orderKey, hkey]
    exact hskip

theorem Sound.ingest (h : Sound c d) (hl : Worker d l) {intake : Intake} {order : UnifiedOrder}
    (hsafe : (Move.ingest intake order).Safe d) :
    Sound c ((Move.ingest intake order).work.commit l d) := by
  refine commit_ingest h fun key hkey => ?_
  have hb := h.inBooks.books hl
  refine wp_ingestOrder hl.fresh h.ordersWf hkey (fun _ _ _ _ => h) fun row s₁ action hi _ => ?_
  have hb₁ := hi.books c hb
  -- before the step for the stock, the order has open holds only if it was paid
  have hbefore : NoneOpen s₁.data row.id ∨ ∃ o ∈ d.orders, o.idempotencyKey = key ∧
      o.unifiedStatus = .paid := by
    unfold NoneOpen
    rw [hi.holds]
    by_cases hknown : ∃ o ∈ d.orders, o.idempotencyKey = key
    · obtain ⟨o, ho, hk⟩ := hknown
      by_cases hst : o.unifiedStatus = .paid
      · exact .inr ⟨o, ho, hk, hst⟩
      · rw [← (hi.found o ho hk).1]
        exact .inl (h.law.noneOpen h.ordersWf.ids ho hst)
    · refine .inl (HeldForPaid.noneOpen_of_unused (hi.new fun o ho hk => hknown ⟨o, ho, hk⟩))
  have hend : ∀ s₂, HoldSteps (fun _ h => h.orderId = row.id) s₁ s₂ →
      row.unifiedStatus = .paid ∨ NoneOpen s₂.data row.id → Sound c s₂.data := by
    intro s₂ hs hrow
    have hothers := hs.others hb₁ fun _ _ ho => ho
    have horders : s₂.data.orders = s₁.data.orders := by rw [hs.frame]
    refine ⟨(hs.books hb₁).inBooks, ⟨horders ▸ hi.ordersWf.ids, horders ▸ hi.ordersWf.keys⟩, ?_⟩
    refine h.law.put (horders.trans hi.orders) (fun hold hh ho => ?_) hrow
    have hmem : hold ∈ s₂.data.holds.filter fun h => h.orderId ≠ row.id :=
      List.mem_filter.mpr ⟨hh, by simpa using ho⟩
    rw [hothers] at hmem
    exact hi.holds ▸ (List.mem_filter.mp hmem).1
  by_cases hcancel : (decisionOn intake order key d).toStatus = .cancelled
  · refine wp_stockStep_cancelled hb₁ hcancel fun s₂ hs hnone =>
      hend s₂ (hs.mono fun _ _ hP => hP.order) (.inr (hnone ?_))
    rcases hbefore with hno | ⟨o, ho, hk, hst⟩
    · exact .inl hno
    · have hd : decisionOn intake order key d = _ := decisionOn_of_mem h.ordersWf ho hk
      rw [hst] at hd
      refine .inr ⟨?_, by simp [hd, Intake.resolve]⟩
      by_contra hne
      rw [hd, Intake.resolve] at hne hcancel
      rw [decideStatus_toStatus_of_ne hne] at hcancel
      cases hcancel
  · have hnew : ∀ i ∈ s₁.data.items, i.orderId = row.id →
        ∀ hold ∈ s₁.data.holds, hold.orderItemId ≠ i.id := by
      intro i hi' ho hold hh
      rw [hi.holds] at hh
      exact hi.fresh i hi' ho hold hh
    refine wp_stockStep_forward hb₁ hnew hcancel fun s₂ hs hopen =>
      hend s₂ (hs.mono fun _ _ hP => hP.1.order) ?_
    by_cases hpaid : (decisionOn intake order key d).toStatus = .paid
    · exact .inl (hi.status.trans hpaid)
    · refine .inr fun hold hh ho hst => ?_
      have hin := hopen hpaid hold hh hst
      rcases hbefore with hno | ⟨o, hmem, hk, hst'⟩
      · exact hno hold hin ho hst
      · rcases hsafe o hmem (hk.symm ▸ hkey) hst' with hno | hto
        · rw [hi.holds] at hin
          exact hno hold hin (ho.trans (hi.found o hmem hk).1.symm) hst
        · have hd : decisionOn intake order key d = _ := decisionOn_of_mem h.ordersWf hmem hk
          rw [hst'] at hd
          rw [← hd] at hto
          simp [hpaid, hcancel] at hto

theorem Sound.ship (h : Sound c d) (hl : Worker d l) {dispatch : Dispatch} {orderId : ℕ}
    (hsafe : (Move.ship dispatch orderId).Safe d) :
    Sound c ((Move.ship dispatch orderId).work.commit l d) := by
  have hb := h.inBooks.books hl
  refine commit_of_wp ?_
  rw [Move.work, bind_eq, wp_bind]
  apply wp_batchShip_one hb h.ordersWf ?_ ?_ fun _ => h
  · intro _ s' hd
    have hholds : s'.data.holds = d.holds := by rw [hd]
    have horders : s'.data.orders = d.orders := by rw [hd]
    have hb' : Books c ⟨l, s'.data, []⟩ :=
      hb.of_frame rfl (by rw [hd]) hholds (by rw [hd]) horders
    refine ⟨hb'.inBooks, ⟨horders ▸ h.ordersWf.ids, horders ▸ h.ordersWf.keys⟩, ?_⟩
    unfold HeldForPaid
    rw [hholds, horders]
    exact h.law
  rintro held hmem hid - row s₁ s₂ lines s' ⟨hrowId, hrowKey, -, hplaced, hsteps, hall⟩ hd
  have hb₁ := hplaced.books c hb
  have hw₁ := hplaced.ordersWf h.ordersWf hmem hrowId hrowKey
  have horders : s₂.data.orders = s₁.data.orders := by rw [hsteps.frame]
  have hothers := hsteps.others hb₁ fun _ _ hP => hP.order
  show Sound c s'.data
  rw [hd]
  refine ⟨(hsteps.books hb₁).inBooks, ⟨horders ▸ hw₁.ids, horders ▸ hw₁.keys⟩, ?_⟩
  refine h.law.put (horders.trans hplaced.orders) (fun hold hh ho => ?_) (.inr ?_)
  · have hin : hold ∈ s₂.data.holds.filter fun h => h.orderId ≠ held.id :=
      List.mem_filter.mpr ⟨hh, by simpa [hrowId] using ho⟩
    rw [hothers] at hin
    exact hplaced.holds ▸ (List.mem_filter.mp hin).1
  · -- an open hold would be for a current line, and these have shipped holds
    intro hold hh ho hst
    rw [hrowId] at ho
    have hin := mem_of_opened hb₁ (hsteps.mono fun _ _ hP => hP.lineStep) hall hh hst
    rw [hplaced.holds] at hin
    obtain ⟨item, hi, hitem, hres⟩ := hsafe hold hin (ho.trans hid) hst
    have horder := (hb.wf.linked hold hin item hi hitem.symm).2
    obtain ⟨other, hother, hid', hst'⟩ := hall item (hplaced.items ▸ hi) (horder.trans ho) ⟨_, hres⟩
    have heq := (hsteps.books hb₁).wf.items.eq_of_key_eq hother hh (hid'.trans hitem)
    rw [heq, hst] at hst'
    cases hst'

/-- Sound states differ from a sound state in other tables only. -/
lemma Sound.of_frame (h : Sound c d) (hl : Worker d l)
    (hinventories : d'.inventories = d.inventories) (hholds : d'.holds = d.holds)
    (hitems : d'.items = d.items) (horders : d'.orders = d.orders) : Sound c d' := by
  have hb : Books c ⟨l, d', []⟩ :=
    (h.inBooks.books hl).of_frame rfl hinventories hholds hitems horders
  refine ⟨hb.inBooks, ⟨horders ▸ h.ordersWf.ids, horders ▸ h.ordersWf.keys⟩, ?_⟩
  unfold HeldForPaid
  rw [hholds, horders]
  exact h.law

theorem Sound.createReturn (h : Sound c d) (hl : Worker d l) {orderId : ℕ}
    {payload : ReturnWrite} : Sound c ((Move.createReturn orderId payload).work.commit l d) := by
  apply commit_of_wp
  rw [Move.work, bind_eq, wp_bind]
  apply wp_createReturn h.ordersWf.ids
  · intro _ _ row _ _ _
    exact h.of_frame hl rfl rfl rfl rfl
  · exact fun _ => h

theorem Sound.transitionReturn (h : Sound c d) (hl : Worker d l) {returnId : ℕ}
    {action : ReturnAction} {userId : ℕ}
    (hsafe : (Move.transitionReturn returnId action userId).Safe d) :
    Sound c ((Move.transitionReturn returnId action userId).work.commit l d) := by
  refine commit_of_wp (wp_transitionReturn (h.inBooks.books hl) h.ordersWf ?_ fun _ _ => h)
  intro r hr hid o ho hoid s' ht
  have hholds : s'.data.holds = d.holds := ht.holds
  have horders := ht.orders
  cases htarget : action.target with
  | none =>
    rw [htarget] at horders
    have horders : s'.data.orders = d.orders := horders
    refine ⟨ht.books.inBooks, ⟨horders ▸ h.ordersWf.ids, horders ▸ h.ordersWf.keys⟩, ?_⟩
    unfold HeldForPaid
    rw [hholds, horders]
    exact h.law
  | some target =>
    rw [htarget] at horders
    have horders : s'.data.orders = put SalesOrder.id { o with unifiedStatus := target } d.orders :=
      horders
    refine ⟨ht.books.inBooks, ⟨?_, ?_⟩, h.law.put horders (fun _ hh _ => hholds ▸ hh) (.inr ?_)⟩
    · rw [horders]
      exact h.ordersWf.ids.put _
    · rw [horders]
      refine h.ordersWf.keys.put_of h.ordersWf.ids fun o' ho' hk => ?_
      have heq : o' = o := h.ordersWf.keys.eq_of_key_eq ho' ho hk
      rw [heq]
    · have hnone : NoneOpen d o.id := by
        by_cases hst : o.unifiedStatus = .paid
        · -- a paid order is moved by an approval only
          cases action with
          | approve => exact hsafe rfl r hr hid o ho hoid hst
          | reject => cases htarget
          | refund =>
            have hedge := ht.edge _ rfl
            rw [hst] at hedge
            exact absurd hedge (by decide)
        · exact h.law.noneOpen h.ordersWf.ids ho hst
      unfold NoneOpen
      rw [hholds]
      exact hnone

end moves

/-- In every state of a run of safe moves, an open hold belongs to a paid order, and no stock is
occupied for any other order. -/
theorem SafeRun.heldForPaid {c : ℕ → ℕ → ℤ} {d₀ d : Db} (hbooks : InBooks c d₀)
    (hw : OrdersWf d₀) (hlaw : HeldForPaid d₀) (hrun : SafeRun d₀ d) :
    HeldForPaid d ∧ ∀ o ∈ d.orders, o.unifiedStatus ≠ .paid →
      ∀ skuId warehouseId, heldBy .opened d o.id skuId warehouseId = 0 := by
  have hsound : Sound c d := by
    induction hrun with
    | start => exact ⟨hbooks, hw, hlaw⟩
    | move m l _ hl hsafe ih =>
      cases m with
      | ingest intake order => exact ih.ingest hl hsafe
      | ship dispatch orderId => exact ih.ship hl hsafe
      | createReturn orderId payload => exact ih.createReturn hl
      | transitionReturn returnId action userId => exact ih.transitionReturn hl hsafe
  exact ⟨hsound.law, fun o ho hst =>
    heldBy_eq_zero (hsound.law.noneOpen hsound.ordersWf.ids ho hst)⟩

/-- Two of ten pieces are held for a paid order, and its buyer asks to return them. -/
def returnShop : Db where
  warehouses := [{ id := 1, isDefault := true }]
  inventories := [{ id := 2, skuId := 3, warehouseId := 1, available := 10, occupied := 2 }]
  skus := [{ id := 3 }]
  shops := [{ id := 4, platformCode := "tiktok" }]
  orders := [{ id := 6, shopId := 4, platformCode := "tiktok", platformOrderId := "A"
               idempotencyKey := "tiktok:4:A", platformStatus := "AWAITING_SHIPMENT"
               unifiedStatus := .paid, currency := "USD", platformUpdatedAt := some 1 }]
  items := [⟨5, 6, some 3, "S", "", "", 2, 0, "USD"⟩]
  holds := [⟨7, 6, 5, 3, 2, 0, [⟨1, 2⟩], .opened⟩]
  returns := [⟨8, 6, "broken", .requested, 0, "USD", false, true, .none⟩]

lemma inBooks_returnShop : InBooks (fun _ _ => 0) returnShop := by
  refine ⟨⟨?_, ?_, ?_, ?_, ?_, ?_⟩, ⟨?_, ?_, ?_, ?_, ?_, ?_, ?_⟩, fun _ _ => le_rfl, fun t w => ?_⟩
  iterate 9 decide
  · simp [returnShop, Positive]
  iterate 3 decide
  · simp only [balanceAt, heldIn, returnShop, total_cons, total_nil, Inventory.pair,
      InventoryHold.part, allocatedAt]
    by_cases ht : 3 = t
    · by_cases hw : 1 = w
      · subst ht hw
        rfl
      · simp [ht, hw]
    · simp [ht]

/-- The platform cancels the order. -/
def cancelledSnapshot : UnifiedOrder :=
  { paidSnapshot with platformStatus := "CANCELLED", updatedAt := 2 }

def cancelIntake : Intake := { linkedIntake with table := [("CANCELLED", "CANCELLED")] }

lemma safeRun_returnShop : SafeRun returnShop
    ((Move.ingest cancelIntake cancelledSnapshot).work.commit newWorker returnShop) := by
  refine .move _ newWorker .start (worker_newWorker (by decide)) ?_
  rintro o - - -
  exact .inr (by decide +kernel)

theorem heldForPaid_returnShop :
    let d := (Move.ingest cancelIntake cancelledSnapshot).work.commit newWorker returnShop
    HeldForPaid d ∧ ∀ o ∈ d.orders, o.unifiedStatus ≠ .paid →
      ∀ skuId warehouseId, heldBy .opened d o.id skuId warehouseId = 0 :=
  safeRun_returnShop.heldForPaid inBooks_returnShop ⟨by decide, by decide⟩ (by decide)

theorem not_heldForPaid_returnShop :
    let d := (Move.transitionReturn 8 .approve 9).work.commit newWorker returnShop
    HeldForPaid returnShop ∧ ¬ HeldForPaid d ∧ d.orders.map (·.unifiedStatus) = [.refunding] ∧
      balanceAt d .occupied 3 1 = 2 := by
  decide +kernel

end CrossPilot
