import CrossPilot.Order.Returns

/-!
# Goods that come back

A refund may put the goods of an order back in stock: those of a line go where its hold took them
from, or in full to the default warehouse. Nothing asks whether they have ever left. As long as each
line of the order has been shipped from somewhere, no more comes back than was taken out
(`Trade.restocked_le`). A line whose hold is still open is put back nonetheless
(`not_restocked_le_refundedShop`).
-/

namespace CrossPilot

open Transaction Table Prog

/-! ### What was taken out, and what is put back -/

/-- What shipping has taken out of stock for an order item. -/
def unitsShipped (d : Db) (itemId : ℕ) : ℤ :=
  total (fun h => if h.orderItemId = itemId then
    if h.status = .shipped then allocated h.allocations else 0 else 0) d.holds

/-- Where the goods of a line are put back. -/
def restockTargets (l : Session) (d : Db) (item : OrderItem) : List Allocation :=
  match (returnTargets item).exec ⟨l, d, []⟩ with
  | (.ok targets, _) => targets
  | (.error _, _) => []

/-- What the goods of the return `r` make up for an order item. -/
def unitsOf (l : Session) (d : Db) (r : ReturnOrder) (itemId : ℕ) : ℤ :=
  total (fun i => allocated (restockTargets l d i)) (d.items.filter fun i =>
    i.id = itemId ∧ i.orderId = r.orderId ∧ shouldReserveLine i.skuId i.quantity)

/-- The line has been shipped, and not short of everything. -/
def TakenOut (d : Db) (item : OrderItem) : Prop :=
  ∃ h ∈ d.holds, h.orderItemId = item.id ∧ h.status = .shipped ∧ h.allocations ≠ []

instance (d : Db) (item : OrderItem) : Decidable (TakenOut d item) :=
  inferInstanceAs (Decidable (∃ h ∈ d.holds, _))

namespace Move

/-- What the move puts back in stock for an order item. -/
def restocks (l : Session) (d : Db) (m : Move) (itemId : ℕ) : ℤ :=
  match m with
  | transitionReturn returnId .refund _ =>
    if (m.work.exec ⟨l, d, []⟩).1.isOk then
      total (unitsOf l d · itemId) (d.returns.filter fun r => r.id = returnId ∧ r.restockFlag)
    else 0
  | _ => 0

/-- If the move refunds a return that is put back in stock, every line has been taken out. -/
def Covered (l : Session) (d : Db) (m : Move) : Prop :=
  match m with
  | transitionReturn returnId .refund _ => (m.work.exec ⟨l, d, []⟩).1.isOk →
      ∀ r ∈ d.returns, r.id = returnId → r.restockFlag → ∀ i ∈ d.items, i.orderId = r.orderId →
        shouldReserveLine i.skuId i.quantity → TakenOut d i
  | _ => True

end Move

/-- Moves happen one after the other, each in a transaction of its own, and `P` allows them all.
`back i` is what they have put back for the order item `i` altogether. -/
inductive Trade (P : Session → Db → Move → Prop) (d₀ : Db) : (ℕ → ℤ) → Db → Prop
  | start : Trade P d₀ (fun _ => 0) d₀
  | move {back : ℕ → ℤ} {d : Db} (m : Move) (l : Session) : Trade P d₀ back d → Worker d l →
    (∀ r ∈ d.returns, ∀ k, r.id ≠ l.ids k) → P l d m →
    Trade P d₀ (fun i => back i + m.restocks l d i) (m.work.commit l d)

section units

variable {d : Db} {h : InventoryHold}

lemma unitsShipped_nonneg (hw : HoldsWf d) (itemId : ℕ) : 0 ≤ unitsShipped d itemId := by
  apply total_nonneg
  intro h hh
  have hsum : 0 ≤ allocated h.allocations :=
    total_nonneg fun a ha => (hw.positive h hh a ha).le
  split_ifs
  · exact hsum
  · exact le_rfl
  · exact le_rfl

lemma unitsShipped_of_mem (hw : HoldsWf d) (hh : h ∈ d.holds) (hst : h.status = .shipped) :
    unitsShipped d h.orderItemId = allocated h.allocations := by
  have hone := total_ite_key hw.items hh
    fun h => if h.status = .shipped then allocated h.allocations else 0
  rw [if_pos hst] at hone
  exact hone

/-- The goods of a line that was taken out go where its hold took them from. -/
lemma restockTargets_of_hold (hw : HoldsWf d) (hh : h ∈ d.holds) (hne : h.allocations ≠ [])
    {item : OrderItem} (hid : h.orderItemId = item.id) (l : Session) :
    restockTargets l d item = h.allocations := by
  have hfind : d.holds.find? (fun h => h.orderItemId = item.id) = some h :=
    (find?_eq_some_iff hw.items).mpr ⟨hh, hid⟩
  have hallocs : readAllocs h.allocations = h.allocations :=
    readAllocs_of_positive (hw.positive h hh)
  have hsome : h.allocations.isEmpty = false := by simpa using hne
  have hexec : (returnTargets item).exec ⟨l, d, []⟩ = (.ok h.allocations, ⟨l, d, []⟩) := by
    have hget : (getForItem item.id).exec ⟨l, d, []⟩ = (.ok (some h), ⟨l, d, []⟩) :=
      congrArg (fun o => (Except.ok o, (⟨l, d, []⟩ : WorkState))) hfind
    rw [returnTargets, bind_eq, exec_bind, hget]
    simp [hallocs, hsome]
  rw [restockTargets, hexec]

/-- What comes back for a line that was taken out is what was taken. -/
lemma unitsOf_cases (hw : HoldsWf d) {r : ReturnOrder} (hall : ∀ i ∈ d.items,
    i.orderId = r.orderId → shouldReserveLine i.skuId i.quantity → TakenOut d i) (l : Session)
    (itemId : ℕ) : unitsOf l d r itemId = 0 ∨
      ∃ h ∈ d.holds, h.orderItemId = itemId ∧ h.status = .shipped ∧ h.orderId = r.orderId ∧
        unitsOf l d r itemId = allocated h.allocations := by
  by_cases hex : ∃ i ∈ d.items, i.id = itemId ∧ i.orderId = r.orderId ∧
      shouldReserveLine i.skuId i.quantity
  · obtain ⟨i, hi, rfl, ho, hres⟩ := hex
    obtain ⟨h, hh, hid, hst, hne⟩ := hall i hi ho hres
    have hlines : d.items.filter (fun j => j.id = i.id ∧ j.orderId = r.orderId ∧
        shouldReserveLine j.skuId j.quantity) = [i] :=
      hw.lines.filter_eq_singleton hi (by simp [ho, hres]) fun j _ hj => by
        simp only [decide_eq_true_eq] at hj
        exact hj.1
    refine .inr ⟨h, hh, hid, hst, ((hw.linked h hh i hi hid).2.symm.trans ho), ?_⟩
    rw [unitsOf, hlines, total_cons, total_nil, add_zero, restockTargets_of_hold hw hh hne hid]
  · refine .inl ?_
    have hnone : d.items.filter (fun i => i.id = itemId ∧ i.orderId = r.orderId ∧
        shouldReserveLine i.skuId i.quantity) = [] := by
      apply List.filter_eq_nil_iff.mpr
      intro i hi hp
      exact hex ⟨i, hi, by simpa using hp⟩
    rw [unitsOf, hnone, total_nil]

end units

/-! ### The goods arrive

What `restockTargets` says is what the balances get.
-/

section arrival

variable {c : ℕ → ℕ → ℤ} {s : WorkState} {d : Db} {l : Session}

/-- The goods of a SKU in a warehouse, sellable or not. -/
def onHand (d : Db) (t w : ℕ) : ℤ := balanceAt d .available t w + balanceAt d .defective t w

/-- What the goods of some lines make up of a SKU in a warehouse. -/
def arriving (l : Session) (d : Db) (items : List OrderItem) (t w : ℕ) : ℤ :=
  total (fun i => if i.skuId = some t ∧ shouldReserveLine i.skuId i.quantity then
    allocatedAt (restockTargets l d i) w else 0) items

/-- Where goods go back to is read off the holds and the warehouses. -/
lemma exec_returnTargets (item : OrderItem) (s s₀ : WorkState) (hholds : s.data.holds = s₀.data.holds)
    (hwarehouses : s.data.warehouses = s₀.data.warehouses) :
    ∃ r, (returnTargets item).exec s = (r, s) ∧ (returnTargets item).exec s₀ = (r, s₀) := by
  have hget : ∀ s : WorkState, (getForItem item.id).exec s =
      (.ok (s.data.holds.find? fun h => h.orderItemId = item.id), s) := fun _ => rfl
  have hdefault : ∀ s : WorkState, getDefault.exec s =
      (.ok (s.data.warehouses.find? fun w => w.isDefault ∧ w.deleted = false), s) := fun _ => rfl
  simp only [returnTargets, bind_eq, exec_bind, hget, hholds]
  split
  · exact ⟨_, rfl, rfl⟩
  · simp only [returnWarehouse, bind_eq, exec_bind, hdefault, hwarehouses]
    cases s₀.data.warehouses.find? fun w => w.isDefault ∧ w.deleted = false with
    | some w => exact ⟨_, rfl, rfl⟩
    | none =>
      have hfirst : ∃ o : Option Warehouse, firstFulfillment.exec s = (.ok o, s) ∧
          firstFulfillment.exec s₀ = (.ok o, s₀) :=
        ⟨_, rfl, by simp only [firstFulfillment, hwarehouses]; rfl⟩
      obtain ⟨o, ho, ho₀⟩ := hfirst
      simp only [ho, ho₀]
      cases o with
      | none => exact ⟨_, rfl, rfl⟩
      | some w => exact ⟨_, rfl, rfl⟩

lemma wp_returnTargets {Q : List Allocation → WorkState → Prop}
    {E : ServiceError → WorkState → Prop} (hholds : s.data.holds = d.holds)
    (hwarehouses : s.data.warehouses = d.warehouses) {item : OrderItem}
    (h : Q (restockTargets l d item) s) (he : ∀ e, E e s) : (returnTargets item).wp Q E s := by
  obtain ⟨r, hexec, hexec₀⟩ := exec_returnTargets item s ⟨l, d, []⟩ hholds hwarehouses
  unfold Prog.wp
  rw [hexec]
  rw [restockTargets, hexec₀] at h
  cases r with
  | ok targets => exact h
  | error e => exact he e

/-- A state on the way: the goods that have arrived by now are `gain`. -/
structure Arrived (c : ℕ → ℕ → ℤ) (d : Db) (gain : ℕ → ℕ → ℤ) (s : WorkState) : Prop where
  books : Books c s
  holds : s.data.holds = d.holds
  warehouses : s.data.warehouses = d.warehouses
  onHand : ∀ t w, onHand s.data t w = CrossPilot.onHand d t w + gain t w

/-- Goods that come back, sellable or not. -/
def backDelta (sellable : Bool) (quantity : ℤ) : Delta :=
  if sellable then { available := quantity } else { defective := quantity }

/-- Goods that come back for a SKU. -/
lemma wp_arrive {gain : ℕ → ℕ → ℤ} {skuId : ℕ} {alloc : Allocation} (sellable : Bool)
    {note : FlowNote} (hs : Arrived c d gain s) {Q : Unit → WorkState → Prop} (h : ∀ s', Arrived c d (fun t w => gain t w +
      if t = skuId then allocatedAt [alloc] w else 0) s' → Q () s') :
    (do
      let balance ← ensure skuId alloc.warehouseId
      let _ ← commitChange balance note (backDelta sellable alloc.quantity)
      return () : Work Unit).wp Q (fun _ _ => True) s := by
  rw [bind_eq, wp_bind]
  refine wp_ensure hs.books (fun held s₁ r hb₁ hr hp hheld hframe hbal => ?_) fun _ => trivial
  rw [bind_eq, wp_bind]
  refine wp_commitChange hb₁.ready hr hheld (fun _ s₂ hc => ?_) fun _ _ _ => trivial
  have hm : Moved s₁.data s₂.data fun b t w =>
      if r.pair = (t, w) then (backDelta sellable alloc.quantity).bucket b else 0 := by
    rw [hc.data]
    exact Moved.logged hb₁.ready.shelf hr _ _
  refine h s₂ ⟨?_, ?_, ?_, fun t w => ?_⟩
  · refine hb₁.of_moved hc.ready hc.ids hm fun t w => ?_
    cases sellable <;> simp [backDelta, Delta.bucket]
  · rw [hm.frame, hframe]
    exact hs.holds
  · rw [hm.frame, hframe]
    exact hs.warehouses
  · have hbefore := hs.onHand t w
    unfold onHand at hbefore ⊢
    rw [hm.balance, hm.balance, hbal, hbal, hp]
    by_cases ht : t = skuId
    · by_cases hw : alloc.warehouseId = w
      · rw [if_pos (by rw [ht, hw]), if_pos ht, if_pos (by rw [ht, hw])]
        cases sellable <;> simp [hw, backDelta, Delta.bucket] <;> omega
      · rw [if_neg (by simp [hw]), if_neg (by simp [hw]), if_pos ht]
        simp only [allocatedAt_cons, if_neg hw, allocatedAt_nil]
        omega
    · rw [if_neg (by simp [Ne.symm ht]), if_neg (by simp [Ne.symm ht]), if_neg ht]
      omega

lemma Arrived.congr {gain gain' : ℕ → ℕ → ℤ} (hs : Arrived c d gain s)
    (h : ∀ t w, gain t w = gain' t w) : Arrived c d gain' s :=
  ⟨hs.books, hs.holds, hs.warehouses, fun t w => by rw [hs.onHand, h]⟩

/-- The goods of a line arrive. -/
lemma wp_receiveItem {gain : ℕ → ℕ → ℤ} {row : ReturnOrder} {item : OrderItem}
    (hs : Arrived c d gain s) {Q : Unit → WorkState → Prop}
    (h : ∀ s', Arrived c d (fun t w => gain t w + arriving l d [item] t w) s' → Q () s') :
    (receiveItem row item).wp Q (fun _ _ => True) s := by
  rcases reservable_or item with ⟨skuId, hres⟩ | hno
  swap
  · have hskip : receiveItem row item = .ret () := by
      rw [receiveItem, hno]
      cases item.skuId <;> rfl
    rw [hskip]
    refine h s (hs.congr fun t w => ?_)
    simp [arriving, hno]
  unfold receiveItem
  simp only [hres.1, hres.shouldReserveLine, bind_eq, wp_bind]
  refine wp_returnTargets (l := l) hs.holds hs.warehouses ?_ fun _ => trivial
  let I (rest : List Allocation) (s' : WorkState) : Prop := Arrived c d (fun t w => gain t w +
    if t = skuId then allocatedAt (restockTargets l d item) w - allocatedAt rest w else 0) s'
  refine wp_mono (wp_forEach (I := I) (E := fun _ _ => True) ?_ fun alloc rest s' hI => ?_) ?_ fun _ _ _ => trivial
  · refine hs.congr fun t w => ?_
    simp
  · have hrest : ∀ s'', Arrived c d (fun t w => (gain t w + if t = skuId then
        allocatedAt (restockTargets l d item) w - allocatedAt (alloc :: rest) w else 0) +
          if t = skuId then allocatedAt [alloc] w else 0) s'' → I rest s'' := by
      intro s'' hs''
      refine hs''.congr fun t w => ?_
      by_cases ht : t = skuId
      · simp only [if_pos ht, allocatedAt_cons, allocatedAt_nil]
        ring
      · simp [ht]
    cases row.restockSellable with
    | true => exact wp_arrive true hI hrest
    | false => exact wp_arrive false hI hrest
  · intro _ s' hI
    refine h s' (hI.congr fun t w => ?_)
    by_cases ht : t = skuId
    · simp [arriving, hres.1, hres.shouldReserveLine, ht]
    · simp [arriving, hres.1, ht, Ne.symm ht]

lemma arriving_cons (item : OrderItem) (rest : List OrderItem) (t w : ℕ) :
    arriving l d (item :: rest) t w = arriving l d [item] t w + arriving l d rest t w := by
  simp [arriving]

/-- The goods of a return arrive where `restockTargets` says, line by line. -/
theorem wp_receiveReturn_onHand (hb : Books c s) (row : ReturnOrder)
    (hrow : row.restockStatus = .deferred) :
    (receiveReturn row).wp (fun _ s' => ∀ t w, onHand s'.data t w = onHand s.data t w +
      arriving l s.data (s.data.items.filter fun i => i.orderId = row.orderId) t w)
      (fun _ _ => True) s := by
  have hperm := List.perm_insertionSort (fun a b : OrderItem => a.id ≤ b.id)
    (s.data.items.filter fun i => i.orderId = row.orderId)
  unfold receiveReturn
  rw [if_neg (not_not.mpr hrow), bind_eq, wp_bind, wp_listItems]
  generalize hitems : (s.data.items.filter fun i => i.orderId = row.orderId).insertionSort
    (fun a b => a.id ≤ b.id) = items at hperm ⊢
  let I (rest : List OrderItem) (s' : WorkState) : Prop := Arrived c s.data (fun t w =>
    arriving l s.data items t w - arriving l s.data rest t w) s'
  rw [bind_eq, wp_bind]
  refine wp_mono (wp_forEach (I := I) (E := fun _ _ => True) ⟨hb, rfl, rfl, fun t w => by simp⟩
    fun item rest s' hI => ?_) ?_ fun _ _ _ => trivial
  · refine wp_receiveItem (l := l) hI fun s'' hs'' => hs''.congr fun t w => ?_
    rw [arriving_cons item rest]
    ring
  · intro _ s' hI t w
    have hgain := hI.onHand t w
    have hall : arriving l s.data items t w = arriving l s.data
        (s.data.items.filter fun i => i.orderId = row.orderId) t w := total_perm hperm
    show onHand s'.data t w = _
    rw [hgain, ← hall]
    simp [arriving]

end arrival

/-! ### Shipped holds stay -/

section moves

variable {c : ℕ → ℕ → ℤ} {d d' : Db} {l : Session}

/-- A shipped hold is not touched by steps that replace others. -/
lemma HoldSteps.mem_of_shipped {P : Option InventoryHold → InventoryHold → Prop} {s s' : WorkState}
    (hs : HoldSteps P s s') (hb : Books c s) (hP : ∀ old h, P old h → Unshipped old)
    {h : InventoryHold} (hh : h ∈ s.data.holds) (hst : h.status = .shipped) : h ∈ s'.data.holds := by
  induction hs with
  | refl => exact hh
  | step hs hstep hp ih =>
    rw [hstep.holds]
    refine mem_put.mpr (.inr ⟨ih, fun heq => ?_⟩)
    have hold := (find?_eq_some_iff (hs.books hb).wf.items).mpr ⟨ih, heq⟩
    exact hP _ _ hp h (hstep.old_eq.symm.trans hold) hst

/-- Every shipped hold of `d` is one of `d'`. -/
def ShippedStay (d d' : Db) : Prop := ∀ h ∈ d.holds, h.status = .shipped → h ∈ d'.holds

lemma ShippedStay.of_eq (h : d'.holds = d.holds) : ShippedStay d d' := fun _ hh _ => h ▸ hh

lemma Fit.shippedStay_ingest (h : Fit c d) (hl : Worker d l) (intake : Intake)
    (order : UnifiedOrder) :
    ShippedStay d ((Move.ingest intake order).work.commit l d) := by
  refine commit_ingest (.of_eq rfl) fun key hkey => ?_
  have hb := h.inBooks.books hl
  refine wp_ingestOrder hl.fresh h.ordersWf hkey (fun _ _ _ _ => .of_eq rfl)
    fun row s₁ action hi _ => ?_
  have hb₁ := hi.books c hb
  have hend : ∀ {P : Option InventoryHold → InventoryHold → Prop} (s₂ : WorkState),
      HoldSteps P s₁ s₂ → (∀ old h, P old h → Unshipped old) → ShippedStay d s₂.data := by
    intro P s₂ hs hP hold hh hst
    exact hs.mem_of_shipped hb₁ hP (hi.holds ▸ hh) hst
  by_cases hcancel : (decisionOn intake order key d).toStatus = .cancelled
  · exact wp_stockStep_cancelled hb₁ hcancel fun s₂ hs _ => hend s₂ hs fun _ _ hP => hP.unshipped
  · refine wp_stockStep_forward hb₁ (fun i hi' ho hold hh => ?_) hcancel
      fun s₂ hs _ => hend s₂ hs fun _ _ hP => hP.2
    rw [hi.holds] at hh
    exact hi.fresh i hi' ho hold hh

lemma Fit.shippedStay_ship (h : Fit c d) (hl : Worker d l) (dispatch : Dispatch) (orderId : ℕ) :
    ShippedStay d ((Move.ship dispatch orderId).work.commit l d) := by
  have hb := h.inBooks.books hl
  refine commit_of_wp (R := ShippedStay d) ?_
  rw [Move.work, bind_eq, wp_bind]
  apply wp_batchShip_one hb h.ordersWf ?_ ?_ fun _ => .of_eq rfl
  · intro _ s' hd
    exact .of_eq (by rw [hd])
  rintro held hmem - - row s₁ s₂ lines s' ⟨-, -, -, hplaced, hsteps, -⟩ hd
  intro hold hh hst
  show hold ∈ s'.data.holds
  rw [hd]
  refine hsteps.mem_of_shipped (hplaced.books c hb) (fun _ _ hP => hP.unshipped) ?_ hst
  rw [hplaced.holds]
  exact hh

/-- No move touches a shipped hold. -/
lemma Fit.shippedStay (h : Fit c d) (hl : Worker d l) (m : Move) :
    ShippedStay d (m.work.commit l d) := by
  cases m with
  | ingest intake order => exact h.shippedStay_ingest hl intake order
  | ship dispatch orderId => exact h.shippedStay_ship hl dispatch orderId
  | createReturn orderId payload =>
    apply commit_of_wp (R := ShippedStay d)
    rw [Move.work, bind_eq, wp_bind]
    apply wp_createReturn h.ordersWf.ids
    · intro _ _ _ _ _ _
      exact .of_eq rfl
    · exact fun _ => .of_eq rfl
  | transitionReturn returnId action userId =>
    obtain ⟨-, hsame⟩ | ⟨-, r, -, -, o, -, -, s', hd, ht⟩ :=
      h.transitionReturn hl returnId action userId
    · rw [hsame]
      exact .of_eq rfl
    · rw [hd]
      exact .of_eq ht.holds

/-! ### Runs -/

/-- Where an item's goods that are back come from: a shipped hold of an order that has a refunded
return. -/
def BackFrom (d : Db) (itemId : ℕ) (units : ℤ) : Prop :=
  ∃ h ∈ d.holds, h.orderItemId = itemId ∧ h.status = .shipped ∧ units = allocated h.allocations ∧
    ∃ r ∈ d.returns, r.orderId = h.orderId ∧ r.status = .refunded

/-- What a run keeps: nothing is back for an item, or what was taken out for it. -/
structure Returned (c : ℕ → ℕ → ℤ) (back : ℕ → ℤ) (d : Db) : Prop where
  fit : Fit c d
  returns : ∀ orderId, ∃ n, ReturnsWf orderId n d
  back : ∀ i, back i = 0 ∨ BackFrom d i (back i)

variable {back : ℕ → ℤ}

lemma Returned.le (h : Returned c back d) (itemId : ℕ) : back itemId ≤ unitsShipped d itemId := by
  have hw := h.fit.inBooks.wf
  rcases h.back itemId with hzero | ⟨hold, hh, rfl, hst, hunits, -⟩
  · rw [hzero]
    exact unitsShipped_nonneg hw itemId
  · rw [hunits, unitsShipped_of_mem hw hh hst]

/-- What was put back stays put back. -/
lemma Returned.stays (h : Returned c back d) (hl : Worker d l) (m : Move) {itemId : ℕ} {units : ℤ}
    (hback : BackFrom d itemId units) : BackFrom (m.work.commit l d) itemId units := by
  obtain ⟨hold, hh, hid, hst, hunits, r, hr, hro, hrefunded⟩ := hback
  obtain ⟨n, hn⟩ := h.returns hold.orderId
  exact ⟨hold, h.fit.shippedStay hl m hold hh hst, hid, hst, hunits, r,
    refunded_stays hn.ids h.fit hl m hr hrefunded, hro, hrefunded⟩

/-- What a covered move puts back for an item was taken out for it, and is put back with the refund
of a return of the order. -/
lemma Returned.restocks_cases (h : Returned c back d) (hl : Worker d l) {m : Move}
    (hm : m.Covered l d) (itemId : ℕ) : m.restocks l d itemId = 0 ∨
      BackFrom (m.work.commit l d) itemId (m.restocks l d itemId) ∧
        ∃ hold ∈ d.holds, hold.orderItemId = itemId ∧
          ∃ r ∈ d.returns, r.orderId = hold.orderId ∧ r.status = .approved := by
  have hw := h.fit.inBooks.wf
  cases m with
  | ingest intake order => exact .inl rfl
  | ship dispatch orderId => exact .inl rfl
  | createReturn orderId payload => exact .inl rfl
  | transitionReturn returnId action userId =>
    cases action with
    | approve => exact .inl rfl
    | reject => exact .inl rfl
    | refund =>
      simp only [Move.restocks]
      by_cases hok : ((Move.transitionReturn returnId .refund userId).work.exec ⟨l, d, []⟩).1.isOk
      swap
      · exact .inl (if_neg hok)
      rw [if_pos hok]
      obtain ⟨hfail, -⟩ | ⟨-, r, hr, hid, o, -, -, s', hd, ht⟩ :=
        h.fit.transitionReturn hl returnId .refund userId
      · rw [hok] at hfail
        cases hfail
      obtain ⟨n, hn⟩ := h.returns r.orderId
      by_cases hflag : r.restockFlag
      swap
      · have hnone : d.returns.filter (fun r => r.id = returnId ∧ r.restockFlag) = [] := by
          apply List.filter_eq_nil_iff.mpr
          intro x hx hp
          simp only [decide_eq_true_eq] at hp
          rw [hn.ids.eq_of_key_eq hx hr (hp.1.trans hid.symm)] at hp
          exact hflag hp.2
        rw [hnone, total_nil]
        exact .inl rfl
      have hone : d.returns.filter (fun r => r.id = returnId ∧ r.restockFlag) = [r] :=
        hn.ids.filter_eq_singleton hr (by simp [hid, hflag]) fun x _ hp => by
          simp only [decide_eq_true_eq] at hp
          exact hp.1.trans hid.symm
      rw [hone, total_cons, total_nil, add_zero]
      rcases unitsOf_cases hw (hm hok r hr hid hflag) l itemId with
        hzero | ⟨hold, hh, hitem, hst, ho, hunits⟩
      · exact .inl hzero
      obtain ⟨status, restocked, hnext, hreturns⟩ := ht.status
      have hrefunded : r.status = .approved ∧ status = .refunded := by
        revert hnext
        cases r.status <;> cases status <;> decide
      have hafter : { r with status, restockStatus := restocked } ∈ s'.data.returns := by
        rw [hreturns]
        exact mem_alter_self hr
      refine .inr ⟨⟨hold, ?_, hitem, hst, hunits, { r with status, restockStatus := restocked }, ?_,
        ho.symm, hrefunded.2⟩, hold, hh, hitem, r, hr, ho.symm, hrefunded.1⟩
      · rw [hd, ht.holds]
        exact hh
      · rw [hd]
        exact hafter

/-- A covered move puts back for an item nothing, or for the first time what was taken out. -/
lemma Returned.move (h : Returned c back d) (hl : Worker d l)
    (hids : ∀ r ∈ d.returns, ∀ k, r.id ≠ l.ids k) (m : Move) (hm : m.Covered l d) :
    Returned c (fun i => back i + m.restocks l d i) (m.work.commit l d) := by
  refine ⟨(h.fit.move hl m).1, fun orderId => ?_, fun i => ?_⟩
  · obtain ⟨n, hn⟩ := h.returns orderId
    exact ⟨_, hn.move h.fit hl hids m⟩
  · rcases h.restocks_cases hl hm i with hzero | ⟨hnew, hold, hh, hitem, r, hr, ho, hst⟩
    · rw [hzero, add_zero]
      rcases h.back i with hback | hback
      · exact .inl hback
      · exact .inr (h.stays hl m hback)
    rcases h.back i with hback | ⟨hold', hh', hitem', -, -, r', hr', ho', hst'⟩
    · rw [hback, zero_add]
      exact .inr hnew
    · -- the order would have a refunded return next to the approved one
      have heq := h.fit.inBooks.wf.items.eq_of_key_eq hh' hh (hitem'.trans hitem.symm)
      obtain ⟨n, hn⟩ := h.returns hold.orderId
      have hsame := hn.once r hr r' hr' ho (heq ▸ ho') (by rw [hst]; decide) (by rw [hst']; decide)
      rw [hsame, hst'] at hst
      cases hst

end moves

/-- From a state without returns, in every run whose refunds put nothing back but what has been taken
out: what is back for an order item is at most what shipping has taken out for it. -/
theorem Trade.restocked_le {c : ℕ → ℕ → ℤ} {d₀ d : Db} {back : ℕ → ℤ} (hbooks : InBooks c d₀)
    (hw : OrdersWf d₀) (hreturns : d₀.returns = [])
    (h : Trade (fun l d m => m.Covered l d) d₀ back d) (itemId : ℕ) :
    back itemId ≤ unitsShipped d itemId := by
  have hreturned : Returned c back d := by
    induction h with
    | start =>
      refine ⟨⟨hbooks, hw⟩, fun orderId => ⟨0, ?_⟩, fun _ => .inl rfl⟩
      have hnone : ∀ r ∈ d₀.returns, False := by simp [hreturns]
      refine ⟨?_, ?_, ?_, ?_, .inl rfl⟩
      · rw [hreturns]
        exact List.nodup_nil
      · exact fun r hr => (hnone r hr).elim
      · exact fun r hr => (hnone r hr).elim
      · exact fun r hr => (hnone r hr).elim
    | move m l _ hl hids hm ih => exact ih.move hl hids m hm
  exact hreturned.le itemId

/-- A worker that draws the ids from `base` on can make the next move. -/
lemma Trade.next {P : Session → Db → Move → Prop} {d₀ d : Db} {back : ℕ → ℤ}
    (h : Trade P d₀ back d) (m : Move) (base : ℕ) (hbelow : Below base d)
    (hids : ∀ r ∈ d.returns, r.id < base) (hm : P (newWorker base) d m) :
    Trade P d₀ (fun i => back i + m.restocks (newWorker base) d i)
      (m.work.commit (newWorker base) d) := by
  refine .move m (newWorker base) h (worker_newWorker hbelow) (fun r hr k heq => ?_) hm
  have hlt := hids r hr
  rw [heq] at hlt
  simp [newWorker] at hlt

def handDispatch : Dispatch := ⟨fun _ _ _ => .ok (), "UPS", 9, 5⟩

/-- The order of `quietShop` is shipped by hand, before its buyer sends the goods back. -/
def sentShop : Db := (Move.ship handDispatch 6).work.commit (newWorker 100) quietShop

def sentAskedShop : Db :=
  (Move.createReturn 6 brokenGoods).work.commit (newWorker 200) sentShop

def sentApprovedShop : Db :=
  (Move.transitionReturn 200 .approve 9).work.commit (newWorker 300) sentAskedShop

/-- Two pieces went out, and two are back. -/
theorem restocked_le_sentShop :
    ∃ (back : ℕ → ℤ) (d : Db), back 5 = 2 ∧ back 5 ≤ unitsShipped d 5 := by
  have hshipped : Trade (fun l d m => m.Covered l d) quietShop _ sentShop :=
    Trade.next .start (.ship handDispatch 6) 100 (by decide) (by decide) trivial
  have hasked : Trade (fun l d m => m.Covered l d) quietShop _ sentAskedShop :=
    hshipped.next (.createReturn 6 brokenGoods) 200 (by decide +kernel) (by decide +kernel) trivial
  have happroved : Trade (fun l d m => m.Covered l d) quietShop _ sentApprovedShop :=
    hasked.next (.transitionReturn 200 .approve 9) 300 (by decide +kernel) (by decide +kernel) trivial
  have hcovered : (Move.transitionReturn 200 .refund 9).Covered (newWorker 400)
      sentApprovedShop := by
    intro _
    decide +kernel
  have hrefunded := happroved.next (.transitionReturn 200 .refund 9) 400 (by decide +kernel)
    (by decide +kernel) hcovered
  have hend : ∀ {back : ℕ → ℤ} {d : Db}, Trade (fun l d m => m.Covered l d) quietShop back d →
      back 5 = 2 → ∃ (back : ℕ → ℤ) (d : Db), back 5 = 2 ∧ back 5 ≤ unitsShipped d 5 :=
    fun h htwo =>
      ⟨_, _, htwo, h.restocked_le inBooks_quietShop ⟨by decide, by decide⟩ rfl 5⟩
  exact hend hrefunded (by decide +kernel)

/-- The hold of the order is still open, and its goods come back nonetheless. -/
theorem not_restocked_le_refundedShop :
    ∃ back : ℕ → ℤ, Trade (fun _ _ _ => True) quietShop back refundedShop ∧
      ¬ back 5 ≤ unitsShipped refundedShop 5 ∧ balanceAt refundedShop .available 3 1 = 12 := by
  have hasked : Trade (fun _ _ _ => True) quietShop _ askedShop :=
    Trade.next .start (.createReturn 6 brokenGoods) 100 (by decide) (by decide) trivial
  have happroved : Trade (fun _ _ _ => True) quietShop _ approvedShop :=
    hasked.next (.transitionReturn 100 .approve 9) 200 (by decide +kernel) (by decide +kernel) trivial
  have hrefunded : Trade (fun _ _ _ => True) quietShop _ refundedShop :=
    happroved.next (.transitionReturn 100 .refund 9) 300 (by decide +kernel) (by decide +kernel) trivial
  exact ⟨_, hrefunded, by decide +kernel, by decide +kernel⟩

end CrossPilot
