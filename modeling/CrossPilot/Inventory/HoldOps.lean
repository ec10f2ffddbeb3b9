import CrossPilot.Inventory.Books

/-!
# What the operations on holds do

Reserving or shipping a line, and releasing a hold, each put at most one new version of a hold in
place (`HoldStep`). For a whole order the steps add up to `Traded`: the books agree afterwards if
they did before, what is on hand together with what was shipped stays the same, and the holds of
other orders are left alone.
-/

namespace CrossPilot

open Transaction Table

/-! ### Statements -/

section statements

variable {s : WorkState} {Q : Unit → WorkState → Prop} {E : ServiceError → WorkState → Prop}

lemma wp_addHold {orderId orderItemId skuId : ℕ} {quantity shortQty : ℤ}
    {allocations : List Allocation} {status : HoldStatus}
    (hne : ∀ h ∈ s.data.holds, h.orderItemId ≠ orderItemId) :
    (addHold orderId orderItemId skuId quantity shortQty allocations status).wp Q E s ↔
      Q () { s with
        session := { s.session with ids := fun n => s.session.ids (n + 1) }
        data := { s.data with holds := s.data.holds ++ [⟨s.session.ids 0, orderId, orderItemId,
          skuId, quantity, shortQty, allocations, status⟩] } } := by
  have hnone : ¬ ∃ h ∈ s.data.holds, h.orderItemId = orderItemId := by
    simpa using hne
  simp [addHold, nextSnowflakeId, hnone]

/-- The unique index refuses a second hold of an item. -/
lemma wp_addHold_of_mem {orderId orderItemId skuId : ℕ} {quantity shortQty : ℤ}
    {allocations : List Allocation} {status : HoldStatus} {old : InventoryHold}
    (hold : old ∈ s.data.holds) (hitem : old.orderItemId = orderItemId)
    (h : ∀ s', s'.marks = s.marks → E (.integrity "uq_inventory_hold_order_item") s') :
    (addHold orderId orderItemId skuId quantity shortQty allocations status).wp Q E s := by
  have hany : ∃ h ∈ s.data.holds, h.orderItemId = orderItemId := ⟨old, hold, hitem⟩
  simp only [addHold, nextSnowflakeId, raise, Prog.bind_eq, Prog.pure_eq, Prog.wp_bind,
    Prog.wp_query, Prog.wp_remember, Prog.wp_ret, Prog.wp_update]
  rw [if_pos (by simpa using hany)]
  exact h _ rfl

lemma wp_updateHold {holdId : ℕ} {f : InventoryHold → InventoryHold} :
    (updateHold holdId f).wp Q E s ↔
      Q () { s with data := { s.data with
        holds := alter InventoryHold.id holdId f s.data.holds } } := Iff.rfl

/-- The allocations of a hold are settled one by one. -/
lemma wp_settleAllocs (way : Settlement) (orderId skuId : ℕ) (allocs : List Allocation)
    (hs : Ready s) (hpos : Positive allocs)
    (hcover : ∀ w, allocatedAt allocs w ≤ balanceAt s.data .occupied skuId w)
    (h : ∀ s', Ready s' → s'.session.ids = s.session.ids → s'.marks = s.marks →
      Moved s.data s'.data (fun b t w =>
        if t = skuId then (way.delta (allocatedAt allocs w)).bucket b else 0) → Q () s') :
    (Prog.forEach allocs (settleAlloc way orderId skuId)).wp Q E s := by
  induction allocs generalizing s with
  | nil =>
    refine h s hs rfl rfl ((Moved.refl s.data).congr fun b t w => ?_)
    cases way <;> cases b <;> simp [Settlement.delta, Delta.bucket]
  | cons alloc rest ih =>
    have hq : 0 < alloc.quantity := hpos alloc (by simp)
    have hrest : Positive rest := fun a ha => hpos a (List.mem_cons_of_mem alloc ha)
    have hle := hcover alloc.warehouseId
    have hrnn := hrest.allocatedAt_nonneg alloc.warehouseId
    rw [allocatedAt_cons, if_pos rfl] at hle
    rw [Prog.forEach, Prog.wp_bind]
    simp only [settleAlloc, Prog.bind_eq, Prog.wp_bind]
    refine wp_getPair hs (fun r hr hp held s₁ hheld hc₁ => ?_) fun hnone => ?_
    swap
    · exact absurd (stocks_of_balanceAt_pos (b := .occupied) (by omega)) hnone
    have hbal : balanceAt s.data .occupied skuId alloc.warehouseId = r.occupied :=
      hs.shelf.balanceAt_eq hr hp .occupied
    have hfit : r.fits (way.delta alloc.quantity) := by
      have hov := hs.shelf.occupied_le r hr
      have htr := hs.shelf.inTransit_nonneg r hr
      have hdf := hs.shelf.defective_nonneg r hr
      cases way <;> simp [Inventory.fits, Settlement.delta] <;> omega
    simp only [Prog.wp_bind]
    refine wp_commitChange hc₁.ready (hc₁.data ▸ hr) hheld (fun _ s₂ hc₂ => ?_) fun hno => by
      simp [hfit] at hno
    rw [hc₁.data] at hc₂
    have hmoved₂ : Moved s.data s₂.data fun b t w =>
        if r.pair = (t, w) then (way.delta alloc.quantity).bucket b else 0 := by
      rw [hc₂.data]
      exact Moved.logged hs.shelf hr (way.delta alloc.quantity) _
    refine ih hc₂.ready hrest (fun w => ?_) fun s₃ hr₃ hi₃ hm₃ hmv₃ => ?_
    · have hw := hcover w
      rw [allocatedAt_cons] at hw
      rw [hmoved₂.balance, hp]
      by_cases hww : alloc.warehouseId = w
      · rw [if_pos hww] at hw
        rw [if_pos (by rw [hww])]
        cases way <;> simp only [Settlement.delta, Delta.bucket] <;> omega
      · rw [if_neg hww] at hw
        rw [if_neg (by simp [hww])]
        omega
    · refine h s₃ hr₃ (hi₃.trans (hc₂.ids.trans hc₁.ids)) (hm₃.trans (hc₂.marks.trans hc₁.marks))
        ((hmoved₂.trans hmv₃).congr fun b t w => ?_)
      rw [hp, allocatedAt_cons]
      by_cases ht : t = skuId
      · by_cases hw : alloc.warehouseId = w
        · cases way <;> cases b <;> simp [ht, hw, Settlement.delta, Delta.bucket] <;> ring
        · simp [ht, hw]
      · simp [ht, Ne.symm ht]

end statements

/-! ### Lines and holds -/

section lines

variable {s : WorkState} {Q : Unit → WorkState → Prop} {E : ServiceError → WorkState → Prop}
  {item : OrderItem} {skuId : ℕ}

/-- The first hold of an item is added after balances have moved. -/
lemma wp_addHold_of_moved {s₁ : WorkState} {gain : Bucket → ℕ → ℕ → ℤ} (hw : HoldsWf s.data)
    (hf : Fresh s) (hm : Moved s.data s₁.data gain) (hr : Ready s₁)
    (hids : s₁.session.ids = s.session.ids) (hmarks : s₁.marks = s.marks)
    (hi : item ∈ s.data.items) (hsku : item.skuId = some skuId)
    (hnone : ∀ h ∈ s.data.holds, h.orderItemId ≠ item.id) {shortQty : ℤ}
    {allocs : List Allocation} {status : HoldStatus} (hpos : Positive allocs)
    (hshort : status = .short → allocs = [])
    (hocc : ∀ t w, gain .occupied t w =
      if status = .opened ∧ skuId = t then allocatedAt allocs w else 0)
    (hav : ∀ t w, gain .available t w =
      -if status = .shipped ∧ skuId = t then allocatedAt allocs w else 0)
    (h : ∀ s' hold, HoldStep s s' none hold → hold.orderItemId = item.id →
      hold.orderId = item.orderId → hold.status = status → hold.shortQty = shortQty →
      hold.allocations = allocs → Q () s') :
    (addHold item.orderId item.id skuId (allocated allocs) shortQty allocs status).wp Q E s₁ := by
  have hholds : s₁.data.holds = s.data.holds := by rw [hm.frame]
  rw [wp_addHold (hholds ▸ hnone)]
  refine h _ ⟨s₁.session.ids 0, item.orderId, item.id, skuId, allocated allocs, shortQty, allocs,
    status⟩ (HoldStep.of_moved hw hf hm hr ?_ ?_ rfl hmarks (k := 1) ?_ ?_ ?_ ?_ ?_ hpos rfl hshort
    (.item hi (.inl rfl)) (.item hi (.inr rfl)) ?_) rfl rfl rfl rfl rfl
  · exact List.find?_eq_none.mpr fun h hh => by simpa using hnone h hh
  · rw [put_of_forall_ne]
    exact hholds ▸ hnone
  · intro n
    simp only [hids]
  · intro _
    exact ⟨by simp only [hids], by decide⟩
  · intro o ho
    cases ho
  · intro t w
    simpa [InventoryHold.part] using hocc t w
  · intro t w
    simpa [InventoryHold.part] using hav t w
  · intro i hi' heq
    rw [hw.lines.eq_of_key_eq hi' hi heq.symm]
    exact ⟨hsku, rfl⟩

/-- A hold is changed after balances have moved. -/
lemma wp_updateHold_of_moved {s₁ : WorkState} {gain : Bucket → ℕ → ℕ → ℤ} (hw : HoldsWf s.data)
    (hf : Fresh s) (hm : Moved s.data s₁.data gain) (hr : Ready s₁)
    (hids : s₁.session.ids = s.session.ids) (hmarks : s₁.marks = s.marks)
    {old : InventoryHold} (hold : old ∈ s.data.holds) {f : InventoryHold → InventoryHold}
    (hid : (f old).id = old.id) (horder : (f old).orderId = old.orderId)
    (hitem : (f old).orderItemId = old.orderItemId) (hsku : (f old).skuId = old.skuId)
    (hpos : Positive (f old).allocations) (hqty : (f old).quantity = allocated (f old).allocations)
    (hshort : (f old).status = .short → (f old).allocations = [])
    (hocc : ∀ t w, gain .occupied t w = (f old).part .opened t w - old.part .opened t w)
    (hav : ∀ t w, gain .available t w = -((f old).part .shipped t w - old.part .shipped t w))
    (h : ∀ s', HoldStep s s' (some old) (f old) → Q () s') :
    (updateHold old.id f).wp Q E s₁ := by
  have hholds : s₁.data.holds = s.data.holds := by rw [hm.frame]
  rw [wp_updateHold]
  refine h _ (HoldStep.of_moved hw hf hm hr ?_ ?_ rfl hmarks (k := 0) ?_ ?_ ?_ hocc hav hpos hqty
    hshort (.hold hold (.inr (.inl hitem))) (.hold hold (.inr (.inr horder))) ?_)
  · rw [hitem]
    exact (find?_eq_some_iff hw.items).mpr ⟨hold, rfl⟩
  · rw [hholds, alter_eq_put hw.ids hw.items hold hitem]
  · intro n
    simp only [hids, add_zero]
  · intro hnone
    cases hnone
  · intro o ho
    cases ho
    exact ⟨hid, horder.symm⟩
  · intro i hi heq
    rw [hsku, horder]
    exact hw.linked old hold i hi (hitem ▸ heq)

/-- The line reserves and ships goods of a SKU. -/
def Reservable (item : OrderItem) (skuId : ℕ) : Prop :=
  item.skuId = some skuId ∧ 0 < item.quantity

lemma reservable_or (item : OrderItem) :
    (∃ skuId, Reservable item skuId) ∨ shouldReserveLine item.skuId item.quantity = false := by
  cases hsku : item.skuId with
  | none => exact .inr rfl
  | some skuId =>
    by_cases hq : 0 < item.quantity
    · exact .inl ⟨skuId, hsku, hq⟩
    · right
      simp [shouldReserveLine, hq]

lemma Reservable.shouldReserveLine (h : Reservable item skuId) :
    shouldReserveLine (some skuId) item.quantity = true := by
  simp [CrossPilot.shouldReserveLine, h.2]

lemma find?_hold_cases (s : WorkState) (item : OrderItem) :
    (∀ h ∈ s.data.holds, h.orderItemId ≠ item.id) ∧
      s.data.holds.find? (fun h => h.orderItemId = item.id) = none ∨
    ∃ old ∈ s.data.holds, old.orderItemId = item.id ∧
      s.data.holds.find? (fun h => h.orderItemId = item.id) = some old := by
  cases hfind : s.data.holds.find? fun h => h.orderItemId = item.id with
  | none => exact .inl ⟨fun h hh => by simpa using List.find?_eq_none.mp hfind h hh, rfl⟩
  | some old =>
    exact .inr ⟨old, List.mem_of_find?_eq_some hfind, by simpa using List.find?_some hfind, rfl⟩

/-- A line that reserves nothing is passed over. -/
lemma reserveItem_of_not (h : shouldReserveLine item.skuId item.quantity = false) :
    reserveItem item = .ret () := by
  rw [reserveItem, h]
  cases item.skuId <;> rfl

lemma shipItem_of_not (h : shouldReserveLine item.skuId item.quantity = false) :
    shipItem item = .ret () := by
  rw [shipItem, h]
  cases item.skuId <;> rfl

/-- Reserving a line puts an open hold in place, or one that is short of everything, if the line
has no hold or one that was short. -/
theorem wp_reserveItem {c : ℕ → ℕ → ℤ} (hb : Books c s) (hi : item ∈ s.data.items)
    (hskip : (∀ skuId, ¬ Reservable item skuId) ∨
      (∃ old ∈ s.data.holds, old.orderItemId = item.id ∧ old.status ∈ openOrDone) → Q () s)
    (hput : ∀ s' old hold, (∃ skuId, Reservable item skuId) → HoldStep s s' old hold →
      (∀ o ∈ old, o.status = .short) → hold.orderItemId = item.id →
      hold.orderId = item.orderId → hold.status = .opened ∨ hold.status = .short →
      hold.quantity + hold.shortQty = item.quantity → Q () s') :
    (reserveItem item).wp Q E s := by
  rcases reservable_or item with ⟨skuId, hres⟩ | hno
  swap
  · rw [reserveItem_of_not hno]
    refine hskip (.inl fun skuId hres => ?_)
    rw [hres.1, hres.shouldReserveLine] at hno
    cases hno
  -- the status of the new version, and what it takes
  have hstatus : ∀ taken : List Allocation,
      (if taken.isEmpty then HoldStatus.short else .opened) = .short → taken = [] := by
    intro taken
    cases taken <;> simp
  have hocc : ∀ (taken : List Allocation) (t w : ℕ),
      (if t = skuId then (DrawMode.reserve.delta (allocatedAt taken w)).bucket .occupied else 0) =
        if (if taken.isEmpty then HoldStatus.short else .opened) = .opened ∧ skuId = t then
          allocatedAt taken w else 0 := by
    intro taken t w
    cases taken with
    | nil => simp
    | cons a rest => simp [DrawMode.delta, Delta.bucket, eq_comm]
  have hav : ∀ (taken : List Allocation) (t w : ℕ),
      (if t = skuId then (DrawMode.reserve.delta (allocatedAt taken w)).bucket .available else 0) =
        -if (if taken.isEmpty then HoldStatus.short else .opened) = .shipped ∧ skuId = t then
          allocatedAt taken w else 0 := by
    intro taken t w
    cases taken <;> simp [DrawMode.delta, Delta.bucket]
  have hone : ∀ taken : List Allocation, (if taken.isEmpty then HoldStatus.short else .opened) =
      .opened ∨ (if taken.isEmpty then HoldStatus.short else .opened) = .short := by
    intro taken
    cases taken <;> simp
  unfold reserveItem
  simp only [hres.1, hres.shouldReserveLine, getForItem, Prog.bind_eq, Prog.wp_bind,
    Prog.wp_select, Prog.pure_eq]
  rcases find?_hold_cases s item with ⟨hnone, hfind⟩ | ⟨old, hold, hitem, hfind⟩
  · rw [hfind]
    simp only [Option.any_none, Bool.false_eq_true, if_false, Prog.wp_bind]
    refine wp_draw hb.ready hres.2.le fun taken left s₁ hd => ?_
    refine wp_addHold_of_moved hb.wf hb.fresh hd.moved hd.ready hd.ids hd.marks hi hres.1 hnone
      hd.positive (hstatus taken) (hocc taken) (hav taken) ?_
    intro s' hold hstep hid horder hst hsh hal
    refine hput s' none hold ⟨skuId, hres⟩ hstep (by simp) hid horder (hst ▸ hone taken) ?_
    rw [hstep.quantity, hal, hsh, hd.sum]
  · rw [hfind]
    obtain ⟨hosku, hoorder⟩ := hb.wf.linked old hold item hi hitem
    have hsku : old.skuId = skuId := by
      rw [hres.1] at hosku
      exact (Option.some.inj hosku).symm
    simp only [Option.any_some, decide_eq_true_eq]
    split
    · rename_i hin
      exact hskip (.inr ⟨old, hold, hitem, hin⟩)
    · rename_i hout
      have hshort : old.status = .short := by
        cases hst : old.status <;> simp [openOrDone, hst] at hout ⊢
      rw [Prog.wp_bind]
      refine wp_draw hb.ready hres.2.le fun taken left s₁ hd => ?_
      refine wp_updateHold_of_moved hb.wf hb.fresh hd.moved hd.ready hd.ids hd.marks hold rfl rfl
        rfl rfl hd.positive rfl (hstatus taken) (fun t w => ?_) (fun t w => ?_) fun s' hstep => ?_
      · rw [hocc]
        simp [InventoryHold.part, hshort, hsku]
      · rw [hav]
        simp [InventoryHold.part, hshort, hsku]
      · refine hput s' (some old) _ ⟨skuId, hres⟩ hstep (by simpa using hshort) hitem hoorder.symm
          (hone taken) ?_
        exact hd.sum

/-- Releasing an open hold gives back what it takes. -/
theorem wp_releaseHold {c : ℕ → ℕ → ℤ} (hb : Books c s) {hold : InventoryHold}
    (hh : hold ∈ s.data.holds) (hskip : hold.status ≠ .opened → Q () s)
    (hput : hold.status = .opened → ∀ s', HoldStep s s' (some hold) { hold with status := .released } →
      Q () s') :
    (releaseHold hold).wp Q E s := by
  unfold releaseHold
  split
  · rename_i hne
    exact hskip hne
  · rename_i hopen
    have hst : hold.status = .opened := not_not.mp hopen
    have hpos := hb.wf.positive hold hh
    rw [readAllocs_of_positive hpos]
    simp only [Prog.bind_eq, Prog.wp_bind]
    refine wp_settleAllocs .release _ _ _ hb.ready hpos (fun w => ?_) fun s₁ hr hids hmarks hm => ?_
    · have := hb.part_le hh hold.skuId w
      simpa [InventoryHold.part, hst] using this
    refine wp_updateHold_of_moved hb.wf hb.fresh hm hr hids hmarks hh rfl rfl rfl rfl hpos
      (hb.wf.quantity hold hh) (by simp) (fun t w => ?_) (fun t w => ?_) (hput hst)
    · by_cases ht : t = hold.skuId
      · simp [InventoryHold.part, hst, ht, Settlement.delta, Delta.bucket]
      · simp [InventoryHold.part, hst, ht, Ne.symm ht]
    · simp [InventoryHold.part, hst, Settlement.delta, Delta.bucket]

/-- Goods that were not reserved are shipped from the free stock. -/
lemma wp_shipFree {c : ℕ → ℕ → ℤ} (hb : Books c s) (hi : item ∈ s.data.items)
    (hres : Reservable item skuId) (hnone : ∀ h ∈ s.data.holds, h.orderItemId ≠ item.id)
    (hput : ∀ s' hold, HoldStep s s' none hold → hold.orderItemId = item.id →
      hold.orderId = item.orderId → hold.status = .shipped →
      hold.quantity + hold.shortQty = item.quantity → Q () s') :
    (shipFree item skuId).wp Q E s := by
  unfold shipFree
  simp only [Prog.bind_eq, Prog.wp_bind]
  refine wp_draw hb.ready hres.2.le fun taken left s₁ hd => ?_
  refine wp_addHold_of_moved hb.wf hb.fresh hd.moved hd.ready hd.ids hd.marks hi hres.1 hnone
    hd.positive (by simp) (fun t w => ?_) (fun t w => ?_) ?_
  · simp [DrawMode.delta, Delta.bucket]
  · by_cases ht : t = skuId
    · simp [ht, DrawMode.delta, Delta.bucket]
    · simp [ht, Ne.symm ht]
  · intro s' hold hstep hid horder hst hsh hal
    refine hput s' hold hstep hid horder hst ?_
    rw [hstep.quantity, hal, hsh]
    ring

/-- Shipping a line leaves it with a shipped hold, unless its hold had been released. -/
theorem wp_shipItem {c : ℕ → ℕ → ℤ} (hb : Books c s) (hi : item ∈ s.data.items)
    (hskip : (∀ skuId, ¬ Reservable item skuId) ∨
      (∃ old ∈ s.data.holds, old.orderItemId = item.id ∧ old.status = .shipped) → Q () s)
    (hput : ∀ s' old hold, (∃ skuId, Reservable item skuId) → HoldStep s s' old hold →
      (∀ o ∈ old, o.status = .opened ∨ o.status = .short) → hold.orderItemId = item.id →
      hold.orderId = item.orderId → hold.status = .shipped → Q () s')
    (hreleased : (∃ old ∈ s.data.holds, old.orderItemId = item.id ∧ old.status = .released) →
      ∀ s' constraint, s'.marks = s.marks → E (.integrity constraint) s') :
    (shipItem item).wp Q E s := by
  rcases reservable_or item with ⟨skuId, hres⟩ | hno
  swap
  · rw [shipItem_of_not hno]
    refine hskip (.inl fun skuId hres => ?_)
    rw [hres.1, hres.shouldReserveLine] at hno
    cases hno
  unfold shipItem
  simp only [hres.1, hres.shouldReserveLine, getForItem, Prog.bind_eq, Prog.wp_bind,
    Prog.wp_select, Prog.pure_eq]
  rcases find?_hold_cases s item with ⟨hnone, hfind⟩ | ⟨old, hold, hitem, hfind⟩
  · rw [hfind]
    refine wp_shipFree hb hi hres hnone fun s' hold hstep hid horder hst _ => ?_
    exact hput s' none hold ⟨skuId, hres⟩ hstep (by simp) hid horder hst
  · rw [hfind]
    obtain ⟨hosku, hoorder⟩ := hb.wf.linked old hold item hi hitem
    have hsku : old.skuId = skuId := by
      rw [hres.1] at hosku
      exact (Option.some.inj hosku).symm
    have hpos := hb.wf.positive old hold
    cases hst : old.status with
    | shipped =>
      simp only [hst]
      exact hskip (.inr ⟨old, hold, hitem, hst⟩)
    | opened =>
      simp only [hst, readAllocs_of_positive hpos, Prog.wp_bind]
      refine wp_settleAllocs .ship _ _ _ hb.ready hpos (fun w => ?_) fun s₁ hr hids hmarks hm => ?_
      · have := hb.part_le hold skuId w
        simpa [InventoryHold.part, hst, hsku] using this
      refine wp_updateHold_of_moved hb.wf hb.fresh hm hr hids hmarks hold rfl rfl rfl rfl hpos
        (hb.wf.quantity old hold) (by simp) (fun t w => ?_) (fun t w => ?_) fun s' hstep =>
        hput s' (some old) _ ⟨skuId, hres⟩ hstep (by simp [hst]) hitem hoorder.symm rfl
      · by_cases ht : t = skuId
        · simp [InventoryHold.part, hst, hsku, ht, Settlement.delta, Delta.bucket]
        · simp [InventoryHold.part, hst, hsku, ht, Ne.symm ht]
      · by_cases ht : t = skuId
        · simp [InventoryHold.part, hst, hsku, ht, Settlement.delta, Delta.bucket]
        · simp [InventoryHold.part, hst, hsku, ht, Ne.symm ht]
    | short =>
      simp only [hst]
      have hempty := hb.wf.short old hold hst
      refine wp_updateHold_of_moved hb.wf hb.fresh (.refl _) hb.ready rfl rfl hold rfl rfl rfl rfl
        hpos (hb.wf.quantity old hold) (by simp) (fun t w => ?_) (fun t w => ?_) fun s' hstep =>
        hput s' (some old) _ ⟨skuId, hres⟩ hstep (by simp [hst]) hitem hoorder.symm rfl
      · simp [InventoryHold.part, hst]
      · simp [InventoryHold.part, hst, hempty]
    | released =>
      simp only [hst, shipFree, Prog.bind_eq, Prog.wp_bind]
      refine wp_draw hb.ready hres.2.le fun taken left s₁ hd => ?_
      have hholds : s₁.data.holds = s.data.holds := by rw [hd.moved.frame]
      refine wp_addHold_of_mem (hholds ▸ hold) hitem fun s' hmarks => ?_
      exact hreleased ⟨old, hold, hitem, hst⟩ s' _ (hmarks.trans hd.marks)

end lines

/-! ### Whole orders -/

/-- Holds change one after the other, each in a way that `P` allows. -/
inductive HoldSteps (P : Option InventoryHold → InventoryHold → Prop) (s : WorkState) :
    WorkState → Prop
  | refl : HoldSteps P s s
  | step {s₁ s₂ : WorkState} {old : Option InventoryHold} {h : InventoryHold} :
    HoldSteps P s s₁ → HoldStep s₁ s₂ old h → P old h → HoldSteps P s s₂

namespace HoldSteps

variable {P : Option InventoryHold → InventoryHold → Prop} {s s' : WorkState} {c : ℕ → ℕ → ℤ}

lemma mono {P' : Option InventoryHold → InventoryHold → Prop} (hs : HoldSteps P s s')
    (h : ∀ old hold, P old hold → P' old hold) : HoldSteps P' s s' := by
  induction hs with
  | refl => exact .refl
  | step _ hstep hP ih => exact ih.step hstep (h _ _ hP)

lemma trans {s₁ : WorkState} (hs : HoldSteps P s s₁) (hs' : HoldSteps P s₁ s') :
    HoldSteps P s s' := by
  induction hs' with
  | refl => exact hs
  | step _ hstep hP ih => exact ih.step hstep hP

lemma books (hs : HoldSteps P s s') (hb : Books c s) : Books c s' := by
  induction hs with
  | refl => exact hb
  | step _ hstep _ ih => exact hstep.books ih

lemma marks (hs : HoldSteps P s s') : s'.marks = s.marks := by
  induction hs with
  | refl => rfl
  | step _ hstep _ ih => rw [hstep.marks, ih]

/-- Only balances, the ledger and the holds change. -/
lemma frame (hs : HoldSteps P s s') : s'.data = { s.data with
    inventories := s'.data.inventories
    flows := s'.data.flows
    holds := s'.data.holds } := by
  induction hs with
  | refl => rfl
  | step _ hstep _ ih => rw [hstep.frame, ih]

lemma items (hs : HoldSteps P s s') : s'.data.items = s.data.items := by
  rw [hs.frame]

lemma stocks (hs : HoldSteps P s s') (t w : ℕ) : Stocks s'.data t w ↔ Stocks s.data t w := by
  induction hs with
  | refl => rfl
  | step _ hstep _ ih => rw [hstep.stocks, ih]

/-- What is on hand and what has been shipped make up the same all the time. -/
lemma shipped (hs : HoldSteps P s s') (hb : Books c s) (t w : ℕ) :
    balanceAt s'.data .available t w + heldIn .shipped s'.data t w =
      balanceAt s.data .available t w + heldIn .shipped s.data t w := by
  induction hs with
  | refl => rfl
  | step hs hstep _ ih =>
    rw [← ih, hstep.available, hstep.heldIn (hs.books hb).wf.items]
    ring

/-- A hold is an old one, or has been put in place. -/
lemma mem (hs : HoldSteps P s s') {h : InventoryHold} (hh : h ∈ s'.data.holds) :
    h ∈ s.data.holds ∨ ∃ old, P old h := by
  induction hs with
  | refl => exact .inl hh
  | step _ hstep hP ih =>
    rw [hstep.holds] at hh
    rcases mem_put.mp hh with rfl | ⟨hh, -⟩
    · exact .inr ⟨_, hP⟩
    · exact ih hh

/-- The holds of items that no step is about stay. -/
lemma mem_of_forall_ne (hs : HoldSteps P s s') {h : InventoryHold} (hh : h ∈ s.data.holds)
    (hne : ∀ old h', P old h' → h'.orderItemId ≠ h.orderItemId) : h ∈ s'.data.holds := by
  induction hs with
  | refl => exact hh
  | step _ hstep hP ih =>
    rw [hstep.holds]
    exact mem_put.mpr (.inr ⟨ih, (hne _ _ hP).symm⟩)

/-- The holds of other orders stay, in their order. -/
lemma others (hs : HoldSteps P s s') (hb : Books c s) {orderId : ℕ}
    (hP : ∀ old h, P old h → h.orderId = orderId) :
    s'.data.holds.filter (fun h => h.orderId ≠ orderId) =
      s.data.holds.filter fun h => h.orderId ≠ orderId := by
  induction hs with
  | refl => rfl
  | step hs hstep hp ih =>
    rename_i old h
    have horder := hP _ _ hp
    rw [← ih, hstep.holds]
    apply filter_put
    · simp [horder]
    · intro o ho hk
      have hold := (find?_eq_some_iff (hs.books hb).wf.items).mpr ⟨ho, hk⟩
      have := hstep.order o (hstep.old_eq.symm.trans hold)
      simp [this, horder]

end HoldSteps

section orders

variable {c : ℕ → ℕ → ℤ} {s : WorkState} {Q : Unit → WorkState → Prop}
  {E : ServiceError → WorkState → Prop} {orderId : ℕ}

lemma wp_listItems {Q : List OrderItem → WorkState → Prop} :
    (listItems orderId).wp Q E s ↔
      Q ((s.data.items.filter fun i => i.orderId = orderId).insertionSort fun a b => a.id ≤ b.id)
        s := Iff.rfl

/-- Work on the lines of an order, where each line that matters ends up with a hold that is done. -/
lemma wp_eachLine {f : OrderItem → Work Unit} {P : Option InventoryHold → InventoryHold → Prop}
    {D : InventoryHold → Prop}
    (hline : ∀ s₁ item (Q : Unit → WorkState → Prop), HoldSteps P s s₁ → item ∈ s.data.items →
      item.orderId = orderId →
      ((∀ skuId, ¬ Reservable item skuId) ∨
        (∃ old ∈ s₁.data.holds, old.orderItemId = item.id ∧ D old) → Q () s₁) →
      (∀ s₂ old hold, HoldStep s₁ s₂ old hold → P old hold → hold.orderItemId = item.id →
        D hold → Q () s₂) → (f item).wp Q E s₁)
    (h : ∀ s', HoldSteps P s s' → (∀ item ∈ s.data.items, item.orderId = orderId →
      (∃ skuId, Reservable item skuId) →
      ∃ hold ∈ s'.data.holds, hold.orderItemId = item.id ∧ D hold) → Q () s') :
    ((listItems orderId).bind fun items => .forEach items f).wp Q E s := by
  rw [Prog.wp_bind, wp_listItems]
  -- what is left to do, and what is done
  let covered (s₁ : WorkState) (item : OrderItem) : Prop :=
    (∀ skuId, ¬ Reservable item skuId) ∨
      ∃ hold ∈ s₁.data.holds, hold.orderItemId = item.id ∧ D hold
  let I (rest : List OrderItem) (s₁ : WorkState) : Prop :=
    HoldSteps P s s₁ ∧ (∀ item ∈ rest, item ∈ s.data.items ∧ item.orderId = orderId) ∧
      ∀ item ∈ s.data.items, item.orderId = orderId → item ∈ rest ∨ covered s₁ item
  have hmem : ∀ item, item ∈ (s.data.items.filter fun i => i.orderId = orderId).insertionSort
      (fun a b => a.id ≤ b.id) ↔ item ∈ s.data.items ∧ item.orderId = orderId := by
    intro item
    rw [(List.perm_insertionSort _ _).mem_iff]
    simp
  refine Prog.wp_mono (Prog.wp_forEach (I := I) (E := E) ?_ ?_) ?_ fun _ _ he => he
  · exact ⟨.refl, fun item hi => (hmem item).mp hi, fun item hi ho => .inl ((hmem item).mpr ⟨hi, ho⟩)⟩
  · rintro item rest s₁ ⟨hs, hrest, hcov⟩
    obtain ⟨hi, ho⟩ := hrest item (by simp)
    refine hline s₁ item _ hs hi ho (fun hskip => ?_) fun s₂ old hold hstep hP hid hdone => ?_
    · refine ⟨hs, fun i hi => hrest i (by simp [hi]), fun i hi ho => ?_⟩
      rcases hcov i hi ho with hmem | hc
      · rcases List.mem_cons.mp hmem with rfl | hmem
        · exact .inr hskip
        · exact .inl hmem
      · exact .inr hc
    · refine ⟨hs.step hstep hP, fun i hi => hrest i (by simp [hi]), fun i hi' ho => ?_⟩
      have hnew : hold ∈ s₂.data.holds := by
        rw [hstep.holds]
        exact mem_put.mpr (.inl rfl)
      by_cases heq : i.id = item.id
      · exact .inr (.inr ⟨hold, hnew, hid.trans heq.symm, hdone⟩)
      · rcases hcov i hi' ho with hmem | hnot | ⟨o, hoin, hoid, hodone⟩
        · rcases List.mem_cons.mp hmem with rfl | hmem
          · exact absurd rfl heq
          · exact .inl hmem
        · exact .inr (.inl hnot)
        · refine .inr (.inr ⟨o, ?_, hoid, hodone⟩)
          rw [hstep.holds]
          exact mem_put.mpr (.inr ⟨hoin, by rwa [hoid, hid]⟩)
  · rintro _ s' ⟨hs, -, hcov⟩
    refine h s' hs fun item hi ho hres => ?_
    rcases hcov item hi ho with hmem | hnot | hhold
    · cases hmem
    · obtain ⟨skuId, hr⟩ := hres
      exact absurd hr (hnot skuId)
    · exact hhold

/-- How reserving an order changes a hold: it opens one for a line that had none or that was short
of everything. -/
structure ReserveStep (d : Db) (orderId : ℕ) (old : Option InventoryHold) (h : InventoryHold) :
    Prop where
  old : ∀ o ∈ old, o.status = .short
  order : h.orderId = orderId
  status : h.status = .opened ∨ h.status = .short
  line : ∃ item ∈ d.items, item.id = h.orderItemId ∧ item.orderId = orderId ∧
    h.quantity + h.shortQty = item.quantity ∧ Reservable item h.skuId

/-- Reserving never raises, and every line that reserves goods has a hold afterwards. -/
theorem wp_reserveOrder (hb : Books c s)
    (h : ∀ s', HoldSteps (ReserveStep s.data orderId) s s' →
      (∀ item ∈ s.data.items, item.orderId = orderId → (∃ skuId, Reservable item skuId) →
        ∃ hold ∈ s'.data.holds, hold.orderItemId = item.id) → Q () s') :
    (reserveOrder orderId).wp Q E s := by
  refine wp_eachLine (D := fun _ => True) ?_ fun s' hs hcov => h s' hs fun item hi ho hres => ?_
  · intro s₁ item Q hs hi ho hskip hput
    have hi₁ : item ∈ s₁.data.items := hs.items ▸ hi
    refine wp_reserveItem (hs.books hb) hi₁ ?_ ?_
    · rintro (hno | ⟨old, hold, hitem, -⟩)
      · exact hskip (.inl hno)
      · exact hskip (.inr ⟨old, hold, hitem, trivial⟩)
    · rintro s₂ old hold ⟨skuId, hres⟩ hstep hold' hitem horder hst hsum
      have hsku : hold.skuId = skuId := by
        have := (hstep.linked item hi₁ hitem).1
        rw [hres.1] at this
        exact (Option.some.inj this).symm
      exact hput s₂ old hold hstep ⟨hold', horder.trans ho, hst,
        item, hi, hitem.symm, ho, hsum, hsku ▸ hres⟩ hitem trivial
  · obtain ⟨hold, hh, hid, -⟩ := hcov item hi ho hres
    exact ⟨hold, hh, hid⟩

/-- How shipping an order changes a hold. -/
structure ShipStep (d : Db) (orderId : ℕ) (old : Option InventoryHold) (h : InventoryHold) :
    Prop where
  old : ∀ o ∈ old, o.status = .opened ∨ o.status = .short
  order : h.orderId = orderId
  status : h.status = .shipped
  line : ∃ item ∈ d.items, item.id = h.orderItemId ∧ item.orderId = orderId ∧
    Reservable item h.skuId

/-- A line of the order has a hold that was released. -/
def HasReleased (d : Db) (orderId : ℕ) : Prop :=
  ∃ item ∈ d.items, item.orderId = orderId ∧ (∃ skuId, Reservable item skuId) ∧
    ∃ old ∈ d.holds, old.orderItemId = item.id ∧ old.status = .released

/-- Shipping leaves every line that ships goods with a shipped hold. It fails only if a line has a
hold that was released. -/
theorem wp_shipOrder (hb : Books c s)
    (h : ∀ s', HoldSteps (ShipStep s.data orderId) s s' →
      (∀ item ∈ s.data.items, item.orderId = orderId → (∃ skuId, Reservable item skuId) →
        ∃ hold ∈ s'.data.holds, hold.orderItemId = item.id ∧ hold.status = .shipped) → Q () s')
    (he : HasReleased s.data orderId →
      ∀ s' constraint, s'.marks = s.marks → E (.integrity constraint) s') :
    (shipOrder orderId).wp Q E s := by
  refine wp_eachLine (D := fun hold => hold.status = .shipped) ?_ h
  intro s₁ item Q hs hi ho hskip hput
  have hi₁ : item ∈ s₁.data.items := hs.items ▸ hi
  rcases reservable_or item with hres | hno
  swap
  · rw [shipItem_of_not hno]
    refine hskip (.inl fun skuId hres => ?_)
    rw [hres.1, hres.shouldReserveLine] at hno
    cases hno
  refine wp_shipItem (hs.books hb) hi₁ hskip ?_ ?_
  · rintro s₂ old hold ⟨skuId, hres⟩ hstep hold' hitem horder hst
    have hsku : hold.skuId = skuId := by
      have := (hstep.linked item hi₁ hitem).1
      rw [hres.1] at this
      exact (Option.some.inj this).symm
    exact hput s₂ old hold hstep ⟨hold', horder.trans ho, hst, item, hi, hitem.symm, ho,
      hsku ▸ hres⟩ hitem hst
  · rintro ⟨old, hold, hitem, hst⟩ s' constraint hmarks
    refine he ⟨item, hi, ho, hres, old, ?_, hitem, hst⟩ s' constraint (hmarks.trans hs.marks)
    rcases hs.mem hold with hmem | ⟨_, hP⟩
    · exact hmem
    · rw [hP.status] at hst
      cases hst

/-- How releasing an order changes a hold. -/
structure ReleaseStep (orderId : ℕ) (old : Option InventoryHold) (h : InventoryHold) : Prop where
  order : h.orderId = orderId
  status : h.status = .released
  old : ∃ o, old = some o ∧ o.status = .opened ∧ h = { o with status := .released }

/-- Releasing never raises, and leaves no open hold of the order. -/
theorem wp_releaseOrder (hb : Books c s)
    (h : ∀ s', HoldSteps (ReleaseStep orderId) s s' →
      (∀ hold ∈ s'.data.holds, hold.orderId = orderId → hold.status ≠ .opened) → Q () s') :
    (releaseOrder orderId).wp Q E s := by
  unfold releaseOrder
  simp only [listForOrder, Prog.bind_eq, Prog.wp_bind, Prog.wp_select]
  let I (rest : List InventoryHold) (s₁ : WorkState) : Prop :=
    HoldSteps (ReleaseStep orderId) s s₁ ∧ Keyed InventoryHold.orderItemId rest ∧
      (∀ hold ∈ rest, hold ∈ s₁.data.holds ∧ hold.orderId = orderId) ∧
      ∀ hold ∈ s₁.data.holds, hold.orderId = orderId → hold.status = .opened → hold ∈ rest
  have hperm := List.perm_insertionSort (fun a b : InventoryHold => a.id ≤ b.id)
    (s.data.holds.filter fun h => h.orderId = orderId)
  refine Prog.wp_mono (Prog.wp_forEach (I := I) (E := E) ⟨.refl, ?_, ?_, ?_⟩ ?_) ?_ fun _ _ he => he
  · exact (hperm.map _).nodup_iff.mpr ((List.filter_sublist.map _).nodup hb.wf.items)
  · intro hold hh
    simpa using hperm.mem_iff.mp hh
  · intro hold hh ho _
    exact hperm.mem_iff.mpr (by simpa using ⟨hh, ho⟩)
  · rintro hold rest s₁ ⟨hs, hk, hrest, hopen⟩
    obtain ⟨hnot, hk'⟩ := List.nodup_cons.mp hk
    obtain ⟨hh, ho⟩ := hrest hold (by simp)
    refine wp_releaseHold (hs.books hb) hh (fun hne => ?_) fun hst s₂ hstep => ?_
    · refine ⟨hs, hk', fun h' hh' => hrest h' (by simp [hh']), fun h' hh' ho' hst' => ?_⟩
      rcases List.mem_cons.mp (hopen h' hh' ho' hst') with rfl | hmem
      · exact absurd hst' hne
      · exact hmem
    · refine ⟨hs.step hstep ⟨ho, rfl, hold, rfl, hst, rfl⟩, hk', fun h' hh' => ?_, ?_⟩
      · obtain ⟨hin, ho'⟩ := hrest h' (by simp [hh'])
        refine ⟨?_, ho'⟩
        rw [hstep.holds]
        exact mem_put.mpr (.inr ⟨hin, fun heq => hnot (heq ▸ List.mem_map_of_mem hh')⟩)
      · intro h' hh' ho' hst'
        rw [hstep.holds] at hh'
        rcases mem_put.mp hh' with rfl | ⟨hin, hne⟩
        · cases hst'
        · rcases List.mem_cons.mp (hopen h' hin ho' hst') with rfl | hmem
          · exact absurd rfl hne
          · exact hmem
  · rintro _ s' ⟨hs, -, -, hopen⟩
    refine h s' hs fun hold hh ho hst => ?_
    cases hopen hold hh ho hst

end orders

end CrossPilot
