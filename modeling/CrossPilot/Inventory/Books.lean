import CrossPilot.Inventory.Holds

/-!
# The two books of reserved stock

Reserved stock is written down twice: in the occupied quantity of a balance, and in the allocations
of the open holds. `Books c` says that the two agree up to a slack `c` that does not change, with
`c = 0` for stock that only the service itself has reserved. A second account is kept of what has
left the warehouses: the available quantity and the allocations of the shipped holds add up to the
same all the time.

Every operation on a hold puts a new version of it in place of the old one and moves the balances
by the difference (`HoldStep`). Both accounts follow from that.
-/

namespace CrossPilot

open Transaction Table

/-! ### The accounts -/

namespace InventoryHold

/-- What the hold takes of a SKU from a warehouse, if its status is the given one. -/
def part (status : HoldStatus) (h : InventoryHold) (skuId warehouseId : ℕ) : ℤ :=
  if h.status = status ∧ h.skuId = skuId then allocatedAt h.allocations warehouseId else 0

end InventoryHold

/-- What the holds of a status take of a SKU from a warehouse. -/
def heldIn (status : HoldStatus) (d : Db) (skuId warehouseId : ℕ) : ℤ :=
  total (fun h => h.part status skuId warehouseId) d.holds

/-- What the holds of an order take. -/
def heldBy (status : HoldStatus) (d : Db) (orderId skuId warehouseId : ℕ) : ℤ :=
  total (fun h => h.part status skuId warehouseId) (d.holds.filter fun h => h.orderId = orderId)

/-- The holds of an order and those of all others make up the whole. -/
lemma heldBy_add_others (status : HoldStatus) (d : Db) (orderId t w : ℕ) :
    heldBy status d orderId t w +
      total (fun h => h.part status t w) (d.holds.filter fun h => h.orderId ≠ orderId) =
      heldIn status d t w := by
  have := total_filter_add (g := fun h => h.part status t w)
    (fun h => decide (h.orderId = orderId)) d.holds
  simpa [heldBy, heldIn] using this

/-- An order none of whose holds has the status takes nothing in it. -/
lemma heldBy_eq_zero {status : HoldStatus} {d : Db} {orderId : ℕ}
    (h : ∀ hold ∈ d.holds, hold.orderId = orderId → hold.status ≠ status) (t w : ℕ) :
    heldBy status d orderId t w = 0 := by
  apply total_eq_zero
  intro hold hh
  obtain ⟨hin, ho⟩ := List.mem_filter.mp hh
  exact if_neg fun hp => h hold hin (by simpa using ho) hp.1

/-- The holds are as the service writes them. -/
structure HoldsWf (d : Db) : Prop where
  ids : Keyed InventoryHold.id d.holds
  items : Keyed InventoryHold.orderItemId d.holds
  lines : Keyed OrderItem.id d.items
  positive : ∀ h ∈ d.holds, Positive h.allocations
  quantity : ∀ h ∈ d.holds, h.quantity = allocated h.allocations
  short : ∀ h ∈ d.holds, h.status = .short → h.allocations = []
  linked : ∀ h ∈ d.holds, ∀ i ∈ d.items, h.orderItemId = i.id →
    i.skuId = some h.skuId ∧ i.orderId = h.orderId

/-- The id occurs in the tables that new rows are added to. -/
inductive Uses (d : Db) (id : ℕ) : Prop
  | hold {h : InventoryHold} : h ∈ d.holds →
      id = h.id ∨ id = h.orderItemId ∨ id = h.orderId → Uses d id
  | item {i : OrderItem} : i ∈ d.items → id = i.id ∨ id = i.orderId → Uses d id
  | order {o : SalesOrder} : o ∈ d.orders → id = o.id → Uses d id
  | balance {r : Inventory} : r ∈ d.inventories → id = r.id → Uses d id

/-- The ids that a worker will draw are new and all different. -/
structure Fresh (s : WorkState) : Prop where
  injective : Function.Injective s.session.ids
  unused : ∀ n, ¬ Uses s.data (s.session.ids n)

/-- The books agree up to a slack. -/
structure Books (c : ℕ → ℕ → ℤ) (s : WorkState) : Prop where
  ready : Ready s
  fresh : Fresh s
  wf : HoldsWf s.data
  slack : ∀ t w, 0 ≤ c t w
  occupied : ∀ t w, balanceAt s.data .occupied t w = heldIn .opened s.data t w + c t w

lemma part_nonneg {status : HoldStatus} {h : InventoryHold} (hp : Positive h.allocations)
    (t w : ℕ) : 0 ≤ h.part status t w := by
  unfold InventoryHold.part
  split
  · exact hp.allocatedAt_nonneg w
  · exact le_rfl

/-- An open hold is covered by the occupied stock. -/
lemma Books.part_le {c : ℕ → ℕ → ℤ} {s : WorkState} (hb : Books c s) {h : InventoryHold}
    (hh : h ∈ s.data.holds) (t w : ℕ) : h.part .opened t w ≤ balanceAt s.data .occupied t w := by
  have hle : h.part .opened t w ≤ heldIn .opened s.data t w :=
    le_total (g := fun h => h.part .opened t w)
      (fun h hh => part_nonneg (hb.wf.positive h hh) t w) hh
  have hc := hb.slack t w
  have ho := hb.occupied t w
  omega

/-- Where stock is occupied there is a balance. -/
lemma stocks_of_balanceAt_pos {d : Db} {b : Bucket} {t w : ℕ} (h : 0 < balanceAt d b t w) :
    Stocks d t w := by
  by_contra hnot
  have hzero : balanceAt d b t w = 0 := by
    apply total_eq_zero
    intro r hr
    exact if_neg fun hp => hnot ⟨r, hr, hp⟩
  omega

/-- Moving balances leaves the ids in use as they are. -/
lemma Moved.uses {d d' : Db} {gain : Bucket → ℕ → ℕ → ℤ} (h : Moved d d' gain) (id : ℕ) :
    Uses d' id ↔ Uses d id := by
  have hids := h.mem_ids id
  have hholds : d'.holds = d.holds := by rw [h.frame]
  have hitems : d'.items = d.items := by rw [h.frame]
  have horders : d'.orders = d.orders := by rw [h.frame]
  constructor
  · rintro (⟨hm, hid⟩ | ⟨hm, hid⟩ | ⟨hm, hid⟩ | ⟨hm, hid⟩)
    · exact .hold (hholds ▸ hm) hid
    · exact .item (hitems ▸ hm) hid
    · exact .order (horders ▸ hm) hid
    · obtain ⟨r, hr, heq⟩ := hids.mp ⟨_, hm, hid.symm⟩
      exact .balance hr heq.symm
  · rintro (⟨hm, hid⟩ | ⟨hm, hid⟩ | ⟨hm, hid⟩ | ⟨hm, hid⟩)
    · exact .hold (hholds ▸ hm) hid
    · exact .item (hitems ▸ hm) hid
    · exact .order (horders ▸ hm) hid
    · obtain ⟨r, hr, heq⟩ := hids.mpr ⟨_, hm, hid.symm⟩
      exact .balance hr heq.symm

lemma Fresh.of_moved {s s' : WorkState} (hf : Fresh s) (hids : s'.session.ids = s.session.ids)
    {gain : Bucket → ℕ → ℕ → ℤ} (hm : Moved s.data s'.data gain) : Fresh s' := by
  refine ⟨hids ▸ hf.injective, fun n => ?_⟩
  rw [hm.uses, hids]
  exact hf.unused n

/-! ### One step of a hold -/

/-- A new version `h` of a hold has taken the place of `old`, and the balances have moved by the
difference between the two. -/
structure HoldStep (s s' : WorkState) (old : Option InventoryHold) (h : InventoryHold) : Prop where
  old_eq : s.data.holds.find? (fun h' => h'.orderItemId = h.orderItemId) = old
  ready : Ready s'
  fresh : Fresh s'
  marks : s'.marks = s.marks
  frame : s'.data = { s.data with
    inventories := s'.data.inventories
    flows := s'.data.flows
    holds := put InventoryHold.orderItemId h s.data.holds }
  stocks : ∀ t w, Stocks s'.data t w ↔ Stocks s.data t w
  occupied : ∀ t w, balanceAt s'.data .occupied t w = balanceAt s.data .occupied t w +
    (h.part .opened t w - old.elim 0 fun h => h.part .opened t w)
  available : ∀ t w, balanceAt s'.data .available t w = balanceAt s.data .available t w -
    (h.part .shipped t w - old.elim 0 fun h => h.part .shipped t w)
  id : ∀ h' ∈ s.data.holds, h'.id = h.id → h'.orderItemId = h.orderItemId
  order : ∀ o ∈ old, o.orderId = h.orderId
  positive : Positive h.allocations
  quantity : h.quantity = allocated h.allocations
  short : h.status = .short → h.allocations = []
  linked : ∀ i ∈ s.data.items, h.orderItemId = i.id → i.skuId = some h.skuId ∧ i.orderId = h.orderId

namespace HoldStep

variable {s s' : WorkState} {old : Option InventoryHold} {h : InventoryHold}

lemma holds (hs : HoldStep s s' old h) :
    s'.data.holds = put InventoryHold.orderItemId h s.data.holds := by
  rw [hs.frame]

lemma items (hs : HoldStep s s' old h) : s'.data.items = s.data.items := by
  rw [hs.frame]

/-- What the holds of a status take moves by the difference of the two versions. -/
lemma heldIn (hs : HoldStep s s' old h) (hk : Keyed InventoryHold.orderItemId s.data.holds)
    (status : HoldStatus) (t w : ℕ) :
    heldIn status s'.data t w = CrossPilot.heldIn status s.data t w +
      (h.part status t w - old.elim 0 fun h => h.part status t w) := by
  unfold CrossPilot.heldIn
  rw [hs.holds]
  cases hold : old with
  | none =>
    have hnone := List.find?_eq_none.mp (hs.old_eq.trans hold)
    rw [total_put_of_forall_ne]
    · simp
    · intro h' hh'
      simpa using hnone h' hh'
  | some o =>
    obtain ⟨ho, hko⟩ := (find?_eq_some_iff hk).mp (hs.old_eq.trans hold)
    exact total_put_of_mem hk ho hko _

lemma wf (hs : HoldStep s s' old h) (hw : HoldsWf s.data) : HoldsWf s'.data := by
  have hmem : ∀ h' ∈ s'.data.holds, h' = h ∨ h' ∈ s.data.holds ∧ h'.orderItemId ≠ h.orderItemId :=
    fun h' hh' => mem_put.mp (hs.holds ▸ hh')
  refine ⟨?_, ?_, hs.items ▸ hw.lines, ?_, ?_, ?_, ?_⟩
  · rw [hs.holds]
    exact hw.ids.put_of hw.items hs.id
  · rw [hs.holds]
    exact hw.items.put h
  · intro h' hh'
    rcases hmem h' hh' with rfl | ⟨hh', -⟩
    · exact hs.positive
    · exact hw.positive h' hh'
  · intro h' hh'
    rcases hmem h' hh' with rfl | ⟨hh', -⟩
    · exact hs.quantity
    · exact hw.quantity h' hh'
  · intro h' hh'
    rcases hmem h' hh' with rfl | ⟨hh', -⟩
    · exact hs.short
    · exact hw.short h' hh'
  · intro h' hh' i hi
    rw [hs.items] at hi
    rcases hmem h' hh' with rfl | ⟨hh', -⟩
    · exact hs.linked i hi
    · exact hw.linked h' hh' i hi

/-- The books keep agreeing. -/
theorem books (hs : HoldStep s s' old h) {c : ℕ → ℕ → ℤ} (hb : Books c s) : Books c s' := by
  refine ⟨hs.ready, hs.fresh, hs.wf hb.wf, hb.slack, fun t w => ?_⟩
  rw [hs.occupied, hb.occupied, hs.heldIn hb.wf.items]
  ring

end HoldStep

/-- The ids stay fresh when a hold is put, if its id is not one of those still to be drawn. -/
lemma Fresh.put {s s' : WorkState} (hf : Fresh s) {h : InventoryHold}
    (hdata : s'.data = { s.data with holds := put InventoryHold.orderItemId h s.data.holds })
    {k : ℕ} (hids : ∀ n, s'.session.ids n = s.session.ids (n + k))
    (hid : ∀ n, s'.session.ids n ≠ h.id) (hitem : Uses s.data h.orderItemId)
    (horder : Uses s.data h.orderId) : Fresh s' := by
  refine ⟨fun m n hmn => ?_, fun n => ?_⟩
  · rw [hids, hids] at hmn
    have := hf.injective hmn
    omega
  · have hun := hf.unused (n + k)
    rw [← hids] at hun
    rw [hdata]
    rintro (⟨hm, heq⟩ | ⟨hm, heq⟩ | ⟨hm, heq⟩ | ⟨hm, heq⟩)
    · rcases mem_put.mp hm with rfl | ⟨hm, -⟩
      · rcases heq with heq | heq | heq
        · exact hid n heq
        · exact hun (heq ▸ hitem)
        · exact hun (heq ▸ horder)
      · exact hun (.hold hm heq)
    · exact hun (.item hm heq)
    · exact hun (.order hm heq)
    · exact hun (.balance hm heq)

/-- Balances move, and then a hold is put. -/
lemma HoldStep.of_moved {s s₁ s₂ : WorkState} {gain : Bucket → ℕ → ℕ → ℤ} {h : InventoryHold}
    {old : Option InventoryHold} (hw : HoldsWf s.data) (hf : Fresh s)
    (hm : Moved s.data s₁.data gain) (hr : Ready s₁)
    (hold : s.data.holds.find? (fun h' => h'.orderItemId = h.orderItemId) = old)
    (hdata : s₂.data = { s₁.data with holds := put InventoryHold.orderItemId h s₁.data.holds })
    (hseen : s₂.session.seen = s₁.session.seen) (hmarks : s₂.marks = s.marks) {k : ℕ}
    (hids : ∀ n, s₂.session.ids n = s.session.ids (n + k))
    (hnew : old = none → h.id = s.session.ids 0 ∧ 0 < k)
    (hkeep : ∀ o ∈ old, h.id = o.id ∧ o.orderId = h.orderId)
    (hocc : ∀ t w, gain .occupied t w =
      h.part .opened t w - old.elim 0 fun h => h.part .opened t w)
    (hav : ∀ t w, gain .available t w =
      -(h.part .shipped t w - old.elim 0 fun h => h.part .shipped t w))
    (hpos : Positive h.allocations) (hqty : h.quantity = allocated h.allocations)
    (hshort : h.status = .short → h.allocations = []) (hitem : Uses s.data h.orderItemId)
    (horder : Uses s.data h.orderId)
    (hlink : ∀ i ∈ s.data.items, h.orderItemId = i.id →
      i.skuId = some h.skuId ∧ i.orderId = h.orderId) : HoldStep s s₂ old h := by
  have hholds : s₁.data.holds = s.data.holds := by rw [hm.frame]
  have hframe : s₂.data = { s.data with
      inventories := s₂.data.inventories
      flows := s₂.data.flows
      holds := put InventoryHold.orderItemId h s.data.holds } := by
    rw [hdata, hholds, hm.frame]
  -- the id of the new version is the id of the old one, or one that has just been drawn
  have hid : ∀ h' ∈ s.data.holds, h'.id = h.id → h'.orderItemId = h.orderItemId := by
    intro h' hh' heq
    cases hold' : old with
    | none =>
      rw [(hnew hold').1] at heq
      exact absurd (.hold hh' (.inl heq.symm)) (hf.unused 0)
    | some o =>
      obtain ⟨ho, hok⟩ := (find?_eq_some_iff hw.items).mp (hold.trans hold')
      rw [hw.ids.eq_of_key_eq hh' ho (heq.trans (hkeep o hold').1)]
      exact hok
  have hfresh : Fresh s₂ := by
    have hbal : ∀ id, Uses s₁.data id ↔ Uses s.data id := hm.uses
    refine Fresh.put (s := { s₁ with session := s.session })
      ⟨hf.injective, fun n => by rw [hbal]; exact hf.unused n⟩ hdata hids (fun n => ?_)
      ((hbal _).mpr hitem) ((hbal _).mpr horder)
    rw [hids]
    cases hold' : old with
    | none =>
      obtain ⟨hid0, hk⟩ := hnew hold'
      rw [hid0]
      intro heq
      have := hf.injective heq
      omega
    | some o =>
      obtain ⟨ho, -⟩ := (find?_eq_some_iff hw.items).mp (hold.trans hold')
      rw [(hkeep o hold').1]
      exact fun heq => hf.unused _ (.hold ho (.inl heq))
  have hinv : s₂.data.inventories = s₁.data.inventories := by rw [hdata]
  refine ⟨hold, ⟨hinv ▸ hr.shelf, hinv ▸ hseen ▸ hr.coherent⟩, hfresh, hmarks, hframe, ?_, ?_, ?_,
    hid, fun o ho => (hkeep o ho).2, hpos, hqty, hshort, hlink⟩
  · intro t w
    rw [← hm.stocks]
    unfold Stocks
    rw [hinv]
  · intro t w
    rw [← hocc, ← hm.balance]
    unfold balanceAt
    rw [hinv]
  · intro t w
    rw [sub_eq_add_neg, ← hav, ← hm.balance]
    unfold balanceAt
    rw [hinv]

end CrossPilot
