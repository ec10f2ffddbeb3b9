import CrossPilot.Inventory.Takings
import CrossPilot.Inventory.Transfers
import CrossPilot.Lib.Details
import CrossPilot.Purchase.Orders

/-!
# What purchase orders bring

A line of an order has brought what was received of it, and keeps what is open of it in transit as
long as the order can be received. `Db.purchased` adds this up, and `OrderBooks` says that the
balances are this sum and a slack that purchasing has nothing to do with. Changing a row and posting
stock each move the slack; a request moves it forth and back.

A posting is refused for goods that do not exist any more, or when it takes out of transit what is
not there.
-/

namespace CrossPilot

open Transaction Table Prog

/-! ### The sums -/

/-- What a line of an order in a status has brought. -/
def PurchaseOrderItem.delta (row : PurchaseOrderItem) (status : PurchaseStatus) : Delta where
  available := row.receivedQty
  inTransit := if status ∈ Purchasing.openForReceipt then row.openQty else 0

/-- What a line of the order `o` has brought to a bucket of a SKU in a warehouse. -/
def PurchaseOrderItem.brought (o : PurchaseOrder) (row : PurchaseOrderItem) (b : Bucket)
    (t w : ℕ) : ℤ :=
  if (row.skuId, o.warehouseId) = (t, w) then (row.delta o.status).bucket b else 0

/-- What all purchase orders have brought there. -/
def Db.purchased (d : Db) (b : Bucket) (t w : ℕ) : ℤ :=
  weighed PurchaseOrder.id PurchaseOrderItem.purchaseOrderId (fun o r => r.brought o b t w)
    d.purchaseOrders d.purchaseItems

namespace Purchasing

/-! ### Postings -/

/-- Goods can be posted to the SKU in the warehouse. -/
def Stockable (d : Db) (skuId warehouseId : ℕ) : Prop :=
  SkuKept d skuId ∧ WarehouseKept d warehouseId

/-- What a posting of `δ` to a balance moves. -/
def postedTo (skuId warehouseId : ℕ) (δ : Delta) (b : Bucket) (t w : ℕ) : ℤ :=
  if (skuId, warehouseId) = (t, w) then δ.bucket b else 0

section postings

variable {s : WorkState} {E : ServiceError → WorkState → Prop} {skuId warehouseId : ℕ}

/-- `ensure` answers with the balance of goods that exist, and moves nothing. -/
lemma wp_ensure_stockable {Q : Inventory → WorkState → Prop} (hs : Ready s)
    (hspare : Spare s.session s.data)
    (hok : Stockable s.data skuId warehouseId → ∀ held s', Hauled s s' (fun _ _ _ => 0) →
      Recalls s'.data held skuId warehouseId → Q held s')
    (he : ¬ Stockable s.data skuId warehouseId → E .notFound s) :
    (ensure skuId warehouseId).wp Q E s := by
  -- what happens at all, and when
  have hends : (ensure skuId warehouseId).wp (fun _ _ => Stockable s.data skuId warehouseId)
      (fun e s' => e = .notFound ∧ s' = s ∧ ¬ Stockable s.data skuId warehouseId) s := by
    unfold ensure
    rw [bind_eq, wp_bind]
    refine wp_getSku (fun _ hsku => ?_) fun hno => ⟨rfl, rfl, fun h => hno h.1⟩
    rw [bind_eq, wp_bind]
    refine wp_getWarehouse (fun _ hwarehouse => ?_) fun hno => ⟨rfl, rfl, fun h => hno h.2⟩
    have hkept : Stockable s.data skuId warehouseId := ⟨hsku, hwarehouse⟩
    rw [bind_eq, wp_bind]
    refine wp_getPair hs (fun _ _ _ _ _ _ _ => hkept) fun hnone => ?_
    have hany : ¬ ∃ r ∈ s.data.inventories, r.pair = (skuId, warehouseId) := hnone
    have hpair : (Inventory.mk (s.session.ids 0) skuId warehouseId 0 0 0 0 2 0).pair =
        (skuId, warehouseId) := rfl
    simp only [bind_eq, pure_eq, wp_bind, wp_nextSnowflakeId, wp_update, hpair]
    rw [if_neg (by simpa using hany), if_neg (by simpa using hany)]
    exact hkept
  have hmoves := wp_ensure_hauled (Q := fun held s' => Hauled s s' (fun _ _ _ => 0) ∧
    Recalls s'.data held skuId warehouseId) (E := fun _ _ => True) hs hspare
    (fun held s' h hheld => ⟨h, hheld⟩) fun _ => trivial
  refine wp_mono (wp_and hends hmoves) (fun held s' h => hok h.1 held s' h.2.1 h.2.2) ?_
  rintro e s' ⟨⟨rfl, rfl, hno⟩, -⟩
  exact he hno

/-- A change of one balance, at whatever time it was read. -/
lemma wp_commitChange_hauled {row : Inventory} {note : FlowNote} {δ : Delta}
    {Q : Inventory → WorkState → Prop} (hs : Ready s) (hspare : Spare s.session s.data)
    (hrow : Recalls s.data row skuId warehouseId)
    (hok : ∀ r ∈ s.data.inventories, r.pair = (skuId, warehouseId) → r.fits δ → ∀ held s',
      Hauled s s' (postedTo skuId warehouseId δ) → Recalls s'.data held skuId warehouseId →
      Q held s')
    (he : ∀ r ∈ s.data.inventories, r.pair = (skuId, warehouseId) → r.fits δ = false →
      ∀ s', E .inventoryInsufficient s') :
    (commitChange row note δ).wp Q E s := by
  obtain ⟨r, hr, hp, hheld⟩ := hrow
  refine wp_commitChange hs hr hheld (fun hfit s' hc => ?_) fun hfit s' _ => he r hr hp hfit s'
  have hmem : r.shift δ ∈ s'.data.inventories := hc.data ▸ mem_alter_self hr
  refine hok r hr hp hfit _ s' (.of_moved hspare hc.ready hc.ids
    (hc.data ▸ (Moved.logged hs.shelf hr _ _).congr fun b t w => ?_) ?_)
    ⟨r.shift δ, hmem, hp, .refl _⟩
  · rw [hp]
    rfl
  · rintro held t w ⟨r', hr', hp', hheld'⟩
    by_cases hid : r'.id = r.id
    · obtain rfl := hs.shelf.ids.eq_of_key_eq hr' hr hid
      exact ⟨r'.shift δ, hmem, hp', hheld'.shift _⟩
    · exact ⟨r', hc.data ▸ mem_alter_of_ne hr' hid, hp', hheld'⟩

/-- Goods can always be added to those on hand. -/
lemma fits_available {rows : List Inventory} (h : Shelf rows) {r : Inventory} (hr : r ∈ rows)
    {q : ℤ} (hq : 0 ≤ q) : r.fits { available := q } = true := by
  have hocc := h.occupied_nonneg r hr
  have hle := h.occupied_le r hr
  have hdef := h.defective_nonneg r hr
  have htr := h.inTransit_nonneg r hr
  simp only [Inventory.fits, Bool.and_eq_true, decide_eq_true_eq, add_zero]
  exact ⟨⟨⟨⟨by omega, hocc⟩, hdef⟩, htr⟩, by omega⟩

/-- Goods in transit can be changed as long as none are missing. -/
lemma fits_inTransit {rows : List Inventory} (h : Shelf rows) {r : Inventory} (hr : r ∈ rows)
    {q : ℤ} (hq : 0 ≤ r.inTransit + q) : r.fits { inTransit := q } = true := by
  have hocc := h.occupied_nonneg r hr
  have hle := h.occupied_le r hr
  have hdef := h.defective_nonneg r hr
  simp only [Inventory.fits, Bool.and_eq_true, decide_eq_true_eq, add_zero]
  exact ⟨⟨⟨⟨by omega, hocc⟩, hdef⟩, hq⟩, hle⟩

/-- A posting that puts goods on hand and changes what is in transit. -/
theorem wp_postStock {available inTransit : ℤ} {refType : String} {refId : Option ℕ}
    {Q : Unit → WorkState → Prop} (hs : Ready s) (hspare : Spare s.session s.data)
    (havailable : 0 ≤ available)
    (hok : (available ≠ 0 ∨ inTransit ≠ 0 → Stockable s.data skuId warehouseId) →
      ∀ s', Hauled s s' (postedTo skuId warehouseId { available, inTransit }) → Q () s')
    (hmissing : ¬ (available ≠ 0 ∨ inTransit ≠ 0 → Stockable s.data skuId warehouseId) →
      E .notFound s)
    (hinsufficient : balanceAt s.data .inTransit skuId warehouseId + inTransit < 0 →
      ∀ s', E .inventoryInsufficient s') :
    (postStock skuId warehouseId available inTransit refType refId).wp Q E s := by
  unfold postStock
  by_cases hzero : available = 0 ∧ inTransit = 0
  · rw [if_pos hzero]
    refine hok (fun h => ?_) s ((Hauled.refl hs hspare).congr fun b t w => ?_)
    · rcases h with h | h
      · exact absurd hzero.1 h
      · exact absurd hzero.2 h
    · rw [hzero.1, hzero.2]
      cases b <;> simp [postedTo, Delta.bucket]
  have hmoves : available ≠ 0 ∨ inTransit ≠ 0 := not_and_or.mp hzero
  rw [if_neg hzero, bind_eq, wp_bind]
  refine wp_ensure_stockable hs hspare (fun hkept row s₁ h₁ hrow => ?_) fun hno =>
    hmissing fun h => hno (h hmoves)
  -- what is left to do once the goods on hand are posted
  have hway : ∀ (row : Inventory) (note : FlowNote) (s₂ : WorkState),
      Hauled s s₂ (postedTo skuId warehouseId { available }) →
      Recalls s₂.data row skuId warehouseId →
      ((if inTransit = 0 then pure () else do
        let _ ← commitChange row note { inTransit }) : Work Unit).wp Q E s₂ := by
    intro row note s₂ h₂ hrow₂
    by_cases htransit : inTransit = 0
    · rw [if_pos htransit]
      refine hok (fun _ => hkept) s₂ (h₂.congr fun b t w => ?_)
      rw [htransit]
    · rw [if_neg htransit, bind_eq, wp_bind]
      refine wp_commitChange_hauled h₂.ready h₂.spare hrow₂ (fun r _ _ _ held s₃ h₃ _ => ?_)
        fun r hr hp hfit s₃ => ?_
      · refine hok (fun _ => hkept) s₃ ((h₂.trans h₃).congr fun b t w => ?_)
        unfold postedTo
        split
        · cases b <;> simp [Delta.bucket]
        · rfl
      · refine hinsufficient ?_ s₃
        have hbalance := h₂.balance .inTransit skuId warehouseId
        rw [h₂.ready.shelf.balanceAt_eq hr hp, postedTo, if_pos rfl] at hbalance
        by_contra hcover
        have hfits := fits_inTransit h₂.ready.shelf hr (q := inTransit) (by
          simp only [Inventory.bucket, Delta.bucket] at hbalance
          omega)
        rw [hfits] at hfit
        cases hfit
  dsimp only
  generalize (if 0 < available then FlowType.inbound else FlowType.outbound) = flowType
  by_cases hnone : available = 0
  · rw [if_pos hnone, bind_eq, pure_eq, Prog.bind]
    refine hway row _ s₁ (h₁.congr fun b t w => ?_) hrow
    rw [hnone]
    cases b <;> simp [postedTo, Delta.bucket]
  · rw [if_neg hnone, bind_eq, wp_bind]
    refine wp_commitChange_hauled h₁.ready h₁.spare hrow (fun r _ _ _ held s₂ h₂ hheld => ?_)
      fun r hr hp hfit s₂ => ?_
    · refine hway held _ s₂ ((h₁.trans h₂).congr fun b t w => ?_) hheld
      ring
    · rw [fits_available h₁.ready.shelf hr havailable] at hfit
      cases hfit

end postings

/-! ### The books -/

/-- The tables of purchasing, as their constraints allow them. -/
structure Ordered (d : Db) : Prop where
  orders : Keyed PurchaseOrder.id d.purchaseOrders
  items : Keyed PurchaseOrderItem.id d.purchaseItems
  lines : Keyed (fun r : PurchaseOrderItem => (r.purchaseOrderId, r.skuId)) d.purchaseItems
  owned : ∀ r ∈ d.purchaseItems, ∃ o ∈ d.purchaseOrders, o.id = r.purchaseOrderId

/-- The ids that a worker will draw are in no table yet. -/
structure Unused (l : Session) (d : Db) : Prop where
  spare : Spare l d
  orders : ∀ n, ∀ o ∈ d.purchaseOrders, o.id ≠ l.ids n
  items : ∀ n, ∀ r ∈ d.purchaseItems, r.id ≠ l.ids n

/-- The balances are what the orders have brought, and `c`. -/
structure OrderBooks (c : Bucket → ℕ → ℕ → ℤ) (s : WorkState) : Prop where
  ready : Ready s
  unused : Unused s.session s.data
  tables : Ordered s.data
  balance : ∀ b t w, balanceAt s.data b t w = s.data.purchased b t w + c b t w

/-- Only balances and the ledger differ. -/
def Beside (d d' : Db) : Prop :=
  d' = { d with inventories := d'.inventories, flows := d'.flows }

namespace OrderBooks

variable {c g : Bucket → ℕ → ℕ → ℤ} {s s' : WorkState} {o : PurchaseOrder} {r : PurchaseOrderItem}

lemma congr (h : OrderBooks c s) (heq : ∀ b t w, c b t w = g b t w) : OrderBooks g s :=
  ⟨h.ready, h.unused, h.tables, fun b t w => by rw [h.balance, heq]⟩

/-- Goods are posted. -/
lemma hauled (h : OrderBooks c s) {gain : Bucket → ℕ → ℕ → ℤ} (hm : Hauled s s' gain) :
    OrderBooks (fun b t w => c b t w + gain b t w) s' := by
  have horders : s'.data.purchaseOrders = s.data.purchaseOrders := by rw [hm.frame]
  have hitems : s'.data.purchaseItems = s.data.purchaseItems := by rw [hm.frame]
  obtain ⟨n, hn⟩ := hm.drawn
  refine ⟨hm.ready, ⟨hm.spare, fun k => ?_, fun k => ?_⟩, ⟨?_, ?_, ?_, ?_⟩, fun b t w => ?_⟩
  · rw [horders, hn]
    exact h.unused.orders _
  · rw [hitems, hn]
    exact h.unused.items _
  · rw [horders]
    exact h.tables.orders
  · rw [hitems]
    exact h.tables.items
  · rw [hitems]
    exact h.tables.lines
  · rw [horders, hitems]
    exact h.tables.owned
  · rw [hm.balance, h.balance]
    unfold Db.purchased
    rw [horders, hitems, add_assoc]

/-- An id is drawn. -/
lemma draw (h : OrderBooks c s) :
    OrderBooks c { s with session := { s.session with ids := fun n => s.session.ids (n + 1) } } := by
  obtain ⟨⟨hshelf, hcoherent⟩, ⟨⟨hinj, hbalances, htransfers⟩, horders, hitems⟩, htables, hbal⟩ := h
  exact ⟨⟨hshelf, hcoherent⟩, ⟨⟨fun m n hmn => Nat.succ_injective (hinj hmn),
    fun n => hbalances (n + 1), fun n => htransfers (n + 1)⟩, fun n => horders (n + 1),
    fun n => hitems (n + 1)⟩, htables, hbal⟩

/-- A line is changed. -/
lemma alter_item (h : OrderBooks c s) (ho : o ∈ s.data.purchaseOrders)
    (hr : r ∈ s.data.purchaseItems) (hown : o.id = r.purchaseOrderId)
    {f : PurchaseOrderItem → PurchaseOrderItem} (hid : ∀ r, (f r).id = r.id)
    (hof : ∀ r, (f r).purchaseOrderId = r.purchaseOrderId) (hsku : ∀ r, (f r).skuId = r.skuId) :
    OrderBooks (fun b t w => c b t w - ((f r).brought o b t w - r.brought o b t w))
      { s with data := { s.data with
        purchaseItems := alter PurchaseOrderItem.id r.id f s.data.purchaseItems } } := by
  obtain ⟨⟨hshelf, hcoherent⟩, ⟨hspare, horders, hitems⟩, ⟨hk, hki, hkl, howned⟩, hbal⟩ := h
  refine ⟨⟨hshelf, hcoherent⟩, ⟨⟨hspare.injective, hspare.balances, hspare.transfers⟩, horders,
    fun n x hx => ?_⟩, ⟨hk, hki.alter hid, hkl.alter fun x => by rw [hof, hsku], fun x hx => ?_⟩,
    fun b t w => ?_⟩
  · obtain ⟨y, hy, rfl⟩ := mem_alter.mp hx
    split
    · rw [hid]
      exact hitems n y hy
    · exact hitems n y hy
  · obtain ⟨y, hy, rfl⟩ := mem_alter.mp hx
    split
    · rw [hof]
      exact howned y hy
    · exact howned y hy
  · refine (hbal b t w).trans ?_
    unfold Db.purchased
    rw [weighed_alter_detail hk hki ho hr hown (hof r)]
    ring

/-- An order is changed. -/
lemma alter_order (h : OrderBooks c s) (ho : o ∈ s.data.purchaseOrders)
    {f : PurchaseOrder → PurchaseOrder} (hid : ∀ o, (f o).id = o.id) :
    OrderBooks (fun b t w => c b t w -
        (weight PurchaseOrder.id PurchaseOrderItem.purchaseOrderId (fun o r => r.brought o b t w)
          s.data.purchaseItems (f o) -
        weight PurchaseOrder.id PurchaseOrderItem.purchaseOrderId (fun o r => r.brought o b t w)
          s.data.purchaseItems o))
      { s with data := { s.data with
        purchaseOrders := alter PurchaseOrder.id o.id f s.data.purchaseOrders } } := by
  obtain ⟨⟨hshelf, hcoherent⟩, ⟨hspare, horders, hitems⟩, ⟨hk, hki, hkl, howned⟩, hbal⟩ := h
  refine ⟨⟨hshelf, hcoherent⟩, ⟨⟨hspare.injective, hspare.balances, hspare.transfers⟩,
    fun n x hx => ?_, hitems⟩, ⟨hk.alter hid, hki, hkl, fun x hx => ?_⟩, fun b t w => ?_⟩
  · obtain ⟨y, hy, rfl⟩ := mem_alter.mp hx
    split
    · rw [hid]
      exact horders n y hy
    · exact horders n y hy
  · obtain ⟨y, hy, hyid⟩ := howned x hx
    refine ⟨_, mem_alter.mpr ⟨y, hy, rfl⟩, ?_⟩
    split
    · rw [hid, hyid]
    · exact hyid
  · refine (hbal b t w).trans ?_
    unfold Db.purchased
    rw [weighed_alter_master hk ho]
    ring

/-- A line is added to an order. -/
lemma append_item (h : OrderBooks c s) (ho : o ∈ s.data.purchaseOrders) {r : PurchaseOrderItem}
    (hown : o.id = r.purchaseOrderId) (hid : r.id = s.session.ids 0)
    (hnew : ∀ x ∈ s.data.purchaseItems,
      (x.purchaseOrderId, x.skuId) ≠ (r.purchaseOrderId, r.skuId)) :
    OrderBooks (fun b t w => c b t w - r.brought o b t w)
      { s with
        session := { s.session with ids := fun n => s.session.ids (n + 1) }
        data := { s.data with purchaseItems := s.data.purchaseItems ++ [r] } } := by
  obtain ⟨hready, ⟨hspare, horders, hitems⟩, ⟨hk, hki, hkl, howned⟩, hbal⟩ := h.draw
  have hfresh : ∀ x ∈ s.data.purchaseItems, x.id ≠ r.id := hid ▸ h.unused.items 0
  refine ⟨⟨hready.shelf, hready.coherent⟩,
    ⟨⟨hspare.injective, hspare.balances, hspare.transfers⟩, horders, fun n x hx => ?_⟩,
    ⟨hk, hki.append_singleton hfresh, hkl.append_singleton hnew, fun x hx => ?_⟩, fun b t w => ?_⟩
  · rcases List.mem_append.mp hx with hx | hx
    · exact hitems n x hx
    · rw [List.mem_singleton.mp hx, hid]
      intro heq
      cases h.unused.spare.injective heq
  · rcases List.mem_append.mp hx with hx | hx
    · exact howned x hx
    · rw [List.mem_singleton.mp hx]
      exact ⟨o, ho, hown⟩
  · refine (hbal b t w).trans ?_
    unfold Db.purchased
    rw [weighed_append_detail hk ho hown]
    ring

/-- A new order has no lines yet. -/
lemma append_order (h : OrderBooks c s) {o : PurchaseOrder} (hid : o.id = s.session.ids 0) :
    OrderBooks c
      { s with
        session := { s.session with ids := fun n => s.session.ids (n + 1) }
        data := { s.data with purchaseOrders := s.data.purchaseOrders ++ [o] } } := by
  obtain ⟨hready, ⟨hspare, horders, hitems⟩, ⟨hk, hki, hkl, howned⟩, hbal⟩ := h.draw
  have hfresh : ∀ x ∈ s.data.purchaseOrders, x.id ≠ o.id := hid ▸ h.unused.orders 0
  refine ⟨⟨hready.shelf, hready.coherent⟩,
    ⟨⟨hspare.injective, hspare.balances, hspare.transfers⟩, fun n x hx => ?_, hitems⟩,
    ⟨hk.append_singleton hfresh, hki, hkl, fun x hx => ?_⟩, fun b t w => ?_⟩
  · rcases List.mem_append.mp hx with hx | hx
    · exact horders n x hx
    · rw [List.mem_singleton.mp hx, hid]
      intro heq
      cases h.unused.spare.injective heq
  · obtain ⟨y, hy, hyid⟩ := howned x hx
    exact ⟨y, List.mem_append_left _ hy, hyid⟩
  · refine (hbal b t w).trans ?_
    unfold Db.purchased
    rw [weighed_append_master]
    intro x hx heq
    obtain ⟨y, hy, hyid⟩ := howned x hx
    exact hfresh y hy (hyid.trans heq)

end OrderBooks

section transit

variable {d : Db} {o : PurchaseOrder} {r : PurchaseOrderItem}

/-- A line has nothing in transit, or what is open of it. -/
lemma brought_inTransit_nonneg (o : PurchaseOrder) (r : PurchaseOrderItem) (t w : ℕ) :
    0 ≤ r.brought o .inTransit t w := by
  unfold PurchaseOrderItem.brought
  split
  · simp only [PurchaseOrderItem.delta, Delta.bucket]
    split
    · exact openQty_nonneg _ _ _
    · exact le_rfl
  · exact le_rfl

/-- What a change of a line brings. -/
lemma brought_sub {x : PurchaseOrderItem} (hsku : x.skuId = r.skuId) (b : Bucket) (t w : ℕ) :
    x.brought o b t w - r.brought o b t w = postedTo r.skuId o.warehouseId
      { available := x.receivedQty - r.receivedQty
        inTransit := if o.status ∈ openForReceipt then x.openQty - r.openQty else 0 } b t w := by
  unfold PurchaseOrderItem.brought postedTo PurchaseOrderItem.delta
  rw [hsku]
  by_cases hat : (r.skuId, o.warehouseId) = (t, w)
  · by_cases hopen : o.status ∈ openForReceipt <;> cases b <;> simp [hat, hopen, Delta.bucket]
  · simp [hat]

lemma purchased_inTransit_nonneg (d : Db) (t w : ℕ) : 0 ≤ d.purchased .inTransit t w :=
  weighed_nonneg fun o _ r _ => brought_inTransit_nonneg o r t w

/-- What is open of a line of an order that can be received is in transit. -/
lemma openQty_le_purchased (ho : o ∈ d.purchaseOrders) (hr : r ∈ d.purchaseItems)
    (hown : o.id = r.purchaseOrderId) (hstatus : o.status ∈ openForReceipt) :
    r.openQty ≤ d.purchased .inTransit r.skuId o.warehouseId := by
  have hpart : r.openQty = r.brought o .inTransit r.skuId o.warehouseId := by
    simp [PurchaseOrderItem.brought, PurchaseOrderItem.delta, Delta.bucket, hstatus]
  rw [hpart]
  exact le_weighed (fun o _ x _ => brought_inTransit_nonneg o x _ _) ho hr hown.symm

end transit

end Purchasing

end CrossPilot
