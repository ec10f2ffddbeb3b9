import CrossPilot.Lib.WeightedMean
import CrossPilot.Purchase.ArrivalCosts
import CrossPilot.Purchase.Requests

/-!
# Posting a shipment

A draft can be posted if the order it belongs to and its goods are still there, its cost can be
shared out so that nobody bears a negative part, the goods are free in the warehouse they leave, and
the cost of each line is complete (`Postable`). Posting then books one arrival for each line: a part
of the cost, and a row of the cost pool that averages the arrival with what has come before
(`Averages`). Nothing else is a reason to refuse it.
-/

namespace CrossPilot

open Transaction Table Prog

namespace Purchasing

open FirstMile (PurchaseRuleError AllocMethod AllocInput AllocOutput allocate Measurable Absorbs
  measures)
open LandedCost (quantize LandedCostResult landedCodes)
open LandedCostService (taxFacts feeFacts)
open Pricing (amountOf)
open Decimals (Lot)

/-! ### Goods that leave -/

/-- What can be taken of a SKU from a warehouse. -/
def free (d : Db) (skuId warehouseId : ℕ) : ℤ :=
  balanceAt d .available skuId warehouseId - balanceAt d .occupied skuId warehouseId

/-- The goods of a line can go from one warehouse to another. -/
structure Sendable (d : Db) (here there skuId : ℕ) (quantity : ℤ) : Prop where
  leaves : Stockable d skuId here
  comes : Stockable d skuId there
  enough : quantity ≤ free d skuId here

/-- What a line moves. -/
def moved (here there skuId : ℕ) (quantity : ℤ) (b : Bucket) (t w : ℕ) : ℤ :=
  postedTo skuId here { available := -quantity } b t w +
    postedTo skuId there { inTransit := quantity } b t w

section moves

variable {s : WorkState} {E : ServiceError → WorkState → Prop} {skuId warehouseId : ℕ}

/-- Goods are taken from those on hand, if as many are free. -/
lemma wp_takeOut {quantity : ℤ} {refType : String} {refId : Option ℕ}
    {Q : Unit → WorkState → Prop} (hs : Ready s) (hspare : Spare s.session s.data)
    (hq : 0 < quantity)
    (hok : Stockable s.data skuId warehouseId → quantity ≤ free s.data skuId warehouseId → ∀ s',
      Hauled s s' (postedTo skuId warehouseId { available := -quantity }) → Q () s')
    (he : ∀ e s', (Stockable s.data skuId warehouseId →
      ¬ quantity ≤ free s.data skuId warehouseId) → E e s') :
    (postStock skuId warehouseId (-quantity) 0 refType refId).wp Q E s := by
  have hne : ¬ -quantity = 0 := by omega
  unfold postStock
  rw [if_neg fun h => hne h.1, bind_eq, wp_bind]
  refine wp_ensure_stockable hs hspare (fun hkept row s₁ h₁ hrow => ?_) fun hno =>
    he _ _ fun h => absurd h hno
  dsimp only
  rw [if_neg hne, bind_eq, wp_bind]
  have hfree : free s₁.data skuId warehouseId = free s.data skuId warehouseId := by
    simp [free, h₁.balance]
  -- what the balance allows
  have hfits : ∀ r ∈ s₁.data.inventories, r.pair = (skuId, warehouseId) →
      (r.fits { available := -quantity } = true ↔ quantity ≤ free s.data skuId warehouseId) := by
    intro r hr hp
    have hoccupied := h₁.ready.shelf.occupied_nonneg r hr
    rw [fits_iff h₁.ready.shelf hr, ← hfree, free, h₁.ready.shelf.balanceAt_eq hr hp,
      h₁.ready.shelf.balanceAt_eq hr hp]
    simp only [takingFits, Inventory.bucket, Bool.and_eq_true, decide_eq_true_eq]
    omega
  refine wp_commitChange_hauled h₁.ready h₁.spare hrow (fun r hr hp hfit held s₂ h₂ _ => ?_)
    fun r hr hp hfit s₂ => he _ _ fun _ hq' => ?_
  · rw [if_pos rfl]
    exact hok hkept ((hfits r hr hp).mp hfit) s₂ ((h₁.trans h₂).congr fun b t w => zero_add _)
  · rw [(hfits r hr hp).mpr hq'] at hfit
    cases hfit

/-- Goods are put in transit. -/
lemma wp_putInTransit {quantity : ℤ} {refType : String} {refId : Option ℕ}
    {Q : Unit → WorkState → Prop} (hs : Ready s) (hspare : Spare s.session s.data)
    (hq : 0 < quantity)
    (hok : Stockable s.data skuId warehouseId → ∀ s',
      Hauled s s' (postedTo skuId warehouseId { inTransit := quantity }) → Q () s')
    (he : ∀ e s', ¬ Stockable s.data skuId warehouseId → E e s') :
    (postStock skuId warehouseId 0 quantity refType refId).wp Q E s := by
  refine wp_postStock hs hspare le_rfl (fun hkept s' h => hok (hkept (.inr hq.ne')) s' h)
    (fun hno => he _ _ fun h => hno fun _ => h) fun hshort s' => ?_
  have := balanceAt_inTransit_nonneg hs.shelf skuId warehouseId
  omega

lemma stockable_hauled {s' : WorkState} {gain : Bucket → ℕ → ℕ → ℤ} (h : Hauled s s' gain)
    (skuId warehouseId : ℕ) :
    Stockable s'.data skuId warehouseId ↔ Stockable s.data skuId warehouseId := by
  unfold Stockable SkuKept WarehouseKept
  rw [h.frame]

/-- The goods of a line go from one warehouse to another. -/
lemma wp_moveLine {shipment : FirstMileShipment} {here there : ℕ} {line : AllocOutput}
    {Q : Unit → WorkState → Prop} (hs : Ready s) (hspare : Spare s.session s.data)
    (hq : 0 < line.quantity)
    (hok : Sendable s.data here there line.skuId line.quantity → ∀ s',
      Hauled s s' (moved here there line.skuId line.quantity) → Q () s')
    (he : ∀ e s', ¬ Sendable s.data here there line.skuId line.quantity → E e s') :
    (moveLine shipment here there line).wp Q E s := by
  unfold moveLine
  rw [bind_eq, wp_bind]
  refine wp_takeOut hs hspare hq (fun hhere henough s₁ h₁ => ?_) fun e s' hno =>
    he _ _ fun h => hno h.leaves h.enough
  refine wp_putInTransit h₁.ready h₁.spare hq (fun hthere s₂ h₂ => ?_) fun e s' hno =>
    he _ _ fun h => hno ((stockable_hauled h₁ _ _).mpr h.comes)
  exact hok ⟨hhere, (stockable_hauled h₁ _ _).mp hthere, henough⟩ s₂ (h₁.trans h₂)

/-- Goods of other SKUs are not concerned. -/
lemma sendable_hauled {s' : WorkState} {here there other : ℕ} {quantity : ℤ}
    (h : Hauled s s' (moved here there skuId quantity)) (hne : other ≠ skuId) (q : ℤ) :
    Sendable s'.data here there other q ↔ Sendable s.data here there other q := by
  have hfree : free s'.data other here = free s.data other here := by
    simp [free, h.balance, moved, postedTo, hne.symm]
  constructor
  · intro hsend
    exact ⟨(stockable_hauled h _ _).mp hsend.leaves, (stockable_hauled h _ _).mp hsend.comes,
      hfree ▸ hsend.enough⟩
  · intro hsend
    exact ⟨(stockable_hauled h _ _).mpr hsend.leaves, (stockable_hauled h _ _).mpr hsend.comes,
      hfree ▸ hsend.enough⟩

/-- The goods of all lines go, or not all can. -/
lemma wp_moveEach {shipment : FirstMileShipment} {here there : ℕ} (lines : List AllocOutput)
    {Q : Unit → WorkState → Prop} (hs : Ready s) (hspare : Spare s.session s.data)
    (hpos : ∀ line ∈ lines, 0 < line.quantity) (hnodup : (lines.map AllocOutput.skuId).Nodup)
    (hok : (∀ line ∈ lines, Sendable s.data here there line.skuId line.quantity) → ∀ s',
      Hauled s s' (fun b t w =>
        total (fun line => moved here there line.skuId line.quantity b t w) lines) → Q () s')
    (he : ∀ e s', (¬ ∀ line ∈ lines, Sendable s.data here there line.skuId line.quantity) →
      E e s') : (Prog.forEach lines (moveLine shipment here there)).wp Q E s := by
  induction lines generalizing s with
  | nil => exact hok (by simp) s ((Hauled.refl hs hspare).congr fun b t w => by simp)
  | cons line rest ih =>
    obtain ⟨hnotin, hnodup'⟩ := List.nodup_cons.mp hnodup
    rw [Prog.forEach, wp_bind]
    refine wp_moveLine hs hspare (hpos line (by simp)) (fun hline s₁ h₁ => ?_) fun e s' hno =>
      he _ _ fun hall => hno (hall line (by simp))
    have hsame : ∀ x ∈ rest, (Sendable s₁.data here there x.skuId x.quantity ↔
        Sendable s.data here there x.skuId x.quantity) := fun x hx =>
      sendable_hauled h₁ (fun heq => hnotin (heq ▸ List.mem_map_of_mem hx)) x.quantity
    refine ih h₁.ready h₁.spare (fun x hx => hpos x (by simp [hx])) hnodup' (fun hall s₂ h₂ => ?_)
      fun e s' hno => he _ _ fun hall => hno fun x hx => (hsame x hx).mpr (hall x (by simp [hx]))
    refine hok (List.forall_mem_cons.mpr ⟨hline, fun x hx => (hsame x hx).mp (hall x hx)⟩) s₂
      ((h₁.trans h₂).congr fun b t w => ?_)
    rw [total_cons]

end moves

/-- The two warehouses that goods move between, if they do. -/
def journey (shipment : FirstMileShipment) (warehouseType : Option WarehouseType) :
    Option (ℕ × ℕ) :=
  match shipment.fromWarehouseId, shipment.toWarehouseId with
  | some here, some there =>
    if shouldMoveStock shipment.fromWarehouseId shipment.toWarehouseId warehouseType then
      some (here, there)
    else none
  | _, _ => none

lemma moveLines_eq (shipment : FirstMileShipment) (warehouseType : Option WarehouseType)
    (lines : List AllocOutput) : moveLines shipment warehouseType lines =
      (journey shipment warehouseType).elim (.ret ()) fun p =>
        .forEach lines (moveLine shipment p.1 p.2) := by
  unfold moveLines journey
  cases shipment.fromWarehouseId with
  | none => rfl
  | some here =>
    cases shipment.toWarehouseId with
    | none => rfl
    | some there =>
      dsimp only
      split <;> rfl

/-- What the goods of a shipment move. -/
def shippedBy (way : Option (ℕ × ℕ)) (lines : List (ℕ × ℤ)) (b : Bucket) (t w : ℕ) : ℤ :=
  way.elim 0 fun p => total (fun line => moved p.1 p.2 line.1 line.2 b t w) lines

/-! ### Shares of the cost -/

section shares

variable {method : AllocMethod} {cost : ℚ} {currency : String} {inputs : List AllocInput}
  {lines : List AllocOutput}

lemma measurable_of_allocate (h : allocate method cost currency inputs = .ok lines) :
    Measurable method inputs := by
  unfold allocate at h
  split_ifs at h
  obtain ⟨metrics, hmetrics, -⟩ := bind_eq_ok.mp h
  intro input hinput
  obtain ⟨x, hx⟩ := Fallible.exists_mapM_iff.mp ⟨metrics, hmetrics⟩ input hinput
  unfold FirstMile.metric at hx
  split_ifs at hx with hq hunit
  exact ⟨not_le.mp hq, not_le.mp hunit⟩

/-- What the lines of a shipment bear of its cost. -/
structure Shared (method : AllocMethod) (cost : ℚ) (inputs : List AllocInput)
    (lines : List AllocOutput) : Prop where
  named : lines.map (fun line => (line.skuId, line.quantity)) =
    inputs.map fun input => (input.skuId, input.quantity)
  costs : lines.map AllocOutput.allocatedCost = FirstMile.shares cost (measures method inputs)
  units : ∀ line ∈ lines, line.unitCost = quantize (line.allocatedCost / line.quantity)

lemma shared_of_allocate (hmethod : method.supported = true) (hne : inputs ≠ []) (hcost : 0 < cost)
    (h : allocate method cost currency inputs = .ok lines) : Shared method cost inputs lines := by
  have hlength : (FirstMile.shares cost (measures method inputs)).length = inputs.length := by simp
  rw [FirstMile.allocate_eq hmethod hne (measurable_of_allocate h) hcost] at h
  obtain rfl := Except.ok.inj h
  refine ⟨?_, ?_, fun line hline => ?_⟩
  · rw [FirstMile.map_outputs _ (fun p => (p.1.skuId, p.1.quantity)) fun _ _ _ => rfl]
    change List.map ((fun l : AllocInput => (l.skuId, l.quantity)) ∘ Prod.fst) _ = _
    rw [← List.map_map, List.map_fst_zip hlength.ge]
  · rw [FirstMile.map_outputs _ Prod.snd fun _ _ _ => rfl, List.map_snd_zip hlength.le]
  · obtain ⟨i, hi, rfl⟩ := List.mem_mapIdx.mp hline
    rfl

/-- Nobody bears a negative part. -/
lemma Shared.nonneg_iff (h : Shared method cost inputs lines) (hpos : Measurable method inputs)
    (hne : inputs ≠ []) (hcost : 0 < cost) :
    (∀ line ∈ lines, 0 ≤ line.allocatedCost) ↔ Absorbs cost (measures method inputs) := by
  have hne' : measures method inputs ≠ [] := by simpa [measures] using hne
  have hshares : (∀ line ∈ lines, 0 ≤ line.allocatedCost) ↔
      ∀ share ∈ FirstMile.shares cost (measures method inputs), 0 ≤ share := by
    rw [← h.costs]
    simp
  rw [hshares, ← FirstMile.winner_nonneg_iff hcost hne' hpos.pos, FirstMile.shares_eq_set hne']
  obtain ⟨hlt, -, -⟩ := FirstMile.winner_spec hne'
  constructor
  · intro hall
    exact hall _ (List.mem_set (by simpa using hlt) _)
  · intro hwinner share hshare
    rcases List.mem_or_eq_of_mem_set hshare with hshare | rfl
    · exact FirstMile.nonneg_of_mem_roundedShares hcost hpos.pos hshare
    · exact hwinner

end shares

/-! ### Arrivals -/

/-- What `get_or_404` finds. -/
def findSku (d : Db) (skuId : ℕ) : Option Sku :=
  d.skus.find? fun sku => sku.id = skuId ∧ sku.deleted = false

/-- A line of a shipment with its part of the cost, and what a unit of it costs. -/
structure Arrival where
  shipment : FirstMileShipment
  line : AllocOutput
  cost : LandedCostResult

namespace Arrival

def currency (a : Arrival) : String := Text.strip a.shipment.currency

def unit (a : Arrival) (code : LineCode) : ℚ := amountOf a.cost code

def landed (a : Arrival) : ℚ := a.cost.landedCost.getD 0

/-- The lines of the landed cost are complete. -/
def Complete (a : Arrival) : Prop := incompleteLanded a.cost = []

/-- What is noted of its part of the cost, but for the id. -/
def row (a : Arrival) : FirstMileCostAllocation := allocationRow a.shipment 0 a.line

end Arrival

/-- What the lines of a shipment are measured by. -/
def inputsOf (d : Db) (shipment : FirstMileShipment) (on : Day) : List AllocInput :=
  shipment.lines.filterMap fun line =>
    (findSku d line.1).map fun sku => allocInput d shipment on sku line.2

def sharedOut (d : Db) (shipment : FirstMileShipment) (on : Day) :
    Except PurchaseRuleError (List AllocOutput) :=
  allocate shipment.allocMethod shipment.costTotal (Text.strip shipment.currency)
    (inputsOf d shipment on)

def arrivalOf (d : Db) (shipment : FirstMileShipment) (line : AllocOutput) (on : Day) :
    Option Arrival :=
  (findSku d line.skuId).map fun sku => ⟨shipment, line, arrivalCost d shipment sku line on⟩

/-- What comes with the lines of a shipment, `k` of which have been booked. -/
def arrivalsOf (d : Db) (shipment : FirstMileShipment) (clock : ℕ → Day) (k : ℕ)
    (lines : List AllocOutput) : List Arrival :=
  (lines.zipIdx k).filterMap fun p => arrivalOf d shipment p.1 (clock (p.2 + 1))

/-- What comes with a shipment. -/
def arrivals (d : Db) (shipment : FirstMileShipment) (clock : ℕ → Day) : List Arrival :=
  match sharedOut d shipment (clock 0) with
  | .error _ => []
  | .ok lines => arrivalsOf d shipment clock 0 lines

/-- The type of the warehouse that the order of a shipment is for. -/
def orderedFor (d : Db) (shipment : FirstMileShipment) : Option WarehouseType :=
  shipment.purchaseOrderId.bind fun orderId =>
    (d.purchaseOrders.find? fun o => o.id = orderId).bind fun order =>
      (d.warehouses.find? fun w => w.id = order.warehouseId ∧ w.deleted = false).map
        Warehouse.warehouseType

/-- A draft that can be posted. -/
structure Postable (d : Db) (shipment : FirstMileShipment) (clock : ℕ → Day) : Prop where
  order : shipment.purchaseOrderId.isSome → (orderedFor d shipment).isSome
  skus : ∀ line ∈ shipment.lines, SkuKept d line.1
  measurable : Measurable shipment.allocMethod (inputsOf d shipment (clock 0))
  absorbs : Absorbs shipment.costTotal (measures shipment.allocMethod (inputsOf d shipment (clock 0)))
  goods : ∀ here there, journey shipment (orderedFor d shipment) = some (here, there) →
    ∀ line ∈ shipment.lines, Sendable d here there line.1 line.2
  costs : ∀ a ∈ arrivals d shipment clock, a.Complete

/-- A shipment as its columns allow it. -/
structure ShipmentLawful (shipment : FirstMileShipment) : Prop where
  supported : shipment.allocMethod.supported = true
  cost_pos : 0 < shipment.costTotal
  cost_fixed : Decimals.Fixed 6 shipment.costTotal
  lines_ne_nil : shipment.lines ≠ []
  distinct : (shipment.lines.map Prod.fst).Nodup
  quantity_pos : ∀ line ∈ shipment.lines, 0 < line.2

/-! ### Averages -/

/-- What the last row of a cost pool holds at a price. -/
def held (previous : Option SkuCostPool) (price : SkuCostPool → ℚ) : Lot :=
  (previous.map fun pool => ⟨pool.quantity, price pool⟩).getD ⟨0, 0⟩

/-- The last row of the cost pool of an arrival, if it is in the same currency. -/
def previousOf (pools : List SkuCostPool) (a : Arrival) : Option SkuCostPool :=
  (latestForSku pools a.line.skuId).filter fun pool => Text.strip pool.currency = a.currency

/-- The row averages an arrival with the previous row. -/
structure Averages (previous : Option SkuCostPool) (a : Arrival) (pool : SkuCostPool) : Prop where
  skuId : pool.skuId = a.line.skuId
  shipmentId : pool.shipmentId = a.shipment.id
  currency : pool.currency = a.currency
  quantity : pool.quantity = (held previous fun _ => 0).quantity + a.line.quantity
  unit : ∀ code ∈ landedCodes, pool.unit code =
    (Lot.merge 6 (held previous fun p => p.unit code) ⟨a.line.quantity, a.unit code⟩).price
  landed : pool.landedUnit =
    (Lot.merge 6 (held previous SkuCostPool.landedUnit) ⟨a.line.quantity, a.landed⟩).price

/-- A row of a cost pool as its columns allow it. -/
structure PoolLawful (pool : SkuCostPool) : Prop where
  quantity_pos : 0 < pool.quantity
  units_nonneg : ∀ code ∈ landedCodes, 0 ≤ pool.unit code
  landed_nonneg : 0 ≤ pool.landedUnit

lemma weightedUnit_eq {oldQty newQty : ℤ} {oldUnit newUnit : ℚ} (hold : 0 ≤ oldQty)
    (hnew : 0 < newQty) : weightedUnit oldQty oldUnit newQty newUnit =
      .ok (Lot.merge 6 ⟨oldQty, oldUnit⟩ ⟨newQty, newUnit⟩).price := by
  unfold weightedUnit
  rw [if_neg (not_le.mpr hnew)]
  split_ifs with hzero
  · rw [Lot.price_merge_of_empty hnew (le_antisymm hzero hold)]
    rfl
  · simp only [Lot.merge, Lot.worth, quantize, Int.cast_add]

lemma held_quantity_nonneg {previous : Option SkuCostPool} (price : SkuCostPool → ℚ)
    (h : ∀ pool ∈ previous, PoolLawful pool) : 0 ≤ (held previous price).quantity := by
  cases previous with
  | none => exact le_rfl
  | some pool => exact (h pool rfl).quantity_pos.le

/-- The average with the previous row at a price. -/
lemma weightedUnit_held {previous : Option SkuCostPool} (price : SkuCostPool → ℚ) {newQty : ℤ}
    (newUnit : ℚ) (h : ∀ pool ∈ previous, PoolLawful pool) (hnew : 0 < newQty) :
    weightedUnit ((previous.map SkuCostPool.quantity).getD 0) ((previous.map price).getD 0) newQty
      newUnit = .ok (Lot.merge 6 (held previous price) ⟨newQty, newUnit⟩).price := by
  have hnonneg := held_quantity_nonneg price h
  cases previous with
  | none => exact weightedUnit_eq le_rfl hnew
  | some pool => exact weightedUnit_eq hnonneg hnew

lemma averaged_eq {previous : Option SkuCostPool} (cost : LandedCostResult) {newQty : ℤ}
    (h : ∀ pool ∈ previous, PoolLawful pool) (hnew : 0 < newQty) :
    averaged previous cost ((previous.map SkuCostPool.quantity).getD 0) newQty =
      .ok (landedCodes.map fun code => (code, (Lot.merge 6 (held previous fun p => p.unit code)
        ⟨newQty, amountOf cost code⟩).price)) := by
  have hone (code : LineCode) := weightedUnit_held (fun p => p.unit code) (amountOf cost code) h hnew
  unfold averaged oldUnit
  simp only [hone]
  rfl

lemma amountIn_map {f : LineCode → ℚ} {code : LineCode} (h : code ∈ landedCodes) :
    amountIn (landedCodes.map fun code => (code, f code)) code = f code := by
  simp only [landedCodes, List.mem_cons, List.not_mem_nil, or_false] at h
  rcases h with rfl | rfl | rfl | rfl | rfl | rfl | rfl <;> rfl

lemma Averages.lawful {previous : Option SkuCostPool} {a : Arrival} {pool : SkuCostPool}
    (h : Averages previous a pool) (hprevious : ∀ p ∈ previous, PoolLawful p)
    (hq : 0 < a.line.quantity) (hunits : ∀ code ∈ landedCodes, 0 ≤ a.unit code)
    (hlanded : 0 ≤ a.landed) : PoolLawful pool := by
  have hmean : ∀ (price : SkuCostPool → ℚ) (x : ℚ), (∀ p ∈ previous, 0 ≤ price p) → 0 ≤ x →
      0 ≤ (Lot.merge 6 (held previous price) ⟨a.line.quantity, x⟩).price := by
    intro price x hprice hx
    refine Lot.le_price_merge .zero (held_quantity_nonneg _ hprevious) hq (fun hpos => ?_) hx
    cases previous with
    | none => exact le_rfl
    | some p => exact hprice p rfl
  refine ⟨?_, fun code hcode => ?_, ?_⟩
  · have := held_quantity_nonneg (fun _ => 0) hprevious
    rw [h.quantity]
    linarith
  · rw [h.unit code hcode]
    exact hmean _ _ (fun p hp => (hprevious p hp).units_nonneg code hcode) (hunits code hcode)
  · rw [h.landed]
    exact hmean _ _ (fun p hp => (hprevious p hp).landed_nonneg) hlanded

/-! ### The last row of a pool -/

lemma mem_of_latestForSku {pools : List SkuCostPool} {skuId : ℕ} {pool : SkuCostPool}
    (h : latestForSku pools skuId = some pool) : pool ∈ pools ∧ pool.skuId = skuId := by
  have hmem := (List.mem_insertionSort _).mp (List.mem_of_mem_head? h)
  simpa using List.mem_filter.mp hmem

/-! ### The lines of a posting -/

section lines

variable {s : WorkState} {E : ServiceError → WorkState → Prop} {shipment : FirstMileShipment}

lemma findSku_isSome_iff {d : Db} {skuId : ℕ} : (findSku d skuId).isSome ↔ SkuKept d skuId := by
  unfold findSku SkuKept
  simp

lemma wp_getSku_of_find {skuId : ℕ} {sku : Sku} {Q : Sku → WorkState → Prop}
    (hfind : findSku s.data skuId = some sku) (h : Q sku s) : (getSku skuId).wp Q E s := by
  unfold findSku at hfind
  simp only [getSku, bind_eq, wp_bind, wp_select, hfind, orRaise, pure_eq, wp_ret]
  exact h

/-- A part of the cost is noted, unless it is negative. -/
lemma wp_addAllocation {row : FirstMileCostAllocation} {Q : Unit → WorkState → Prop}
    (hq : 0 < row.quantity)
    (hnew : ∀ r ∈ s.data.costAllocations, (r.shipmentId, r.skuId) ≠ (row.shipmentId, row.skuId))
    (hok : 0 ≤ row.allocatedCost → Q () { s with data := { s.data with
      costAllocations := s.data.costAllocations ++ [row] } })
    (he : ∀ e, ¬ 0 ≤ row.allocatedCost → E e s) : (addAllocation row).wp Q E s := by
  have hfree : (s.data.costAllocations.any fun r =>
      r.shipmentId = row.shipmentId && r.skuId = row.skuId) = false := by
    rw [List.any_eq_false]
    intro r hr htaken
    simp only [Bool.and_eq_true, decide_eq_true_eq] at htaken
    exact hnew r hr (by rw [htaken.1, htaken.2])
  unfold addAllocation
  dsimp only
  by_cases hcost : 0 ≤ row.allocatedCost
  · rw [if_neg (not_not.mpr ⟨hq, hcost⟩)]
    simp only [bind_eq, wp_bind, wp_update, hfree, Bool.false_eq_true, if_false, pure_eq, wp_ret]
    exact hok hcost
  · rw [if_pos fun h => hcost h.2]
    exact he _ hcost

lemma wp_addPool {row : SkuCostPool} {Q : Unit → WorkState → Prop} (h : PoolLawful row)
    (hok : Q () { s with data := { s.data with costPools := s.data.costPools ++ [row] } }) :
    (addPool row).wp Q E s := by
  have hunits : unitsNonneg row = true := by
    simp only [unitsNonneg, Bool.and_eq_true, List.all_eq_true, decide_eq_true_eq]
    exact ⟨h.units_nonneg, h.landed_nonneg⟩
  unfold addPool
  rw [if_neg (not_le.mpr h.quantity_pos), if_neg (not_not.mpr hunits)]
  exact hok

/-- The state with another row in the cost pools. -/
def pooled (s : WorkState) (pool : SkuCostPool) : WorkState :=
  { s with
    session := { s.session with ids := fun n => s.session.ids (n + 1) }
    data := { s.data with costPools := s.data.costPools ++ [pool] } }

/-- The row that is added is the average. -/
lemma averages_poolRow {a : Arrival} {previous : Option SkuCostPool} {amounts : List (LineCode × ℚ)}
    (arrivalLanded : ℚ) (id : ℕ)
    (hamounts : amounts = landedCodes.map fun code => (code,
      (Lot.merge 6 (held previous fun p => p.unit code) ⟨a.line.quantity, a.unit code⟩).price)) :
    Averages previous a (poolRow a.shipment a.line a.cost previous amounts arrivalLanded
      (Lot.merge 6 (held previous SkuCostPool.landedUnit) ⟨a.line.quantity, a.landed⟩).price id) := by
  refine ⟨rfl, rfl, rfl, ?_, fun code hcode => ?_, rfl⟩
  · cases previous <;> rfl
  · have h := amountIn_map (f := fun code => (Lot.merge 6 (held previous fun p => p.unit code)
      ⟨a.line.quantity, a.unit code⟩).price) hcode
    rw [← hamounts] at h
    rw [← h]
    simp only [landedCodes, List.mem_cons, List.not_mem_nil, or_false] at hcode
    rcases hcode with rfl | rfl | rfl | rfl | rfl | rfl | rfl <;> rfl

/-- An arrival is averaged with what has come before, if its cost is complete. -/
lemma wp_writePool {line : AllocOutput} {on : Day} {a : Arrival} {Q : Unit → WorkState → Prop}
    (ha : arrivalOf s.data shipment line on = some a) (hq : 0 < line.quantity)
    (hpools : ∀ pool ∈ s.data.costPools, PoolLawful pool)
    (hunits : ∀ code ∈ landedCodes, 0 ≤ a.unit code)
    (hok : a.Complete → ∀ pool, pool.id = s.session.ids 0 →
      Averages (previousOf s.data.costPools a) a pool → PoolLawful pool → Q () (pooled s pool))
    (he : ∀ e, ¬ a.Complete → E e s) : (writePool shipment line on).wp Q E s := by
  obtain ⟨sku, hsku, rfl⟩ := Option.map_eq_some_iff.mp ha
  set a : Arrival := ⟨shipment, line, arrivalCost s.data shipment sku line on⟩ with harrival
  have hcosted : Costed a.cost := costed_bindFirstMile
  unfold writePool
  rw [bind_eq, wp_bind]
  refine wp_getSku_of_find hsku ?_
  rw [bind_eq, wp_bind, wp_select]
  by_cases hcomplete : incompleteLanded (arrivalCost s.data shipment sku line on) = []
  · obtain ⟨landed, hlanded⟩ := Option.isSome_iff_exists.mp (hcosted.complete_iff.mp hcomplete)
    have hcost : (arrivalCost s.data shipment sku line on).landedCost = some landed := hlanded
    rw [if_pos hcomplete, hcost]
    dsimp only
    have hvalue : a.landed = landed := by rw [Arrival.landed, hlanded, Option.getD_some]
    have hprevious : ∀ pool ∈ previousOf s.data.costPools a, PoolLawful pool := by
      intro pool hpool
      exact hpools pool (mem_of_latestForSku (Option.filter_eq_some_iff.mp hpool).1).1
    have hnonneg : 0 ≤ a.landed := by
      rw [hvalue, hcosted.landed landed hlanded]
      apply List.sum_nonneg
      intro amount hamount
      obtain ⟨code, hcode, rfl⟩ := List.mem_map.mp hamount
      exact hunits code hcode
    have hread : (latestForSku s.data.costPools line.skuId).filter (fun pool =>
        Text.strip pool.currency = Text.strip shipment.currency) = previousOf s.data.costPools a := rfl
    rw [bind_eq, wp_bind, wp_select, hread, averaged_eq _ hprevious hq,
      weightedUnit_held _ _ hprevious hq, ← hvalue]
    simp only [uncaught, pure_eq, bind_eq, wp_bind, wp_ret, wp_nextSnowflakeId]
    have haverages := averages_poolRow (a := a) a.landed (s.session.ids 0)
      (Eq.refl (landedCodes.map fun code => (code, (Lot.merge 6
        (held (previousOf s.data.costPools a) fun p => p.unit code)
          ⟨a.line.quantity, a.unit code⟩).price)))
    have hlawful := haverages.lawful hprevious hq hunits hnonneg
    exact wp_addPool hlawful (hok hcomplete _ rfl haverages hlawful)
  · rw [if_neg hcomplete]
    exact he _ hcomplete

end lines

/-! ### Arrivals in turn -/

/-- Cost pools after arrivals have been averaged one after the other. -/
inductive Piled (pools : List SkuCostPool) : List Arrival → List SkuCostPool → Prop
  | start : Piled pools [] pools
  | more {as : List Arrival} {rows : List SkuCostPool} {a : Arrival} {pool : SkuCostPool} :
    Piled pools as rows → Averages (previousOf rows a) a pool → (∀ p ∈ rows, p.id < pool.id) →
    Piled pools (as ++ [a]) (rows ++ [pool])

lemma Piled.trans {pools rows rows' : List SkuCostPool} {as as' : List Arrival}
    (h : Piled pools as rows) (h' : Piled rows as' rows') : Piled pools (as ++ as') rows' := by
  induction h' with
  | start => simpa using h
  | more _ haverages hids ih =>
    rw [← List.append_assoc]
    exact .more ih haverages hids

/-- The ids of a session come after those of the cost pools. -/
structure Ahead (l : Session) (d : Db) : Prop where
  mono : StrictMono l.ids
  pools : ∀ pool ∈ d.costPools, ∀ n, pool.id < l.ids n

lemma Ahead.drawn {l l' : Session} {d d' : Db} (h : Ahead l d) (hdrawn : l.Drawn l')
    (hpools : d'.costPools = d.costPools) : Ahead l' d' := by
  obtain ⟨m, hm⟩ := hdrawn
  refine ⟨fun i j hij => ?_, fun pool hpool n => ?_⟩
  · rw [hm, hm]
    exact h.mono (Nat.add_lt_add_right hij m)
  · rw [hm]
    exact h.pools pool (hpools ▸ hpool) _

/-- Arrivals have been booked. -/
structure Booked (s : WorkState) (as : List Arrival) (s' : WorkState) : Prop where
  frame : s'.data = { s.data with
    costAllocations := s'.data.costAllocations, costPools := s'.data.costPools }
  seen : s'.session.seen = s.session.seen
  drawn : s.session.Drawn s'.session
  ahead : Ahead s'.session s'.data
  lawful : ∀ pool ∈ s'.data.costPools, PoolLawful pool
  allocations : ∃ rows, s'.data.costAllocations = s.data.costAllocations ++ rows ∧
    rows.map (fun r => { r with id := 0 }) = as.map Arrival.row
  pools : Piled s.data.costPools as s'.data.costPools

section booking

variable {s s' s'' : WorkState} {E : ServiceError → WorkState → Prop} {shipment : FirstMileShipment}

lemma Booked.refl (hahead : Ahead s.session s.data)
    (hlawful : ∀ pool ∈ s.data.costPools, PoolLawful pool) : Booked s [] s :=
  ⟨rfl, rfl, .refl _, hahead, hlawful, ⟨[], by simp⟩, .start⟩

lemma Booked.trans {as as' : List Arrival} (h : Booked s as s') (h' : Booked s' as' s'') :
    Booked s (as ++ as') s'' := by
  refine ⟨?_, h'.seen.trans h.seen, h.drawn.trans h'.drawn, h'.ahead, h'.lawful, ?_,
    h.pools.trans h'.pools⟩
  · rw [h'.frame, h.frame]
  · obtain ⟨rows, hrows, hmap⟩ := h.allocations
    obtain ⟨rows', hrows', hmap'⟩ := h'.allocations
    exact ⟨rows ++ rows', by rw [hrows', hrows, List.append_assoc],
      by rw [List.map_append, List.map_append, hmap, hmap']⟩

/-- A line is booked, unless it bears a negative part or its cost is incomplete. -/
lemma wp_postLine {line : AllocOutput} {on : Day} {a : Arrival} {Q : Unit → WorkState → Prop}
    (ha : arrivalOf s.data shipment line on = some a) (hq : 0 < line.quantity)
    (hnew : ∀ r ∈ s.data.costAllocations, (r.shipmentId, r.skuId) ≠ (shipment.id, line.skuId))
    (hahead : Ahead s.session s.data) (hlawful : ∀ pool ∈ s.data.costPools, PoolLawful pool)
    (hunits : 0 ≤ line.allocatedCost → ∀ code ∈ landedCodes, 0 ≤ a.unit code)
    (hok : 0 ≤ line.allocatedCost → a.Complete → ∀ s', Booked s [a] s' → Q () s')
    (he : ∀ e s', ¬ (0 ≤ line.allocatedCost ∧ a.Complete) → E e s') :
    (postLine shipment line on).wp Q E s := by
  obtain ⟨sku, -, hrow⟩ := Option.map_eq_some_iff.mp ha
  unfold postLine
  rw [bind_eq, wp_bind, wp_nextSnowflakeId, bind_eq, wp_bind]
  refine wp_addAllocation hq hnew (fun hcost => ?_) fun e hno => he _ _ fun h => hno h.1
  refine wp_writePool ha hq hlawful (hunits hcost) (fun hcomplete pool hid haverages hpool => ?_)
    fun e hno => he _ _ fun h => hno h.2
  have hdrawn : pool.id = s.session.ids 1 := hid
  refine hok hcost hcomplete _ ⟨rfl, rfl, ⟨2, fun _ => rfl⟩, ⟨fun i j hij => ?_, ?_⟩, ?_,
    ⟨[_], rfl, ?_⟩, ?_⟩
  · exact hahead.mono (Nat.add_lt_add_right hij 2)
  · intro p hp n
    rcases List.mem_append.mp hp with hold | hlast
    · exact hahead.pools p hold _
    · rw [List.mem_singleton.mp hlast, hdrawn]
      exact hahead.mono (show 1 < n + 1 + 1 by omega)
  · intro p hp
    rcases List.mem_append.mp hp with hold | hlast
    · exact hlawful p hold
    · rw [List.mem_singleton.mp hlast]
      exact hpool
  · rw [← hrow]
    rfl
  · exact .more .start haverages fun p hp => hdrawn ▸ hahead.pools p hp 1

/-- All lines are booked, or not all can be. -/
lemma wp_postLines {lines : List AllocOutput} {clock : ℕ → Day} (k : ℕ)
    {Q : Unit → WorkState → Prop}
    (hfound : ∀ line ∈ lines, (findSku s.data line.skuId).isSome)
    (hq : ∀ line ∈ lines, 0 < line.quantity) (hnodup : (lines.map AllocOutput.skuId).Nodup)
    (hnew : ∀ line ∈ lines, ∀ r ∈ s.data.costAllocations,
      (r.shipmentId, r.skuId) ≠ (shipment.id, line.skuId))
    (hahead : Ahead s.session s.data) (hlawful : ∀ pool ∈ s.data.costPools, PoolLawful pool)
    (hunits : ∀ a ∈ arrivalsOf s.data shipment clock k lines,
      0 ≤ a.line.allocatedCost → ∀ code ∈ landedCodes, 0 ≤ a.unit code)
    (hok : (∀ line ∈ lines, 0 ≤ line.allocatedCost) →
      (∀ a ∈ arrivalsOf s.data shipment clock k lines, a.Complete) →
      ∀ s', Booked s (arrivalsOf s.data shipment clock k lines) s' → Q () s')
    (he : ∀ e s', ¬ ((∀ line ∈ lines, 0 ≤ line.allocatedCost) ∧
      ∀ a ∈ arrivalsOf s.data shipment clock k lines, a.Complete) → E e s') :
    (Prog.forEach (lines.zipIdx k) fun p => postLine shipment p.1 (clock (p.2 + 1))).wp Q E s := by
  induction lines generalizing s k with
  | nil => exact hok (by simp) (by simp [arrivalsOf]) s (.refl hahead hlawful)
  | cons line rest ih =>
    obtain ⟨hnotin, hnodup'⟩ := List.nodup_cons.mp hnodup
    obtain ⟨sku, hsku⟩ := Option.isSome_iff_exists.mp (hfound line (by simp))
    obtain ⟨a, ha⟩ : ∃ a, arrivalOf s.data shipment line (clock (k + 1)) = some a :=
      ⟨_, Option.map_eq_some_iff.mpr ⟨sku, hsku, rfl⟩⟩
    have hline : a.line = line := by
      obtain ⟨_, -, rfl⟩ := Option.map_eq_some_iff.mp ha
      rfl
    have hcons : arrivalsOf s.data shipment clock k (line :: rest) =
        a :: arrivalsOf s.data shipment clock (k + 1) rest := by
      simp only [arrivalsOf, List.zipIdx_cons, List.filterMap_cons, ha]
    rw [hcons] at hunits hok he
    rw [List.zipIdx_cons, Prog.forEach, wp_bind]
    refine wp_postLine ha (hq line (by simp)) (hnew line (by simp)) hahead hlawful
      (fun hcost => hunits a (by simp) (by rwa [hline])) (fun hcost hcomplete s₁ h₁ => ?_)
      fun e s' hno => he _ _ fun h => hno ⟨h.1 line (by simp), h.2 a (by simp)⟩
    have hsame : arrivalsOf s₁.data shipment clock (k + 1) rest =
        arrivalsOf s.data shipment clock (k + 1) rest := by
      rw [h₁.frame]
      rfl
    -- no row is there yet for the lines that are left
    have hnew' : ∀ other ∈ rest, ∀ r ∈ s₁.data.costAllocations,
        (r.shipmentId, r.skuId) ≠ (shipment.id, other.skuId) := by
      obtain ⟨rows, hrows, hmap⟩ := h₁.allocations
      intro other hother r hr heq
      rw [hrows] at hr
      rcases List.mem_append.mp hr with hold | hadded
      · exact hnew other (by simp [hother]) r hold heq
      have hrow : { r with id := 0 } ∈ [a].map Arrival.row := hmap ▸ List.mem_map_of_mem hadded
      have hsku' : r.skuId = line.skuId := by
        rw [← hline]
        exact congrArg FirstMileCostAllocation.skuId (List.mem_singleton.mp hrow)
      have hother' : r.skuId = other.skuId := (Prod.ext_iff.mp heq).2
      apply hnotin
      rw [← hsku', hother']
      exact List.mem_map_of_mem hother
    refine ih (s := s₁) (k + 1) (fun x hx => ?_) (fun x hx => hq x (by simp [hx])) hnodup' hnew'
      h₁.ahead h₁.lawful ?_ ?_ ?_
    · rw [h₁.frame]
      exact hfound x (by simp [hx])
    · rw [hsame]
      exact fun b hb => hunits b (by simp [hb])
    · rw [hsame]
      intro hcosts hcompletes s₂ h₂
      exact hok (List.forall_mem_cons.mpr ⟨hcost, hcosts⟩)
        (List.forall_mem_cons.mpr ⟨hcomplete, hcompletes⟩) s₂ (h₁.trans h₂)
    · rw [hsame]
      intro e s' hno
      exact he _ _ fun h => hno ⟨fun x hx => h.1 x (by simp [hx]), fun x hx => h.2 x (by simp [hx])⟩

end booking

/-! ### A posting -/

/-- A part of the cost of a shipment, and what a unit costs with it. -/
structure Arrival.Sound (a : Arrival) : Prop where
  quantity_pos : 0 < a.line.quantity
  cost_nonneg : 0 ≤ a.line.allocatedCost
  unitCost : a.line.unitCost = quantize (a.line.allocatedCost / a.line.quantity)
  units_nonneg : ∀ code ∈ landedCodes, 0 ≤ a.unit code
  units_fixed : ∀ code, Decimals.Fixed 6 (a.unit code)
  firstMile : a.unit .firstMile = a.line.unitCost
  landed : a.landed = (landedCodes.map a.unit).sum

/-- The arrivals share out the cost of a shipment. -/
structure Arrived (shipment : FirstMileShipment) (as : List Arrival) : Prop where
  own : ∀ a ∈ as, a.shipment = shipment
  lines : as.map (fun a => (a.line.skuId, a.line.quantity)) = shipment.lines
  sum : (as.map fun a => a.line.allocatedCost).sum = shipment.costTotal
  sound : ∀ a ∈ as, a.Sound

/-- A shipment has been posted. -/
structure Posted (s : WorkState) (shipment : FirstMileShipment) (clock : ℕ → Day)
    (s' : WorkState) : Prop where
  ready : Ready s'
  frame : s'.data = { s.data with
    inventories := s'.data.inventories, flows := s'.data.flows
    firstMiles := s'.data.firstMiles
    costAllocations := s'.data.costAllocations, costPools := s'.data.costPools }
  shipments : s'.data.firstMiles = alter FirstMileShipment.id shipment.id
    (fun x => { x with status := .posted }) s.data.firstMiles
  lawful : ∀ pool ∈ s'.data.costPools, PoolLawful pool
  arrived : Arrived shipment (arrivals s.data shipment clock)
  allocations : ∃ rows, s'.data.costAllocations = s.data.costAllocations ++ rows ∧
    rows.map (fun r => { r with id := 0 }) = (arrivals s.data shipment clock).map Arrival.row
  pools : Piled s.data.costPools (arrivals s.data shipment clock) s'.data.costPools
  balance : ∀ b t w, balanceAt s'.data b t w = balanceAt s.data b t w +
    shippedBy (journey shipment (orderedFor s.data shipment)) shipment.lines b t w

/-- What a posting starts from. Nothing has been booked of a draft. -/
structure Postbook (s : WorkState) : Prop where
  ready : Ready s
  spare : Spare s.session s.data
  ahead : Ahead s.session s.data
  priced : Priced s.data
  keyed : Keyed FirstMileShipment.id s.data.firstMiles
  shipments : ∀ x ∈ s.data.firstMiles, ShipmentLawful x
  pools : ∀ pool ∈ s.data.costPools, PoolLawful pool
  drafts : ∀ x ∈ s.data.firstMiles, x.status = .draft →
    ∀ r ∈ s.data.costAllocations, r.shipmentId ≠ x.id

section posting

variable {s : WorkState} {E : ServiceError → WorkState → Prop} {shipment : FirstMileShipment}
  {clock : ℕ → Day}

lemma wp_getShipment {shipmentId : ℕ} {Q : FirstMileShipment → WorkState → Prop}
    (hok : ∀ x ∈ s.data.firstMiles, x.id = shipmentId → Q x s)
    (he : (∀ x ∈ s.data.firstMiles, x.id ≠ shipmentId) → E .notFound s) :
    (getShipment shipmentId).wp Q E s := by
  simp only [getShipment, bind_eq, wp_bind, wp_select]
  cases hfind : s.data.firstMiles.find? fun x => x.id = shipmentId with
  | none => exact he (by simpa using hfind)
  | some x => exact hok x (List.mem_of_find?_eq_some hfind) (by simpa using List.find?_some hfind)

lemma wp_shipmentView {visible : Bool} {Q : ShipmentView → WorkState → Prop} (h : ∀ v, Q v s) :
    (shipmentView shipment visible).wp Q E s := by
  simp only [shipmentView, bind_eq, wp_bind, wp_select, pure_eq, wp_ret]
  exact h _

/-- The order and its warehouse are there, if there is one. -/
lemma wp_poWarehouseType {Q : Option WarehouseType → WorkState → Prop}
    (hok : (shipment.purchaseOrderId.isSome → (orderedFor s.data shipment).isSome) →
      Q (orderedFor s.data shipment) s)
    (he : ∀ e, ¬ (shipment.purchaseOrderId.isSome → (orderedFor s.data shipment).isSome) → E e s) :
    (poWarehouseType shipment.purchaseOrderId).wp Q E s := by
  unfold orderedFor at hok he
  cases hid : shipment.purchaseOrderId with
  | none =>
    simp only [hid, Option.bind_none] at hok
    exact hok (by simp)
  | some orderId =>
    simp only [poWarehouseType, getOrder, getWarehouse, bind_eq, wp_bind, wp_select]
    simp only [hid, Option.bind_some, Option.isSome_some, forall_const] at hok he
    cases horder : s.data.purchaseOrders.find? fun o => o.id = orderId with
    | none => exact he _ (by simp [horder])
    | some order =>
      simp only [horder, Option.bind_some] at hok he
      simp only [orRaise, pure_eq, wp_ret]
      cases hwarehouse : s.data.warehouses.find? fun w => w.id = order.warehouseId ∧
          w.deleted = false with
      | none =>
        rw [hwarehouse] at he
        exact he _ (by simp)
      | some warehouse =>
        simp only [hwarehouse, Option.map_some, Option.isSome_some, forall_const] at hok
        exact hok

/-- The lines of a shipment are measured, if their SKUs are there. -/
lemma wp_allocationInputs {on : Day} {Q : List AllocInput → WorkState → Prop}
    (hok : (∀ line ∈ shipment.lines, SkuKept s.data line.1) → Q (inputsOf s.data shipment on) s)
    (he : ∀ e, ¬ (∀ line ∈ shipment.lines, SkuKept s.data line.1) → E e s) :
    (allocationInputs shipment on).wp Q E s := by
  unfold allocationInputs
  unfold inputsOf at hok
  generalize shipment.lines = lines at hok he
  induction lines generalizing Q with
  | nil => exact hok (by simp)
  | cons line rest ih =>
    rw [Prog.collect, wp_bind, bind_eq, wp_bind]
    cases hfind : findSku s.data line.1 with
    | none =>
      have hno : ¬ SkuKept s.data line.1 := by
        rw [← findSku_isSome_iff, hfind]
        simp
      exact wp_getSku (fun _ hkept => absurd hkept hno) fun _ => he _ fun h => hno (h line (by simp))
    | some sku =>
      have hkept : SkuKept s.data line.1 := findSku_isSome_iff.mp (by simp [hfind])
      refine wp_getSku_of_find hfind ?_
      rw [wp_select, wp_bind]
      refine ih (fun hrest => ?_) fun e hno => he e fun h => hno fun x hx => h x (by simp [hx])
      have h := hok (List.forall_mem_cons.mpr ⟨hkept, hrest⟩)
      rwa [List.filterMap_cons, hfind] at h

/-- The lines of a shipment with their parts are its lines. -/
lemma Shared.lines_eq {on : Day} {lines : List AllocOutput}
    (h : Shared shipment.allocMethod shipment.costTotal (inputsOf s.data shipment on) lines)
    (hskus : ∀ line ∈ shipment.lines, SkuKept s.data line.1) :
    lines.map (fun line => (line.skuId, line.quantity)) = shipment.lines := by
  rw [h.named]
  unfold inputsOf
  generalize shipment.lines = rows at hskus
  induction rows with
  | nil => rfl
  | cons row rest ih =>
    obtain ⟨sku, hsku⟩ := Option.isSome_iff_exists.mp (findSku_isSome_iff.mpr (hskus row (by simp)))
    have hid : sku.id = row.1 := by
      have := List.find?_some hsku
      simp only [decide_eq_true_eq] at this
      exact this.1
    rw [List.filterMap_cons, hsku]
    exact congrArg₂ List.cons (Prod.ext hid rfl) (ih fun x hx => hskus x (by simp [hx]))

lemma mem_arrivalsOf {d : Db} {k : ℕ} {lines : List AllocOutput} {a : Arrival}
    (h : a ∈ arrivalsOf d shipment clock k lines) : ∃ line ∈ lines, ∃ sku on,
      findSku d line.skuId = some sku ∧ a = ⟨shipment, line, arrivalCost d shipment sku line on⟩ := by
  obtain ⟨p, hp, ha⟩ := List.mem_filterMap.mp h
  obtain ⟨sku, hsku, rfl⟩ := Option.map_eq_some_iff.mp ha
  exact ⟨p.1, List.fst_mem_of_mem_zipIdx hp, sku, clock (p.2 + 1), hsku, rfl⟩

/-- No unit of an arrival costs less than nothing. -/
lemma unit_nonneg_of_mem {d : Db} {k : ℕ} {inputs : List AllocInput} {lines : List AllocOutput}
    {a : Arrival} (hd : Priced d)
    (h : Shared shipment.allocMethod shipment.costTotal inputs lines)
    (hq : ∀ line ∈ lines, 0 < line.quantity) (ha : a ∈ arrivalsOf d shipment clock k lines)
    (hcost : 0 ≤ a.line.allocatedCost) {code : LineCode} (hcode : code ∈ landedCodes) :
    0 ≤ a.unit code := by
  obtain ⟨line, hline, sku, on, hsku, rfl⟩ := mem_arrivalsOf ha
  refine nonneg_arrivalCost hd (List.mem_of_find?_eq_some hsku) ?_ hcode
  have hquantity : (0 : ℚ) < line.quantity := by exact_mod_cast hq line hline
  rw [h.units line hline]
  exact Decimals.quantize_nonneg (div_nonneg hcost hquantity.le)

/-- Every line arrives. -/
lemma map_line_arrivalsOf {d : Db} (k : ℕ) {lines : List AllocOutput}
    (hfound : ∀ line ∈ lines, (findSku d line.skuId).isSome) :
    (arrivalsOf d shipment clock k lines).map Arrival.line = lines := by
  induction lines generalizing k with
  | nil => rfl
  | cons line rest ih =>
    obtain ⟨sku, hsku⟩ := Option.isSome_iff_exists.mp (hfound line (by simp))
    have hrest := ih (k + 1) fun x hx => hfound x (by simp [hx])
    unfold arrivalsOf at hrest ⊢
    rw [List.zipIdx_cons, List.filterMap_cons, arrivalOf, hsku]
    exact congrArg (line :: ·) hrest

/-- The lines that arrive with their costs. -/
lemma arrived_arrivalsOf {d : Db} {inputs : List AllocInput} {lines : List AllocOutput}
    (hd : Priced d) (hlawful : ShipmentLawful shipment) (hne : inputs ≠ [])
    (h : Shared shipment.allocMethod shipment.costTotal inputs lines)
    (hlines : lines.map (fun line => (line.skuId, line.quantity)) = shipment.lines)
    (hfound : ∀ line ∈ lines, (findSku d line.skuId).isSome)
    (hcosts : ∀ line ∈ lines, 0 ≤ line.allocatedCost)
    (hcompletes : ∀ a ∈ arrivalsOf d shipment clock 0 lines, a.Complete) :
    Arrived shipment (arrivalsOf d shipment clock 0 lines) := by
  have hq : ∀ line ∈ lines, 0 < line.quantity := by
    intro line hline
    exact hlawful.quantity_pos _ (hlines ▸ List.mem_map_of_mem hline)
  have hmap : (arrivalsOf d shipment clock 0 lines).map Arrival.line = lines :=
    map_line_arrivalsOf 0 hfound
  refine ⟨fun a ha => ?_, ?_, ?_, fun a ha => ?_⟩
  · obtain ⟨line, -, sku, on, -, rfl⟩ := mem_arrivalsOf ha
    rfl
  · rw [← hlines]
    conv_rhs => rw [← hmap, List.map_map]
    rfl
  · have hsum : (lines.map AllocOutput.allocatedCost).sum = shipment.costTotal := by
      rw [h.costs, FirstMile.sum_shares (by simpa [measures] using hne) hlawful.cost_fixed]
    rw [← hsum]
    conv_rhs => rw [← hmap, List.map_map]
    rfl
  · have hunits : 0 ≤ a.line.allocatedCost → ∀ code ∈ landedCodes, 0 ≤ a.unit code :=
      fun hcost code hcode => unit_nonneg_of_mem hd h hq ha hcost hcode
    have hcomplete := hcompletes a ha
    obtain ⟨line, hline, sku, on, hsku, rfl⟩ := mem_arrivalsOf ha
    have hcosted : Costed (arrivalCost d shipment sku line on) := costed_bindFirstMile
    obtain ⟨landed, hlanded⟩ := Option.isSome_iff_exists.mp (hcosted.complete_iff.mp hcomplete)
    refine ⟨hq line hline, hcosts line hline, h.units line hline,
      hunits (hcosts line hline), hcosted.fixed, ?_, ?_⟩
    · apply firstMile_arrivalCost
      rw [h.units line hline]
      exact Decimals.fixed_quantize 6 _
    · rw [Arrival.landed, hlanded, Option.getD_some]
      exact hcosted.landed landed hlanded

/-- The goods of the lines with their parts are those of the lines. -/
lemma sendable_lines {here there : ℕ} {lines : List AllocOutput} {rows : List (ℕ × ℤ)} {d : Db}
    (h : lines.map (fun line => (line.skuId, line.quantity)) = rows) :
    (∀ line ∈ lines, Sendable d here there line.skuId line.quantity) ↔
      ∀ line ∈ rows, Sendable d here there line.1 line.2 := by
  rw [← h]
  simp

/-- The goods are moved, if goods are to be moved and can be. -/
lemma wp_moveLines {warehouseType : Option WarehouseType} {lines : List AllocOutput}
    {Q : Unit → WorkState → Prop} (hs : Ready s) (hspare : Spare s.session s.data)
    (hlines : lines.map (fun line => (line.skuId, line.quantity)) = shipment.lines)
    (hlawful : ShipmentLawful shipment)
    (hok : (∀ here there, journey shipment warehouseType = some (here, there) →
        ∀ line ∈ shipment.lines, Sendable s.data here there line.1 line.2) →
      ∀ s', Hauled s s' (shippedBy (journey shipment warehouseType) shipment.lines) → Q () s')
    (he : ∀ e s', ¬ (∀ here there, journey shipment warehouseType = some (here, there) →
      ∀ line ∈ shipment.lines, Sendable s.data here there line.1 line.2) → E e s') :
    (moveLines shipment warehouseType lines).wp Q E s := by
  have hq : ∀ line ∈ lines, 0 < line.quantity := by
    intro line hline
    exact hlawful.quantity_pos _ (hlines ▸ List.mem_map_of_mem hline)
  have hnodup : (lines.map AllocOutput.skuId).Nodup := by
    have h := hlawful.distinct
    rwa [← hlines, List.map_map] at h
  rw [moveLines_eq]
  cases hway : journey shipment warehouseType with
  | none =>
    rw [hway] at hok
    exact hok (by simp) s ((Hauled.refl hs hspare).congr fun b t w => rfl)
  | some p =>
    rw [hway] at hok he
    have hall : (∀ line ∈ lines, Sendable s.data p.1 p.2 line.skuId line.quantity) ↔
        ∀ here there, some p = some (here, there) →
          ∀ line ∈ shipment.lines, Sendable s.data here there line.1 line.2 := by
      rw [sendable_lines hlines]
      constructor
      · rintro h here there heq
        obtain rfl := Option.some.inj heq
        exact h
      · exact fun h => h p.1 p.2 rfl
    refine wp_moveEach lines hs hspare hq hnodup (fun h s' hhauled => ?_) fun e s' hno =>
      he e s' fun h => hno (hall.mpr h)
    refine hok (hall.mp h) s' (hhauled.congr fun b t w => ?_)
    rw [shippedBy, Option.elim_some, ← hlines, total, total, List.map_map]
    rfl

/-- A draft is posted exactly if it can be. -/
lemma wp_postDraft {visible : Bool} {Q : ShipmentView → WorkState → Prop} (h : Postbook s)
    (hx : shipment ∈ s.data.firstMiles) (hdraft : shipment.status = .draft)
    (hok : Postable s.data shipment clock → ∀ v s', Posted s shipment clock s' → Q v s')
    (he : ∀ e s', ¬ Postable s.data shipment clock → E e s') :
    (postShipment shipment.id clock visible).wp Q E s := by
  have hlawful := h.shipments shipment hx
  unfold postShipment
  rw [bind_eq, wp_bind]
  refine wp_getShipment (fun x hmem hid => ?_) fun hno => absurd rfl (hno shipment hx)
  obtain rfl := h.keyed.eq_of_key_eq hmem hx hid
  rw [if_neg (by simp [hdraft]), bind_eq, wp_bind]
  refine wp_poWarehouseType (fun horder => ?_) fun e hno => he _ _ fun hp => hno hp.order
  rw [bind_eq, wp_bind]
  refine wp_allocationInputs (fun hskus => ?_) fun e hno => he _ _ fun hp => hno hp.skus
  have hne : inputsOf s.data x (clock 0) ≠ [] := by
    obtain ⟨line, hline⟩ := List.exists_mem_of_ne_nil _ hlawful.lines_ne_nil
    obtain ⟨sku, hsku⟩ := Option.isSome_iff_exists.mp (findSku_isSome_iff.mpr (hskus line hline))
    apply List.ne_nil_of_mem
    exact List.mem_filterMap.mpr ⟨line, hline, Option.map_eq_some_iff.mpr ⟨sku, hsku, rfl⟩⟩
  rw [bind_eq, wp_bind]
  refine wp_raiseRule (fun lines hlines => ?_) fun e hbroken => he _ _ fun hp => ?_
  rotate_left
  · rw [FirstMile.allocate_eq hlawful.supported hne hp.measurable hlawful.cost_pos] at hbroken
    cases hbroken
  have hshared := shared_of_allocate hlawful.supported hne hlawful.cost_pos hlines
  have hmeasurable := measurable_of_allocate hlines
  have hnamed := hshared.lines_eq hskus
  have harrivals : arrivals s.data x clock = arrivalsOf s.data x clock 0 lines := by
    unfold arrivals sharedOut
    rw [hlines]
  have hq : ∀ line ∈ lines, 0 < line.quantity := by
    intro line hline
    exact hlawful.quantity_pos _ (hnamed ▸ List.mem_map_of_mem hline)
  have hnodup : (lines.map AllocOutput.skuId).Nodup := by
    have hdistinct := hlawful.distinct
    rwa [← hnamed, List.map_map] at hdistinct
  rw [bind_eq, wp_bind]
  refine wp_moveLines h.ready h.spare hnamed hlawful (fun hgoods s₁ h₁ => ?_) fun e s' hno =>
    he _ _ fun hp => hno hp.goods
  have hfound : ∀ line ∈ lines, (findSku s.data line.skuId).isSome := by
    intro line hline
    have hkept : SkuKept s.data line.skuId :=
      hskus (line.skuId, line.quantity) (hnamed ▸ List.mem_map_of_mem hline)
    exact findSku_isSome_iff.mpr hkept
  have hsame : arrivalsOf s₁.data x clock 0 lines = arrivals s.data x clock := by
    rw [harrivals, h₁.frame]
    rfl
  have hpools : s₁.data.costPools = s.data.costPools := by rw [h₁.frame]
  have hallocations : s₁.data.costAllocations = s.data.costAllocations := by rw [h₁.frame]
  have habsorbs := hshared.nonneg_iff hmeasurable hne hlawful.cost_pos
  rw [bind_eq, wp_bind]
  refine wp_postLines 0 (fun line hline => ?_) hq hnodup (fun line hline r hr heq => ?_)
    (h.ahead.drawn h₁.drawn hpools) (by rw [hpools]; exact h.pools) (fun a ha hcost code hcode => ?_)
    (fun hcosts hcompletes s₂ h₂ => ?_) fun e s' hno => he _ _ fun hp => hno ?_
  · rw [h₁.frame]
    exact hfound line hline
  · exact h.drafts x hx hdraft r (hallocations ▸ hr) (Prod.ext_iff.mp heq).1
  · rw [hsame, harrivals] at ha
    exact unit_nonneg_of_mem h.priced hshared hq ha hcost hcode
  · rw [hsame] at hcompletes h₂
    have hpostable : Postable s.data x clock :=
      ⟨horder, hskus, hmeasurable, habsorbs.mp hcosts, hgoods, hcompletes⟩
    rw [bind_eq, wp_bind, saveShipment, wp_update]
    refine wp_shipmentView fun v =>
      hok hpostable v _ ⟨?_, ?_, ?_, h₂.lawful, ?_, ?_, ?_, fun b t w => ?_⟩
    · have hinventories : s₂.data.inventories = s₁.data.inventories := by rw [h₂.frame]
      refine ⟨?_, fun held hheld row hrow => ?_⟩
      · exact hinventories ▸ h₁.ready.shelf
      · exact h₁.ready.coherent held (h₂.seen ▸ hheld) row (hinventories ▸ hrow)
    · rw [h₂.frame, h₁.frame]
    · rw [h₂.frame, h₁.frame]
    · rw [harrivals] at hcompletes ⊢
      exact arrived_arrivalsOf h.priced hlawful hne hshared hnamed hfound hcosts hcompletes
    · rw [← hallocations]
      exact h₂.allocations
    · rw [← hpools]
      exact h₂.pools
    · rw [← h₁.balance, h₂.frame]
      rfl
  · rw [hsame]
    exact ⟨habsorbs.mpr hp.absorbs, hp.costs⟩

/-- A shipment is posted once. -/
theorem wp_postShipment {shipmentId : ℕ} {visible : Bool} {Q : ShipmentView → WorkState → Prop}
    (h : Postbook s)
    (hagain : ∀ x ∈ s.data.firstMiles, x.id = shipmentId → x.status = .posted → ∀ v, Q v s)
    (hok : ∀ x ∈ s.data.firstMiles, x.id = shipmentId → x.status = .draft →
      Postable s.data x clock → ∀ v s', Posted s x clock s' → Q v s')
    (he : ∀ e s', (∀ x ∈ s.data.firstMiles, x.id = shipmentId →
      x.status = .draft ∧ ¬ Postable s.data x clock) → E e s') :
    (postShipment shipmentId clock visible).wp Q E s := by
  by_cases hfound : ∃ x ∈ s.data.firstMiles, x.id = shipmentId
  · obtain ⟨x, hx, rfl⟩ := hfound
    cases hstatus : x.status with
    | draft =>
      refine wp_postDraft h hx hstatus (hok x hx rfl hstatus) fun e s' hno => he e s' ?_
      intro y hy hid
      obtain rfl := h.keyed.eq_of_key_eq hy hx hid
      exact ⟨hstatus, hno⟩
    | posted =>
      unfold postShipment
      rw [bind_eq, wp_bind]
      refine wp_getShipment (fun y hy hid => ?_) fun hno => absurd rfl (hno x hx)
      obtain rfl := h.keyed.eq_of_key_eq hy hx hid
      rw [if_pos hstatus]
      exact wp_shipmentView fun v => hagain y hx rfl hstatus v
  · push Not at hfound
    unfold postShipment
    rw [bind_eq, wp_bind]
    exact wp_getShipment (fun y hy hid => absurd hid (hfound y hy)) fun _ =>
      he _ _ fun y hy hid => absurd hid (hfound y hy)

end posting

end Purchasing

end CrossPilot
