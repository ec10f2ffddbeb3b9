import CrossPilot.Database
import CrossPilot.Lib.Table

/-!
# Splitting a quantity over warehouses

`planAllocations` takes from the default warehouse first, then from the other warehouses that do
not belong to a platform, those with more free stock first. What it takes is positive, and together
with what is left it makes up the quantity. It leaves nothing that the bins could give
(`planAllocations_planned`).
-/

namespace CrossPilot

open Table

/-- What the planner knows of a balance. -/
structure BinView where
  warehouseId : ℕ
  available : ℤ
  occupied : ℤ
  isDefault : Bool
  warehouseType : WarehouseType
  deriving DecidableEq

/-- Free stock. The safety stock plays no part in reservations. -/
def freeQty (available occupied : ℤ) : ℤ := available - occupied

/-- A line without a SKU or without a positive quantity reserves nothing. -/
def shouldReserveLine (skuId : Option ℕ) (quantity : ℤ) : Bool := skuId.isSome && 0 < quantity

namespace BinView

/-- The order in which bins are tried: the default first, then by free stock, then by id. -/
def before (a b : BinView) : Bool :=
  let key (v : BinView) : ℕ := if v.isDefault then 0 else 1
  let free (v : BinView) : ℤ := freeQty v.available v.occupied
  key a < key b || (key a == key b && (free b < free a ||
    (free a == free b && a.warehouseId ≤ b.warehouseId)))

end BinView

/-- Take from the bins in their order until nothing is left. -/
def takeFrom : List BinView → ℤ → List Allocation × ℤ
  | [], left => ([], left)
  | item :: rest, left =>
    if left = 0 then ([], left)
    else if !item.isDefault && item.warehouseType = .platform then takeFrom rest left
    else
      let free := freeQty item.available item.occupied
      if free ≤ 0 then takeFrom rest left
      else
        let take := min free left
        let (chosen, short) := takeFrom rest (left - take)
        (⟨item.warehouseId, take⟩ :: chosen, short)

/-- What to take from which warehouse, and how much is left. -/
def planAllocations (bins : List BinView) (quantity : ℤ) :
    Except ServiceError (List Allocation × ℤ) :=
  if quantity < 0 then .error (.value "预占数量不能为负")
  else .ok (takeFrom (bins.insertionSort fun a b => a.before b) quantity)

/-- `_read_allocs`: only positive quantities count. -/
def readAllocs (raw : List Allocation) : List Allocation := raw.filter fun a => 0 < a.quantity

/-- The quantity that the allocations take from warehouse `w`. -/
def allocatedAt (allocs : List Allocation) (w : ℕ) : ℤ :=
  total (fun a => if a.warehouseId = w then a.quantity else 0) allocs

/-- The quantity that the allocations take. -/
def allocated (allocs : List Allocation) : ℤ := total Allocation.quantity allocs

@[simp] lemma allocatedAt_nil (w : ℕ) : allocatedAt [] w = 0 := rfl

@[simp] lemma allocatedAt_cons (a : Allocation) (allocs : List Allocation) (w : ℕ) :
    allocatedAt (a :: allocs) w =
      (if a.warehouseId = w then a.quantity else 0) + allocatedAt allocs w :=
  total_cons _ _ _

@[simp] lemma allocatedAt_append (allocs allocs' : List Allocation) (w : ℕ) :
    allocatedAt (allocs ++ allocs') w = allocatedAt allocs w + allocatedAt allocs' w :=
  total_append _ _ _

@[simp] lemma allocated_nil : allocated [] = 0 := rfl

@[simp] lemma allocated_append (allocs allocs' : List Allocation) :
    allocated (allocs ++ allocs') = allocated allocs + allocated allocs' :=
  total_append _ _ _

@[simp] lemma allocated_singleton (a : Allocation) : allocated [a] = a.quantity := by
  simp [allocated]

/-- Allocations as the planner makes them. -/
def Positive (allocs : List Allocation) : Prop := ∀ a ∈ allocs, 0 < a.quantity

lemma Positive.append {allocs allocs' : List Allocation} (h : Positive allocs)
    (h' : Positive allocs') : Positive (allocs ++ allocs') := by
  intro a ha
  rcases List.mem_append.mp ha with ha | ha
  · exact h a ha
  · exact h' a ha

@[simp] lemma readAllocs_of_positive {allocs : List Allocation} (h : Positive allocs) :
    readAllocs allocs = allocs := by
  simpa [readAllocs, List.filter_eq_self, Positive] using h

lemma Positive.allocatedAt_nonneg {allocs : List Allocation} (h : Positive allocs) (w : ℕ) :
    0 ≤ allocatedAt allocs w := by
  apply total_nonneg
  intro a ha
  have := h a ha
  split <;> omega

/-- What `takeFrom` takes is positive, comes from the bins, and adds up. -/
theorem takeFrom_spec (bins : List BinView) {left : ℤ} (h : 0 ≤ left) :
    Positive (takeFrom bins left).1 ∧ 0 ≤ (takeFrom bins left).2 ∧
      allocated (takeFrom bins left).1 + (takeFrom bins left).2 = left ∧
      ∀ a ∈ (takeFrom bins left).1, ∃ b ∈ bins, b.warehouseId = a.warehouseId := by
  induction bins generalizing left with
  | nil => exact ⟨by simp [takeFrom, Positive], h, by simp [takeFrom], by simp [takeFrom]⟩
  | cons item rest ih =>
    have lift : ∀ {allocs : List Allocation},
        (∀ a ∈ allocs, ∃ b ∈ rest, b.warehouseId = a.warehouseId) →
        ∀ a ∈ allocs, ∃ b ∈ item :: rest, b.warehouseId = a.warehouseId := by
      intro allocs hm a ha
      obtain ⟨b, hb, hw⟩ := hm a ha
      exact ⟨b, List.mem_cons_of_mem item hb, hw⟩
    unfold takeFrom
    split_ifs with h0 hplat
    · exact ⟨by simp [Positive], h, by simp, by simp⟩
    · obtain ⟨hpos, hnn, hsum, hmem⟩ := ih h
      exact ⟨hpos, hnn, hsum, lift hmem⟩
    · dsimp only
      split_ifs with hfree
      · obtain ⟨hpos, hnn, hsum, hmem⟩ := ih h
        exact ⟨hpos, hnn, hsum, lift hmem⟩
      · have htake : 0 < min (freeQty item.available item.occupied) left :=
          lt_min (by omega) (by omega)
        have hrest : 0 ≤ left - min (freeQty item.available item.occupied) left :=
          sub_nonneg.mpr (min_le_right _ _)
        obtain ⟨hpos, hnn, hsum, hmem⟩ := ih hrest
        refine ⟨?_, hnn, ?_, ?_⟩
        · intro a ha
          rcases List.mem_cons.mp ha with rfl | ha
          · exact htake
          · exact hpos a ha
        · simp only [allocated, total_cons] at hsum ⊢
          omega
        · intro a ha
          rcases List.mem_cons.mp ha with rfl | ha
          · exact ⟨item, by simp, rfl⟩
          · exact lift hmem a ha

/-- A plan for a quantity that is not negative: its parts are positive, come from the bins, and
make up the quantity together with what is left. -/
theorem planAllocations_spec (bins : List BinView) {quantity : ℤ} (h : 0 ≤ quantity) :
    ∃ chosen left, planAllocations bins quantity = .ok (chosen, left) ∧ Positive chosen ∧
      0 ≤ left ∧ allocated chosen + left = quantity ∧
      ∀ a ∈ chosen, ∃ b ∈ bins, b.warehouseId = a.warehouseId := by
  obtain ⟨hpos, hnn, hsum, hmem⟩ := takeFrom_spec (bins.insertionSort fun a b => a.before b) h
  refine ⟨_, _, if_neg (by omega), hpos, hnn, hsum, ?_⟩
  intro a ha
  obtain ⟨b, hb, hw⟩ := hmem a ha
  exact ⟨b, (List.perm_insertionSort _ _).mem_iff.mp hb, hw⟩

/-! ### The whole plan -/

namespace BinView

/-- The stock of a bin that is not held. -/
def free (b : BinView) : ℤ := freeQty b.available b.occupied

/-- The planner takes from the default and from what belongs to no platform. -/
def eligible (b : BinView) : Bool := b.isDefault || b.warehouseType ≠ .platform

/-- The stock that the planner can take from a bin. -/
def usable (b : BinView) : ℤ := if b.eligible then max b.free 0 else 0

lemma usable_nonneg (b : BinView) : 0 ≤ b.usable := by
  unfold usable
  split <;> simp

lemma before_iff {a b : BinView} : a.before b = true ↔
    (a.isDefault = true ∧ b.isDefault = false) ∨ (a.isDefault = b.isDefault ∧
      (b.free < a.free ∨ (a.free = b.free ∧ a.warehouseId ≤ b.warehouseId))) := by
  cases ha : a.isDefault <;> cases hb : b.isDefault <;> simp [before, ha, hb, free]

instance : Std.Total fun a b : BinView => a.before b = true where
  total a b := by
    simp only [before_iff]
    grind

instance : IsTrans BinView fun a b => a.before b = true where
  trans a b c := by
    simp only [before_iff]
    grind

lemma isDefault_of_before {a b : BinView} (h : a.before b = true) (hb : b.isDefault = true) :
    a.isDefault = true := by
  rw [before_iff, hb] at h
  grind

end BinView

/-- An allocation takes from a bin what the bin can give. -/
structure Allocation.From (a : Allocation) (b : BinView) : Prop where
  warehouseId : a.warehouseId = b.warehouseId
  eligible : b.eligible = true
  pos : 0 < a.quantity
  le : a.quantity ≤ b.free

/-- What is left is what the bins together cannot give. -/
lemma takeFrom_left (bins : List BinView) {left : ℤ} (h : 0 ≤ left) :
    (takeFrom bins left).2 = max 0 (left - total BinView.usable bins) := by
  induction bins generalizing left with
  | nil => simp [takeFrom, h]
  | cons item rest ih =>
    have hrest : 0 ≤ total BinView.usable rest := total_nonneg fun b _ => b.usable_nonneg
    have hitem := item.usable_nonneg
    rw [total_cons]
    unfold takeFrom
    split_ifs with h0 hplat
    · subst h0
      rw [max_eq_left (by omega)]
    · have hskip : item.usable = 0 := by
        simp only [Bool.and_eq_true, Bool.not_eq_true', decide_eq_true_eq] at hplat
        simp [BinView.usable, BinView.eligible, hplat.1, hplat.2]
      rw [ih h, hskip, zero_add]
    · have heligible : item.eligible = true := by
        simp only [BinView.eligible]
        grind
      dsimp only
      split_ifs with hfree
      · have hskip : item.usable = 0 := by
          rw [BinView.usable, if_pos heligible]
          exact max_eq_right hfree
        rw [ih h, hskip, zero_add]
      · have hgive : item.usable = freeQty item.available item.occupied := by
          rw [BinView.usable, if_pos heligible]
          exact max_eq_left (not_le.mp hfree).le
        rw [ih (sub_nonneg.mpr (min_le_right _ _)), hgive]
        omega

/-- Each allocation is from a bin of its own, and from bins other than the default only when the
default has given all it has. -/
lemma takeFrom_used (bins : List BinView) {left : ℤ} (h : 0 ≤ left)
    (hsorted : bins.Pairwise fun a b => b.isDefault = true → a.isDefault = true) :
    ∃ used : List BinView, used.Sublist bins ∧
      List.Forall₂ Allocation.From (takeFrom bins left).1 used ∧
      ((∃ b ∈ used, b.isDefault = false) → ∀ d ∈ bins, d.isDefault = true → 0 < d.free →
        ⟨d.warehouseId, d.free⟩ ∈ (takeFrom bins left).1) := by
  induction bins generalizing left with
  | nil => exact ⟨[], List.Sublist.refl _, by simp [takeFrom], by simp⟩
  | cons item rest ih =>
    obtain ⟨hfirst, hsorted⟩ := List.pairwise_cons.mp hsorted
    unfold takeFrom
    split_ifs with h0 hplat
    · exact ⟨[], List.nil_sublist _, by simp, by simp⟩
    · obtain ⟨used, hused, hfrom, hfull⟩ := ih h hsorted
      refine ⟨used, hused.cons item, hfrom, fun hother d hd hdefault hfree => ?_⟩
      rcases List.mem_cons.mp hd with rfl | hd
      · simp [hdefault] at hplat
      · exact hfull hother d hd hdefault hfree
    · have heligible : item.eligible = true := by
        simp only [BinView.eligible]
        grind
      dsimp only
      split_ifs with hfree
      · obtain ⟨used, hused, hfrom, hfull⟩ := ih h hsorted
        refine ⟨used, hused.cons item, hfrom, fun hother d hd hdefault hpos => ?_⟩
        rcases List.mem_cons.mp hd with rfl | hd
        · exact absurd hpos (not_lt.mpr hfree)
        · exact hfull hother d hd hdefault hpos
      · have hle := min_le_left (freeQty item.available item.occupied) left
        have htake : 0 < min (freeQty item.available item.occupied) left :=
          lt_min (by omega) (by omega)
        obtain ⟨used, hused, hfrom, hfull⟩ :=
          ih (sub_nonneg.mpr (min_le_right (freeQty item.available item.occupied) left)) hsorted
        refine ⟨item :: used, hused.cons_cons item, .cons ⟨rfl, heligible, htake, hle⟩ hfrom, ?_⟩
        rintro ⟨b, hb, hother⟩ d hd hdefault hpos
        -- a bin that is not the default comes after the default, which therefore was emptied
        have hitem : item.isDefault = true := by
          rcases List.mem_cons.mp hd with rfl | hd
          · exact hdefault
          · exact hfirst d hd hdefault
        have hb : b ∈ used := by
          rcases List.mem_cons.mp hb with rfl | hb
          · rw [hitem] at hother
            cases hother
          · exact hb
        have hmore : left - min (freeQty item.available item.occupied) left ≠ 0 := by
          intro hzero
          rw [hzero] at hfrom
          have hnone : (takeFrom rest 0).1 = [] := by
            cases rest <;> simp [takeFrom]
          rw [hnone] at hfrom
          cases hfrom
          cases hb
        rcases List.mem_cons.mp hd with rfl | hd
        · apply List.mem_cons.mpr
          left
          simp only [BinView.free, Allocation.mk.injEq, true_and]
          omega
        · exact List.mem_cons_of_mem _ (hfull ⟨b, hb, hother⟩ d hd hdefault hpos)

lemma map_warehouseId_of_from {chosen : List Allocation} {used : List BinView}
    (h : List.Forall₂ Allocation.From chosen used) :
    chosen.map Allocation.warehouseId = used.map BinView.warehouseId := by
  induction h with
  | nil => rfl
  | cons hfrom _ ih => rw [List.map_cons, List.map_cons, ih, hfrom.warehouseId]

/-- What is said of the plan for a quantity. -/
structure Planned (bins : List BinView) (quantity : ℤ) (chosen : List Allocation) (left : ℤ)
    (used : List BinView) : Prop where
  /-- Each allocation is from a candidate of its own. -/
  candidates : ∃ others, (used ++ others).Perm bins
  from_used : List.Forall₂ Allocation.From chosen used
  distinct : (bins.map BinView.warehouseId).Nodup → (chosen.map Allocation.warehouseId).Nodup
  sum : allocated chosen + left = quantity
  left_eq : left = max 0 (quantity - total BinView.usable bins)
  /-- Defaults come first, and other candidates only when the defaults have given all they have. -/
  default_first : used.Pairwise fun a b => b.isDefault = true → a.isDefault = true
  default_full : (∃ b ∈ used, b.isDefault = false) → ∀ d ∈ bins, d.isDefault = true → 0 < d.free →
    ⟨d.warehouseId, d.free⟩ ∈ chosen

lemma exists_planned (bins : List BinView) {quantity : ℤ} (hnonneg : 0 ≤ quantity) :
    ∃ chosen left used, planAllocations bins quantity = .ok (chosen, left) ∧
      Planned bins quantity chosen left used := by
  have hperm := List.perm_insertionSort (fun a b : BinView => a.before b = true) bins
  have hsorted : (bins.insertionSort fun a b => a.before b).Pairwise fun a b =>
      b.isDefault = true → a.isDefault = true :=
    (List.pairwise_insertionSort (fun a b : BinView => a.before b = true) bins).imp
      BinView.isDefault_of_before
  obtain ⟨used, hused, hfrom, hfull⟩ := takeFrom_used _ hnonneg hsorted
  obtain ⟨-, -, hsum, -⟩ := takeFrom_spec (bins.insertionSort fun a b => a.before b) hnonneg
  refine ⟨_, _, used, if_neg (by omega), ?_, hfrom, fun hnodup => ?_, hsum, ?_, ?_, ?_⟩
  · obtain ⟨others, hothers⟩ := hused.exists_perm_append
    exact ⟨others, hothers.symm.trans hperm⟩
  · rw [map_warehouseId_of_from hfrom]
    exact (hused.map _).nodup ((hperm.map _).nodup_iff.mpr hnodup)
  · rw [takeFrom_left _ hnonneg, total_perm hperm]
  · exact hsorted.sublist hused
  · intro hother d hd
    exact hfull hother d (hperm.mem_iff.mpr hd)

/-- `plan_allocations` refuses a negative quantity and plans any other one. -/
theorem planAllocations_planned (bins : List BinView) (quantity : ℤ) :
    (quantity < 0 ∧ planAllocations bins quantity = .error (.value "预占数量不能为负")) ∨
      (0 ≤ quantity ∧ ∃ chosen left used, planAllocations bins quantity = .ok (chosen, left) ∧
        Planned bins quantity chosen left used) := by
  obtain hneg | hnonneg := lt_or_ge quantity 0
  · exact .inl ⟨hneg, if_pos hneg⟩
  · exact .inr ⟨hnonneg, exists_planned bins hnonneg⟩

/-- A negative quantity is refused, and two candidates of one warehouse get an allocation each. -/
theorem not_planned_everywhere :
    planAllocations [] (-1) = .error (.value "预占数量不能为负") ∧
      planAllocations [⟨1, 1, 0, true, .localWarehouse⟩, ⟨1, 1, 0, true, .localWarehouse⟩] 2 =
        .ok ([⟨1, 1⟩, ⟨1, 1⟩], 0) := by
  decide +kernel

end CrossPilot
