import CrossPilot.Inventory.Balance
import CrossPilot.Inventory.PushFailures

/-!
# Whether what a shop is told can be reserved

A push tells a shop the stock of a SKU that is not held, over all its warehouses, less the safety
stock of the platform. A reservation never takes from a warehouse of a platform that is not the
default one. So what a shop is told can be reserved as long as the safety stock covers what is free
in such warehouses (`pushed_reservable_iff`).
-/

namespace CrossPilot

open Transaction Table

/-- The balances of a SKU, each with its warehouse. -/
def stockedPairs (d : Db) (skuId : ℕ) : List (Inventory × Warehouse) :=
  (d.inventories.filter fun r => r.skuId = skuId).filterMap fun r =>
    (d.warehouses.find? fun w => w.id = r.warehouseId ∧ w.deleted = false).map (r, ·)

/-- What a reservation of the SKU can take at most. -/
def reservableStock (d : Db) (skuId : ℕ) : ℤ :=
  total (fun p => (binView p).usable) (stockedPairs d skuId)

/-- What is free in warehouses that no reservation takes from. -/
def strandedStock (d : Db) (skuId : ℕ) : ℤ :=
  total (fun p => if (binView p).eligible then 0 else (binView p).free) (stockedPairs d skuId)

/-- The session holds no balance that is out of date. -/
def SessionCurrent (s : WorkState) : Prop :=
  ∀ held ∈ s.session.seen, ∀ row ∈ s.data.inventories, held.id = row.id → held = row

lemma mem_stockedPairs {d : Db} {skuId : ℕ} {p : Inventory × Warehouse}
    (h : p ∈ stockedPairs d skuId) : p.1 ∈ d.inventories ∧ p.1.skuId = skuId := by
  obtain ⟨r, hr, hrp⟩ := List.mem_filterMap.mp h
  obtain ⟨w, -, rfl⟩ := Option.map_eq_some_iff.mp hrp
  simpa using hr

/-- A SKU has one balance in a warehouse. -/
lemma nodup_stockedPairs {d : Db} (h : Shelf d.inventories) (skuId : ℕ) :
    ((stockedPairs d skuId).map fun p => p.1.warehouseId).Nodup := by
  have hrows : (d.inventories.filter fun r => r.skuId = skuId).Pairwise fun a b =>
      a.warehouseId ≠ b.warehouseId := by
    refine ((List.pairwise_map.mp h.pairs).filter _).imp_of_mem fun ha hb hne heq => hne ?_
    simp only [List.mem_filter, decide_eq_true_eq] at ha hb
    simp only [Inventory.pair, ha.2, hb.2, heq]
  apply List.pairwise_map.mpr
  refine List.pairwise_filterMap.mpr (hrows.imp fun hne p hp q hq => ?_)
  obtain ⟨w, -, rfl⟩ := Option.map_eq_some_iff.mp hp
  obtain ⟨w', -, rfl⟩ := Option.map_eq_some_iff.mp hq
  exact hne

/-- What is chosen is from a candidate. -/
lemma Planned.exists_from {bins used : List BinView} {quantity left : ℤ} {chosen : List Allocation}
    (h : Planned bins quantity chosen left used) {a : Allocation} (ha : a ∈ chosen) :
    ∃ b ∈ bins, a.From b := by
  obtain ⟨others, hothers⟩ := h.candidates
  obtain ⟨i, hi, rfl⟩ := List.mem_iff_getElem.mp ha
  have hi' : i < used.length := h.from_used.length_eq ▸ hi
  exact ⟨used[i], hothers.mem_iff.mp (List.mem_append_left _ (List.getElem_mem hi')),
    h.from_used.get hi hi'⟩

/-! ### A draw with balances that are up to date -/

section current

variable {s : WorkState} {E : ServiceError → WorkState → Prop} {skuId : ℕ} {refType : String}
  {refId : ℕ}

lemma wp_present_current {Q : Inventory → WorkState → Prop} (hs : Ready s)
    (hcurrent : SessionCurrent s) {row : Inventory} (hrow : row ∈ s.data.inventories)
    (h : ∀ s', Continues s s' s.data → SessionCurrent s' → Q row s') : (present row).wp Q E s := by
  simp only [present, Prog.bind_eq, Prog.wp_bind, Prog.wp_query]
  cases hfind : s.session.seen.find? fun t => t.id = row.id with
  | some held =>
    have hid : held.id = row.id := by simpa using List.find?_some hfind
    have hheld := hcurrent held (List.mem_of_find?_eq_some hfind) row hrow hid
    subst hheld
    exact h s ⟨hs, rfl, rfl, rfl⟩ hcurrent
  | none =>
    simp only [Prog.wp_bind, Prog.wp_remember, Prog.pure_eq, Prog.wp_ret]
    have hcurrent' : SessionCurrent
        { s with session := { s.session with seen := row :: s.session.seen } } := by
      intro held hheld t ht hid
      rcases List.mem_cons.mp hheld with rfl | hheld
      · exact hs.shelf.ids.eq_of_key_eq hrow ht hid
      · exact hcurrent held hheld t ht hid
    refine h _ ⟨⟨hs.shelf, fun held hheld t ht hid => ?_⟩, rfl, rfl, rfl⟩ hcurrent'
    rw [hcurrent' held hheld t ht hid]
    exact .refl t

/-- The balances listed for a SKU are those of the table. -/
lemma wp_listForSku_current {Q : List (Inventory × Warehouse) → WorkState → Prop} (hs : Ready s)
    (hcurrent : SessionCurrent s)
    (h : ∀ pairs s', pairs.Perm (stockedPairs s.data skuId) → Continues s s' s.data → Q pairs s') :
    (listForSku skuId).wp Q E s := by
  have hall : ∀ (rows : List (Inventory × Warehouse)) (s₁ : WorkState)
      (Q : List (Inventory × Warehouse) → WorkState → Prop), Continues s s₁ s.data →
      SessionCurrent s₁ →
      (∀ p ∈ rows, p.1 ∈ s.data.inventories) →
      (∀ s', Continues s s' s.data → Q rows s') → (listForSku.presentAll rows).wp Q E s₁ := by
    intro rows
    induction rows with
    | nil =>
      intro s₁ Q hc _ _ hQ
      exact hQ s₁ hc
    | cons p rest ih =>
      intro s₁ Q hc hcurrent₁ hrows hQ
      simp only [listForSku.presentAll, Prog.bind_eq, Prog.wp_bind]
      refine wp_present_current hc.ready hcurrent₁ (hc.data ▸ hrows p (by simp))
        fun s₂ hc₂ hcurrent₂ => ?_
      exact ih s₂ _ (hc.trans (hc.data ▸ hc₂)) hcurrent₂ (fun q hq => hrows q (by simp [hq])) hQ
  simp only [listForSku, Prog.bind_eq, Prog.wp_bind, Prog.wp_select]
  have hperm := List.perm_insertionSort (fun a b : Inventory × Warehouse =>
    (!b.2.isDefault && a.2.isDefault ||
      (a.2.isDefault == b.2.isDefault && decide (a.2.id ≤ b.2.id))) = true) (stockedPairs s.data skuId)
  refine hall _ s Q ⟨hs, rfl, rfl, rfl⟩ hcurrent (fun p hp => ?_) fun s' hc => h _ s' hperm hc
  exact (mem_stockedPairs (hperm.mem_iff.mp hp)).1

/-- A balance lets what is free of it be reserved. -/
lemma Shelf.fits_reserve {rows : List Inventory} (h : Shelf rows) {r : Inventory} (hr : r ∈ rows)
    {quantity : ℤ} (hpos : 0 < quantity) (hle : quantity ≤ r.available - r.occupied) :
    r.fits (DrawMode.reserve.delta quantity) = true := by
  have hocc := h.occupied_nonneg r hr
  have hle' := h.occupied_le r hr
  have htransit := h.inTransit_nonneg r hr
  have hdefective := h.defective_nonneg r hr
  simp only [Inventory.fits, Bool.and_eq_true, decide_eq_true_eq]
  dsimp only [DrawMode.delta]
  omega

/-- A plan whose parts find their balances as they were read is taken in full. -/
lemma wp_takePlanned_current {Q : DrawState → WorkState → Prop}
    {pairs : List (Inventory × Warehouse)} (planned : List Allocation) (state : DrawState)
    (hs : Ready s)
    (hpairs : ∀ p ∈ pairs, ∀ q ∈ pairs, p.1.warehouseId = q.1.warehouseId → p.1 = q.1)
    (hnodup : (planned.map Allocation.warehouseId).Nodup)
    (hfree : ∀ a ∈ planned, 0 < a.quantity ∧ ∃ p ∈ pairs, p.1.warehouseId = a.warehouseId ∧
      p.1 ∈ s.data.inventories ∧ a.quantity ≤ p.1.available - p.1.occupied)
    (h : ∀ s', Q { state with
      taken := state.taken ++ planned
      left := state.left - allocated planned } s') :
    (takePlanned .reserve refType refId pairs planned state).wp Q E s := by
  induction planned generalizing state s with
  | nil => simpa [takePlanned] using h s
  | cons alloc rest ih =>
    obtain ⟨hpos, p, hp, hpw, hrow, hle⟩ := hfree alloc (by simp)
    obtain ⟨hother, hnodup⟩ := List.nodup_cons.mp hnodup
    cases hfind : pairs.find? fun p => p.1.warehouseId = alloc.warehouseId with
    | none =>
      have := List.find?_eq_none.mp hfind p hp
      simp [hpw] at this
    | some q =>
      have hqw : q.1.warehouseId = alloc.warehouseId := by simpa using List.find?_some hfind
      have hq : q.1 = p.1 := hpairs q (List.mem_of_find?_eq_some hfind) p hp (hqw.trans hpw.symm)
      have hfits := hs.shelf.fits_reserve hrow hpos hle
      simp only [takePlanned, hfind, orRaise, Prog.pure_eq, Prog.bind_eq, Prog.wp_bind,
        Prog.wp_ret, hq]
      refine wp_applyOnce hs hrow rfl (fun _ _ s₂ hc => ?_) (fun hne => absurd rfl hne)
        fun _ hnot => absurd hfits (by simp [hnot])
      simp only [Prog.wp_bind, appendFlow, Prog.wp_insert, hc.data]
      refine ih { state with
        taken := state.taken ++ [alloc]
        left := state.left - alloc.quantity } ⟨hc.data ▸ hc.ready.shelf, ?_⟩ hnodup ?_ ?_
      · exact hc.data ▸ hc.ready.coherent
      · intro a ha
        obtain ⟨hapos, t, ht, htw, htrow, htle⟩ := hfree a (List.mem_cons_of_mem alloc ha)
        refine ⟨hapos, t, ht, htw, mem_alter_of_ne htrow fun hid => hother ?_, htle⟩
        rw [hs.shelf.ids.eq_of_key_eq htrow hrow hid, hpw] at htw
        exact List.mem_map.mpr ⟨a, ha, htw.symm⟩
      · intro s'
        have hsum : allocated (alloc :: rest) = alloc.quantity + allocated rest := total_cons _ _ _
        have hQ := h s'
        rw [hsum] at hQ
        simpa [List.append_assoc, sub_sub] using hQ

/-- The first round of a draw with balances that are up to date is the last one. -/
lemma wp_drawLoop_current (hs : Ready s) (hcurrent : SessionCurrent s) (rounds : ℕ) {quantity : ℤ}
    (hq : 0 ≤ quantity) :
    (drawLoop skuId .reserve refType refId (rounds + 1) { taken := [], left := quantity }).wp
      (fun state _ => state.left = max 0 (quantity - reservableStock s.data skuId)) E s := by
  have husable : 0 ≤ reservableStock s.data skuId :=
    total_nonneg fun p _ => (binView p).usable_nonneg
  rw [drawLoop]
  split
  · rename_i hzero
    dsimp only at hzero
    simp only [Prog.pure_eq, Prog.wp_ret]
    omega
  · simp only [Prog.bind_eq, Prog.wp_bind]
    refine wp_listForSku_current hs hcurrent fun pairs s₂ hperm hc => ?_
    obtain ⟨chosen, left, used, hplan, hplanned⟩ := exists_planned (pairs.map binView) hq
    have htotal : total BinView.usable (pairs.map binView) = reservableStock s.data skuId := by
      rw [reservableStock, ← total_perm hperm, total, total, List.map_map]
      rfl
    have hleft : quantity - allocated chosen = max 0 (quantity - reservableStock s.data skuId) := by
      rw [← htotal, ← hplanned.left_eq]
      have := hplanned.sum
      omega
    rw [hplan]
    dsimp only
    split
    · rename_i hnone
      obtain rfl := List.isEmpty_iff.mp hnone
      simpa using hleft
    · simp only [Prog.wp_bind]
      have hmem : ∀ p ∈ pairs, p.1 ∈ s.data.inventories ∧ p.1.skuId = skuId := fun p hp =>
        mem_stockedPairs (hperm.mem_iff.mp hp)
      refine wp_takePlanned_current chosen _ hc.ready ?_ ?_ ?_ fun s' => ?_
      · intro p hp q hq hw
        apply hs.shelf.pairs.eq_of_key_eq (hmem p hp).1 (hmem q hq).1
        simp only [Inventory.pair, (hmem p hp).2, (hmem q hq).2, hw]
      · apply hplanned.distinct
        rw [List.map_map]
        exact (hperm.map _).nodup_iff.mpr (nodup_stockedPairs hs.shelf skuId)
      · intro a ha
        obtain ⟨b, hb, hfrom⟩ := hplanned.exists_from ha
        obtain ⟨p, hp, rfl⟩ := List.mem_map.mp hb
        exact ⟨hfrom.pos, p, hp, hfrom.warehouseId.symm, hc.data ▸ (hmem p hp).1, hfrom.le⟩
      · simpa using hleft

/-- A draw with balances that are up to date leaves what the warehouses cannot give. -/
lemma exec_draw_current (hs : Ready s) (hcurrent : SessionCurrent s) {quantity : ℤ}
    (hq : 0 ≤ quantity) : ∃ taken, ((draw skuId quantity .reserve refType refId).exec s).1 =
      .ok (taken, max 0 (quantity - reservableStock s.data skuId)) := by
  have hwp : (draw skuId quantity .reserve refType refId).wp
      (fun r _ => r.2 = max 0 (quantity - reservableStock s.data skuId)) (fun _ _ => False) s := by
    simp only [draw, Prog.bind_eq, Prog.wp_bind]
    exact wp_drawLoop_current hs hcurrent 4 hq
  unfold Prog.wp at hwp
  split at hwp
  · rename_i r s' heq
    obtain ⟨taken, left⟩ := r
    dsimp only at hwp
    exact ⟨taken, by rw [heq, hwp]⟩
  · exact hwp.elim

end current

/-! ### What is pushed -/

lemma total_filterMap_find {ws : List Warehouse} (g : Inventory → ℤ)
    (q : Inventory → Warehouse → Bool) (rows : List Inventory) :
    total g (rows.filter fun r => ws.any (q r)) =
      total (fun p => g p.1) (rows.filterMap fun r => (ws.find? (q r)).map (r, ·)) := by
  induction rows with
  | nil => rfl
  | cons r rest ih =>
    cases hfind : ws.find? (q r) with
    | none =>
      have hany : ws.any (q r) = false := by
        simpa using List.find?_eq_none.mp hfind
      rw [List.filter_cons_of_neg (by simp [hany]), List.filterMap_cons_none (by simp [hfind]), ih]
    | some w =>
      have hany : ws.any (q r) = true :=
        List.any_eq_true.mpr ⟨w, List.mem_of_find?_eq_some hfind, List.find?_some hfind⟩
      have hkeep : (r :: rest).filter (fun r => ws.any (q r)) =
          r :: rest.filter fun r => ws.any (q r) := by simp [hany]
      rw [hkeep, List.filterMap_cons, hfind, total_cons, ih]
      rfl

lemma freeStock_eq (d : Db) (skuId : ℕ) :
    freeStock d skuId = total (fun p => (binView p).free) (stockedPairs d skuId) := by
  rw [freeStock, stockedPairs]
  exact total_filterMap_find (fun r => r.available - r.occupied)
    (fun r w => w.id = r.warehouseId ∧ w.deleted = false) _

/-- What is free can be reserved, or lies where no reservation takes from. -/
lemma reservableStock_add_strandedStock {d : Db} (h : Shelf d.inventories) (skuId : ℕ) :
    reservableStock d skuId + strandedStock d skuId = freeStock d skuId := by
  have hfree : ∀ p ∈ stockedPairs d skuId, 0 ≤ (binView p).free := by
    intro p hp
    exact sub_nonneg.mpr (h.occupied_le p.1 (mem_stockedPairs hp).1)
  rw [freeStock_eq, reservableStock, strandedStock]
  generalize stockedPairs d skuId = pairs at hfree
  induction pairs with
  | nil => rfl
  | cons p rest ih =>
    have hp := hfree p (by simp)
    have hrest := ih fun q hq => hfree q (by simp [hq])
    rw [total_cons, total_cons, total_cons, ← hrest, BinView.usable]
    split <;> omega

lemma quantity_of_mem_duePushes {c : PushCalls} {d : Db} {skuId : ℕ} {p : ShopPush}
    (h : p ∈ duePushes c d skuId false) :
    platformPushQuantity (freeStock d skuId) (c.settings.safetyQty skuId p.shop.platformCode) =
      .ok p.quantity := by
  obtain ⟨g, -, hg⟩ := List.mem_filterMap.mp h
  rw [duePush] at hg
  split at hg
  · cases hg
  · rename_i shop hshop
    split at hg
    · rename_i push hpush
      subst hg
      obtain ⟨rfl, -⟩ := shopPush_eq_some hpush
      rw [shopPush] at hpush
      cases hquantity : platformPushQuantity (freeStock d skuId)
          (c.settings.safetyQty skuId p.shop.platformCode) with
      | error e => simp [hquantity, bind, Except.bind] at hpush
      | ok quantity =>
        simp only [hquantity, bind, Except.bind, pure, Except.pure, Bool.false_and,
          Bool.false_eq_true, if_false] at hpush
        have hp := Option.some.inj (Except.ok.inj hpush)
        rw [← hp]
    · cases hg

/-- Any number of pieces up to what a shop is told can be reserved if and only if the safety stock
covers what is free where no reservation takes from. -/
theorem pushed_reservable_iff (c : PushCalls) {s : WorkState} (hshelf : Shelf s.data.inventories)
    (hcurrent : SessionCurrent s) {skuId : ℕ} {p : ShopPush}
    (hp : p ∈ duePushes c s.data skuId false) (refType : String) (refId : ℕ) :
    (∀ n, 0 ≤ n → n ≤ p.quantity →
        ∃ taken, ((draw skuId n .reserve refType refId).exec s).1 = .ok (taken, 0)) ↔
      strandedStock s.data skuId ≤ c.settings.safetyQty skuId p.shop.platformCode := by
  have hs : Ready s := ⟨hshelf, fun held hh row hrow hid => hcurrent held hh row hrow hid ▸ .refl _⟩
  have hsum := reservableStock_add_strandedStock hshelf skuId
  have hreservable : 0 ≤ reservableStock s.data skuId :=
    total_nonneg fun p _ => (binView p).usable_nonneg
  have hquantity := quantity_of_mem_duePushes hp
  rw [platformPushQuantity] at hquantity
  split_ifs at hquantity with hraise
  have hmax := Except.ok.inj hquantity
  push Not at hraise
  have hdraw {n : ℤ} (hn : 0 ≤ n) : ∃ taken, ((draw skuId n .reserve refType refId).exec s).1 =
      .ok (taken, max 0 (n - reservableStock s.data skuId)) := exec_draw_current hs hcurrent hn
  constructor
  · intro h
    have hnonneg : 0 ≤ p.quantity := hmax ▸ le_max_right _ _
    obtain ⟨taken, htaken⟩ := h p.quantity hnonneg le_rfl
    obtain ⟨taken', htaken'⟩ := hdraw hnonneg
    rw [htaken] at htaken'
    simp only [Except.ok.injEq, Prod.mk.injEq] at htaken'
    omega
  · intro h n hn hle
    obtain ⟨taken, htaken⟩ := hdraw hn
    refine ⟨taken, ?_⟩
    rw [htaken, max_eq_left (by omega)]

/-! ### A warehouse of a platform -/

/-- The stock of the SKU lies in the warehouse of a platform, which is not the default. -/
def heldByPlatform : Db where
  warehouses := [{ id := 3, isDefault := true }, { id := 4, warehouseType := .platform }]
  inventories := [{ id := 1, skuId := 2, warehouseId := 3, available := 0 },
    { id := 5, skuId := 2, warehouseId := 4, available := 5 }]
  skus := [{ id := 2 }]
  listings :=
    [{ id := 7, skuId := 2, shopId := 9, platformSkuId := some "A", status := .linked }]
  shops := [{ id := 9, platformCode := "SHOPEE" }]

/-- The shop is told of three pieces, and none of them can be reserved. -/
theorem not_reservable_heldByPlatform :
    (duePushes (downAt 10) heldByPlatform 2 false).map ShopPush.quantity = [3] ∧
      ((draw 2 3 .reserve "ORDER" 1).exec ⟨{ ids := fun n => 100 + n }, heldByPlatform, []⟩).1 =
        .ok ([], 3) := by
  decide +kernel

/-- The stock of the SKU lies in the default warehouse: the three pieces the shop is told of can be
reserved. -/
theorem pushed_reservable_twoShops : ∃ taken,
    ((draw 2 3 .reserve "ORDER" 1).exec ⟨{ ids := fun n => 100 + n }, twoShops, []⟩).1 =
      .ok (taken, 0) := by
  have hshelf : Shelf twoShops.inventories := by constructor <;> decide
  have hpush : (⟨{ id := 9, platformCode := "SHOPEE" }, [["A"]], 3, .success⟩ : ShopPush) ∈
      duePushes (downAt 10) twoShops 2 false := by decide +kernel
  have hcurrent : SessionCurrent ⟨{ ids := fun n => 100 + n }, twoShops, []⟩ := by
    intro held hheld
    cases hheld
  have hcovered : strandedStock twoShops 2 ≤ (downAt 10).settings.safetyQty 2 "SHOPEE" := by
    decide +kernel
  exact (pushed_reservable_iff (downAt 10) hshelf hcurrent hpush "ORDER" 1).mpr hcovered 3
    (by decide) le_rfl

end CrossPilot
