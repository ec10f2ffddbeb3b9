import CrossPilot.Inventory.Reservable
import CrossPilot.Inventory.Rules
import CrossPilot.Lib.Outline

/-!
# Posting a stock taking

The books of a stock taking were frozen when it began. Posting it adds the differences to the
balances as they are by now. If every balance can take its difference and neither the warehouse nor
a SKU was deleted since then, all of them are posted, and what the summary reports is what the stock
on hand has changed by; else nothing is changed (`postTaking_posts`). Of any number of requests that
post a stock taking at once, whatever the order of their turns, one changes the data.
-/

namespace CrossPilot

open Transaction Table Prog

/-! ### What is posted -/

/-- What a line adds to the balance of its SKU. -/
def StockTakingLine.difference (line : StockTakingLine) : ℤ :=
  takingDelta line.bookQty (line.countedQty.getD 0)

/-- The lines of a stock taking, in their order. -/
def countedLines (d : Db) (x : StockTaking) : List StockTakingLine :=
  (d.takingLines.filter fun l => l.takingId = x.id).insertionSort fun a b => a.id ≤ b.id

/-- The SKU of each line and its difference. -/
def differences (d : Db) (x : StockTaking) : List (ℕ × ℤ) :=
  (countedLines d x).map fun line => (line.skuId, line.difference)

/-- What the summary says. -/
def summaryOf (planned : List (ℕ × ℤ)) : DiffSummary :=
  ⟨planned.length, total (fun p => max p.2 0) planned, total (fun p => max (-p.2) 0) planned⟩

/-- The tables that stock takings work on, as their constraints allow them. -/
structure Counting (d : Db) : Prop where
  shelf : Shelf d.inventories
  takings : Keyed StockTaking.id d.takings
  lines : Keyed (fun l : StockTakingLine => (l.takingId, l.skuId)) d.takingLines

/-- The check of a posting: the stock taking is a draft, all its SKUs are counted, and every balance
can take its difference. -/
structure Postable (d : Db) (x : StockTaking) : Prop where
  draft : x.status = .draft
  counted : ∀ line ∈ countedLines d x, line.countedQty.isSome = true
  fits : ∀ line ∈ countedLines d x, ∃ r ∈ d.inventories, r.pair = (line.skuId, x.warehouseId) ∧
    takingFits r.available r.occupied line.difference = true

/-- The SKU has not been deleted. -/
def SkuKept (d : Db) (skuId : ℕ) : Prop := ∃ k ∈ d.skus, k.id = skuId ∧ k.deleted = false

/-- The warehouse has not been deleted. -/
def WarehouseKept (d : Db) (warehouseId : ℕ) : Prop :=
  ∃ w ∈ d.warehouses, w.id = warehouseId ∧ w.deleted = false

/-- Neither the warehouse nor a SKU of the stock taking has been deleted. -/
structure Kept (d : Db) (x : StockTaking) : Prop where
  warehouse : WarehouseKept d x.warehouseId
  skus : ∀ line ∈ countedLines d x, SkuKept d line.skuId

/-- What the differences add to a bucket of a SKU in a warehouse. -/
def postedTo (warehouseId : ℕ) (planned : List (ℕ × ℤ)) (b : Bucket) (t w : ℕ) : ℤ :=
  if b = .available ∧ w = warehouseId then total (fun p => if p.1 = t then p.2 else 0) planned
  else 0

/-- The differences have been added to the balances. A balance that was remembered is still one of
an earlier time. -/
structure Added (warehouseId : ℕ) (planned : List (ℕ × ℤ)) (d d' : Db) : Prop where
  moved : Moved d d' (postedTo warehouseId planned)
  available : total Inventory.available d'.inventories =
    total Inventory.available d.inventories + total Prod.snd planned
  advances : ∀ r' ∈ d'.inventories, ∃ r ∈ d.inventories, r.id = r'.id ∧
    ∀ held : Inventory, held.AsOf r → held.AsOf r'

/-- The stock taking as it is posted. -/
def StockTaking.posted (planned : List (ℕ × ℤ)) (x : StockTaking) : StockTaking :=
  { x with status := .posted, diffSummary := some (summaryOf planned) }

/-- The stock taking has been posted: it says so and reports its differences, these have been added
to the balances and noted in the ledger, and nothing else has changed. -/
structure TakingPosted (d d' : Db) (x : StockTaking) : Prop where
  draft : x.status = .draft
  frame : d' = { d with
    inventories := d'.inventories
    flows := d'.flows
    takings := alter StockTaking.id x.id (.posted (differences d x)) d.takings }
  balance : ∀ b t w, balanceAt d' b t w =
    balanceAt d b t w + postedTo x.warehouseId (differences d x) b t w
  rows : d'.inventories.map (fun r => (r.id, r.pair)) = d.inventories.map fun r => (r.id, r.pair)
  report : (summaryOf (differences d x)).gainQty - (summaryOf (differences d x)).lossQty =
    total Inventory.available d'.inventories - total Inventory.available d.inventories
  advances : ∀ r' ∈ d'.inventories, ∃ r ∈ d.inventories, r.id = r'.id ∧
    ∀ held : Inventory, held.AsOf r → held.AsOf r'

section sums

/-- Gains less losses are the sum of the differences. -/
lemma gain_sub_loss (planned : List (ℕ × ℤ)) :
    (summaryOf planned).gainQty - (summaryOf planned).lossQty = total Prod.snd planned := by
  simp only [summaryOf]
  induction planned with
  | nil => rfl
  | cons p rest ih =>
    simp only [total_cons]
    omega

lemma postedTo_nil (warehouseId : ℕ) (b : Bucket) (t w : ℕ) : postedTo warehouseId [] b t w = 0 := by
  simp [postedTo]

lemma postedTo_cons (warehouseId : ℕ) (p : ℕ × ℤ) (rest : List (ℕ × ℤ)) (b : Bucket) (t w : ℕ) :
    postedTo warehouseId (p :: rest) b t w =
      postedTo warehouseId [p] b t w + postedTo warehouseId rest b t w := by
  by_cases h : b = .available ∧ w = warehouseId
  · simp [postedTo, h]
  · simp [postedTo, h]

lemma Added.refl (warehouseId : ℕ) (d : Db) : Added warehouseId [] d d :=
  ⟨(Moved.refl d).congr fun b t w => (postedTo_nil warehouseId b t w).symm, by simp,
    fun r hr => ⟨r, hr, rfl, fun _ => id⟩⟩

lemma Added.cons {warehouseId : ℕ} {p : ℕ × ℤ} {rest : List (ℕ × ℤ)} {d d' d'' : Db}
    (h : Added warehouseId [p] d d') (h' : Added warehouseId rest d' d'') :
    Added warehouseId (p :: rest) d d'' := by
  refine ⟨(h.moved.trans h'.moved).congr fun b t w => (postedTo_cons ..).symm, ?_, fun r hr => ?_⟩
  · rw [h'.available, h.available, total_cons, total_cons, total_nil]
    ring
  · obtain ⟨r', hr', hid', hheld'⟩ := h'.advances r hr
    obtain ⟨r₀, hr₀, hid, hheld⟩ := h.advances r' hr'
    exact ⟨r₀, hr₀, hid.trans hid', fun held hh => hheld' held (hheld held hh)⟩

/-- Nothing is added where there is no difference. -/
lemma Added.skip {warehouseId skuId : ℕ} {rest : List (ℕ × ℤ)} {d d' : Db}
    (h : Added warehouseId rest d d') : Added warehouseId ((skuId, 0) :: rest) d d' := by
  refine ⟨h.moved.congr fun b t w => ?_, ?_, h.advances⟩
  · rw [postedTo_cons]
    simp [postedTo]
  · rw [h.available, total_cons, zero_add]

end sums

/-! ### The adjustments -/

section adjustments

variable {s : WorkState} {E : ServiceError → WorkState → Prop} {skuId warehouseId : ℕ}

lemma wp_getSku {Q : Sku → WorkState → Prop} (hok : ∀ k, SkuKept s.data skuId → Q k s)
    (he : ¬ SkuKept s.data skuId → E .notFound s) : (getSku skuId).wp Q E s := by
  simp only [getSku, bind_eq, wp_bind, wp_select]
  cases hfind : s.data.skus.find? fun k => k.id = skuId ∧ k.deleted = false with
  | none =>
    refine he ?_
    rintro ⟨k, hk, hid, hkept⟩
    have hnot := List.find?_eq_none.mp hfind k hk
    simp [hid, hkept] at hnot
  | some k =>
    refine hok k ⟨k, List.mem_of_find?_eq_some hfind, ?_⟩
    simpa using List.find?_some hfind

lemma wp_getWarehouse {Q : Warehouse → WorkState → Prop}
    (hok : ∀ w, WarehouseKept s.data warehouseId → Q w s)
    (he : ¬ WarehouseKept s.data warehouseId → E .notFound s) :
    (getWarehouse warehouseId).wp Q E s := by
  simp only [getWarehouse, bind_eq, wp_bind, wp_select]
  cases hfind : s.data.warehouses.find? fun w => w.id = warehouseId ∧ w.deleted = false with
  | none =>
    refine he ?_
    rintro ⟨w, hw, hid, hkept⟩
    have hnot := List.find?_eq_none.mp hfind w hw
    simp [hid, hkept] at hnot
  | some w =>
    refine hok w ⟨w, List.mem_of_find?_eq_some hfind, ?_⟩
    simpa using List.find?_some hfind

/-- `ensure` finds a balance that is there, unless the SKU or the warehouse was deleted. -/
lemma wp_ensure_of_stocks {Q : Inventory → WorkState → Prop} (hs : Ready s)
    (hstocks : Stocks s.data skuId warehouseId)
    (hok : SkuKept s.data skuId → WarehouseKept s.data warehouseId →
      ∀ r ∈ s.data.inventories, r.pair = (skuId, warehouseId) → ∀ held s', held.AsOf r →
        Continues s s' s.data → Q held s')
    (he : ¬ (SkuKept s.data skuId ∧ WarehouseKept s.data warehouseId) → E .notFound s) :
    (ensure skuId warehouseId).wp Q E s := by
  unfold ensure
  rw [bind_eq, wp_bind]
  refine wp_getSku (fun _ hsku => ?_) fun hno => he fun h => hno h.1
  rw [bind_eq, wp_bind]
  refine wp_getWarehouse (fun _ hwarehouse => ?_) fun hno => he fun h => hno h.2
  rw [bind_eq, wp_bind]
  exact wp_getPair hs (fun r hr hp held s' hheld hc => hok hsku hwarehouse r hr hp held s' hheld hc)
    fun hnone => absurd hstocks hnone

/-- A balance can take a difference. -/
def Takes (d : Db) (warehouseId : ℕ) (p : ℕ × ℤ) : Prop :=
  p.2 ≠ 0 → SkuKept d p.1 ∧ WarehouseKept d warehouseId ∧
    takingFits (balanceAt d .available p.1 warehouseId) (balanceAt d .occupied p.1 warehouseId)
      p.2 = true

lemma fits_iff {rows : List Inventory} (h : Shelf rows) {r : Inventory} (hr : r ∈ rows) (q : ℤ) :
    r.fits { available := q } = takingFits r.available r.occupied q := by
  have hoccupied := h.occupied_nonneg r hr
  have hdefective := h.defective_nonneg r hr
  have htransit := h.inTransit_nonneg r hr
  rw [Bool.eq_iff_iff]
  simp only [Inventory.fits, takingFits, Bool.and_eq_true, decide_eq_true_eq, add_zero]
  tauto

/-- The change of one balance. -/
lemma Added.one {d : Db} (hs : Shelf d.inventories) {r : Inventory} (hr : r ∈ d.inventories)
    (hp : r.pair = (skuId, warehouseId)) (q : ℤ) (line : InventoryFlow) :
    Added warehouseId [(skuId, q)] d (d.logged r { available := q } line) := by
  refine ⟨(Moved.logged hs hr _ _).congr fun b t w => ?_, ?_, fun r' hr' => ?_⟩
  · rw [hp]
    by_cases hat : t = skuId ∧ w = warehouseId
    · obtain ⟨rfl, rfl⟩ := hat
      cases b <;> simp [postedTo, Delta.bucket]
    · have hpair : ¬ (skuId, warehouseId) = (t, w) := fun h =>
        hat ⟨(congrArg Prod.fst h).symm, (congrArg Prod.snd h).symm⟩
      rw [if_neg hpair, postedTo]
      split_ifs with hb
      · simp [show skuId ≠ t from fun h => hat ⟨h.symm, hb.2⟩]
      · rfl
  · refine (total_alter hs.ids hr _ _).trans ?_
    simp [Inventory.shift]
  · obtain ⟨t, ht, rfl⟩ := mem_alter.mp hr'
    by_cases hid : t.id = r.id
    · refine ⟨t, ht, ?_, fun held hheld => ?_⟩
      · rw [if_pos hid]
        rfl
      · rw [if_pos hid]
        exact hheld.shift _
    · rw [if_neg hid]
      exact ⟨t, ht, rfl, fun _ => id⟩

/-- One adjustment adds its difference, if the balance can take it. -/
lemma wp_adjust_difference {q : ℤ} {takingId : ℕ} {Q : Inventory → WorkState → Prop} (hs : Ready s)
    (hq : q ≠ 0) (hstocks : Stocks s.data skuId warehouseId)
    (hok : Takes s.data warehouseId (skuId, q) → ∀ row s', Ready s' →
      Added warehouseId [(skuId, q)] s.data s'.data → Q row s')
    (he : ¬ Takes s.data warehouseId (skuId, q) → ∀ e s', E e s') :
    (adjust ⟨skuId, warehouseId, .adjust, q, "STOCK_TAKING", some takingId⟩).wp Q E s := by
  simp only [adjust, ne_eq, not_true_eq_false, false_and, if_false, hq, and_false]
  rw [bind_eq, wp_bind]
  refine wp_ensure_of_stocks hs hstocks (fun hsku hwarehouse r hr hp held s₁ hheld hc => ?_)
    fun hno => he (fun h => hno ⟨(h hq).1, (h hq).2.1⟩) _ _
  have hr₁ : r ∈ s₁.data.inventories := hc.data ▸ hr
  have htakes : Takes s.data warehouseId (skuId, q) ↔ r.fits { available := q } = true := by
    rw [fits_iff hs.shelf hr]
    simp only [Takes, hs.shelf.balanceAt_eq hr hp, Inventory.bucket]
    tauto
  refine wp_commitChange hc.ready hr₁ hheld (fun hfit s₂ hc₂ => ?_) fun hfit s₂ _ => ?_
  · refine hok (htakes.mpr hfit) _ s₂ hc₂.ready ?_
    rw [hc₂.data, hc.data]
    exact .one hs.shelf hr hp q _
  · exact he (fun h => Bool.false_ne_true (hfit.symm.trans (htakes.mp h))) _ _

/-- What was added to one SKU matters to no other. -/
lemma Added.takes_iff {d d' : Db} {p p' : ℕ × ℤ} (h : Added warehouseId [p] d d')
    (hne : p'.1 ≠ p.1) : Takes d' warehouseId p' ↔ Takes d warehouseId p' := by
  have hsame : ∀ b, balanceAt d' b p'.1 warehouseId = balanceAt d b p'.1 warehouseId := by
    intro b
    rw [h.moved.balance]
    simp [postedTo, hne.symm]
  have hskus : d'.skus = d.skus := by rw [h.moved.frame]
  have hwarehouses : d'.warehouses = d.warehouses := by rw [h.moved.frame]
  simp only [Takes, SkuKept, WarehouseKept, hsame, hskus, hwarehouses]

/-- The adjustments of a posting: all of them are made if every balance can take its difference. -/
lemma wp_adjustAll {planned : List (ℕ × ℤ)} {takingId : ℕ} {Q : Unit → WorkState → Prop}
    (hs : Ready s) (hkeys : Keyed Prod.fst planned)
    (hstocks : ∀ p ∈ planned, Stocks s.data p.1 warehouseId)
    (hok : (∀ p ∈ planned, Takes s.data warehouseId p) → ∀ s', Ready s' →
      Added warehouseId planned s.data s'.data → Q () s')
    (he : ¬ (∀ p ∈ planned, Takes s.data warehouseId p) → ∀ e s', E e s') :
    (Prog.forEach planned fun (skuId, delta) => do
      if delta = 0 then return ()
      else
        let _ ← adjust ⟨skuId, warehouseId, .adjust, delta, "STOCK_TAKING", some takingId⟩).wp Q E
      s := by
  induction planned generalizing s with
  | nil => exact hok (by simp) s hs (.refl warehouseId s.data)
  | cons p rest ih =>
    obtain ⟨skuId, q⟩ := p
    obtain ⟨hnew, hrest⟩ := List.nodup_cons.mp hkeys
    rw [Prog.forEach, wp_bind]
    dsimp only
    split_ifs with hq
    · -- without a difference there is no adjustment
      subst hq
      have hall : (∀ p ∈ ((skuId, 0) : ℕ × ℤ) :: rest, Takes s.data warehouseId p) ↔
          ∀ p ∈ rest, Takes s.data warehouseId p := by
        rw [List.forall_mem_cons]
        exact and_iff_right fun h => absurd rfl h
      exact ih hs hrest (fun p hp => hstocks p (by simp [hp]))
        (fun htakes s' hs' hadded => hok (hall.mpr htakes) s' hs' hadded.skip)
        fun hno => he fun h => hno (hall.mp h)
    · simp only [bind_eq, pure_eq, wp_bind, wp_ret]
      refine wp_adjust_difference hs hq (hstocks (skuId, q) (by simp))
        (fun htakes _ s₁ hs₁ hadded => ?_) fun hno => he fun h => hno (h _ (by simp))
      have hall : (∀ p ∈ (skuId, q) :: rest, Takes s.data warehouseId p) ↔
          ∀ p ∈ rest, Takes s₁.data warehouseId p := by
        rw [List.forall_mem_cons, and_iff_right htakes]
        refine forall₂_congr fun p hp => (hadded.takes_iff fun heq => hnew ?_).symm
        exact heq ▸ List.mem_map_of_mem hp
      exact ih hs₁ hrest
        (fun p hp => (hadded.moved.stocks _ _).mpr (hstocks p (by simp [hp])))
        (fun htakes' s' hs' hadded' => hok (hall.mpr htakes') s' hs' (hadded.cons hadded'))
        fun hno => he fun h => hno (hall.mp h)

end adjustments

/-! ### The posting -/

/-- What `postTaking` does once the stock taking is its own. -/
def postDifferences (row : StockTaking) (count : ℕ) (planned : List (ℕ × ℤ)) :
    Work (StockTaking × List StockTakingLine) := do
  .forEach planned fun (skuId, delta) => do
    if delta = 0 then return ()
    else
      let _ ← adjust ⟨skuId, row.warehouseId, .adjust, delta, "STOCK_TAKING", some row.id⟩
  let summary : DiffSummary :=
    ⟨count, total (fun p => max p.2 0) planned, total (fun p => max (-p.2) 0) planned⟩
  let sum (t : StockTaking) := { t with diffSummary := some summary }
  .update (fun _ => [.taking row.id])
    (fun _ d => { d with takings := alter StockTaking.id row.id sum d.takings })
    fun _ _ => ()
  takingView { row with status := .posted, diffSummary := some summary }

lemma postTaking_eq (takingId : ℕ) : postTaking takingId = (do
    let row ← getTaking takingId
    if row.status ≠ .draft then raise .stockTakingState
    else
      let lines ← takingLinesFor row.id
      if lines.any (·.countedQty.isNone) then raise (.stockTakingState "还有 SKU 没有录入实盘")
      else
        let planned ← planTaking row.warehouseId lines
        if !(← transitionTaking row.id .draft .posted) then raise .stockTakingState
        else postDifferences row lines.length planned) := rfl

/-- The data with a stock taking that says it is posted. -/
def Db.marked (d : Db) (x : StockTaking) : Db :=
  { d with
    takings := alter StockTaking.id x.id (fun t => { t with status := .posted }) d.takings }

/-- Whether anything was deleted is a matter of three tables. -/
lemma Kept.congr {d d' : Db} {x x' : StockTaking} (h : Kept d x) (hid : x'.id = x.id)
    (hwarehouse : x'.warehouseId = x.warehouseId) (hskus : d'.skus = d.skus)
    (hwarehouses : d'.warehouses = d.warehouses) (hlines : d'.takingLines = d.takingLines) :
    Kept d' x' := by
  have hcounted : countedLines d' x' = countedLines d x := by
    rw [countedLines, countedLines, hlines, hid]
  refine ⟨?_, ?_⟩
  · rw [WarehouseKept, hwarehouse, hwarehouses]
    exact h.warehouse
  · simpa only [SkuKept, hskus, hcounted] using h.skus

section posting

variable {d : Db} {x : StockTaking} {s : WorkState} {E : ServiceError → WorkState → Prop}

/-- The view needs the warehouse and the SKUs. -/
lemma wp_takingView {Q : StockTaking × List StockTakingLine → WorkState → Prop}
    (hok : Kept s.data x → ∀ view, Q view s) (he : ¬ Kept s.data x → ∀ e, E e s) :
    (takingView x).wp Q E s := by
  have hskus : ∀ lines : List StockTakingLine, (Prog.forEach lines fun line => do
      let _ ← getSku line.skuId).wp (fun _ s' => s' = s ∧ ∀ line ∈ lines, SkuKept s.data line.skuId)
      (fun _ s' => s' = s ∧ ¬ ∀ line ∈ lines, SkuKept s.data line.skuId) s := by
    intro lines
    induction lines with
    | nil => exact ⟨rfl, by simp⟩
    | cons line rest ih =>
      rw [Prog.forEach, wp_bind, bind_eq, wp_bind]
      refine wp_getSku (fun _ hsku => ?_) fun hno => ⟨rfl, fun h => hno (h line (by simp))⟩
      rw [pure_eq, wp_ret]
      refine wp_mono ih (fun _ s' h => ⟨h.1, ?_⟩) fun _ s' h => ⟨h.1, fun hall => h.2 ?_⟩
      · rw [List.forall_mem_cons]
        exact ⟨hsku, h.2⟩
      · exact (List.forall_mem_cons.mp hall).2
  unfold takingView takingLinesFor
  rw [bind_eq, wp_bind]
  refine wp_getWarehouse (fun _ hwarehouse => ?_) fun hno => he (fun h => hno h.warehouse) _
  rw [bind_eq, wp_bind, wp_select, bind_eq, wp_bind]
  refine wp_mono (hskus _) ?_ ?_
  · rintro _ s' ⟨rfl, h⟩
    exact hok ⟨hwarehouse, h⟩ _
  · rintro e s' ⟨rfl, h⟩
    exact he (fun hkept => h hkept.skus) e

/-- Two SKUs of a stock taking are different. -/
lemma Counting.keyed_differences (h : Counting d) (x : StockTaking) :
    Keyed Prod.fst (differences d x) := by
  have hperm : (differences d x).map Prod.fst = (countedLines d x).map StockTakingLine.skuId := by
    simp [differences, Function.comp_def]
  rw [Keyed, hperm, countedLines, ((List.perm_insertionSort _ _).map _).nodup_iff]
  refine List.pairwise_map.mpr (((List.pairwise_map.mp h.lines).filter _).imp_of_mem ?_)
  intro a b ha hb hne heq
  simp only [List.mem_filter, decide_eq_true_eq] at ha hb
  exact hne (by rw [ha.2, hb.2, heq])

/-- Once the stock taking says it is posted, all its differences are posted and reported, if every
balance can take its own and nothing was deleted. -/
lemma wp_postDifferences {Q : StockTaking × List StockTakingLine → WorkState → Prop}
    (hd : Counting d) (hdraft : x.status = .draft) (hs : Ready s) (hdata : s.data = d.marked x)
    (hstocks : ∀ p ∈ differences d x, Stocks d p.1 x.warehouseId)
    (hok : (∀ p ∈ differences d x, Takes d x.warehouseId p) → Kept d x → ∀ view s',
      TakingPosted d s'.data x → Q view s')
    (he : ¬ ((∀ p ∈ differences d x, Takes d x.warehouseId p) ∧ Kept d x) → ∀ e s', E e s') :
    (postDifferences x (countedLines d x).length (differences d x)).wp Q E s := by
  have htakes : ∀ p, Takes s.data x.warehouseId p ↔ Takes d x.warehouseId p := by
    rw [hdata]
    exact fun p => Iff.rfl
  unfold postDifferences
  rw [bind_eq, wp_bind]
  refine wp_adjustAll hs (hd.keyed_differences x) (hdata ▸ hstocks) (fun hall s₁ hs₁ hadded => ?_)
    fun hno => he fun h => hno fun p hp => (htakes p).mpr (h.1 p hp)
  dsimp only
  rw [bind_eq, wp_bind, wp_update]
  have hframe := hadded.moved.frame
  rw [hdata] at hframe hadded
  have hskus : s₁.data.skus = d.skus := by
    rw [hframe]
    rfl
  have hwarehouses : s₁.data.warehouses = d.warehouses := by
    rw [hframe]
    rfl
  have hlines : s₁.data.takingLines = d.takingLines := by
    rw [hframe]
    rfl
  have hsummary : (⟨(countedLines d x).length, total (fun p => max p.2 0) (differences d x),
      total (fun p => max (-p.2) 0) (differences d x)⟩ : DiffSummary) =
      summaryOf (differences d x) := by
    rw [summaryOf, differences, List.length_map]
  rw [hsummary]
  have htakings : alter StockTaking.id x.id
      (fun t => { t with diffSummary := some (summaryOf (differences d x)) }) s₁.data.takings =
      alter StockTaking.id x.id (.posted (differences d x)) d.takings := by
    have hmarked : s₁.data.takings = alter StockTaking.id x.id
        (fun t => { t with status := .posted }) d.takings := by
      rw [hframe]
      rfl
    rw [hmarked]
    exact alter_alter fun _ => rfl
  refine wp_takingView (fun h view => ?_) fun hno e => ?_
  · refine hok (fun p hp => (htakes p).mp (hall p hp))
      (h.congr rfl rfl hskus.symm hwarehouses.symm hlines.symm) view _ ⟨hdraft, ?_, ?_, ?_, ?_, ?_⟩
    · dsimp only
      rw [htakings, hframe]
      rfl
    · exact fun b t w => hadded.moved.balance b t w
    · exact hadded.moved.rows
    · rw [gain_sub_loss]
      have havailable : total Inventory.available s₁.data.inventories =
        total Inventory.available d.inventories + total Prod.snd (differences d x) := hadded.available
      exact (sub_eq_of_eq_add' havailable).symm
    · exact hadded.advances
  · exact he (fun h => hno (h.2.congr rfl rfl hskus hwarehouses hlines)) e _

/-- The balance can take the difference of the line, which was counted. -/
def LineFits (d : Db) (warehouseId : ℕ) (line : StockTakingLine) : Prop :=
  line.countedQty.isSome = true ∧ ∃ r ∈ d.inventories, r.pair = (line.skuId, warehouseId) ∧
    takingFits r.available r.occupied line.difference = true

lemma wp_getPair_current {skuId warehouseId : ℕ} {Q : Option Inventory → WorkState → Prop}
    (hs : Ready s) (hcurrent : SessionCurrent s)
    (hsome : ∀ r ∈ s.data.inventories, r.pair = (skuId, warehouseId) → ∀ s',
      Continues s s' s.data → SessionCurrent s' → Q (some r) s')
    (hnone : ¬ Stocks s.data skuId warehouseId → Q none s) :
    (getPair skuId warehouseId).wp Q E s := by
  simp only [getPair, bind_eq, wp_bind, wp_select]
  cases hfind : s.data.inventories.find? fun r => r.pair = (skuId, warehouseId) with
  | none =>
    refine hnone ?_
    rintro ⟨r, hr, hp⟩
    have hnot := List.find?_eq_none.mp hfind r hr
    simp [hp] at hnot
  | some r =>
    obtain ⟨hr, hp⟩ := (find?_eq_some_iff hs.shelf.pairs).mp hfind
    rw [wp_bind]
    exact wp_present_current hs hcurrent hr fun s' hc hcurrent' => hsome r hr hp s' hc hcurrent'

/-- The check, with balances that are up to date. -/
lemma wp_planTaking {warehouseId : ℕ} {lines : List StockTakingLine}
    {Q : List (ℕ × ℤ) → WorkState → Prop} (hs : Ready s) (hcurrent : SessionCurrent s)
    (hok : (∀ line ∈ lines, LineFits s.data warehouseId line) → ∀ s', Continues s s' s.data →
      Q (lines.map fun line => (line.skuId, line.difference)) s')
    (he : ¬ (∀ line ∈ lines, LineFits s.data warehouseId line) → ∀ e s', E e s') :
    (planTaking warehouseId lines).wp Q E s := by
  induction lines generalizing s Q with
  | nil => exact hok (by simp) s ⟨hs, rfl, rfl, rfl⟩
  | cons line rest ih =>
    rw [planTaking, bind_eq, wp_bind]
    cases hcounted : line.countedQty with
    | none =>
      refine he (fun h => ?_) _ _
      have hfits := (h line (by simp)).1
      simp [hcounted] at hfits
    | some counted =>
      have hdifference : takingDelta line.bookQty counted = line.difference := by
        simp [StockTakingLine.difference, hcounted]
      simp only [orRaise, pure_eq, wp_ret, hdifference]
      rw [bind_eq, wp_bind]
      refine wp_getPair_current hs hcurrent (fun r hr hp s₁ hc hcurrent₁ => ?_) fun hnone => ?_
      · rw [bind_eq, wp_bind, wp_ret]
        have hline : LineFits s.data warehouseId line ↔
            takingFits r.available r.occupied line.difference = true := by
          constructor
          · rintro ⟨-, r', hr', hp', hfits⟩
            rwa [hs.shelf.pairs.eq_of_key_eq hr' hr (hp'.trans hp.symm)] at hfits
          · exact fun h => ⟨by simp [hcounted], r, hr, hp, h⟩
        cases hfits : takingFits r.available r.occupied line.difference with
        | false =>
          refine he (fun h => ?_) _ _
          have htrue := hline.mp (h line (by simp))
          rw [hfits] at htrue
          cases htrue
        | true =>
          have hall : (∀ l ∈ line :: rest, LineFits s.data warehouseId l) ↔
              ∀ l ∈ rest, LineFits s₁.data warehouseId l := by
            rw [List.forall_mem_cons, and_iff_right (hline.mpr hfits), hc.data]
          rw [Bool.not_true, if_neg Bool.false_ne_true, bind_eq, wp_bind]
          exact ih hc.ready hcurrent₁
            (fun h s₂ hc₂ => hok (hall.mpr h) s₂ (hc.trans (hc.data ▸ hc₂)))
            fun hno => he fun h => hno (hall.mp h)
      · refine he (fun h => hnone ?_) _ _
        obtain ⟨-, r, hr, hp, -⟩ := h line (by simp)
        exact ⟨r, hr, hp⟩

/-- A draft is the one row that the update hits. -/
lemma hit_draft (hd : Counting d) (hx : x ∈ d.takings) (hdraft : x.status = .draft) :
    (d.takings.filter fun t => t.id = x.id && t.status = .draft) = [x] ∧
      (d.takings.map fun t => if (decide (t.id = x.id) && decide (t.status = .draft)) = true
        then { t with status := .posted } else t) = (d.marked x).takings := by
  constructor
  · refine hd.takings.filter_eq_singleton hx (by simp [hdraft]) fun t _ ht => ?_
    simp only [Bool.and_eq_true, decide_eq_true_eq] at ht
    exact ht.1
  · refine List.map_congr_left fun t ht => ?_
    by_cases hid : t.id = x.id
    · rw [hd.takings.eq_of_key_eq ht hx hid]
      simp [hdraft]
    · simp [hid]

/-- The rows that the lock of the stock taking is for. -/
lemma locked_iff (t : StockTaking) : (decide (RowKey.taking t.id ∈ [RowKey.taking x.id]) &&
    (decide (t.id = x.id) && decide (t.status = .draft))) =
      (decide (t.id = x.id) && decide (t.status = .draft)) := by
  by_cases hid : t.id = x.id <;> simp [hid]

/-- The update moves a draft on. -/
lemma wp_transitionTaking {Q : Bool → WorkState → Prop} (hd : Counting d) (hx : x ∈ d.takings)
    (hdraft : x.status = .draft) (hdata : s.data = d)
    (h : Q true { s with data := d.marked x }) :
    (transitionTaking x.id .draft .posted).wp Q E s := by
  obtain ⟨hhit, hmap⟩ := hit_draft hd hx hdraft
  rw [transitionTaking, wp_update, hdata]
  simp only [hhit, List.map_cons, List.map_nil, locked_iff, hmap, List.length_singleton,
    decide_true]
  exact h

/-- A posting that runs alone with a new session posts all differences, if its check passes and
nothing was deleted, and fails otherwise. -/
theorem wp_postTaking {l : Session} {Q : StockTaking × List StockTakingLine → WorkState → Prop}
    (hd : Counting d) (hx : x ∈ d.takings) (hl : l.seen = [])
    (hok : Postable d x → Kept d x → ∀ view s', TakingPosted d s'.data x → Q view s')
    (he : ¬ (Postable d x ∧ Kept d x) → ∀ e s', E e s') :
    (postTaking x.id).wp Q E ⟨l, d, []⟩ := by
  have hfind : (d.takings.find? fun t => t.id = x.id) = some x :=
    (find?_eq_some_iff hd.takings).mpr ⟨hx, rfl⟩
  rw [postTaking_eq, bind_eq, wp_bind, getTaking, bind_eq, wp_bind, wp_select, hfind]
  simp only [orRaise, pure_eq, wp_ret]
  split_ifs with hdraft
  · exact he (fun h => hdraft h.1.draft) _ _
  rw [not_not] at hdraft
  rw [takingLinesFor, bind_eq, wp_bind, wp_select]
  change Prog.wp (ite ((countedLines d x).any _ = true) _ _) Q E _
  split_ifs with huncounted
  · refine he (fun h => ?_) _ _
    obtain ⟨line, hline, hnone⟩ := List.any_eq_true.mp huncounted
    have hsome := h.1.counted line hline
    rw [Option.isNone_iff_eq_none] at hnone
    rw [hnone] at hsome
    cases hsome
  have hready : Ready ⟨l, d, []⟩ := ⟨hd.shelf, by simp [hl]⟩
  have hcurrent : SessionCurrent ⟨l, d, []⟩ := by simp [SessionCurrent, hl]
  have hpostable : Postable d x ↔ ∀ line ∈ countedLines d x, LineFits d x.warehouseId line := by
    constructor
    · exact fun h line hline => ⟨h.counted line hline, h.fits line hline⟩
    · exact fun h => ⟨hdraft, fun line hline => (h line hline).1, fun line hline => (h line hline).2⟩
  rw [bind_eq, wp_bind]
  refine wp_planTaking hready hcurrent (fun hfits s₁ hc => ?_)
    fun hno => he fun h => hno (hpostable.mp h.1)
  rw [bind_eq, wp_bind]
  refine wp_transitionTaking hd hx hdraft hc.data ?_
  rw [Bool.not_true, if_neg Bool.false_ne_true]
  -- what fits by the check, the balances can take
  have htakes : Kept d x → ∀ p ∈ differences d x, Takes d x.warehouseId p := by
    intro hkept p hp _
    obtain ⟨line, hline, rfl⟩ := List.mem_map.mp hp
    obtain ⟨-, r, hr, hrp, hrfits⟩ := hfits line hline
    refine ⟨hkept.skus line hline, hkept.warehouse, ?_⟩
    rw [hd.shelf.balanceAt_eq hr hrp, hd.shelf.balanceAt_eq hr hrp]
    exact hrfits
  have hstocks : ∀ p ∈ differences d x, Stocks d p.1 x.warehouseId := by
    intro p hp
    obtain ⟨line, hline, rfl⟩ := List.mem_map.mp hp
    obtain ⟨-, r, hr, hrp, -⟩ := hfits line hline
    exact ⟨r, hr, hrp⟩
  have hready₁ : Ready { s₁ with data := d.marked x } :=
    ⟨hd.shelf, fun held hheld row hrow => hc.ready.coherent held hheld row (hc.data ▸ hrow)⟩
  exact wp_postDifferences hd hdraft hready₁ rfl hstocks
    (fun _ hkept view s' hposted => hok (hpostable.mpr hfits) hkept view s' hposted)
    fun hno => he fun h => hno ⟨htakes h.2, h.2⟩

end posting

/-! ### Postings at the same time -/

section concurrent

variable (d : Db) (x : StockTaking)

/-- What the data can be while requests post the stock taking. -/
def PostingState (d' : Db) : Prop := d' = d ∨ TakingPosted d d' x

/-- What a posting commits: nothing, or all of it, with the row of the stock taking locked. -/
def PostingCommits (ls : List RowKey) (d' d'' : Db) : Prop :=
  d'' = d' ∨ RowKey.taking x.id ∈ ls ∧ d' = d ∧ TakingPosted d d'' x

/-- What is left of a posting, as the other requests allow it. -/
abbrev PostOutline {α : Type} (p : Work α) (l : Session) (c : Db → Db) (ls : List RowKey)
    (P : Db → Prop) : Prop :=
  Outline (PostingState d x) (PostingCommits d x) (fun _ _ => True) p l c ls P

/-- The session remembers balances as they were before the posting. -/
def SessionAsOf (l : Session) : Prop :=
  ∀ held ∈ l.seen, ∀ r ∈ d.inventories, held.id = r.id → held.AsOf r

variable {d x} {d' : Db} {α : Type} {l : Session}

lemma TakingPosted.status (h : TakingPosted d d' x) {t : StockTaking} (ht : t ∈ d'.takings)
    (hid : t.id = x.id) : t.status = .posted := by
  rw [h.frame] at ht
  obtain ⟨s, -, rfl⟩ := mem_alter.mp ht
  split_ifs at hid ⊢ with hs
  · rfl
  · exact absurd hid hs

lemma TakingPosted.ne (h : TakingPosted d d' x) (hx : x ∈ d.takings) : d' ≠ d := by
  rintro rfl
  have hposted := h.status hx rfl
  rw [h.draft] at hposted
  cases hposted

lemma TakingPosted.countedLines_eq (h : TakingPosted d d' x) :
    countedLines d' x = countedLines d x := by
  have hlines : d'.takingLines = d.takingLines := by rw [h.frame]
  rw [countedLines, countedLines, hlines]

/-- What is posted stays so. -/
lemma stable_posted (ls : List RowKey) :
    Stable (PostingState d x) (PostingCommits d x) ls fun d' => TakingPosted d d' x := by
  rintro d' d'' ls' - h - (rfl | ⟨-, -, hposted⟩)
  · exact h
  · exact hposted

/-- Who has the row of the stock taking knows the data. -/
lemma stable_locked {ls : List RowKey} (h : RowKey.taking x.id ∈ ls) :
    Stable (PostingState d x) (PostingCommits d x) ls (· = d) := by
  rintro d' d'' ls' - rfl hdisj (rfl | ⟨hlock, -⟩)
  · rfl
  · exact absurd hlock (hdisj h)

/-- The session's object for a row. -/
lemma outline_present {P : Db → Prop} {row : Inventory} {k : Inventory → Work α}
    (hP : Stable (PostingState d x) (PostingCommits d x) [] P)
    (h : ∀ held l', held ∈ l.seen ∧ l' = l ∨
      held = row ∧ l' = { l with seen := row :: l.seen } →
      PostOutline d x (k held) l' id [] P) :
    PostOutline d x ((present row).bind k) l id [] P := by
  intro d' _ hd'
  refine ⟨P, hd', hP, ?_⟩
  dsimp only
  cases hfind : l.seen.find? fun t => t.id = row.id with
  | some held => exact h held l (.inl ⟨List.mem_of_find?_eq_some hfind, rfl⟩)
  | none => exact h row _ (.inr ⟨rfl, rfl⟩)

/-- Once the stock taking is known to be posted, it does not matter what a lookup finds. -/
lemma outline_getPair_posted {skuId warehouseId : ℕ} {k : Option Inventory → Work α}
    (h : ∀ o l', PostOutline d x (k o) l' id [] fun d' => TakingPosted d d' x) :
    PostOutline d x ((getPair skuId warehouseId).bind k) l id []
      fun d' => TakingPosted d d' x := by
  rw [getPair, bind_eq, bind_assoc]
  refine Outline.select fun d' _ hd' => ⟨_, hd', stable_posted [], ?_⟩
  cases (id d').inventories.find? fun r => r.pair = (skuId, warehouseId) with
  | none => exact h none l
  | some row =>
    dsimp only
    rw [bind_eq, bind_assoc]
    exact outline_present (stable_posted []) fun held l' _ => h (some held) l'

/-- A lookup finds a balance from before the posting, or the stock taking is posted. -/
lemma outline_getPair {skuId warehouseId : ℕ} {k : Option Inventory → Work α} (hd : Counting d)
    (hl : SessionAsOf d l)
    (h : ∀ o l', SessionAsOf d l' → (o.isSome = true → Stocks d skuId warehouseId) →
      PostOutline d x (k o) l' id [] fun _ => True)
    (hposted : ∀ o l', PostOutline d x (k o) l' id [] fun d' => TakingPosted d d' x) :
    PostOutline d x ((getPair skuId warehouseId).bind k) l id [] fun _ => True := by
  rw [getPair, bind_eq, bind_assoc]
  refine Outline.select ?_
  rintro d' (rfl | hd') -
  · refine ⟨fun _ => True, trivial, stable_true [], ?_⟩
    cases hfind : (id d').inventories.find? fun r => r.pair = (skuId, warehouseId) with
    | none => exact h none l hl (by simp)
    | some row =>
      obtain ⟨hrow, hp⟩ := (find?_eq_some_iff hd.shelf.pairs).mp hfind
      dsimp only
      rw [bind_eq, bind_assoc]
      refine outline_present (stable_true []) fun held l' hheld =>
        h (some held) l' ?_ fun _ => ⟨row, hrow, hp⟩
      rcases hheld with ⟨-, rfl⟩ | ⟨-, rfl⟩
      · exact hl
      · intro held' hheld' r hr hid
        rcases List.mem_cons.mp hheld' with rfl | hheld'
        · rw [hd.shelf.ids.eq_of_key_eq hrow hr hid]
          exact .refl r
        · exact hl held' hheld' r hr hid
  · refine ⟨_, hd', stable_posted [], ?_⟩
    cases (id d').inventories.find? fun r => r.pair = (skuId, warehouseId) with
    | none => exact hposted none l
    | some row =>
      dsimp only
      rw [bind_eq, bind_assoc]
      exact outline_present (stable_posted []) fun held l' _ => hposted (some held) l'

lemma outline_planTaking_posted {warehouseId : ℕ} (lines : List StockTakingLine)
    {k : List (ℕ × ℤ) → Work α}
    (h : ∀ planned l', PostOutline d x (k planned) l' id [] fun d' => TakingPosted d d' x) :
    PostOutline d x ((planTaking warehouseId lines).bind k) l id []
      fun d' => TakingPosted d d' x := by
  induction lines generalizing l k with
  | nil => exact h [] l
  | cons line rest ih =>
    rw [planTaking, bind_eq, bind_assoc]
    cases line.countedQty with
    | none => trivial
    | some counted =>
      simp only [orRaise, pure_eq, Prog.bind]
      rw [bind_eq, bind_assoc]
      refine outline_getPair_posted fun o l' => ?_
      cases o with
      | none => trivial
      | some balance =>
        simp only [bind_eq, Prog.bind]
        split_ifs
        · trivial
        · rw [bind_assoc]
          exact ih fun planned l'' => h _ l''

/-- The check of a posting reads the lines, and finds their balances or fails. -/
lemma outline_planTaking {warehouseId : ℕ} (hd : Counting d) (lines : List StockTakingLine)
    {k : List (ℕ × ℤ) → Work α} (hl : SessionAsOf d l)
    (h : ∀ l', SessionAsOf d l' → (∀ line ∈ lines, Stocks d line.skuId warehouseId) →
      PostOutline d x (k (lines.map fun line => (line.skuId, line.difference))) l' id []
        fun _ => True)
    (hposted : ∀ planned l', PostOutline d x (k planned) l' id []
      fun d' => TakingPosted d d' x) :
    PostOutline d x ((planTaking warehouseId lines).bind k) l id [] fun _ => True := by
  induction lines generalizing l k with
  | nil => exact h l hl (by simp)
  | cons line rest ih =>
    rw [planTaking, bind_eq, bind_assoc]
    cases hcounted : line.countedQty with
    | none => trivial
    | some counted =>
      have hdifference : takingDelta line.bookQty counted = line.difference := by
        simp [StockTakingLine.difference, hcounted]
      simp only [orRaise, pure_eq, Prog.bind, hdifference]
      rw [bind_eq, bind_assoc]
      refine outline_getPair hd hl (fun o l' hl' hstocks => ?_) fun o l' => ?_
      · cases o with
        | none => trivial
        | some balance =>
          simp only [bind_eq, Prog.bind]
          split_ifs
          · trivial
          · rw [bind_assoc]
            refine ih hl' (fun l'' hl'' hrest => h l'' hl'' ?_) fun planned l'' => hposted _ l''
            rw [List.forall_mem_cons]
            exact ⟨hstocks rfl, hrest⟩
      · cases o with
        | none => trivial
        | some balance =>
          simp only [bind_eq, Prog.bind]
          split_ifs
          · trivial
          · rw [bind_assoc]
            exact outline_planTaking_posted rest fun planned l'' => hposted _ l''

/-- A stock taking that is posted is hit by no update of a draft. -/
lemma TakingPosted.no_hit (h : TakingPosted d d' x) (ts : List RowKey) :
    (d'.takings.filter fun t => decide (RowKey.taking t.id ∈ ts) &&
      (decide (t.id = x.id) && decide (t.status = .draft))) = [] := by
  refine List.filter_eq_nil_iff.mpr fun t ht hhit => ?_
  simp only [Bool.and_eq_true, decide_eq_true_eq] at hhit
  have hposted := h.status ht hhit.2.1
  rw [hhit.2.2] at hposted
  cases hposted

/-- The update of a posted stock taking finds nothing. -/
lemma outline_transition_posted {k : Bool → Work α}
    (h : ∀ c ls P, PostOutline d x (k false) l c ls P) :
    PostOutline d x ((transitionTaking x.id .draft .posted).bind k) l id []
      fun d' => TakingPosted d d' x := by
  rw [transitionTaking]
  refine Outline.update fun d' _ hd' => ⟨_, hd', stable_posted [], fun d'' _ hd'' _ => ?_⟩
  refine ⟨fun _ => True, trivial, stable_true _, ?_⟩
  simp only [id, hd''.no_hit, List.length_nil, zero_ne_one, decide_false]
  exact h _ _ _

/-- The update takes the row of a draft, and knows the data from then on. -/
lemma outline_transition {k : Bool → Work α} (hd : Counting d) (hx : x ∈ d.takings)
    (hdraft : x.status = .draft)
    (h : ∀ c, c d = d.marked x → PostOutline d x (k true) l c [.taking x.id] (· = d))
    (hno : ∀ c ls P, PostOutline d x (k false) l c ls P) :
    PostOutline d x ((transitionTaking x.id .draft .posted).bind k) l id [] fun _ => True := by
  obtain ⟨hhit, hmap⟩ := hit_draft hd hx hdraft
  rw [transitionTaking]
  refine Outline.update ?_
  rintro d' (rfl | hd') -
  · refine ⟨fun _ => True, trivial, stable_true [], ?_⟩
    simp only [id, hhit, List.map_cons, List.map_nil, locked_iff]
    rintro d'' (rfl | hd'') - -
    · refine ⟨(· = d''), rfl, stable_locked List.mem_cons_self, ?_⟩
      simp only [hhit, List.length_singleton, decide_true]
      apply h
      simp only [Function.comp_apply, id, hmap]
      rfl
    · refine ⟨fun _ => True, trivial, stable_true _, ?_⟩
      have hnone := hd''.no_hit [.taking x.id]
      simp only [locked_iff] at hnone
      simp only [hnone, List.length_nil, zero_ne_one, decide_false]
      exact hno _ _ _
  · refine ⟨_, hd', stable_posted [], fun d'' _ hd'' _ => ?_⟩
    refine ⟨fun _ => True, trivial, stable_true _, ?_⟩
    simp only [id, hd''.no_hit, List.length_nil, zero_ne_one, decide_false]
    exact hno _ _ _

lemma plain_postDifferences (row : StockTaking) (count : ℕ) (planned : List (ℕ × ℤ)) :
    (postDifferences row count planned).Plain Session.Drawn := by
  refine (plainRules.forEach (K := []) fun p _ => ?_).bind fun _ =>
    (Plain.update _ _ _).bind fun _ => plainRules.takingView (K := []) _
  dsimp only
  split_ifs
  · exact .ret ()
  · exact (plainRules.adjust (K := []) _).bind fun _ => .ret ()

/-- A posting commits nothing, or all of it while it has the row of the stock taking. -/
theorem outline_postTaking (hd : Counting d) (hx : x ∈ d.takings) (hl : l.seen = []) :
    PostOutline d x (postTaking x.id) l id [] fun _ => True := by
  rw [postTaking_eq, getTaking, bind_eq, bind_eq, bind_assoc]
  refine Outline.select fun d₁ hd₁ _ => ⟨fun _ => True, trivial, stable_true [], ?_⟩
  cases hfind : (id d₁).takings.find? fun t => t.id = x.id with
  | none => trivial
  | some row =>
    simp only [orRaise, pure_eq, Prog.bind]
    split_ifs with hdraft
    · trivial
    rw [not_not] at hdraft
    -- a draft is the stock taking as it was
    have hrow := List.mem_of_find?_eq_some hfind
    have hid : row.id = x.id := by simpa using List.find?_some hfind
    obtain rfl : row = x := by
      rcases hd₁ with rfl | hd₁
      · exact hd.takings.eq_of_key_eq hrow hx hid
      · have hposted := hd₁.status hrow hid
        rw [hdraft] at hposted
        cases hposted
    refine Outline.select fun d₂ hd₂ _ => ⟨fun _ => True, trivial, stable_true [], ?_⟩
    have hlines : ((id d₂).takingLines.filter fun t => t.takingId = row.id).insertionSort
        (fun a b => a.id ≤ b.id) = countedLines d row := by
      rcases hd₂ with rfl | hd₂
      · rfl
      · exact hd₂.countedLines_eq
    rw [hlines]
    split_ifs
    · trivial
    refine outline_planTaking hd _ (by simp [SessionAsOf, hl]) (fun l' hl' hstocks => ?_)
      fun planned l' => outline_transition_posted fun _ _ _ => trivial
    refine outline_transition hd hx hdraft (fun c hc => ?_) fun _ _ _ => trivial
    rw [Bool.not_true, if_neg Bool.false_ne_true]
    refine Outline.alone (plain_postDifferences _ _ _)
      (fun ls hsub => stable_locked (hsub List.mem_cons_self)) ?_
    rw [hc]
    have hready : Ready ⟨l', d.marked row, []⟩ := ⟨hd.shelf, hl'⟩
    refine wp_postDifferences hd hdraft hready rfl (fun p hp => ?_)
      (fun _ _ _ _ hposted ls hsub => .inr ⟨hsub List.mem_cons_self, rfl, hposted⟩)
      fun _ _ _ => trivial
    obtain ⟨line, hline, rfl⟩ := List.mem_map.mp hp
    exact hstocks line hline

end concurrent

/-! ### Runs -/

/-- Requests that post one stock taking at once. -/
def postings {n : ℕ} (d : Db) (takingId : ℕ) (l : Fin n → Session) :
    World (Fin n) Session Db RowKey ServiceError (StockTaking × List StockTakingLine) :=
  ⟨d, fun i => Tx.start (postTaking takingId) (l i)⟩

section runs

variable {d : Db} {x : StockTaking} {n : ℕ} {l : Fin n → Session}

lemma postings_follow (hd : Counting d) (hx : x ∈ d.takings) (hl : ∀ i, (l i).seen = []) :
    World.Follows (PostingState d x) (PostingCommits d x) (fun _ _ => True) (postings d x.id l) :=
  .start (.inl rfl) fun i => outline_postTaking hd hx (hl i)

lemma PostingCommits.state (ls : List RowKey) (d' d'' : Db) (h : PostingState d x d')
    (hcommits : PostingCommits d x ls d' d'') : PostingState d x d'' := by
  rcases hcommits with rfl | ⟨-, -, hposted⟩
  · exact h
  · exact .inr hposted

/-- Once the stock taking is posted, nothing more is committed. -/
lemma posted_stays {w : World (Fin n) Session Db RowKey ServiceError
      (StockTaking × List StockTakingLine)}
    (hw : World.Follows (PostingState d x) (PostingCommits d x) (fun _ _ => True) w)
    (hx : x ∈ d.takings) (hposted : TakingPosted d w.committed x) (turns : List (Fin n)) :
    (w.run turns).committed = w.committed := by
  have hallowed := hw.allowed PostingCommits.state (World.allFind_true w turns)
  generalize (w.run turns).committed = d' at hallowed
  induction hallowed with
  | refl => rfl
  | tail _ hstep ih =>
    obtain ⟨ls, rfl | ⟨-, hsame, -⟩⟩ := hstep
    · exact ih
    · exact absurd (ih.symm.trans hsame) (hposted.ne hx)

/-- **Posting a stock taking.** Alone, a request posts all differences if its check passes and
nothing was deleted, and fails and changes nothing otherwise. Of several requests at once, whatever
the order of their turns, one at most changes the data, and the differences are posted once; if the
check passes and nothing was deleted, they are posted when all requests have come to their end. -/
theorem postTaking_posts (hd : Counting d) (hx : x ∈ d.takings) (hl : ∀ i, (l i).seen = [])
    (turns : List (Fin n)) :
    (∀ i, Postable d x → Kept d x → ∃ view s',
      (postTaking x.id).exec ⟨l i, d, []⟩ = (.ok view, s') ∧ TakingPosted d s'.data x) ∧
    (∀ i, ¬ (Postable d x ∧ Kept d x) → (∃ e s',
      (postTaking x.id).exec ⟨l i, d, []⟩ = (.error e, s')) ∧
        (postTaking x.id).commit (l i) d = d) ∧
    (((postings d x.id l).run turns).committed = d ∨
      TakingPosted d ((postings d x.id l).run turns).committed x) ∧
    (Postable d x → Kept d x → n ≠ 0 → (∀ i, (((postings d x.id l).run turns).tx i).finished) →
      TakingPosted d ((postings d x.id l).run turns).committed x) ∧
    ∀ d', TakingPosted d d' x → ∀ line ∈ countedLines d x, ∀ counted, line.countedQty = some counted →
      balanceAt d' .available line.skuId x.warehouseId =
        balanceAt d .available line.skuId x.warehouseId + (counted - line.bookQty) := by
  have hfollows := postings_follow hd hx hl
  refine ⟨fun i hpostable hkept => ?_, fun i hno => ?_, ?_, fun hpostable hkept hn hfin => ?_,
    fun d' hposted line hline counted hcounted => ?_⟩
  · have h : (postTaking x.id).wp (fun _ s' => TakingPosted d s'.data x) (fun _ _ => False)
        ⟨l i, d, []⟩ :=
      wp_postTaking hd hx (hl i) (fun _ _ _ _ h => h) fun hno => absurd ⟨hpostable, hkept⟩ hno
    unfold Prog.wp at h
    cases hexec : (postTaking x.id).exec ⟨l i, d, []⟩ with
    | mk r s' =>
      rw [hexec] at h
      cases r with
      | ok view => exact ⟨view, s', rfl, h⟩
      | error e => exact h.elim
  · have h : (postTaking x.id).wp (fun _ _ => False) (fun _ _ => True) ⟨l i, d, []⟩ :=
      wp_postTaking hd hx (hl i) (fun hp hk => absurd ⟨hp, hk⟩ hno) fun _ _ _ => trivial
    unfold Prog.wp at h
    unfold Prog.commit
    cases hexec : (postTaking x.id).exec ⟨l i, d, []⟩ with
    | mk r s' =>
      rw [hexec] at h
      cases r with
      | ok view => exact h.elim
      | error e => exact ⟨⟨e, s', rfl⟩, rfl⟩
  · exact (hfollows.run PostingCommits.state (World.allFind_true _ turns)).invariant
  · have hstart : World.Untouched d (postings d x.id l).tx (postings d x.id l) :=
      ⟨rfl, fun _ => .refl, fun _ h => by cases h⟩
    rcases hstart.run_or turns with hsame | ⟨before, after, rfl, hchange⟩
    · -- whoever has finished has posted
      have i : Fin n := ⟨0, Nat.pos_of_ne_zero hn⟩
      have hposted := Tx.settle_of_wp (d := d) (R := fun d' => TakingPosted d d' x) <|
        wp_postTaking hd hx (hl i) (fun _ _ _ _ h => h)
          fun hno => absurd ⟨hpostable, hkept⟩ hno
      exact absurd (hsame.settled i (hfin i)) (hposted.ne hx)
    · have hbefore := hfollows.run PostingCommits.state (World.allFind_true _ before)
      rcases hbefore.invariant with hsame | hposted
      · exact absurd hsame hchange
      · rw [World.run_append, posted_stays hbefore hx hposted]
        exact hposted
  · have hmem : (line.skuId, line.difference) ∈ differences d x := List.mem_map_of_mem hline
    have hone := total_ite_key (hd.keyed_differences x) hmem Prod.snd
    rw [hposted.balance, postedTo, if_pos ⟨rfl, rfl⟩]
    simp only [hone, StockTakingLine.difference, takingDelta, hcounted, Option.getD_some]

end runs

/-! ### A stock taking of two SKUs -/

/-- Three pieces of one SKU are missing, and two of another were found. -/
def countedTaking : StockTaking := { id := 7, warehouseId := 1, status := .draft }

/-- Goods have come in since the books were frozen. -/
def counted : Db where
  warehouses := [{ id := 1 }]
  inventories := [{ id := 3, skuId := 5, warehouseId := 1, available := 10, occupied := 2 },
    { id := 4, skuId := 6, warehouseId := 1, available := 4 }]
  takings := [countedTaking]
  takingLines := [⟨8, 7, 5, 8, some 5⟩, ⟨9, 7, 6, 4, some 6⟩]
  skus := [{ id := 5 }, { id := 6 }]

/-- The requests take turns until the first one goes on to its end. -/
def postingTurns : List (Fin 2) :=
  let first : Fin 2 := ⟨0, Nat.two_pos⟩
  let second : Fin 2 := ⟨1, Nat.one_lt_two⟩
  [first, second, first, second, first, second, first, second] ++ List.replicate 60 first ++
    List.replicate 20 second

/-- The workers of two requests. -/
def twoPosters (i : Fin 2) : Session := { ids := fun n => 100 + 2 * n + i }

theorem postTaking_posts_counted : TakingPosted counted
    ((postings counted countedTaking.id twoPosters).run postingTurns).committed countedTaking := by
  have hd : Counting counted := by
    refine ⟨⟨?_, ?_, ?_, ?_, ?_, ?_⟩, ?_, ?_⟩
    all_goals decide
  have hx : countedTaking ∈ counted.takings := List.mem_singleton_self _
  have hpostable : Postable counted countedTaking := by
    refine ⟨rfl, ?_, ?_⟩
    all_goals decide +kernel
  have hkept : Kept counted countedTaking := by
    refine ⟨?_, ?_⟩
    · exact ⟨{ id := 1 }, by decide, rfl, rfl⟩
    · unfold SkuKept
      decide +kernel
  have hfin : ∀ i, (((postings counted countedTaking.id twoPosters).run postingTurns).tx
      i).finished = true := by
    decide +kernel
  exact (postTaking_posts hd hx (fun _ => rfl) postingTurns).2.2.2.1 hpostable hkept (by decide) hfin

/-- Five pieces of a SKU were found in a warehouse without stock, which was then deleted. -/
def deletedMeanwhile : Db where
  warehouses := [{ id := 1, deleted := true }]
  inventories := [{ id := 3, skuId := 5, warehouseId := 1 }]
  takings := [countedTaking]
  takingLines := [⟨8, 7, 5, 0, some 5⟩]
  skus := [{ id := 5 }]

/-- Six pieces of ten are missing. -/
def soldMeanwhile : Db where
  warehouses := [{ id := 1 }]
  inventories := [{ id := 3, skuId := 5, warehouseId := 1, available := 10 }]
  takings := [countedTaking]
  takingLines := [⟨8, 7, 5, 10, some 4⟩]
  skus := [{ id := 5 }]

/-- The stock taking is posted while somebody takes eight pieces. -/
def raceForStock (turns : List (Fin 2)) : World (Fin 2) Session Db RowKey ServiceError Unit :=
  (World.mk soldMeanwhile fun i => Tx.start
    (if i.val = 0 then StockCall.postTaking 7 else .adjust ⟨5, 1, .adjust, -8, "", none⟩).work
    (twoPosters i)).run turns

/-- In a deleted warehouse the adjustment fails after the check has passed. So it does where the
stock goes away between the two. -/
theorem adjust_fails_after_check :
    ((planTaking 1 (countedLines deletedMeanwhile countedTaking)).exec
        ⟨twoPosters 0, deletedMeanwhile, []⟩).1 = .ok [(5, 5)] ∧
      ((postTaking 7).exec ⟨twoPosters 0, deletedMeanwhile, []⟩).1 = .error .notFound ∧
      ((raceForStock (List.replicate 10 0)).tx 0).locks = [.taking 7] ∧
      ((raceForStock (List.replicate 10 0 ++ List.replicate 40 1 ++ List.replicate 60 0)).tx
        0).finished ∧
      (raceForStock (List.replicate 10 0 ++ List.replicate 40 1 ++
        List.replicate 60 0)).committed.takings = [countedTaking] := by
  decide +kernel

end CrossPilot
