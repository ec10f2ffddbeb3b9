import CrossPilot.Inventory.Replenishment
import CrossPilot.Lib.Optional
import CrossPilot.Order.Sales

/-!
# The suggestions for all platforms

A SKU has a safety stock on each platform where it is sold, and a suggestion for each. Every
suggestion takes the whole stock of the SKU for its own platform. So each platform is covered as
long as the others take nothing from the stock, and together they are covered by the suggestions and
the stock, counted once for each platform (`replenishments_cover`). Counted once for all of them,
the stock is not enough (`stock_shared`).
-/

namespace CrossPilot

/-! ### The service -/

/-- A row of `platform_safety_stock`, within the bounds of `SafetyStockWrite`. -/
structure PlatformSafetyStock where
  id : ℕ
  skuId : ℕ
  platformCode : String
  quantity : ℕ
  leadTimeDays : ℕ
  coverDays : ℕ
  deleted : Bool := false
  quantity_le : quantity ≤ 1000000
  leadTimeDays_le : leadTimeDays ≤ 3650
  coverDays_le : coverDays ≤ 3650

/-- `ReplenishmentView`. -/
structure ReplenishmentView where
  skuId : ℕ
  platformCode : String
  safety : ℕ
  leadTimeDays : ℕ
  coverDays : ℕ
  sold : ℤ
  windowDays : ℤ
  movable : ℤ
  inTransit : ℤ
  dailySales : ℚ
  suggestedQty : ℤ
  orderOn : Option CalendarDate

/-- What the service raises, or the engine below it. -/
inductive ReplenishmentError
  | service (e : ServiceError)
  | engine (e : EngineError)

/-- `list_active`: the rows of the SKUs that there are, in the order of their ids. -/
def listActive (stocks : List PlatformSafetyStock) (d : Db) : List PlatformSafetyStock :=
  (stocks.filter fun row => !row.deleted && d.skus.any fun sku =>
    sku.id = row.skuId && !sku.deleted).insertionSort fun a b => a.id ≤ b.id

/-- A sum of integers in the database, which has 64 bits. -/
def bigint (n : ℤ) : ℤ := n.bmod (2 ^ 64)

/-- The first of `totals_by_sku`, zero for a SKU without balances. -/
def movableOf (d : Db) (skuId : ℕ) : ℤ :=
  bigint ((d.inventories.filter fun r => r.skuId = skuId).map fun r => r.available - r.occupied).sum

/-- The second of `totals_by_sku`. -/
def inTransitOf (d : Db) (skuId : ℕ) : ℤ :=
  bigint ((d.inventories.filter fun r => r.skuId = skuId).map Inventory.inTransit).sum

/-- `datetime.min`. -/
def firstInstant : Instant := -719162 * 86400000000

/-- A time some days earlier, as `now - timedelta(days=days)`. -/
def daysBefore (now : Instant) (days : ℤ) : Except EngineError Instant :=
  if 999999999 < |days| then .error (.overflow "days must have magnitude <= 999999999")
  else if now - days * 86400000000 < firstInstant then .error (.overflow "date value out of range")
  else .ok (now - days * 86400000000)

/-- The view for a row. -/
def suggestFor (d : Db) (sales : ℕ → String → ℤ) (windowDays : ℤ) (today : CalendarDate)
    (row : PlatformSafetyStock) : Except ReplenishmentError ReplenishmentView :=
  let sold := sales row.skuId row.platformCode
  let movable := movableOf d row.skuId
  let transit := inTransitOf d row.skuId
  match suggestReplenishment sold windowDays row.leadTimeDays row.coverDays row.quantity movable
    transit today with
  | .error e => .error (.engine e)
  | .ok suggestion => .ok {
      skuId := row.skuId
      platformCode := row.platformCode
      safety := row.quantity
      leadTimeDays := row.leadTimeDays
      coverDays := row.coverDays
      sold := sold
      windowDays := windowDays
      movable := movable
      inTransit := transit
      dailySales := suggestion.dailySales
      suggestedQty := suggestion.suggestedQty
      orderOn := suggestion.orderOn }

/-- `replenishments`. The clock is read twice, for the window and for the date. -/
def replenishments (stocks : List PlatformSafetyStock) (createdAt : ℕ → Instant) (now : Instant)
    (today : CalendarDate) (windowDays : ℤ) (d : Db) :
    Except ReplenishmentError (List ReplenishmentView) :=
  if windowDays < 1 then .error (.service (.paramInvalid "统计窗口至少 1 天"))
  else if listActive stocks d = [] then .ok []
  else
    match daysBefore now windowDays with
    | .error e => .error (.engine e)
    | .ok since =>
      let sales := fun skuId platform => bigint (salesSince createdAt since d skuId platform)
      (listActive stocks d).mapM (suggestFor d sales windowDays today)

/-! ### One platform -/

/-- What is needed on the platform of a view. -/
def ReplenishmentView.demand (v : ReplenishmentView) : ℚ :=
  v.sold * (v.leadTimeDays + v.coverDays) / v.windowDays + v.safety

/-- The engine needs a little less than is needed at most, and rounds up. -/
lemma le_ceil_neededFor {sold window days safety : ℕ} (hw : 0 < window)
    (h : sold * days + safety * window ≤ 10 ^ 26) :
    (sold * days / window + safety : ℚ) ≤ ⌈neededFor sold window days safety⌉ := by
  have hw' : (0 : ℚ) < window := by exact_mod_cast hw
  have hclose := abs_neededFor_sub_lt hw h
  set z := neededFor sold window days safety
  have hneed : (sold * days / window + safety : ℚ) * window =
      ((sold * days + safety * window : ℕ) : ℤ) := by
    rw [add_mul, div_mul_cancel₀ _ hw'.ne']
    push_cast
    rfl
  by_contra hlt
  rw [not_le, ← mul_lt_mul_iff_left₀ hw', hneed] at hlt
  -- whole numbers of pieces and days are apart
  have hgap : ⌈z⌉ * (window : ℤ) + 1 ≤ ((sold * days + safety * window : ℕ) : ℤ) := by
    exact_mod_cast hlt
  have hgap' : (⌈z⌉ : ℚ) * window + 1 ≤ (sold * days / window + safety : ℚ) * window := by
    rw [hneed]
    exact_mod_cast hgap
  have hceil : z * window ≤ ⌈z⌉ * window := mul_le_mul_of_nonneg_right (Int.le_ceil z) hw'.le
  have habs := (abs_le.mp (le_refl |z - (sold * days / window + safety : ℚ)|)).1
  have hscaled := mul_le_mul_of_nonneg_right habs hw'.le
  linarith

/-- The suggested quantity of a suggestion that is made. -/
lemma suggestedQty_eq {sold window lead cover safety movable inTransit : ℕ} (hw : 0 < window)
    (h : sold * (lead + cover) + safety * window ≤ 10 ^ 26) {today : CalendarDate}
    {s : Replenishment}
    (hs : suggestReplenishment sold window lead cover safety movable inTransit today = .ok s) :
    s.suggestedQty =
      max (⌈neededFor sold window (lead + cover) safety⌉ - movable - inTransit) 0 := by
  rw [suggestReplenishment_eq hw h] at hs
  split at hs
  · cases hs
    rfl
  · split at hs
    · cases hs
      rfl
    · split at hs
      · cases hs
      · cases hs
        rfl

/-- A suggestion that is made covers what is needed, by the whole stock. -/
lemma needed_le {sold window movable inTransit : ℤ} {lead cover safety : ℕ} {today : CalendarDate}
    {s : Replenishment}
    (hs : suggestReplenishment sold window lead cover safety movable inTransit today = .ok s)
    (h : sold * (lead + cover) + safety * window ≤ 10 ^ 26) :
    (sold * (lead + cover) / window + safety : ℚ) ≤ movable + inTransit + s.suggestedQty := by
  have hguards : 0 < window ∧ 0 ≤ sold ∧ 0 ≤ movable ∧ 0 ≤ inTransit := by
    rw [suggestReplenishment] at hs
    split_ifs at hs with hw hneg
    all_goals omega
  obtain ⟨hw, hsold, hmovable, htransit⟩ := hguards
  lift window to ℕ using hw.le
  lift sold to ℕ using hsold
  lift movable to ℕ using hmovable
  lift inTransit to ℕ using htransit
  have hw' : 0 < window := by exact_mod_cast hw
  have hbound : sold * (lead + cover) + safety * window ≤ 10 ^ 26 := by exact_mod_cast h
  have hneed := le_ceil_neededFor hw' hbound
  have hqty : ⌈neededFor sold window (lead + cover) safety⌉ ≤
      movable + inTransit + s.suggestedQty := by
    rw [suggestedQty_eq hw' hbound hs]
    omega
  have hcast : (⌈neededFor sold window (lead + cover) safety⌉ : ℚ) ≤
      movable + inTransit + s.suggestedQty := by
    exact_mod_cast hqty
  push_cast at hneed ⊢
  linarith

/-- A view shows its row, and what the database says about it. -/
structure Reports (d : Db) (sales : ℕ → String → ℤ) (windowDays : ℤ) (row : PlatformSafetyStock)
    (v : ReplenishmentView) : Prop where
  skuId : v.skuId = row.skuId
  platformCode : v.platformCode = row.platformCode
  safety : v.safety = row.quantity
  leadTimeDays : v.leadTimeDays = row.leadTimeDays
  coverDays : v.coverDays = row.coverDays
  sold : v.sold = sales row.skuId row.platformCode
  windowDays : v.windowDays = windowDays
  movable : v.movable = movableOf d row.skuId
  inTransit : v.inTransit = inTransitOf d row.skuId

/-- The sums of the database, and the numbers that a row may have, are far within the bound. -/
lemma needed_bound {sold windowDays : ℤ} (hwindow : windowDays ≤ 999999999)
    (row : PlatformSafetyStock) :
    bigint sold * (row.leadTimeDays + row.coverDays) + row.quantity * windowDays ≤ 10 ^ 26 := by
  have hsold : bigint sold < 2 ^ 63 := Int.bmod_lt (by norm_num)
  have hquantity := row.quantity_le
  have hlead := row.leadTimeDays_le
  have hcover := row.coverDays_le
  have hdays : bigint sold * (row.leadTimeDays + row.coverDays) ≤ 2 ^ 63 * 7300 := by
    refine mul_le_mul hsold.le ?_ (by omega) (by norm_num)
    omega
  have hsafety : (row.quantity : ℤ) * windowDays ≤ 1000000 * 999999999 := by
    rcases le_or_gt 0 windowDays with hpos | hneg
    · exact mul_le_mul (by omega) hwindow hpos (by norm_num)
    · nlinarith
  linarith

lemma reports_of_suggestFor {d : Db} {sales : ℕ → String → ℤ} {windowDays : ℤ}
    {today : CalendarDate} {row : PlatformSafetyStock} {v : ReplenishmentView}
    (h : suggestFor d sales windowDays today row = .ok v) :
    Reports d sales windowDays row v ∧ ∃ s, v.suggestedQty = s.suggestedQty ∧
      suggestReplenishment v.sold v.windowDays v.leadTimeDays v.coverDays v.safety v.movable
        v.inTransit today = .ok s := by
  rw [suggestFor] at h
  split at h
  · cases h
  · rename_i s hs
    cases h
    exact ⟨⟨rfl, rfl, rfl, rfl, rfl, rfl, rfl, rfl, rfl⟩, s, rfl, hs⟩

/-! ### All platforms -/

/-- The stock of a SKU, and what is on its way. -/
def supplyOf (d : Db) (skuId : ℕ) : ℤ := movableOf d skuId + inTransitOf d skuId

/-- What each view lacks without the stock is covered by what it suggests. -/
lemma sum_demand_le {views : List ReplenishmentView} {stock : ℤ}
    (h : ∀ v ∈ views, v.demand ≤ stock + v.suggestedQty) :
    (views.map ReplenishmentView.demand).sum ≤
      views.length * stock + (views.map fun v => (v.suggestedQty : ℚ)).sum := by
  induction views with
  | nil => simp
  | cons v rest ih =>
    have hfirst := h v List.mem_cons_self
    have hrest := ih fun w hw => h w (List.mem_cons_of_mem v hw)
    simp only [List.map_cons, List.sum_cons, List.length_cons]
    push_cast
    linarith

/-- Every configured row has its view. On each platform of a SKU the whole stock and the suggestion
cover what is needed, so that all suggestions together and the stock, counted once for each
platform, cover what is needed on all of them. -/
theorem replenishments_cover {stocks : List PlatformSafetyStock} {createdAt : ℕ → Instant}
    {now : Instant} {today : CalendarDate} {windowDays : ℤ} {d : Db}
    {views : List ReplenishmentView}
    (h : replenishments stocks createdAt now today windowDays d = .ok views) :
    (∃ since, List.Forall₂ (Reports d (fun skuId platform =>
        bigint (salesSince createdAt since d skuId platform)) windowDays)
      (listActive stocks d) views) ∧
    ∀ skuId, let mine := views.filter fun v => v.skuId = skuId
      (∀ v ∈ mine, v.demand ≤ supplyOf d skuId + v.suggestedQty) ∧
      (mine.map ReplenishmentView.demand).sum ≤
        mine.length * supplyOf d skuId + (mine.map fun v => (v.suggestedQty : ℚ)).sum := by
  rw [replenishments] at h
  split_ifs at h with hwindow hnone
  · cases h
    rw [hnone]
    exact ⟨⟨0, .nil⟩, by simp⟩
  split at h
  · cases h
  rename_i since hsince
  have hdays : windowDays ≤ 999999999 := by
    rw [daysBefore] at hsince
    split_ifs at hsince with hlarge hfirst
    exact (le_abs_self windowDays).trans (not_lt.mp hlarge)
  have hrows := Fallible.mapM_eq_ok_iff.mp h
  refine ⟨⟨since, hrows.imp fun row v hv => (reports_of_suggestFor hv).1⟩, fun skuId => ?_⟩
  have hcover : ∀ v ∈ views, v.demand ≤ supplyOf d v.skuId + v.suggestedQty := by
    intro v hv
    obtain ⟨row, -, hrow⟩ := Fallible.exists_of_mem h hv
    obtain ⟨hreports, s, hqty, hs⟩ := reports_of_suggestFor hrow
    have hneeded := needed_le hs (by
      rw [hreports.sold, hreports.leadTimeDays, hreports.coverDays, hreports.safety,
        hreports.windowDays]
      exact needed_bound hdays row)
    rw [ReplenishmentView.demand, supplyOf, hqty, hreports.skuId, ← hreports.movable,
      ← hreports.inTransit]
    push_cast
    exact hneeded
  have hmine : ∀ v ∈ views.filter fun v => v.skuId = skuId,
      v.demand ≤ supplyOf d skuId + v.suggestedQty := by
    intro v hv
    obtain ⟨hmem, hsku⟩ := List.mem_filter.mp hv
    rw [← of_decide_eq_true hsku]
    exact hcover v hmem
  exact ⟨hmine, sum_demand_le hmine⟩

/-! ### Two platforms -/

/-- Ten pieces in stock, and ten sold on each of two platforms. -/
def twoPlatforms : Db where
  skus := [{ id := 3 }]
  inventories := [{ id := 2, skuId := 3, warehouseId := 1, available := 10 }]
  orders := [
    { id := 6, shopId := 4, platformCode := "tiktok", platformOrderId := "A"
      idempotencyKey := "tiktok:4:A", platformStatus := "", unifiedStatus := .paid
      currency := "USD" },
    { id := 7, shopId := 5, platformCode := "shopee", platformOrderId := "B"
      idempotencyKey := "shopee:5:B", platformStatus := "", unifiedStatus := .paid
      currency := "USD" }]
  items := [
    ⟨8, 6, some 3, "S", "", "", 10, 0, "USD"⟩,
    ⟨9, 7, some 3, "S", "", "", 10, 0, "USD"⟩]

/-- Both are to be covered for ten days. -/
def twoRows : List PlatformSafetyStock := [
  { id := 10, skuId := 3, platformCode := "tiktok", quantity := 0, leadTimeDays := 4
    coverDays := 6, quantity_le := by decide, leadTimeDays_le := by decide
    coverDays_le := by decide },
  { id := 11, skuId := 3, platformCode := "shopee", quantity := 0, leadTimeDays := 4
    coverDays := 6, quantity_le := by decide, leadTimeDays_le := by decide
    coverDays_le := by decide }]

def newYearInstant : Instant := 1767225600000000

/-- The suggestions for a window of ten days. -/
def twoViews : Except ReplenishmentError (List ReplenishmentView) :=
  replenishments twoRows (fun _ => newYearInstant) newYearInstant newYear 10 twoPlatforms

lemma twoViews_ok : ∃ views, twoViews = .ok views ∧
    views.map (fun v => (v.skuId, v.demand, v.suggestedQty)) = [(3, 10, 0), (3, 10, 0)] := by
  have hviews : twoViews.toOption.map (fun views =>
      views.map fun v => (v.skuId, v.demand, v.suggestedQty)) = some [(3, 10, 0), (3, 10, 0)] := by
    decide +kernel
  cases h : twoViews with
  | error e =>
    rw [h] at hviews
    cases hviews
  | ok views =>
    rw [h] at hviews
    exact ⟨views, rfl, Option.some.inj hviews⟩

theorem replenishments_cover_twoViews : ∃ views, twoViews = .ok views ∧
    let mine := views.filter fun v => v.skuId = 3
    (∀ v ∈ mine, v.demand ≤ supplyOf twoPlatforms 3 + v.suggestedQty) ∧
      (mine.map ReplenishmentView.demand).sum ≤
        mine.length * supplyOf twoPlatforms 3 + (mine.map fun v => (v.suggestedQty : ℚ)).sum := by
  obtain ⟨views, h, -⟩ := twoViews_ok
  exact ⟨views, h, (replenishments_cover h).2 3⟩

/-- Ten pieces are needed on each of two platforms, and none is suggested, for there are ten. -/
theorem stock_shared : ∃ views, twoViews = .ok views ∧ (∀ v ∈ views, v.skuId = 3) ∧
    ¬ (views.map ReplenishmentView.demand).sum ≤
      supplyOf twoPlatforms 3 + (views.map fun v => (v.suggestedQty : ℚ)).sum := by
  obtain ⟨views, h, hviews⟩ := twoViews_ok
  have hread : ∀ {β : Type} (f : ℕ × ℚ × ℤ → β),
      views.map (fun v => f (v.skuId, v.demand, v.suggestedQty)) =
        [(3, 10, 0), (3, 10, 0)].map f := by
    intro β f
    rw [← hviews, List.map_map]
    rfl
  have hsku : views.map ReplenishmentView.skuId = [3, 3] := hread fun x => x.1
  have hdemand : views.map ReplenishmentView.demand = [10, 10] := hread fun x => x.2.1
  have hqty : (views.map fun v => (v.suggestedQty : ℚ)) = [0, 0] := by
    simpa using hread fun x => (x.2.2 : ℚ)
  have hsupply : supplyOf twoPlatforms 3 = 10 := by decide +kernel
  refine ⟨views, h, fun v hv => ?_, ?_⟩
  · have hmem := List.mem_map_of_mem (f := ReplenishmentView.skuId) hv
    rw [hsku] at hmem
    simpa using hmem
  · rw [hdemand, hqty, hsupply]
    norm_num

end CrossPilot
