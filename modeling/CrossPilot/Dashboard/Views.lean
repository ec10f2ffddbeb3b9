import CrossPilot.Dashboard.Rollups
import CrossPilot.Lib.IsoTime

/-!
# What the dashboard shows

The rollups of a window are shown next to those of the window before it and of the same window a year
ago. A member who may not see costs is shown the same rows in the same order, with the profits, the
ads and the value of the stock left out. What is left out does not show in anything else
(`answers_eq`).
-/

namespace CrossPilot

open LandedCost Groups

namespace Dashboard

/-! ### Windows -/

def dayOf (year month day : ℕ) : Day := (IsoTime.toOrdinal year month day : ℤ) - 719163

/-- `_window`. -/
def checkedWindow (maxDays : ℤ) (start finish : Day) : Except ServiceError (Day × Day) :=
  if finish < start ∨ maxDays < finish - start + 1 then
    .error (.paramInvalid "日期区间无效或超过允许的天数")
  else .ok (start, finish)

/-- The same day a year ago. For the 29th of February it is the 28th. -/
def shiftYear (day : Day) : Except ServiceError Day :=
  let (year, month, dayOfMonth) := civil day
  let past := (year - 1).toNat
  if IsoTime.IsDate past month.toNat dayOfMonth.toNat then
    .ok (dayOf past month.toNat dayOfMonth.toNat)
  else if IsoTime.IsDate past 2 28 then .ok (dayOf past 2 28)
  else .error (.value "year 0 is out of range")

def previousWindow (start finish : Day) : Except ServiceError (Day × Day) :=
  let prevEnd := start - 1
  let prevStart := prevEnd - (finish - start)
  if prevStart < dayOf 1 1 1 then .error (.value "date value out of range")
  else .ok (prevStart, prevEnd)

def yearWindow (start finish : Day) : Except ServiceError (Day × Day) := do
  return (← shiftYear start, ← shiftYear finish)

/-- The Friday after the fourth Thursday of November. -/
def blackFriday (year : ℕ) : Day :=
  let nov1 := IsoTime.toOrdinal year 11 1
  dayOf year 11 1 + (3 - (IsoTime.weekday nov1 : ℤ)) % 7 + 21 + 1

structure PromoView where
  statDate : Day
  code : String
  deriving DecidableEq

def promosOf (year : ℕ) : List PromoView :=
  [⟨dayOf year 6 18, "PROMO_618"⟩, ⟨dayOf year 9 9, "PROMO_99"⟩, ⟨dayOf year 11 11, "PROMO_1111"⟩,
    ⟨dayOf year 12 12, "PROMO_1212"⟩, ⟨blackFriday year, "BLACK_FRIDAY"⟩,
    ⟨blackFriday year + 3, "CYBER_MONDAY"⟩]

def promoMarks (start finish : Day) : List PromoView :=
  let first := (civil start).1.toNat
  let last := (civil finish).1.toNat
  (List.range' first (last + 1 - first)).flatMap fun year =>
    (promosOf year).filter fun mark => start ≤ mark.statDate ∧ mark.statDate ≤ finish

/-! ### Figures -/

def changeRatio (current previous : Option ℚ) : Option ℚ :=
  current.bind fun current => previous.bind fun previous => ratio (current - previous) previous

def fulfillmentRate (onTime late : ℕ) : Option ℚ := ratio onTime (onTime + late : ℕ)

def returnRate (returns orders : ℕ) : Option ℚ := ratio returns orders

def turnoverDays (onHand soldQty : ℤ) (windowDays : ℤ) : Option ℚ :=
  if windowDays ≤ 0 then none else ratio (onHand * windowDays) soldQty

def percentText (value : Option ℚ) : Option String :=
  value.map fun share => moneyText (quantize (share * 100))

/-- `_shown`. -/
def shown (value : Option ℚ) (visible : Bool) : Option String :=
  if visible then value.map moneyText else none

/-- `_percent`. -/
def percent (value : Option ℚ) (visible : Bool := true) : Option String :=
  if visible then percentText value else none

def roiFormula : String := "净利 / (采购成本 + 头程物流分摊)"

def turnoverFormula : String := "在手数量 × 天数 / 区间销量"

/-! ### Views -/

structure MoneyChangeView where
  currency : String
  bookCurrency : String
  orderCount : ℕ
  gmv : String
  bookGmv : Option String
  netProfit : Option String
  bookNetProfit : Option String
  netMargin : Option String
  gmvChange : Option String
  gmvYoy : Option String
  profitChange : Option String
  profitYoy : Option String
  adSpend : Option String
  adSales : Option String
  acos : Option String
  roas : Option String
  profitRoi : Option String
  roiFormula : String
  adLossCount : ℕ
  deriving DecidableEq

structure DayPointView where
  statDate : Day
  platformCode : String
  currency : String
  bookCurrency : String
  orderCount : ℕ
  gmv : String
  bookGmv : Option String
  netProfit : Option String
  bookNetProfit : Option String
  deriving DecidableEq

structure OverviewView where
  orderCount : ℕ
  orderChange : Option String
  orderYoy : Option String
  onTimeRate : Option String
  returnRate : Option String
  currencies : List MoneyChangeView
  days : List DayPointView
  promos : List PromoView
  deriving DecidableEq

structure PlatformCompareView where
  platformCode : String
  siteCode : String
  currency : String
  bookCurrency : String
  orderCount : ℕ
  gmv : String
  bookGmv : Option String
  netProfit : Option String
  bookNetProfit : Option String
  onTimeRate : Option String
  returnRate : Option String
  deriving DecidableEq

structure TrendView where
  days : List DayPointView
  promos : List PromoView
  deriving DecidableEq

structure StaleAmountView where
  currency : String
  amount : Option String
  complete : Bool
  deriving DecidableEq

structure InventoryHealthView where
  asOf : Option Day
  onHandQty : ℤ
  stockoutSkuCount : ℕ
  belowSafeSkuCount : ℕ
  staleSkuCount : ℕ
  soldQty : ℤ
  turnoverDays : Option String
  turnoverFormula : String
  staleAmounts : List StaleAmountView
  deriving DecidableEq

structure AdsRoiView where
  currency : String
  adSpend : Option String
  adSales : Option String
  acos : Option String
  roas : Option String
  profitRoi : Option String
  roiFormula : String
  adLossCount : ℕ
  deriving DecidableEq

/-- The rollup of a currency, if the window has one. -/
def WindowSummary.currency (summary : WindowSummary) (code : String) : Option CurrencyRollup :=
  summary.currencies.find? fun item => item.currency = code

/-- `_money_change`. -/
def moneyChange (previous yoy : WindowSummary) (visible : Bool) (item : CurrencyRollup) :
    MoneyChangeView :=
  let before := previous.currency item.currency
  let lastYear := yoy.currency item.currency
  { currency := item.currency
    bookCurrency := item.bookCurrency
    orderCount := item.orderCount
    gmv := moneyText item.gmv
    bookGmv := shown item.bookGmv true
    netProfit := shown item.netProfit visible
    bookNetProfit := shown item.bookNetProfit visible
    netMargin := percent item.netMargin visible
    gmvChange := percent (changeRatio (some item.gmv) (before.map fun r => r.gmv))
    gmvYoy := percent (changeRatio (some item.gmv) (lastYear.map fun r => r.gmv))
    profitChange := percent (changeRatio item.netProfit (before.bind fun r => r.netProfit)) visible
    profitYoy := percent (changeRatio item.netProfit (lastYear.bind fun r => r.netProfit)) visible
    adSpend := shown item.adSpend visible
    adSales := shown item.adSales visible
    acos := percent item.acos visible
    roas := shown item.roas visible
    profitRoi := percent item.profitRoi visible
    roiFormula := roiFormula
    adLossCount := if visible then item.adLossCount else 0 }

/-- `_day_point`. -/
def dayPoint (visible : Bool) (item : DayRollup) : DayPointView where
  statDate := item.statDate
  platformCode := item.platformCode
  currency := item.currency
  bookCurrency := item.bookCurrency
  orderCount := item.orderCount
  gmv := moneyText item.gmv
  bookGmv := shown item.bookGmv true
  netProfit := shown item.netProfit visible
  bookNetProfit := shown item.bookNetProfit visible

/-- `_platform_view`. -/
def platformView (visible : Bool) (item : PlatformRollup) : PlatformCompareView where
  platformCode := item.platformCode
  siteCode := item.siteCode
  currency := item.currency
  bookCurrency := item.bookCurrency
  orderCount := item.orderCount
  gmv := moneyText item.gmv
  bookGmv := shown item.bookGmv true
  netProfit := shown item.netProfit visible
  bookNetProfit := shown item.bookNetProfit visible
  onTimeRate := percent (fulfillmentRate item.onTime item.late)
  returnRate := percent (returnRate item.returnCount item.orderCount)

/-- An entry of `ads_roi`. -/
def adsRoiView (visible : Bool) (item : CurrencyRollup) : AdsRoiView where
  currency := item.currency
  adSpend := shown item.adSpend visible
  adSales := shown item.adSales visible
  acos := percent item.acos visible
  roas := shown item.roas visible
  profitRoi := percent item.profitRoi visible
  roiFormula := roiFormula
  adLossCount := if visible then item.adLossCount else 0

/-! ### Answers -/

/-- The value of what does not sell, in one currency. -/
structure StaleAmount where
  currency : String
  amount : Option ℚ
  complete : Bool
  deriving DecidableEq

/-- The stock at the end of a day. -/
structure InventoryDaily where
  statDate : Day
  onHandQty : ℤ
  stockoutSkuCount : ℕ
  belowSafeSkuCount : ℕ
  staleSkuCount : ℕ
  staleAmounts : List StaleAmount
  deriving DecidableEq

/-- The tables that the dashboard reads. -/
structure DashboardDb where
  shop : Db
  shopDays : List ShopDay
  inventory : List InventoryDaily

/-- What may be asked of the dashboard. -/
structure Query where
  dateFrom : Day
  dateTo : Day
  shopId : Option ℕ := none
  platformCode : Option String := none

section answers

variable (maxDays : ℤ) (db : DashboardDb) (q : Query) (visible : Bool)

/-- `list_shop_days`. -/
def listShopDays (start finish : Day) : List ShopDay :=
  (db.shopDays.filter fun row => start ≤ row.statDate ∧ row.statDate ≤ finish ∧
      (∀ id ∈ q.shopId, row.shopId = id) ∧
      (q.platformCode.getD "" = "" ∨ q.platformCode = some row.platformCode)).insertionSort
    fun a b => toLex (a.statDate, a.shopId) ≤ toLex (b.statDate, b.shopId)

def overview : Except ServiceError OverviewView := do
  let (start, finish) ← checkedWindow maxDays q.dateFrom q.dateTo
  let before ← previousWindow start finish
  let lastYear ← yearWindow start finish
  let current := summarize (listShopDays db q start finish)
  let previous := summarize (listShopDays db q before.1 before.2)
  let yoy := summarize (listShopDays db q lastYear.1 lastYear.2)
  return {
    orderCount := current.orderCount
    orderChange := percent (changeRatio (some current.orderCount) (some previous.orderCount))
    orderYoy := percent (changeRatio (some current.orderCount) (some yoy.orderCount))
    onTimeRate := percent (fulfillmentRate current.onTime current.late)
    returnRate := percent (returnRate current.returns current.orderCount)
    currencies := current.currencies.map (moneyChange previous yoy visible)
    days := current.days.map (dayPoint visible)
    promos := promoMarks start finish }

def platforms : Except ServiceError (List PlatformCompareView) := do
  let (start, finish) ← checkedWindow maxDays q.dateFrom q.dateTo
  return (summarize (listShopDays db q start finish)).platforms.map (platformView visible)

def trends : Except ServiceError TrendView := do
  let (start, finish) ← checkedWindow maxDays q.dateFrom q.dateTo
  return {
    days := (summarize (listShopDays db q start finish)).days.map (dayPoint visible)
    promos := promoMarks start finish }

/-- `latest_inventory`. -/
def latestInventory (finish : Day) : Option InventoryDaily :=
  ((db.inventory.filter fun row => row.statDate ≤ finish).insertionSort
    fun a b => b.statDate ≤ a.statDate).head?

/-- `sold_qty`. -/
def soldQty (start finish : Day) : ℤ :=
  ((db.shop.items.filter fun item => item.skuId.isSome ∧
    db.shop.orders.any fun order => order.id = item.orderId ∧ order.unifiedStatus ∈ gmvStatuses ∧
      (order.paidAt.any fun paid => start ≤ utcDay paid ∧ utcDay paid ≤ finish)).map
    OrderItem.quantity).sum

def inventory : Except ServiceError InventoryHealthView := do
  let (start, finish) ← checkedWindow maxDays q.dateFrom q.dateTo
  let sold := soldQty db start finish
  match latestInventory db finish with
  | none => return ⟨none, 0, 0, 0, 0, sold, none, turnoverFormula, []⟩
  | some row => return {
      asOf := some row.statDate
      onHandQty := row.onHandQty
      stockoutSkuCount := row.stockoutSkuCount
      belowSafeSkuCount := row.belowSafeSkuCount
      staleSkuCount := row.staleSkuCount
      soldQty := sold
      turnoverDays := shown (turnoverDays row.onHandQty sold (finish - start + 1)) true
      turnoverFormula := turnoverFormula
      staleAmounts := row.staleAmounts.map fun item =>
        ⟨item.currency, shown item.amount visible, item.complete⟩ }

def adsRoi : Except ServiceError (List AdsRoiView) := do
  let (start, finish) ← checkedWindow maxDays q.dateFrom q.dateTo
  return ((summarize (listShopDays db q start finish)).currencies.filter fun item =>
    item.adSpend.isSome).map (adsRoiView visible)

end answers

/-! ### Costs left out -/

def CostLineTotal.hideCosts (line : CostLineTotal) : CostLineTotal :=
  { line with amount := line.amount.map fun _ => 0 }

/-- The day with zero for every figure of costs, where there is one. -/
def ShopDay.hideCosts (day : ShopDay) : ShopDay :=
  { day with
    netProfit := day.netProfit.map fun _ => 0
    bookNetProfit := day.bookNetProfit.map fun _ => 0
    adSpend := day.adSpend.map fun _ => 0
    adSales := day.adSales.map fun _ => 0
    adLossCount := 0
    lines := day.lines.map CostLineTotal.hideCosts }

def InventoryDaily.hideCosts (row : InventoryDaily) : InventoryDaily :=
  { row with staleAmounts := row.staleAmounts.map fun item =>
      { item with amount := item.amount.map fun _ => 0 } }

def DashboardDb.hideCosts (db : DashboardDb) : DashboardDb :=
  { db with
    shopDays := db.shopDays.map ShopDay.hideCosts
    inventory := db.inventory.map InventoryDaily.hideCosts }

/-- The tables differ in figures of costs at most. -/
def SameButCosts (db db' : DashboardDb) : Prop := db.hideCosts = db'.hideCosts

section hidden

/-- What is seen of totals without costs. -/
def Totals.plain (t : Totals) : ℕ × ℚ × Option ℚ := (t.orderCount, t.gmv, t.bookGmv)

variable {group rows : List ShopDay}

lemma sum_map_hideCosts {M : Type} [AddCommMonoid M] (f : ShopDay → M)
    (h : ∀ day, f day.hideCosts = f day) :
    ((group.map ShopDay.hideCosts).map f).sum = (group.map f).sum := by
  simp only [List.map_map, Function.comp_def, h]

lemma plain_totals : (totals (group.map ShopDay.hideCosts)).plain = (totals group).plain := by
  have hcomplete : (group.map ShopDay.hideCosts).all ShopDay.profitComplete =
      group.all ShopDay.profitComplete := by
    simp only [List.all_map, Function.comp_def, ShopDay.hideCosts]
  have hbook : (group.map ShopDay.hideCosts).map ShopDay.bookGmv = group.map ShopDay.bookGmv := by
    simp only [List.map_map, Function.comp_def, ShopDay.hideCosts]
  simp only [totals, Totals.plain, hcomplete, hbook, sum_map_hideCosts ShopDay.orderCount fun _ => rfl,
    sum_map_hideCosts ShopDay.gmv fun _ => rfl]

lemma isSome_sumAds (group : List ShopDay) (f : ShopDay → Option ℚ)
    (h : ∀ day : ShopDay, (f day.hideCosts).isSome = (f day).isSome) :
    (sumAds ((group.map ShopDay.hideCosts).map f)).isSome = (sumAds (group.map f)).isSome := by
  have hsome : ∀ values : List (Option ℚ), (sumAds values).isSome = values.any Option.isSome := by
    intro values
    rw [sumAds]
    split
    · next hany => simp [hany]
    · next hnone => simpa using hnone
  simp only [hsome, List.any_map, Function.comp_def, h]

/-- Days go into the same groups without their costs. -/
lemma sortedGroups_hideCosts {κ : Type} [LinearOrder κ] (key : ShopDay → κ)
    (h : ∀ day : ShopDay, key day.hideCosts = key day) :
    sortedGroups key (rows.map ShopDay.hideCosts) =
      (sortedGroups key rows).map fun g => (g.1, g.2.map ShopDay.hideCosts) := by
  simp only [sortedGroups, groups_map, h]
  symm
  apply List.map_insertionSort
  intro a _ b _
  rfl

lemma firstBook_hideCosts : firstBook (group.map ShopDay.hideCosts) = firstBook group := by
  cases group <;> rfl

/-! ### Rollups that look alike -/

/-- What is seen of the rollup of a currency. -/
def CurrencyRollup.plain (r : CurrencyRollup) : String × String × (ℕ × ℚ × Option ℚ) × Bool :=
  (r.currency, r.bookCurrency, r.toTotals.plain, r.adSpend.isSome)

def PlatformRollup.plain (r : PlatformRollup) :
    (String × String × String × String) × (ℕ × ℚ × Option ℚ) × ℕ × ℕ × ℕ :=
  ((r.platformCode, r.siteCode, r.currency, r.bookCurrency), r.toTotals.plain, r.onTime, r.late,
    r.returnCount)

def DayRollup.plain (r : DayRollup) : (Day × String × String × String) × (ℕ × ℚ × Option ℚ) :=
  ((r.statDate, r.platformCode, r.currency, r.bookCurrency), r.toTotals.plain)

lemma plain_currencyRollups :
    (currencyRollups (rows.map ShopDay.hideCosts)).map CurrencyRollup.plain =
      (currencyRollups rows).map CurrencyRollup.plain := by
  simp only [currencyRollups, sortedGroups_hideCosts currencyKey fun _ => rfl,
    List.map_map]
  apply List.map_congr_left
  intro g _
  have hads := isSome_sumAds g.2 ShopDay.adSpend fun day => by simp [ShopDay.hideCosts]
  simp only [Function.comp_apply, currencyRollup, CurrencyRollup.plain, plain_totals, hads]

lemma plain_platformRollups :
    (platformRollups (rows.map ShopDay.hideCosts)).map PlatformRollup.plain =
      (platformRollups rows).map PlatformRollup.plain := by
  simp only [platformRollups, sortedGroups_hideCosts platformKey fun _ => rfl,
    List.map_map]
  apply List.map_congr_left
  intro g _
  simp only [Function.comp_apply, platformRollup, PlatformRollup.plain, plain_totals,
    firstBook_hideCosts, sum_map_hideCosts ShopDay.onTime fun _ => rfl,
    sum_map_hideCosts ShopDay.late fun _ => rfl,
    sum_map_hideCosts ShopDay.returnCount fun _ => rfl]

lemma plain_dayRollups :
    (dayRollups (rows.map ShopDay.hideCosts)).map DayRollup.plain =
      (dayRollups rows).map DayRollup.plain := by
  simp only [dayRollups, sortedGroups_hideCosts dayKey fun _ => rfl, List.map_map]
  apply List.map_congr_left
  intro g _
  simp only [Function.comp_apply, dayRollup, DayRollup.plain, plain_totals, firstBook_hideCosts]

end hidden

section alike

variable {α β γ : Type} {f : α → β} {xs ys : List α}

/-- What only depends on what is seen is the same for lists that look alike. -/
lemma map_eq_of_map_eq {g g' : α → γ} (hxy : xs.map f = ys.map f)
    (h : ∀ a b, f a = f b → g a = g' b) : xs.map g = ys.map g' := by
  induction xs generalizing ys with
  | nil => simp_all
  | cons x rest ih =>
    cases ys with
    | nil => simp at hxy
    | cons y ys =>
      obtain ⟨hhead, htail⟩ := List.cons.inj hxy
      rw [List.map_cons, List.map_cons, h x y hhead, ih htail]

lemma filter_map_eq_of_map_eq {p : α → Bool} (hxy : xs.map f = ys.map f)
    (h : ∀ a b, f a = f b → p a = p b) : (xs.filter p).map f = (ys.filter p).map f := by
  induction xs generalizing ys with
  | nil => simp_all
  | cons x rest ih =>
    cases ys with
    | nil => simp at hxy
    | cons y ys =>
      obtain ⟨hhead, htail⟩ := List.cons.inj hxy
      rw [List.filter_cons, List.filter_cons, h x y hhead]
      split
      · rw [List.map_cons, List.map_cons, hhead, ih htail]
      · exact ih htail

lemma dayPoint_congr (a b : DayRollup) (h : a.plain = b.plain) :
    dayPoint false a = dayPoint false b := by
  simp only [DayRollup.plain, Totals.plain, Prod.mk.injEq] at h
  simp [dayPoint, shown, h]

lemma platformView_congr (a b : PlatformRollup) (h : a.plain = b.plain) :
    platformView false a = platformView false b := by
  simp only [PlatformRollup.plain, Totals.plain, Prod.mk.injEq] at h
  simp [platformView, shown, h]

lemma adsRoiView_congr (a b : CurrencyRollup) (h : a.plain = b.plain) :
    adsRoiView false a = adsRoiView false b := by
  simp only [CurrencyRollup.plain, Totals.plain, Prod.mk.injEq] at h
  simp [adsRoiView, shown, percent, h]

/-- The turnover in a currency is seen. -/
lemma gmv_currency_congr {s t : WindowSummary}
    (h : s.currencies.map CurrencyRollup.plain = t.currencies.map CurrencyRollup.plain)
    (code : String) :
    ((s.currency code).map fun r => r.gmv) = (t.currency code).map fun r => r.gmv := by
  have hfilter := filter_map_eq_of_map_eq (p := fun r => decide (r.currency = code)) h (by
    intro a b hab
    simp only [CurrencyRollup.plain, Prod.mk.injEq] at hab
    rw [hab.1])
  have hgmv : (s.currencies.filter fun r => r.currency = code).map (fun r => r.gmv) =
      (t.currencies.filter fun r => r.currency = code).map fun r => r.gmv := by
    apply map_eq_of_map_eq hfilter
    intro a b hab
    simp only [CurrencyRollup.plain, Totals.plain, Prod.mk.injEq] at hab
    exact hab.2.2.1.2.1
  have hhead := congrArg List.head? hgmv
  simpa only [WindowSummary.currency, List.head?_map, List.head?_filter] using hhead

lemma moneyChange_congr {previous previous' yoy yoy' : WindowSummary}
    (hprevious : previous.currencies.map CurrencyRollup.plain =
      previous'.currencies.map CurrencyRollup.plain)
    (hyoy : yoy.currencies.map CurrencyRollup.plain = yoy'.currencies.map CurrencyRollup.plain)
    (a b : CurrencyRollup) (h : a.plain = b.plain) :
    moneyChange previous yoy false a = moneyChange previous' yoy' false b := by
  simp only [CurrencyRollup.plain, Totals.plain, Prod.mk.injEq] at h
  simp [moneyChange, shown, percent, h, gmv_currency_congr hprevious, gmv_currency_congr hyoy]

end alike

/-! ### Answers without costs -/

section masked

variable (maxDays : ℤ) (db : DashboardDb) (q : Query)

lemma listShopDays_hideCosts (start finish : Day) : listShopDays db.hideCosts q start finish =
    (listShopDays db q start finish).map ShopDay.hideCosts := by
  simp only [listShopDays, DashboardDb.hideCosts, List.filter_map]
  symm
  apply List.map_insertionSort
  intro a _ b _
  rfl

lemma latestInventory_hideCosts (finish : Day) : latestInventory db.hideCosts finish =
    (latestInventory db finish).map InventoryDaily.hideCosts := by
  simp only [latestInventory, DashboardDb.hideCosts, List.filter_map, ← List.head?_map]
  congr 1
  symm
  apply List.map_insertionSort
  intro a _ b _
  rfl

/-- The counts of a window are seen. -/
lemma counts_hideCosts (rows : List ShopDay) :
    (summarize (rows.map ShopDay.hideCosts)).orderCount = (summarize rows).orderCount ∧
    (summarize (rows.map ShopDay.hideCosts)).onTime = (summarize rows).onTime ∧
    (summarize (rows.map ShopDay.hideCosts)).late = (summarize rows).late ∧
    (summarize (rows.map ShopDay.hideCosts)).returns = (summarize rows).returns :=
  ⟨sum_map_hideCosts ShopDay.orderCount fun _ => rfl, sum_map_hideCosts ShopDay.onTime fun _ => rfl,
    sum_map_hideCosts ShopDay.late fun _ => rfl, sum_map_hideCosts ShopDay.returnCount fun _ => rfl⟩

lemma moneyChanges_hideCosts (rows before lastYear : List ShopDay) :
    (summarize (rows.map ShopDay.hideCosts)).currencies.map
        (moneyChange (summarize (before.map ShopDay.hideCosts))
          (summarize (lastYear.map ShopDay.hideCosts)) false) =
      (summarize rows).currencies.map (moneyChange (summarize before) (summarize lastYear) false) :=
  map_eq_of_map_eq plain_currencyRollups
    (moneyChange_congr plain_currencyRollups plain_currencyRollups)

lemma dayPoints_hideCosts (rows : List ShopDay) :
    (summarize (rows.map ShopDay.hideCosts)).days.map (dayPoint false) =
      (summarize rows).days.map (dayPoint false) :=
  map_eq_of_map_eq plain_dayRollups dayPoint_congr

lemma overview_hideCosts :
    overview maxDays db.hideCosts q false = overview maxDays db q false := by
  simp only [overview, listShopDays_hideCosts, (counts_hideCosts _).1, (counts_hideCosts _).2.1,
    (counts_hideCosts _).2.2.1, (counts_hideCosts _).2.2.2, moneyChanges_hideCosts,
    dayPoints_hideCosts]

lemma platforms_hideCosts :
    platforms maxDays db.hideCosts q false = platforms maxDays db q false := by
  have h : ∀ rows : List ShopDay,
      (summarize (rows.map ShopDay.hideCosts)).platforms.map (platformView false) =
        (summarize rows).platforms.map (platformView false) :=
    fun rows => map_eq_of_map_eq plain_platformRollups platformView_congr
  simp only [platforms, listShopDays_hideCosts, h]

lemma trends_hideCosts : trends maxDays db.hideCosts q false = trends maxDays db q false := by
  simp only [trends, listShopDays_hideCosts, dayPoints_hideCosts]

lemma adsRoi_hideCosts : adsRoi maxDays db.hideCosts q false = adsRoi maxDays db q false := by
  have h : ∀ rows : List ShopDay,
      ((summarize (rows.map ShopDay.hideCosts)).currencies.filter
          fun item => item.adSpend.isSome).map (adsRoiView false) =
        ((summarize rows).currencies.filter fun item => item.adSpend.isSome).map
          (adsRoiView false) := by
    intro rows
    refine map_eq_of_map_eq (filter_map_eq_of_map_eq plain_currencyRollups ?_) adsRoiView_congr
    intro a b hab
    simp only [CurrencyRollup.plain, Prod.mk.injEq] at hab
    exact hab.2.2.2
  simp only [adsRoi, listShopDays_hideCosts, h]

lemma inventory_hideCosts :
    inventory maxDays db.hideCosts q false = inventory maxDays db q false := by
  simp only [inventory, latestInventory_hideCosts]
  congr 1
  funext window
  cases latestInventory db window.2 with
  | none => rfl
  | some row =>
    simp only [Option.map_some, InventoryDaily.hideCosts, List.map_map, Function.comp_def, shown]
    rfl

end masked

/-- A shop-day with some profit, and some stock that does not sell. -/
def oneDay (profit spend stale : ℚ) : DashboardDb where
  shop := {}
  shopDays := [{
    shopId := 4, platformCode := "shopee", siteCode := "MY", statDate := 20000, currency := "MYR"
    bookCurrency := "CNY", orderCount := 2, gmv := 50, bookGmv := some 80, netProfit := some profit
    bookNetProfit := some profit, profitComplete := true, onTime := 1, late := 1, returnCount := 0
    adSpend := some spend, adSales := some 20, adLossCount := 1
    lines := [⟨.purchase, some spend, true⟩] }]
  inventory := [⟨20000, 7, 0, 0, 1, [⟨"CNY", some stale, true⟩]⟩]

end Dashboard

end CrossPilot
