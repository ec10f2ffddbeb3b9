import CrossPilot.Dashboard.OrderFacts
import CrossPilot.Lib.Optional
import Mathlib.Data.Prod.Lex
import Mathlib.Data.String.Basic

/-!
# The sums on the dashboard

What is known of a shop on a day, in one order currency, is put together from orders, profits, ads
and returns. These days are summed up by currency, by platform and by day. Amounts in the currency
of the books are summed up as well, where no day lacks one. Sums by order currency are kept apart by
the currency of the books, those by platform and by day are not: they carry that of their first day.
-/

namespace CrossPilot

open LandedCost Groups

namespace Dashboard

/-! ### Facts -/

/-- A cost, as a row or a day keeps it. -/
structure CostLineTotal where
  code : LineCode
  amount : Option ℚ
  complete : Bool
  deriving DecidableEq

/-- A daily profit. The amounts of its lines have been read. -/
structure ProfitRow where
  shopId : ℕ
  statDate : Day
  currency : String
  bookCurrency : String
  revenue : ℚ
  bookRevenue : Option ℚ
  netProfit : Option ℚ
  bookNetProfit : Option ℚ
  complete : Bool
  quantity : ℤ
  lines : List CostLineTotal
  deriving DecidableEq

structure AdFact where
  shopId : ℕ
  statDate : Day
  currency : String
  spend : ℚ
  sales : ℚ
  lossCount : ℕ
  deriving DecidableEq

structure ReturnFact where
  shopId : ℕ
  statDate : Day
  currency : String
  count : ℕ
  deriving DecidableEq

/-- A shop, a day and an order currency. -/
structure DayKey where
  shopId : ℕ
  statDate : Day
  currency : String
  deriving DecidableEq

/-- By day, then by shop, then by currency. -/
def DayKey.rank (key : DayKey) : Day ×ₗ (ℕ ×ₗ String) :=
  toLex (key.statDate, toLex (key.shopId, key.currency))

def OrderFact.key (fact : OrderFact) : DayKey := ⟨fact.shopId, fact.statDate, fact.currency⟩
def ProfitRow.key (row : ProfitRow) : DayKey := ⟨row.shopId, row.statDate, row.currency⟩
def AdFact.key (fact : AdFact) : DayKey := ⟨fact.shopId, fact.statDate, fact.currency⟩
def ReturnFact.key (fact : ReturnFact) : DayKey := ⟨fact.shopId, fact.statDate, fact.currency⟩

/-- What `assemble_shop_days` is given. A shop has a platform and a site. -/
structure Facts where
  orders : List OrderFact
  profits : List ProfitRow
  ads : List AdFact
  returns : List ReturnFact
  shops : ℕ → Option (String × String)
  bookCurrency : String

structure ShopDay where
  shopId : ℕ
  platformCode : String
  siteCode : String
  statDate : Day
  currency : String
  bookCurrency : String
  orderCount : ℕ
  gmv : ℚ
  bookGmv : Option ℚ
  netProfit : Option ℚ
  bookNetProfit : Option ℚ
  profitComplete : Bool
  onTime : ℕ
  late : ℕ
  returnCount : ℕ
  adSpend : Option ℚ
  adSales : Option ℚ
  adLossCount : ℕ
  lines : List CostLineTotal
  deriving DecidableEq

def ShopDay.key (day : ShopDay) : DayKey := ⟨day.shopId, day.statDate, day.currency⟩

/-! ### Days -/

/-- One line of `fold_lines`. -/
def foldLine (groups : List (List CostLineTotal)) (code : LineCode) : CostLineTotal :=
  let amounts := groups.mapM fun lines =>
    (lines.find? fun line => line.code = code).bind fun line =>
      if line.complete then line.amount else none
  match amounts with
  | some (amount :: rest) => ⟨code, some (quantize (amount :: rest).sum), true⟩
  | _ => ⟨code, none, false⟩

def foldLines (groups : List (List CostLineTotal)) : List CostLineTotal :=
  LineCode.all.map (foldLine groups)

/-- `_sum_optional`. -/
def sumOptional (values : List (Option ℚ)) : Option ℚ :=
  (values.mapM id).map fun amounts => quantize amounts.sum

/-- The profits of a key, put together. -/
def mergeProfit (key : DayKey) (rows : List ProfitRow) : ProfitRow :=
  let complete := rows.all ProfitRow.complete
  let bookCurrency := (common (rows.map ProfitRow.bookCurrency)).getD ""
  let bookOk := complete && bookCurrency != ""
  { shopId := key.shopId
    statDate := key.statDate
    currency := key.currency
    bookCurrency
    revenue := quantize (rows.map ProfitRow.revenue).sum
    bookRevenue := if bookOk then sumOptional (rows.map ProfitRow.bookRevenue) else none
    netProfit := if complete then sumOptional (rows.map ProfitRow.netProfit) else none
    bookNetProfit := if bookOk then sumOptional (rows.map ProfitRow.bookNetProfit) else none
    complete
    quantity := (rows.map ProfitRow.quantity).sum
    lines := [] }

/-- `fold_profit`. -/
def foldProfit (rows : List ProfitRow) : List (DayKey × ProfitRow × List CostLineTotal) :=
  (groups (fun row => some (ProfitRow.key row)) rows).map fun group =>
    (group.1, mergeProfit group.1 group.2, foldLines (group.2.map ProfitRow.lines))

/-- The entry of a dictionary of facts. Of two facts with a key the later one counts. -/
def factAt {α : Type} (key : α → DayKey) (facts : List α) (k : DayKey) : Option α :=
  facts.reverse.find? fun fact => key fact = k

namespace Facts

variable (facts : Facts)

/-- The profit of a key, if there is one. -/
def profitAt (k : DayKey) : Option (ProfitRow × List CostLineTotal) :=
  ((foldProfit facts.profits).find? fun entry => entry.1 = k).map Prod.snd

/-- The keys of all facts in order. -/
def keys : List DayKey :=
  (facts.orders.map OrderFact.key ++ (foldProfit facts.profits).map Prod.fst ++
    facts.ads.map AdFact.key ++ facts.returns.map ReturnFact.key).eraseDups.insertionSort
      fun a b => a.rank ≤ b.rank

/-- The platform and the site of a key: those of the shop, or else of the orders. -/
def placeOf (k : DayKey) : Option (String × String) :=
  match facts.shops k.shopId with
  | some place => some place
  | none => (factAt OrderFact.key facts.orders k).map fun order =>
      (order.platformCode, order.siteCode)

/-- What is known of a key. -/
def shopDay (k : DayKey) (place : String × String) : ShopDay :=
  let order := factAt OrderFact.key facts.orders k
  let profit := facts.profitAt k
  let ad := factAt AdFact.key facts.ads k
  let returned := factAt ReturnFact.key facts.returns k
  { shopId := k.shopId
    platformCode := place.1
    siteCode := place.2
    statDate := k.statDate
    currency := k.currency
    bookCurrency :=
      match profit with
      | some profit =>
        if profit.1.bookCurrency = "" then facts.bookCurrency else profit.1.bookCurrency
      | none => facts.bookCurrency
    orderCount := (order.map OrderFact.orderCount).getD 0
    gmv := (order.map fun order => quantize order.gmv).getD 0
    bookGmv := profit.bind fun profit => profit.1.bookRevenue
    netProfit := profit.bind fun profit =>
      if profit.1.complete then profit.1.netProfit else none
    bookNetProfit := profit.bind fun profit => profit.1.bookNetProfit
    profitComplete := profit.any fun profit => profit.1.complete
    onTime := (order.map OrderFact.onTime).getD 0
    late := (order.map OrderFact.late).getD 0
    returnCount := (returned.map ReturnFact.count).getD 0
    adSpend := ad.map fun ad => quantize ad.spend
    adSales := ad.map fun ad => quantize ad.sales
    adLossCount := (ad.map AdFact.lossCount).getD 0
    lines := (profit.map Prod.snd).getD (foldLines []) }

end Facts

def assembleShopDays (facts : Facts) : List ShopDay :=
  facts.keys.filterMap fun k => (facts.placeOf k).map (facts.shopDay k)

/-! ### Rollups -/

/-- Nothing is divided by nothing. -/
def ratio (numerator denominator : ℚ) : Option ℚ :=
  if denominator = 0 then none else some (quantize (numerator / denominator))

def profitRoi (netProfit : ℚ) (purchase firstMile : Option ℚ) : Option ℚ :=
  match purchase, firstMile with
  | some purchase, some firstMile => ratio netProfit (purchase + firstMile)
  | _, _ => none

/-- What every rollup says. -/
structure Totals where
  orderCount : ℕ
  gmv : ℚ
  bookGmv : Option ℚ
  netProfit : Option ℚ
  bookNetProfit : Option ℚ
  profitComplete : Bool
  deriving DecidableEq

/-- The totals of some days. Without a complete profit on each day there is no profit. -/
def totals (group : List ShopDay) : Totals :=
  let complete := group.all ShopDay.profitComplete
  { orderCount := (group.map ShopDay.orderCount).sum
    gmv := quantize (group.map ShopDay.gmv).sum
    bookGmv := if complete then sumOptional (group.map ShopDay.bookGmv) else none
    netProfit := if complete then sumOptional (group.map ShopDay.netProfit) else none
    bookNetProfit := if complete then sumOptional (group.map ShopDay.bookNetProfit) else none
    profitComplete := complete }

structure CurrencyRollup extends Totals where
  currency : String
  bookCurrency : String
  adSpend : Option ℚ
  adSales : Option ℚ
  adLossCount : ℕ
  netMargin : Option ℚ
  acos : Option ℚ
  roas : Option ℚ
  profitRoi : Option ℚ
  deriving DecidableEq

structure PlatformRollup extends Totals where
  platformCode : String
  siteCode : String
  currency : String
  bookCurrency : String
  onTime : ℕ
  late : ℕ
  returnCount : ℕ
  deriving DecidableEq

structure DayRollup extends Totals where
  statDate : Day
  platformCode : String
  currency : String
  bookCurrency : String
  deriving DecidableEq

/-- `_line_amount`. -/
def lineAmount (rows : List ShopDay) (code : LineCode) : Option ℚ :=
  (rows.mapM fun row : ShopDay => (row.lines.find? fun line => line.code = code).bind fun line =>
    if line.complete then line.amount else none).map fun amounts => quantize amounts.sum

/-- The sum of the ad amounts, if there is any. -/
def sumAds (values : List (Option ℚ)) : Option ℚ :=
  if values.any Option.isSome then some (quantize (values.filterMap id).sum) else none

/-- The days under their keys, in the order of the keys. -/
def sortedGroups {κ : Type} [LinearOrder κ] (key : ShopDay → κ) (rows : List ShopDay) :
    List (κ × List ShopDay) :=
  (groups (fun row => some (key row)) rows).insertionSort fun a b => a.1 ≤ b.1

/-- `group[0].book_currency`. -/
def firstBook (group : List ShopDay) : String := (group.head?.map ShopDay.bookCurrency).getD ""

def currencyKey (row : ShopDay) : String ×ₗ String := toLex (row.currency, row.bookCurrency)

def platformKey (row : ShopDay) : String ×ₗ (String ×ₗ String) :=
  toLex (row.platformCode, toLex (row.siteCode, row.currency))

def dayKey (row : ShopDay) : Day ×ₗ (String ×ₗ String) :=
  toLex (row.statDate, toLex (row.platformCode, row.currency))

def currencyRollup (group : (String ×ₗ String) × List ShopDay) : CurrencyRollup :=
  let sums := totals group.2
  let spend := sumAds (group.2.map ShopDay.adSpend)
  let sales := sumAds (group.2.map ShopDay.adSales)
  { toTotals := sums
    currency := (ofLex group.1).1
    bookCurrency := (ofLex group.1).2
    adSpend := spend
    adSales := sales
    adLossCount := (group.2.map ShopDay.adLossCount).sum
    netMargin := sums.netProfit.bind fun net => ratio net sums.gmv
    acos := spend.bind fun spend => sales.bind fun sales => ratio spend sales
    roas := spend.bind fun spend => sales.bind fun sales => ratio sales spend
    profitRoi := sums.netProfit.bind fun net =>
      profitRoi net (lineAmount group.2 .purchase) (lineAmount group.2 .firstMile) }

def platformRollup (group : (String ×ₗ (String ×ₗ String)) × List ShopDay) : PlatformRollup where
  toTotals := totals group.2
  platformCode := (ofLex group.1).1
  siteCode := (ofLex (ofLex group.1).2).1
  currency := (ofLex (ofLex group.1).2).2
  bookCurrency := firstBook group.2
  onTime := (group.2.map ShopDay.onTime).sum
  late := (group.2.map ShopDay.late).sum
  returnCount := (group.2.map ShopDay.returnCount).sum

def dayRollup (group : (Day ×ₗ (String ×ₗ String)) × List ShopDay) : DayRollup where
  toTotals := totals group.2
  statDate := (ofLex group.1).1
  platformCode := (ofLex (ofLex group.1).2).1
  currency := (ofLex (ofLex group.1).2).2
  bookCurrency := firstBook group.2

/-- `_currency_rollups`. -/
def currencyRollups (rows : List ShopDay) : List CurrencyRollup :=
  (sortedGroups currencyKey rows).map currencyRollup

/-- `_platform_rollups`. -/
def platformRollups (rows : List ShopDay) : List PlatformRollup :=
  (sortedGroups platformKey rows).map platformRollup

/-- `_day_rollups`. -/
def dayRollups (rows : List ShopDay) : List DayRollup :=
  (sortedGroups dayKey rows).map dayRollup

structure WindowSummary where
  orderCount : ℕ
  onTime : ℕ
  late : ℕ
  returns : ℕ
  currencies : List CurrencyRollup
  platforms : List PlatformRollup
  days : List DayRollup
  lines : List (String × List CostLineTotal)

def summarize (rows : List ShopDay) : WindowSummary where
  orderCount := (rows.map ShopDay.orderCount).sum
  onTime := (rows.map ShopDay.onTime).sum
  late := (rows.map ShopDay.late).sum
  returns := (rows.map ShopDay.returnCount).sum
  currencies := currencyRollups rows
  platforms := platformRollups rows
  days := dayRollups rows
  lines := (rows.map ShopDay.currency).eraseDups.map fun currency =>
    (currency, foldLines ((rows.filter fun row => row.currency = currency).map ShopDay.lines))

/-! ### Each day once -/

def CurrencyRollup.key (r : CurrencyRollup) : String ×ₗ String := toLex (r.currency, r.bookCurrency)

def PlatformRollup.key (r : PlatformRollup) : String ×ₗ (String ×ₗ String) :=
  toLex (r.platformCode, toLex (r.siteCode, r.currency))

def DayRollup.key (r : DayRollup) : Day ×ₗ (String ×ₗ String) :=
  toLex (r.statDate, toLex (r.platformCode, r.currency))

/-- The days are summed up each under its key, and under no other. -/
structure Split {κ : Type} [DecidableEq κ] (key : ShopDay → κ) (days : List ShopDay)
    (rollups : List (κ × Totals)) : Prop where
  nodup : (rollups.map Prod.fst).Nodup
  covers : ∀ day ∈ days, key day ∈ rollups.map Prod.fst
  totals : ∀ r ∈ rollups, r.2 = Dashboard.totals (days.filter fun day => key day = r.1)

section Splitting

variable {κ : Type} [LinearOrder κ] {key : ShopDay → κ} {rows : List ShopDay}

lemma mem_sortedGroups {g : κ × List ShopDay} : g ∈ sortedGroups key rows ↔
    (∃ row ∈ rows, key row = g.1) ∧ g.2 = rows.filter fun row => key row = g.1 := by
  obtain ⟨k, rs⟩ := g
  rw [sortedGroups, List.mem_insertionSort, mem_groups]
  simp [bucket]

lemma nodup_sortedGroups : ((sortedGroups key rows).map Prod.fst).Nodup :=
  ((List.perm_insertionSort _ _).map Prod.fst).nodup_iff.mpr nodup_groups

lemma split_sortedGroups (key : ShopDay → κ) (rows : List ShopDay) :
    Split key rows ((sortedGroups key rows).map fun g => (g.1, totals g.2)) := by
  have hfst : ((sortedGroups key rows).map fun g => (g.1, totals g.2)).map Prod.fst =
      (sortedGroups key rows).map Prod.fst := by
    rw [List.map_map]
    rfl
  refine ⟨hfst ▸ nodup_sortedGroups, ?_, ?_⟩
  · intro day hday
    rw [hfst]
    exact List.mem_map.mpr ⟨(key day, rows.filter fun row => key row = key day),
      mem_sortedGroups.mpr ⟨⟨day, hday, rfl⟩, rfl⟩, rfl⟩
  · intro r hr
    obtain ⟨g, hg, rfl⟩ := List.mem_map.mp hr
    rw [← (mem_sortedGroups.mp hg).2]

lemma sum_map_filter {α M : Type} [AddCommMonoid M] (p : α → Prop) [DecidablePred p] (f : α → M)
    (xs : List α) : ((xs.filter fun x => p x).map f).sum =
      (xs.map fun x => if p x then f x else 0).sum := by
  induction xs with
  | nil => rfl
  | cons x rest ih =>
    by_cases hx : p x <;> simp [hx, ih]

/-- What the rollups of a currency come to is what its days come to. -/
lemma sum_sortedGroups {M : Type} [AddCommMonoid M] {currencyOf : κ → String}
    (hcurrency : ∀ row, currencyOf (key row) = row.currency) (f : ShopDay → M) (currency : String) :
    (((sortedGroups key rows).filter fun g => currencyOf g.1 = currency).map
        fun g => (g.2.map f).sum).sum =
      ((rows.filter fun row => row.currency = currency).map f).sum := by
  rw [sum_map_filter, sum_map_filter, ← sum_groups key]
  have hperm : (sortedGroups key rows).Perm (groups (fun row => some (key row)) rows) :=
    List.perm_insertionSort _ _
  rw [(hperm.map _).sum_eq]
  congr 1
  apply List.map_congr_left
  rintro ⟨k, rs⟩ hg
  obtain ⟨-, rfl⟩ := mem_groups.mp hg
  have hsame : ∀ row ∈ bucket (fun row => some (key row)) k rows, row.currency = currencyOf k := by
    intro row hrow
    rw [← hcurrency, Option.some.inj (mem_bucket.mp hrow).2]
  split_ifs with hk
  · congr 1
    apply List.map_congr_left
    intro row hrow
    rw [if_pos ((hsame row hrow).trans hk)]
  · rw [List.map_congr_left (g := fun _ => (0 : M)) fun row hrow =>
      if_neg fun h => hk ((hsame row hrow).symm.trans h)]
    simp

end Splitting

/-! ### Days of facts -/

section Days

variable {facts : Facts} {k : DayKey} {place : String × String}

@[simp] lemma shopDay_key : (facts.shopDay k place).key = k := rfl

lemma mem_keys : k ∈ facts.keys ↔ (∃ o ∈ facts.orders, o.key = k) ∨
    (∃ p ∈ facts.profits, p.key = k) ∨ (∃ a ∈ facts.ads, a.key = k) ∨
      ∃ r ∈ facts.returns, r.key = k := by
  have hprofits : (foldProfit facts.profits).map Prod.fst =
      (facts.profits.map ProfitRow.key).eraseDups := by
    simp [foldProfit, groups, Function.comp_def]
  simp only [Facts.keys, hprofits, List.mem_insertionSort, List.mem_eraseDups, List.mem_append,
    List.mem_map, or_assoc]

lemma nodup_keys (facts : Facts) : facts.keys.Nodup :=
  (List.perm_insertionSort _ _).nodup_iff.mpr (nodup_eraseDups _)

lemma mem_assembleShopDays {day : ShopDay} : day ∈ assembleShopDays facts ↔
    ∃ k ∈ facts.keys, ∃ place, facts.placeOf k = some place ∧ facts.shopDay k place = day := by
  simp [assembleShopDays]

/-- No key has two days. -/
lemma nodup_assembleShopDays (facts : Facts) :
    ((assembleShopDays facts).map ShopDay.key).Nodup := by
  rw [List.Nodup, List.pairwise_map, assembleShopDays, List.pairwise_filterMap]
  refine (nodup_keys facts).imp fun hne day hday day' hday' heq => hne ?_
  obtain ⟨place, -, rfl⟩ := Option.map_eq_some_iff.mp hday
  obtain ⟨place', -, rfl⟩ := Option.map_eq_some_iff.mp hday'
  exact heq

lemma fixed_gmv {day : ShopDay} (h : day ∈ assembleShopDays facts) : Decimals.Fixed 6 day.gmv := by
  obtain ⟨k, -, place, -, rfl⟩ := mem_assembleShopDays.mp h
  simp only [Facts.shopDay]
  cases factAt OrderFact.key facts.orders k with
  | none => exact Decimals.Fixed.zero
  | some order => exact Decimals.fixed_quantize 6 order.gmv

/-- The profits of a key. -/
def Facts.profitsOf (facts : Facts) (k : DayKey) : List ProfitRow :=
  facts.profits.filter fun p => p.key = k

lemma profitAt_eq {p : ProfitRow} (hp : p ∈ facts.profits) (hk : p.key = k) :
    facts.profitAt k = some (mergeProfit k (facts.profitsOf k),
      foldLines ((facts.profitsOf k).map ProfitRow.lines)) := by
  have hbucket : bucket (fun row => some (ProfitRow.key row)) k facts.profits =
      facts.profitsOf k := by
    simp [bucket, Facts.profitsOf]
  have hkeyed : Table.Keyed Prod.fst (foldProfit facts.profits) := by
    simp only [Table.Keyed, foldProfit, List.map_map]
    exact nodup_groups
  have hmem : (k, mergeProfit k (facts.profitsOf k),
      foldLines ((facts.profitsOf k).map ProfitRow.lines)) ∈ foldProfit facts.profits := by
    refine List.mem_map.mpr ⟨(k, facts.profitsOf k), mem_groups.mpr ⟨⟨p, hp, by rw [hk]⟩, ?_⟩, rfl⟩
    exact hbucket.symm
  have hfind := (Table.find?_eq_some_iff hkeyed).mpr ⟨hmem, rfl⟩
  rw [Facts.profitAt, hfind, Option.map_some]

lemma profitAt_eq_none (h : ∀ p ∈ facts.profits, p.key ≠ k) : facts.profitAt k = none := by
  rw [Facts.profitAt, Option.map_eq_none_iff, List.find?_eq_none]
  intro entry hentry
  obtain ⟨group, hgroup, rfl⟩ := List.mem_map.mp hentry
  obtain ⟨⟨p, hp, hkey⟩, -⟩ := mem_groups.mp hgroup
  have hkey := Option.some.inj hkey
  simpa [← hkey] using h p hp

end Days

/-! ### Amounts in the currency of the books -/

/-- A rollup sums up amounts in the currency of the books. -/
def Totals.Books (t : Totals) : Prop := t.bookGmv.isSome ∨ t.bookNetProfit.isSome

namespace Facts

variable (facts : Facts)

/-- There are profits under the key, all are complete and have the amount, in one currency of the
books. -/
structure BookedOn (amount : ProfitRow → Option ℚ) (k : DayKey) : Prop where
  sold : ∃ p ∈ facts.profits, p.key = k
  complete : ∀ p ∈ facts.profits, p.key = k → p.complete = true ∧ (amount p).isSome
  book : ∃ book, book ≠ "" ∧ ∀ p ∈ facts.profits, p.key = k → p.bookCurrency = book

/-- Every key of a group is booked. -/
def Booked (among : DayKey → Prop) : Prop :=
  (∀ k ∈ facts.keys, among k → facts.BookedOn ProfitRow.bookRevenue k) ∨
    ∀ k ∈ facts.keys, among k → facts.BookedOn ProfitRow.bookNetProfit k

/-- If every key of a group is booked, the profits of the group are in one currency of the books. -/
def OneBook (among : DayKey → Prop) : Prop :=
  facts.Booked among → ∀ p ∈ facts.profits, ∀ q ∈ facts.profits, among p.key → among q.key →
    p.bookCurrency = q.bookCurrency

/-- The keys of a platform, a site and an order currency. -/
def InPlatform (platform site currency : String) (k : DayKey) : Prop :=
  facts.placeOf k = some (platform, site) ∧ k.currency = currency

/-- The keys of a day, a platform and an order currency. -/
def InDay (date : Day) (platform currency : String) (k : DayKey) : Prop :=
  (facts.placeOf k).map Prod.fst = some platform ∧ k.statDate = date ∧ k.currency = currency

end Facts

section Books

variable {facts : Facts} {k : DayKey} {place : String × String}

lemma sumOptional_isSome {values : List (Option ℚ)} :
    (sumOptional values).isSome ↔ ∀ v ∈ values, v.isSome := by
  rw [sumOptional, Option.isSome_map]
  constructor
  · intro h
    obtain ⟨amounts, hamounts⟩ := Option.isSome_iff_exists.mp h
    exact Optional.isSome_of_mapM hamounts
  · intro h
    obtain ⟨amounts, hamounts⟩ := Optional.exists_mapM fun v hv => Option.isSome_iff_exists.mp (h v hv)
    exact Option.isSome_iff_exists.mpr ⟨amounts, hamounts⟩

/-- The currency of the books of some profits, if there is only one. -/
lemma mergeProfit_bookCurrency {rows : List ProfitRow} (hne : rows ≠ []) {book : String}
    (hbook : book ≠ "") :
    (mergeProfit k rows).bookCurrency = book ↔ ∀ q ∈ rows, q.bookCurrency = book := by
  have hcommon : common (rows.map ProfitRow.bookCurrency) = some book ↔
      ∀ b ∈ rows.map ProfitRow.bookCurrency, b = book := common_eq_some_iff (by simpa using hne)
  simp only [List.mem_map, forall_exists_index, and_imp, forall_apply_eq_imp_iff₂] at hcommon
  rw [← hcommon]
  simp only [mergeProfit]
  cases common (rows.map ProfitRow.bookCurrency) <;> simp [Ne.symm hbook]

/-- What is summed up for a day in the currency of the books. -/
lemma bookAmount_isSome {rows : List ProfitRow} (hne : rows ≠ []) (amount : ProfitRow → Option ℚ) :
    (if (mergeProfit k rows).complete && (mergeProfit k rows).bookCurrency != "" then
      sumOptional (rows.map amount) else none).isSome ↔
    (∀ q ∈ rows, q.complete = true ∧ (amount q).isSome) ∧
      ∃ book, book ≠ "" ∧ ∀ q ∈ rows, q.bookCurrency = book := by
  have hcomplete : (mergeProfit k rows).complete = true ↔ ∀ q ∈ rows, q.complete = true := by
    simp [mergeProfit]
  have hbook : (mergeProfit k rows).bookCurrency ≠ "" ↔
      ∃ book, book ≠ "" ∧ ∀ q ∈ rows, q.bookCurrency = book := by
    constructor
    · intro h
      exact ⟨_, h, (mergeProfit_bookCurrency hne h).mp rfl⟩
    · rintro ⟨book, hfilled, hall⟩
      rwa [(mergeProfit_bookCurrency hne hfilled).mpr hall]
  rw [← hbook]
  split_ifs with hok
  · obtain ⟨hc, hb⟩ := Bool.and_eq_true_iff.mp hok
    have hb : (mergeProfit k rows).bookCurrency ≠ "" := by simpa using hb
    rw [sumOptional_isSome]
    simp only [List.mem_map, forall_exists_index, and_imp, forall_apply_eq_imp_iff₂]
    exact ⟨fun h => ⟨fun q hq => ⟨hcomplete.mp hc q hq, h q hq⟩, hb⟩, fun h q hq => (h.1 q hq).2⟩
  · simp only [Option.isSome_none, Bool.false_eq_true, false_iff, not_and]
    intro hall hb
    exact hok (by simp [hcomplete.mpr fun q hq => (hall q hq).1, hb])

lemma profitsOf_ne_nil {p : ProfitRow} (hp : p ∈ facts.profits) (hk : p.key = k) :
    facts.profitsOf k ≠ [] :=
  List.ne_nil_of_mem (List.mem_filter.mpr ⟨hp, by simp [hk]⟩)

/-- Which days have an amount in the currency of the books. -/
lemma bookAmount_iff (amount : ProfitRow → Option ℚ) {shown : Option ℚ}
    (hnone : facts.profitAt k = none → shown = none)
    (hsome : (∃ p ∈ facts.profits, p.key = k) → shown =
      if (mergeProfit k (facts.profitsOf k)).complete &&
          (mergeProfit k (facts.profitsOf k)).bookCurrency != "" then
        sumOptional ((facts.profitsOf k).map amount) else none) :
    shown.isSome ↔ facts.BookedOn amount k := by
  have hmem (q : ProfitRow) : q ∈ facts.profitsOf k ↔ q ∈ facts.profits ∧ q.key = k := by
    simp [Facts.profitsOf]
  by_cases hsold : ∃ p ∈ facts.profits, p.key = k
  · obtain ⟨p, hp, hk⟩ := hsold
    rw [hsome ⟨p, hp, hk⟩, bookAmount_isSome (profitsOf_ne_nil hp hk)]
    simp only [hmem, and_imp]
    exact ⟨fun h => ⟨⟨p, hp, hk⟩, h.1, h.2⟩, fun h => ⟨h.complete, h.book⟩⟩
  · rw [hnone (profitAt_eq_none fun p hp hk => hsold ⟨p, hp, hk⟩)]
    simp only [Option.isSome_none, Bool.false_eq_true, false_iff]
    exact fun h => hsold h.sold

lemma bookGmv_isSome_iff :
    (facts.shopDay k place).bookGmv.isSome ↔ facts.BookedOn ProfitRow.bookRevenue k := by
  apply bookAmount_iff
  · intro h
    simp [Facts.shopDay, h]
  · rintro ⟨p, hp, hk⟩
    simp only [Facts.shopDay, profitAt_eq hp hk, Option.bind_some]
    rfl

lemma bookNetProfit_isSome_iff :
    (facts.shopDay k place).bookNetProfit.isSome ↔ facts.BookedOn ProfitRow.bookNetProfit k := by
  apply bookAmount_iff
  · intro h
    simp [Facts.shopDay, h]
  · rintro ⟨p, hp, hk⟩
    simp only [Facts.shopDay, profitAt_eq hp hk, Option.bind_some]
    rfl

variable {amount : ProfitRow → Option ℚ}

lemma Facts.BookedOn.profitComplete (h : facts.BookedOn amount k) :
    (facts.shopDay k place).profitComplete = true := by
  obtain ⟨p, hp, hk⟩ := h.sold
  simp only [Facts.shopDay, profitAt_eq hp hk, Option.any_some, mergeProfit, List.all_eq_true]
  intro q hq
  obtain ⟨hq, hqk⟩ := List.mem_filter.mp hq
  exact (h.complete q hq (by simpa using hqk)).1

/-- A booked day carries the currency of its profits. -/
lemma Facts.BookedOn.bookCurrency (h : facts.BookedOn amount k) {p : ProfitRow}
    (hp : p ∈ facts.profits) (hk : p.key = k) :
    (facts.shopDay k place).bookCurrency = p.bookCurrency := by
  obtain ⟨book, hfilled, hall⟩ := h.book
  have hmerged : (mergeProfit k (facts.profitsOf k)).bookCurrency = book := by
    rw [mergeProfit_bookCurrency (profitsOf_ne_nil hp hk) hfilled]
    intro q hq
    obtain ⟨hq, hqk⟩ := List.mem_filter.mp hq
    exact hall q hq (by simpa using hqk)
  simp only [Facts.shopDay, profitAt_eq hp hk, hmerged, if_neg hfilled]
  exact (hall p hp hk).symm

lemma totals_books_iff (days : List ShopDay) : (totals days).Books ↔
    (∀ day ∈ days, day.profitComplete = true ∧ day.bookGmv.isSome) ∨
      ∀ day ∈ days, day.profitComplete = true ∧ day.bookNetProfit.isSome := by
  have hsum (f : ShopDay → Option ℚ) :
      (if days.all ShopDay.profitComplete then sumOptional (days.map f) else none).isSome ↔
        ∀ day ∈ days, day.profitComplete = true ∧ (f day).isSome := by
    split_ifs with hall
    · rw [sumOptional_isSome]
      simp only [List.all_eq_true] at hall
      simp only [List.mem_map, forall_exists_index, and_imp, forall_apply_eq_imp_iff₂]
      exact ⟨fun h day hday => ⟨hall day hday, h day hday⟩, fun h day hday => (h day hday).2⟩
    · simp only [Option.isSome_none, Bool.false_eq_true, false_iff]
      intro h
      exact hall (List.all_eq_true.mpr fun day hday => (h day hday).1)
  exact or_congr (hsum ShopDay.bookGmv) (hsum ShopDay.bookNetProfit)

/-- The days of some keys. -/
structure DaysOf (facts : Facts) (among : DayKey → Prop) (days : List ShopDay) : Prop where
  placed : ∀ k, among k → (facts.placeOf k).isSome
  mem_iff : ∀ k place, facts.placeOf k = some place →
    (facts.shopDay k place ∈ days ↔ k ∈ facts.keys ∧ among k)
  from_facts : ∀ day ∈ days, day ∈ assembleShopDays facts

variable {among : DayKey → Prop} {days : List ShopDay}

/-- The days come to sums in the currency of the books where all their keys are booked. -/
lemma DaysOf.books_iff (h : DaysOf facts among days) :
    (totals days).Books ↔ facts.Booked among := by
  have hday {f : ShopDay → Option ℚ} {amount : ProfitRow → Option ℚ}
      (hf : ∀ k place, (f (facts.shopDay k place)).isSome ↔ facts.BookedOn amount k) :
      (∀ day ∈ days, day.profitComplete = true ∧ (f day).isSome) ↔
        ∀ k ∈ facts.keys, among k → facts.BookedOn amount k := by
    constructor
    · intro hall k hk hamong
      obtain ⟨place, hplace⟩ := Option.isSome_iff_exists.mp (h.placed k hamong)
      exact (hf k place).mp (hall _ ((h.mem_iff k place hplace).mpr ⟨hk, hamong⟩)).2
    · intro hall day hmem
      obtain ⟨k, -, place, hplace, rfl⟩ := mem_assembleShopDays.mp (h.from_facts day hmem)
      obtain ⟨hk, hamong⟩ := (h.mem_iff k place hplace).mp hmem
      have hbooked := hall k hk hamong
      exact ⟨hbooked.profitComplete, (hf k place).mpr hbooked⟩
  rw [totals_books_iff, Facts.Booked]
  exact or_congr (hday fun _ _ => bookGmv_isSome_iff) (hday fun _ _ => bookNetProfit_isSome_iff)

/-- The first day names the currency of every profit if and only if there is only one. -/
lemma DaysOf.label_iff (h : DaysOf facts among days) :
    ((totals days).Books → ∀ p ∈ facts.profits, among p.key → p.bookCurrency = firstBook days) ↔
      facts.OneBook among := by
  rw [h.books_iff]
  constructor
  · intro hlabel hbooked p hp q hq hpa hqa
    rw [hlabel hbooked p hp hpa, hlabel hbooked q hq hqa]
  · intro hone hbooked p hp hpa
    have hkey (q : ProfitRow) (hq : q ∈ facts.profits) : q.key ∈ facts.keys :=
      mem_keys.mpr (.inr (.inl ⟨q, hq, rfl⟩))
    obtain ⟨place, hplace⟩ := Option.isSome_iff_exists.mp (h.placed p.key hpa)
    have hday := (h.mem_iff p.key place hplace).mpr ⟨hkey p hp, hpa⟩
    cases days with
    | nil => simp at hday
    | cons first rest =>
      obtain ⟨k, -, place', hplace', rfl⟩ :=
        mem_assembleShopDays.mp (h.from_facts first (by simp))
      obtain ⟨hk, hamong⟩ := (h.mem_iff k place' hplace').mp (by simp)
      -- the first day has a profit of its own, whose currency it carries
      have hfirst : ∃ q ∈ facts.profits, q.key = k ∧
          (facts.shopDay k place').bookCurrency = q.bookCurrency := by
        rcases hbooked with hbooked | hbooked
        · obtain ⟨q, hq, hqk⟩ := (hbooked k hk hamong).sold
          exact ⟨q, hq, hqk, (hbooked k hk hamong).bookCurrency hq hqk⟩
        · obtain ⟨q, hq, hqk⟩ := (hbooked k hk hamong).sold
          exact ⟨q, hq, hqk, (hbooked k hk hamong).bookCurrency hq hqk⟩
      obtain ⟨q, hq, rfl, hbook⟩ := hfirst
      rw [firstBook, List.head?_cons, Option.map_some, Option.getD_some, hbook]
      exact hone hbooked p hp q hq hpa hamong

end Books

/-! ### Consistency -/

/-- What the rollups of a currency come to: orders and turnover. -/
def turnover {ρ : Type} (total : ρ → Totals) (currency : ρ → String) (rollups : List ρ)
    (c : String) : ℕ × ℚ :=
  ((rollups.filter fun r => currency r = c).map fun r => ((total r).orderCount, (total r).gmv)).sum

/-- What the dashboard promises of its rollups. -/
structure Consistent (facts : Facts) : Prop where
  platform_books : ∀ r ∈ (summarize (assembleShopDays facts)).platforms, r.Books →
    ∀ p ∈ facts.profits, facts.InPlatform r.platformCode r.siteCode r.currency p.key →
      p.bookCurrency = r.bookCurrency
  day_books : ∀ r ∈ (summarize (assembleShopDays facts)).days, r.Books →
    ∀ p ∈ facts.profits, facts.InDay r.statDate r.platformCode r.currency p.key →
      p.bookCurrency = r.bookCurrency
  keys_once : ((assembleShopDays facts).map ShopDay.key).Nodup
  currencies_once : Split currencyKey (assembleShopDays facts)
    ((summarize (assembleShopDays facts)).currencies.map fun r => (r.key, r.toTotals))
  platforms_once : Split platformKey (assembleShopDays facts)
    ((summarize (assembleShopDays facts)).platforms.map fun r => (r.key, r.toTotals))
  days_once : Split dayKey (assembleShopDays facts)
    ((summarize (assembleShopDays facts)).days.map fun r => (r.key, r.toTotals))
  platforms_agree : ∀ c,
    turnover PlatformRollup.toTotals PlatformRollup.currency
        (summarize (assembleShopDays facts)).platforms c =
      turnover CurrencyRollup.toTotals CurrencyRollup.currency
        (summarize (assembleShopDays facts)).currencies c
  days_agree : ∀ c,
    turnover DayRollup.toTotals DayRollup.currency
        (summarize (assembleShopDays facts)).days c =
      turnover CurrencyRollup.toTotals CurrencyRollup.currency
        (summarize (assembleShopDays facts)).currencies c

section Agreement

variable {facts : Facts} {κ ρ : Type} [LinearOrder κ] {key : ShopDay → κ}

/-- The turnover of a currency is that of its days, however they are grouped. -/
lemma turnover_sortedGroups (facts : Facts) (key : ShopDay → κ) (currencyOf : κ → String)
    (make : κ × List ShopDay → ρ) (total : ρ → Totals) (currency : ρ → String)
    (hcurrency : ∀ row, currencyOf (key row) = row.currency)
    (htotal : ∀ g, total (make g) = totals g.2) (hmake : ∀ g, currency (make g) = currencyOf g.1)
    (c : String) :
    turnover total currency ((sortedGroups key (assembleShopDays facts)).map make) c =
      (((assembleShopDays facts).filter fun day => day.currency = c).map
        fun day => (day.orderCount, day.gmv)).sum := by
  rw [turnover, ← sum_sortedGroups hcurrency, List.filter_map, List.map_map]
  have hfilter : ((fun r => decide (currency r = c)) ∘ make) =
      fun g => decide (currencyOf g.1 = c) := by
    funext g
    simp [hmake]
  rw [hfilter]
  congr 1
  apply List.map_congr_left
  intro g hg
  obtain ⟨-, hrows⟩ := mem_sortedGroups.mp (List.mem_filter.mp hg).1
  have hfixed : Decimals.Fixed 6 (g.2.map ShopDay.gmv).sum := by
    apply Decimals.Fixed.sum
    intro x hx
    rw [hrows] at hx
    obtain ⟨day, hday, rfl⟩ := List.mem_map.mp hx
    exact fixed_gmv (List.mem_filter.mp hday).1
  have hpair (days : List ShopDay) : (days.map fun day => (day.orderCount, day.gmv)).sum =
      ((days.map ShopDay.orderCount).sum, (days.map ShopDay.gmv).sum) := by
    induction days with
    | nil => rfl
    | cons day rest ih => simp [ih]
  rw [Function.comp_apply, htotal, hpair]
  simp only [totals, quantize, Decimals.quantize_eq_self hfixed]

/-- The days under a key of the rollups. -/
lemma daysOf_filter {among : DayKey → Prop} {K : κ}
    (hplaced : ∀ k, among k → (facts.placeOf k).isSome)
    (hkey : ∀ k place, facts.placeOf k = some place →
      (key (facts.shopDay k place) = K ↔ among k)) :
    DaysOf facts among ((assembleShopDays facts).filter fun day => key day = K) := by
  refine ⟨hplaced, ?_, fun day hday => (List.mem_filter.mp hday).1⟩
  intro k place hplace
  rw [List.mem_filter, decide_eq_true_eq, hkey k place hplace, mem_assembleShopDays]
  apply and_congr_left
  intro _
  constructor
  · rintro ⟨k', hk', place', -, heq⟩
    obtain rfl : k' = k := congrArg ShopDay.key heq
    exact hk'
  · exact fun hk => ⟨k, hk, place, hplace, rfl⟩

/-- The labels of all rollups of a kind are right if and only if no group mixes currencies. -/
lemma labels_iff (facts : Facts) (key : ShopDay → κ) (among : κ → DayKey → Prop)
    (hplaced : ∀ K k, among K k → (facts.placeOf k).isSome)
    (hkey : ∀ K k place, facts.placeOf k = some place →
      (key (facts.shopDay k place) = K ↔ among K k)) :
    (∀ g ∈ sortedGroups key (assembleShopDays facts), (totals g.2).Books →
      ∀ p ∈ facts.profits, among g.1 p.key → p.bookCurrency = firstBook g.2) ↔
      ∀ K, facts.OneBook (among K) := by
  have hdays (K : κ) := daysOf_filter (hplaced K) (hkey K)
  constructor
  · intro hlabels K
    apply (hdays K).label_iff.mp
    intro hbooks p hp hamong
    have hk : p.key ∈ facts.keys := mem_keys.mpr (.inr (.inl ⟨p, hp, rfl⟩))
    obtain ⟨place, hplace⟩ := Option.isSome_iff_exists.mp (hplaced K p.key hamong)
    have hday : facts.shopDay p.key place ∈ assembleShopDays facts :=
      mem_assembleShopDays.mpr ⟨p.key, hk, place, hplace, rfl⟩
    refine hlabels (K, (assembleShopDays facts).filter fun day => key day = K) ?_ hbooks p hp hamong
    exact mem_sortedGroups.mpr ⟨⟨_, hday, (hkey K p.key place hplace).mpr hamong⟩, rfl⟩
  · intro hone g hg
    rw [(mem_sortedGroups.mp hg).2]
    exact (hdays g.1).label_iff.mpr (hone g.1)

lemma platform_books_iff : (∀ r ∈ (summarize (assembleShopDays facts)).platforms, r.Books →
    ∀ p ∈ facts.profits, facts.InPlatform r.platformCode r.siteCode r.currency p.key →
      p.bookCurrency = r.bookCurrency) ↔
    ∀ platform site currency, facts.OneBook (facts.InPlatform platform site currency) := by
  have hlabels := labels_iff facts platformKey
    (fun K => facts.InPlatform (ofLex K).1 (ofLex (ofLex K).2).1 (ofLex (ofLex K).2).2)
    (fun K k h => by simp [h.1]) fun K k place hplace => by
      simp only [Facts.InPlatform, hplace, Option.some.injEq]
      constructor
      · rintro rfl
        exact ⟨rfl, rfl⟩
      · rintro ⟨rfl, hcurrency⟩
        simp only [platformKey, Facts.shopDay, hcurrency]
        rfl
  constructor
  · intro h platform site currency
    refine hlabels.mp (fun g hg => ?_) (toLex (platform, toLex (site, currency)))
    exact h (platformRollup g) (List.mem_map.mpr ⟨g, hg, rfl⟩)
  · intro h r hr
    obtain ⟨g, hg, rfl⟩ := List.mem_map.mp hr
    exact hlabels.mpr (fun K => h _ _ _) g hg

lemma day_books_iff : (∀ r ∈ (summarize (assembleShopDays facts)).days, r.Books →
    ∀ p ∈ facts.profits, facts.InDay r.statDate r.platformCode r.currency p.key →
      p.bookCurrency = r.bookCurrency) ↔
    ∀ date platform currency, facts.OneBook (facts.InDay date platform currency) := by
  have hlabels := labels_iff facts dayKey
    (fun K => facts.InDay (ofLex K).1 (ofLex (ofLex K).2).1 (ofLex (ofLex K).2).2)
    (fun K k h => by
      have hplaced := h.1
      cases hplace : facts.placeOf k with
      | none => simp [hplace] at hplaced
      | some place => rfl) fun K k place hplace => by
      simp only [Facts.InDay, hplace, Option.map_some, Option.some.injEq]
      constructor
      · rintro rfl
        exact ⟨rfl, rfl, rfl⟩
      · rintro ⟨hplatform, hdate, hcurrency⟩
        simp only [dayKey, Facts.shopDay, hplatform, hdate, hcurrency]
        rfl
  constructor
  · intro h date platform currency
    refine hlabels.mp (fun g hg => ?_) (toLex (date, toLex (platform, currency)))
    exact h (dayRollup g) (List.mem_map.mpr ⟨g, hg, rfl⟩)
  · intro h r hr
    obtain ⟨g, hg, rfl⟩ := List.mem_map.mp hr
    exact hlabels.mpr (fun K => h _ _ _) g hg

/-- The rollups with their keys and totals. -/
lemma split_map {ρ : Type} (make : κ × List ShopDay → ρ) (rkey : ρ → κ) (total : ρ → Totals)
    (hkey : ∀ g, rkey (make g) = g.1) (htotal : ∀ g, total (make g) = totals g.2)
    (rows : List ShopDay) :
    Split key rows (((sortedGroups key rows).map make).map fun r => (rkey r, total r)) := by
  rw [List.map_map]
  simpa [Function.comp_def, hkey, htotal] using split_sortedGroups key rows

end Agreement

/-- The rollups are consistent if and only if no group whose days all have their amounts in the
currency of the books mixes two of these. -/
theorem consistent_iff (facts : Facts) : Consistent facts ↔
    (∀ platform site currency, facts.OneBook (facts.InPlatform platform site currency)) ∧
      ∀ date platform currency, facts.OneBook (facts.InDay date platform currency) := by
  rw [← platform_books_iff, ← day_books_iff]
  constructor
  · exact fun h => ⟨h.platform_books, h.day_books⟩
  · rintro ⟨hplatforms, hdays⟩
    have hcurrencies (c : String) := turnover_sortedGroups facts currencyKey (fun K => (ofLex K).1)
      currencyRollup CurrencyRollup.toTotals CurrencyRollup.currency (fun _ => rfl) (fun _ => rfl)
      (fun _ => rfl) c
    refine ⟨hplatforms, hdays, nodup_assembleShopDays facts, ?_, ?_, ?_, fun c => ?_, fun c => ?_⟩
    · exact split_map currencyRollup _ _ (fun _ => rfl) (fun _ => rfl) _
    · exact split_map platformRollup _ _ (fun _ => rfl) (fun _ => rfl) _
    · exact split_map dayRollup _ _ (fun _ => rfl) (fun _ => rfl) _
    · refine Eq.trans ?_ (hcurrencies c).symm
      exact turnover_sortedGroups facts platformKey (fun K => (ofLex (ofLex K).2).2)
        platformRollup PlatformRollup.toTotals PlatformRollup.currency (fun _ => rfl) (fun _ => rfl)
        (fun _ => rfl) c
    · refine Eq.trans ?_ (hcurrencies c).symm
      exact turnover_sortedGroups facts dayKey (fun K => (ofLex (ofLex K).2).2)
        dayRollup DayRollup.toTotals DayRollup.currency (fun _ => rfl) (fun _ => rfl)
        (fun _ => rfl) c

/-- Bought for 8, without further costs. -/
def boughtForEight : List CostLineTotal :=
  LineCode.all.map fun code => ⟨code, some (if code = .purchase then 8 else 0), true⟩

/-- A piece sold for ten dollars. The books of the shop are kept in yuan. -/
def soldForYuan : ProfitRow :=
  ⟨1, 0, "USD", "CNY", 10, some 70, some 2, some 14, true, 1, boughtForEight⟩

/-- A piece sold for ten dollars. The books of the shop are kept in dollars. -/
def soldForDollars : ProfitRow :=
  ⟨2, 0, "USD", "USD", 10, some 10, some 2, some 2, true, 1, boughtForEight⟩

/-- Two shops of a platform. -/
def mixedBooks : Facts where
  orders := []
  profits := [soldForYuan, soldForDollars]
  ads := []
  returns := []
  shops := fun _ => some ("tiktok", "US")
  bookCurrency := "CNY"

/-- Yuan and dollars are added up, and the sum is labelled as yuan. -/
theorem mixed_books :
    (summarize (assembleShopDays mixedBooks)).platforms.map
        (fun r => (r.bookCurrency, r.bookGmv, r.bookNetProfit)) = [("CNY", some 80, some 16)] ∧
      ¬ Consistent mixedBooks := by
  constructor
  · decide +kernel
  · intro h
    have hlabel : ((summarize (assembleShopDays mixedBooks)).platforms.any fun r =>
        r.bookGmv.isSome && r.bookCurrency == "CNY" && r.platformCode == "tiktok" &&
          r.siteCode == "US" && r.currency == "USD") = true := by
      decide +kernel
    obtain ⟨r, hr, hbooks⟩ := List.any_eq_true.mp hlabel
    simp only [Bool.and_eq_true, beq_iff_eq] at hbooks
    obtain ⟨⟨⟨⟨hgmv, hcny⟩, hplatform⟩, hsite⟩, husd⟩ := hbooks
    have hdollars := h.platform_books r hr (.inl hgmv) soldForDollars (by simp [mixedBooks])
      ⟨by rw [hplatform, hsite]; rfl, husd.symm⟩
    rw [hcny] at hdollars
    exact absurd hdollars (by decide)

end Dashboard

end CrossPilot
