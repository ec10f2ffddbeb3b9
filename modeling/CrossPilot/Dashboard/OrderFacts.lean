import CrossPilot.Finance.DailyProfits

/-!
# Orders on the dashboard

The dashboard counts an order as turnover on the day it was paid, if its status is one of a paid
order. It takes its profits, and the turnover in the currency of the books, from the daily profits.
These select their orders by another query: an order that is not paid falls on the day it was
created, and no status is left out.
-/

namespace CrossPilot

open Transaction Table Groups LandedCost Profit

namespace Dashboard

def gmvStatuses : List UnifiedStatus :=
  [.paid, .shipped, .delivered, .completed, .refunding, .refunded, .returned]

/-- The orders of a shop on a day, in one currency. -/
structure OrderFact where
  shopId : ℕ
  platformCode : String
  siteCode : String
  statDate : Day
  currency : String
  orderCount : ℕ
  gmv : ℚ
  onTime : ℕ
  late : ℕ
  deriving DecidableEq

/-- The columns that the orders are grouped by. -/
structure FactKey where
  shopId : ℕ
  platformCode : String
  siteCode : String
  statDate : Day
  currency : String
  deriving DecidableEq

/-- What an order is counted under, if it is counted. -/
def factKey (d : Db) (start finish : Day) (order : SalesOrder) : Option FactKey :=
  match order.paidAt, d.shops.find? fun shop => shop.id = order.shopId with
  | some paid, some shop =>
    if order.unifiedStatus ∈ gmvStatuses ∧ start ≤ utcDay paid ∧ utcDay paid ≤ finish then
      some ⟨order.shopId, order.platformCode, shop.siteCode, utcDay paid, order.currency⟩
    else none
  | _, _ => none

/-- The time by which a paid order is to be shipped. -/
def deadline (slaHours : ℕ) (paid : Instant) : Instant := paid + slaHours * 3600000000

def shippedInTime (slaHours : ℕ) (order : SalesOrder) : Bool :=
  match order.paidAt, order.shippedAt with
  | some paid, some shipped => shipped ≤ deadline slaHours paid
  | _, _ => false

def shippedLate (slaHours : ℕ) (now : Instant) (order : SalesOrder) : Bool :=
  match order.paidAt, order.shippedAt with
  | some paid, some shipped => deadline slaHours paid < shipped
  | some paid, none => order.unifiedStatus = .paid && deadline slaHours paid < now
  | none, _ => false

/-- The orders that are counted, in the groups of the query. -/
def countedOrders (d : Db) (start finish : Day) : List (FactKey × List SalesOrder) :=
  groups (factKey d start finish) d.orders

def orderFacts (d : Db) (start finish : Day) (slaHours : ℕ) (now : Instant) : List OrderFact :=
  (countedOrders d start finish).map fun (key, orders) =>
    { shopId := key.shopId, platformCode := key.platformCode, siteCode := key.siteCode
      statDate := key.statDate, currency := Text.strip key.currency, orderCount := orders.length
      gmv := (orders.map SalesOrder.totalAmount).sum
      onTime := orders.countP (shippedInTime slaHours)
      late := orders.countP (shippedLate slaHours now) }

/-! ### Two populations -/

/-- The order is among those that a fact of the day sums up. -/
def CountsAsGmv (d : Db) (start finish : Day) (order : SalesOrder) (day : Day) : Prop :=
  ∃ group ∈ countedOrders d start finish, group.1.statDate = day ∧ order ∈ group.2

/-- The price of the line of an item is among those that the revenue of a daily profit of the day
sums up. The lines are those of the tables `d`, the daily profits those of `after`. -/
def AddsToRevenue (d after : Db) (req : MaterializeRequest) (item : OrderItem) (day : Day) : Prop :=
  ∃ line ∈ SkuProfitRepository.sourceLine d req.dateFrom req.dateTo item,
    ∃ row ∈ after.profits, ProfitService.lineKey line = some row.key ∧ row.statDate = day ∧
      row.revenue = quantize ((bucket ProfitService.lineKey row.key
        (SkuProfitRepository.orderLines d req.dateFrom req.dateTo)).map fun line =>
          linePrice line.unitPrice line.quantity).sum

/-- The item has a SKU, and there is something of it. -/
def Sold (item : OrderItem) : Prop := item.skuId.isSome ∧ 0 < item.quantity

instance (item : OrderItem) : Decidable (Sold item) := inferInstanceAs (Decidable (_ ∧ _))

/-- An order counts as turnover on the days on which its lines add to the revenue. -/
structure SamePopulation (d after : Db) (req : MaterializeRequest) : Prop where
  lines : ∀ order ∈ d.orders, ∀ item ∈ d.items, item.orderId = order.id → Sold item → ∀ day,
    AddsToRevenue d after req item day ↔ CountsAsGmv d req.dateFrom req.dateTo order day
  orders : ∀ order ∈ d.orders, (∃ item ∈ d.items, item.orderId = order.id) →
    (∀ item ∈ d.items, item.orderId = order.id → Sold item) → ∀ day,
      (∃ item ∈ d.items, item.orderId = order.id ∧ AddsToRevenue d after req item day) ↔
        CountsAsGmv d req.dateFrom req.dateTo order day

/-- A paid order with the status of one. -/
def IsGmv (order : SalesOrder) : Prop :=
  order.paidAt.isSome ∧ order.unifiedStatus ∈ gmvStatuses

instance (order : SalesOrder) : Decidable (IsGmv order) := inferInstanceAs (Decidable (_ ∧ _))

/-- What the database keeps of the orders: unique ids, and shops that exist. -/
structure OrdersWf (d : Db) : Prop where
  orders_keyed : Keyed SalesOrder.id d.orders
  shop_exists : ∀ order ∈ d.orders, ∃ shop ∈ d.shops, shop.id = order.shopId

section Populations

variable {d : Db} {req : MaterializeRequest} {order : SalesOrder} {item : OrderItem}

/-- The line of an item whose order is known. -/
lemma sourceLine_eq (hwf : OrdersWf d) (horder : order ∈ d.orders)
    (hitem : item.orderId = order.id) (hsold : Sold item) (dateFrom dateTo : Day) :
    SkuProfitRepository.sourceLine d dateFrom dateTo item =
      if dateFrom ≤ SkuProfitRepository.occurredOn order ∧
          SkuProfitRepository.occurredOn order ≤ dateTo then
        some ⟨item.skuId, order.shopId, SkuProfitRepository.occurredOn order, item.quantity,
          item.unitPrice, Text.strip item.currency⟩
      else none := by
  have hfind : d.orders.find? (fun o => o.id = item.orderId) = some order :=
    (find?_eq_some_iff hwf.orders_keyed).mpr ⟨horder, hitem.symm⟩
  simp only [SkuProfitRepository.sourceLine, hfind, hsold.2, and_true]

lemma countsAsGmv_iff (hwf : OrdersWf d) (horder : order ∈ d.orders) {start finish day : Day} :
    CountsAsGmv d start finish order day ↔ IsGmv order ∧
      SkuProfitRepository.occurredOn order = day ∧ start ≤ day ∧ day ≤ finish := by
  have hkey : CountsAsGmv d start finish order day ↔
      ∃ key, factKey d start finish order = some key ∧ key.statDate = day := by
    constructor
    · rintro ⟨⟨key, orders⟩, hgroup, hday, hmem⟩
      obtain ⟨-, rfl⟩ := mem_groups.mp hgroup
      exact ⟨key, (mem_bucket.mp hmem).2, hday⟩
    · rintro ⟨key, hkey, hday⟩
      exact ⟨(key, _), mem_groups.mpr ⟨⟨order, horder, hkey⟩, rfl⟩, hday,
        mem_bucket.mpr ⟨horder, hkey⟩⟩
  rw [hkey]
  obtain ⟨shop, hshop, hid⟩ := hwf.shop_exists order horder
  cases hfind : d.shops.find? fun s => s.id = order.shopId with
  | none =>
    have hnot := List.find?_eq_none.mp hfind shop hshop
    simp [hid] at hnot
  | some found =>
    cases hpaid : order.paidAt with
    | none => simp [factKey, hpaid, IsGmv]
    | some paid =>
      simp only [factKey, hpaid, hfind, IsGmv, SkuProfitRepository.occurredOn,
        Option.isSome_some, Option.getD_some, true_and]
      constructor
      · rintro ⟨key, hsome, rfl⟩
        split_ifs at hsome with hcounted
        cases hsome
        exact ⟨hcounted.1, rfl, hcounted.2⟩
      · rintro ⟨hstatus, rfl, hdays⟩
        exact ⟨_, if_pos ⟨hstatus, hdays⟩, rfl⟩

/-- The line of a sold item adds to the revenue of the day its order falls on. -/
lemma addsToRevenue_iff {s s' : WorkState} {order : SalesOrder}
    (hwf : OrdersWf s.data)
    (hwrote : ProfitService.Wrote req (ProfitService.currentGroups s.data req) s s')
    (horder : order ∈ s.data.orders) (hitem : item ∈ s.data.items)
    (hof : item.orderId = order.id) (hsold : Sold item) {day : Day} :
    AddsToRevenue s.data s'.data req item day ↔
      SkuProfitRepository.occurredOn order = day ∧ req.dateFrom ≤ day ∧ day ≤ req.dateTo := by
  have hline := sourceLine_eq hwf horder hof hsold req.dateFrom req.dateTo
  obtain ⟨skuId, hsku⟩ := Option.isSome_iff_exists.mp hsold.1
  constructor
  · rintro ⟨line, hmem, row, -, hkey, rfl, -⟩
    rw [Option.mem_def, hline] at hmem
    split_ifs at hmem with hdays
    cases hmem
    simp only [ProfitService.lineKey, hsku, Option.map_some, Option.some.injEq] at hkey
    have hday : SkuProfitRepository.occurredOn order = row.statDate :=
      congrArg ProfitKey.statDate hkey
    exact ⟨hday, hday ▸ hdays⟩
  · rintro ⟨rfl, hdays⟩
    rw [if_pos hdays] at hline
    have hmem := List.mem_filterMap.mpr ⟨item, hitem, hline⟩
    have hkey : ProfitService.lineKey ⟨item.skuId, order.shopId,
        SkuProfitRepository.occurredOn order, item.quantity, item.unitPrice,
        Text.strip item.currency⟩ = some ⟨skuId, order.shopId,
          SkuProfitRepository.occurredOn order, Text.strip item.currency⟩ := by
      simp [ProfitService.lineKey, hsku]
    obtain ⟨id, hrow⟩ := hwrote.present _ (mem_groups.mpr ⟨⟨_, hmem, hkey⟩, rfl⟩)
    refine ⟨_, hline, _, hrow, hkey, rfl, ?_⟩
    simp only [ProfitService.groupRow, ProfitService.dailyRow, ProfitService.rolled,
      rollupDaily_revenue, List.map_map]
    rfl

lemma SamePopulation.of_lines {after : Db}
    (h : ∀ order ∈ d.orders, ∀ item ∈ d.items, item.orderId = order.id → Sold item → ∀ day,
      AddsToRevenue d after req item day ↔ CountsAsGmv d req.dateFrom req.dateTo order day) :
    SamePopulation d after req := by
  refine ⟨h, ?_⟩
  rintro order horder ⟨item, hitem, hof⟩ hall day
  constructor
  · rintro ⟨other, hother, hotherOf, hadds⟩
    exact (h order horder other hother hotherOf (hall other hother hotherOf) day).mp hadds
  · intro hcounts
    exact ⟨item, hitem, hof, (h order horder item hitem hof (hall item hitem hof) day).mpr hcounts⟩

lemma samePopulation_iff_of_wrote {s s' : WorkState} (hwf : OrdersWf s.data)
    (hwrote : ProfitService.Wrote req (ProfitService.currentGroups s.data req) s s') :
    SamePopulation s.data s'.data req ↔ ∀ order ∈ s.data.orders,
      ProfitService.Covers req (SkuProfitRepository.occurredOn order) →
        (∃ item ∈ s.data.items, item.orderId = order.id ∧ Sold item) → IsGmv order := by
  constructor
  · rintro hsame order horder hcovers ⟨item, hitem, hof, hsold⟩
    have hadds := (addsToRevenue_iff hwf hwrote horder hitem hof hsold).mpr ⟨rfl, hcovers⟩
    have hcounts := (hsame.lines order horder item hitem hof hsold _).mp hadds
    exact ((countsAsGmv_iff hwf horder).mp hcounts).1
  · intro hgmv
    apply SamePopulation.of_lines
    intro order horder item hitem hof hsold day
    rw [addsToRevenue_iff hwf hwrote horder hitem hof hsold, countsAsGmv_iff hwf horder]
    constructor
    · rintro ⟨rfl, hcovers⟩
      exact ⟨hgmv order horder hcovers ⟨item, hitem, hof, hsold⟩, rfl, hcovers⟩
    · rintro ⟨-, hday⟩
      exact hday

end Populations

/-- The daily profits and the dashboard count the same orders if and only if every order of the
range that has something sold is paid and has the status of a paid order. -/
theorem same_population_iff {s : WorkState} (hprofits : ProfitService.ProfitsWf s)
    (hwf : OrdersWf s.data) (req : MaterializeRequest)
    (hok : ((ProfitService.materialize req).exec s).1.isOk) :
    SamePopulation s.data (ProfitService.step s (.materialize req)).data req ↔
      ∀ order ∈ s.data.orders, ProfitService.Covers req (SkuProfitRepository.occurredOn order) →
        (∃ item ∈ s.data.items, item.orderId = order.id ∧ Sold item) → IsGmv order :=
  samePopulation_iff_of_wrote hwf (ProfitService.wrote_of_isOk hprofits hok)

/-- One order with one item, in a shop. -/
def oneOrder (order : SalesOrder) : WorkState :=
  ⟨{ ids := fun n => n }, { shops := [{ id := 4, platformCode := "tiktok" }], orders := [order]
                            items := [ProfitService.firstItem] }, []⟩

lemma profitsWf_oneOrder (order : SalesOrder) : ProfitService.ProfitsWf (oneOrder order) :=
  ⟨.nil, .nil, fun _ _ h => h, by simp [oneOrder]⟩

lemma ordersWf_oneOrder {order : SalesOrder} (hshop : order.shopId = 4) :
    OrdersWf (oneOrder order).data := by
  constructor
  · simp [oneOrder, Keyed]
  · simp [oneOrder, hshop]

theorem same_population_iff_paid :
    ((ProfitService.materialize ProfitService.firstDays).exec
      (oneOrder (ProfitService.firstOrder (some 172800000000)))).1.isOk ∧
    SamePopulation (oneOrder (ProfitService.firstOrder (some 172800000000))).data
      (ProfitService.step (oneOrder (ProfitService.firstOrder (some 172800000000)))
        (.materialize ProfitService.firstDays)).data ProfitService.firstDays := by
  have hok : ((ProfitService.materialize ProfitService.firstDays).exec
      (oneOrder (ProfitService.firstOrder (some 172800000000)))).1.isOk := by
    decide +kernel
  refine ⟨hok, (same_population_iff (profitsWf_oneOrder _) (ordersWf_oneOrder rfl) _ hok).mpr ?_⟩
  decide +kernel

/-- An order that was cancelled before it was paid. -/
def cancelledOrder : SalesOrder :=
  { ProfitService.firstOrder none with unifiedStatus := .cancelled }

/-- A cancelled order adds to the revenue of the day it was created. -/
theorem not_same_population_cancelled :
    ¬ ∀ (s : WorkState) (req : MaterializeRequest), ProfitService.ProfitsWf s → OrdersWf s.data →
      ((ProfitService.materialize req).exec s).1.isOk →
        SamePopulation s.data (ProfitService.step s (.materialize req)).data req := by
  intro hall
  have hok : ((ProfitService.materialize ProfitService.firstDays).exec
      (oneOrder cancelledOrder)).1.isOk := by
    decide +kernel
  have hprofits := profitsWf_oneOrder cancelledOrder
  have hwf : OrdersWf (oneOrder cancelledOrder).data := ordersWf_oneOrder rfl
  have hsame := hall (oneOrder cancelledOrder) ProfitService.firstDays hprofits hwf hok
  have hgmv := (samePopulation_iff_of_wrote hwf (ProfitService.wrote_of_isOk hprofits hok)).mp hsame
  revert hgmv
  decide +kernel

end Dashboard

end CrossPilot
