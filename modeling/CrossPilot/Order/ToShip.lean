import CrossPilot.Lib.Pages
import CrossPilot.Order.Exceptions

/-!
# The orders to ship, page by page

The list is sorted by a rank (overdue, due soon, others), the time of payment and the id, and the
cursor names these three of the last order shown. The rank depends on the time of the request, and
every page is asked for at a later time.
-/

namespace CrossPilot

open OrderReadRepository OrderQueryService

/-! ### Keys -/

/-- The rank of an order by the time it was paid. -/
def rankAt (now : Instant) (slaHours warnHours : ℤ) (paidAt : Option Instant) : ℕ :=
  match paidAt with
  | none => 2
  | some paid =>
    if paid ≤ now - hours slaHours then 0
    else if paid ≤ now - hours (max (slaHours - warnHours) 0) then 1
    else 2

/-- An order without payment comes after all others of its rank. -/
def paidKey : Option Instant → WithTop ℤ
  | none => ⊤
  | some paid => (paid : ℤ)

abbrev ShipKey := ℕ ×ₗ (WithTop ℤ ×ₗ ℕᵒᵈ)

/-- The place of an order in the list. -/
def shipKey (rank : ℕ) (paidAt : Option Instant) (id : ℕ) : ShipKey :=
  toLex (rank, toLex (paidKey paidAt, OrderDual.toDual id))

lemma shipKey_lt_iff {rank rank' id id' : ℕ} {paidAt paidAt' : Option Instant} :
    shipKey rank paidAt id < shipKey rank' paidAt' id' ↔ rank < rank' ∨ rank = rank' ∧
      (paidKey paidAt < paidKey paidAt' ∨ paidKey paidAt = paidKey paidAt' ∧ id' < id) := by
  simp [shipKey, Prod.Lex.toLex_lt_toLex]

lemma shipKey_le_iff {rank rank' id id' : ℕ} {paidAt paidAt' : Option Instant} :
    shipKey rank paidAt id ≤ shipKey rank' paidAt' id' ↔ rank < rank' ∨ rank = rank' ∧
      (paidKey paidAt < paidKey paidAt' ∨ paidKey paidAt = paidKey paidAt' ∧ id' ≤ id) := by
  simp [shipKey, Prod.Lex.toLex_le_toLex]

lemma shipKey_id_injective {rank rank' id id' : ℕ} {paidAt paidAt' : Option Instant}
    (h : shipKey rank paidAt id = shipKey rank' paidAt' id') : id = id' := by
  have h₁ := le_of_eq h
  have h₂ := le_of_eq h.symm
  rw [shipKey_le_iff] at h₁ h₂
  obtain h₁ | ⟨h₁, h₁' | ⟨h₁', h₁''⟩⟩ := h₁ <;> obtain h₂ | ⟨h₂, h₂' | ⟨h₂', h₂''⟩⟩ := h₂ <;>
    first
    | omega
    | exact absurd h₁' (lt_asymm h₂')
    | exact absurd h₁' (by rw [h₂']; exact lt_irrefl _)
    | exact absurd h₂' (by rw [h₁']; exact lt_irrefl _)

/-- Time only moves orders to the front. -/
lemma rankAt_le_of_le {now now' : Instant} (h : now ≤ now') (slaHours warnHours : ℤ)
    (paidAt : Option Instant) :
    rankAt now' slaHours warnHours paidAt ≤ rankAt now slaHours warnHours paidAt := by
  cases paidAt with
  | none => exact le_refl 2
  | some paid =>
    have hdue : paid ≤ now - hours slaHours → paid ≤ now' - hours slaHours :=
      fun hle => le_trans hle (by linarith)
    have hsoon : paid ≤ now - hours (max (slaHours - warnHours) 0) →
        paid ≤ now' - hours (max (slaHours - warnHours) 0) := fun hle => le_trans hle (by linarith)
    simp only [rankAt]
    split_ifs <;> first | omega | tauto

/-- What was paid later does not rank before. -/
lemma rankAt_mono {paidAt paidAt' : Option Instant} (h : paidKey paidAt ≤ paidKey paidAt')
    (now : Instant) (slaHours warnHours : ℤ) :
    rankAt now slaHours warnHours paidAt ≤ rankAt now slaHours warnHours paidAt' := by
  cases paidAt' with
  | none =>
    cases paidAt with
    | none => exact le_refl 2
    | some paid =>
      simp only [rankAt]
      split_ifs <;> omega
  | some paid' =>
    cases paidAt with
    | none => simp [paidKey] at h
    | some paid =>
      have hle : paid ≤ paid' := WithTop.coe_le_coe.mp h
      have hdue : paid' ≤ now - hours slaHours → paid ≤ now - hours slaHours := hle.trans
      have hsoon : paid' ≤ now - hours (max (slaHours - warnHours) 0) →
          paid ≤ now - hours (max (slaHours - warnHours) 0) := hle.trans
      simp only [rankAt]
      split_ifs <;> first | omega | tauto

/-- An order stays behind the last one of a page if its rank does not fall below. -/
lemma shipKey_lt_of_rank_le {now now' : Instant} {slaHours warnHours : ℤ}
    {paidAt lastPaid : Option Instant} {id lastId : ℕ}
    (hbehind : shipKey (rankAt now slaHours warnHours lastPaid) lastPaid lastId <
      shipKey (rankAt now slaHours warnHours paidAt) paidAt id)
    (hrank : rankAt now slaHours warnHours lastPaid ≤ rankAt now' slaHours warnHours paidAt) :
    shipKey (rankAt now slaHours warnHours lastPaid) lastPaid lastId <
      shipKey (rankAt now' slaHours warnHours paidAt) paidAt id := by
  rw [shipKey_lt_iff] at hbehind ⊢
  obtain hlt | heq := lt_or_eq_of_le hrank
  · exact Or.inl hlt
  · refine Or.inr ⟨heq, ?_⟩
    obtain hbelow | ⟨_, hlater⟩ := hbehind
    · -- it has moved to the rank of the last order, and it was paid later
      left
      by_contra hpaid
      exact absurd (rankAt_mono (not_lt.mp hpaid) now slaHours warnHours) (not_le.mpr hbelow)
    · exact hlater

/-! ### The statement of a page -/

def DeadlineCursor.key (cursor : DeadlineCursor) : ShipKey :=
  shipKey cursor.rank cursor.paidAt cursor.id

/-- The place of an order in the list of a query. -/
def queryKey (query : OrderListQuery) (now : Instant) (order : SalesOrder) : ShipKey :=
  shipKey (rankAt now query.slaHours query.warnHours order.paidAt) order.paidAt order.id

section Statement

variable {ctx : ReadContext} {query : OrderListQuery} {now : Instant}

lemma shipRank_eq (hnow : query.asOf = some now) (order : SalesOrder) :
    shipRank ctx query order = rankAt now query.slaHours query.warnHours order.paidAt := by
  cases hpaid : order.paidAt <;>
    simp [shipRank, rankAt, overdueBefore, soonBefore, clock, hnow, hpaid]

/-- The orders are sorted by their places. -/
lemma shipFirst_iff_key (hnow : query.asOf = some now) (a b : SalesOrder) :
    shipFirst ctx query a b ↔ queryKey query now a ≤ queryKey query now b := by
  simp only [shipFirst, shipRank_eq hnow, queryKey, shipKey_le_iff]
  cases ha : a.paidAt <;> cases hb : b.paidAt <;> simp [paidKey]

/-- The page begins behind the place that the cursor names. -/
lemma deadlinePage_iff (hnow : query.asOf = some now) {cursor : DeadlineCursor}
    (hrank : query.beforeRank = some cursor.rank) (hid : query.beforeId = some cursor.id)
    (hpaid : query.beforePaidAt = cursor.paidAt) (order : SalesOrder) :
    deadlinePage ctx query order = true ↔ cursor.key < queryKey query now order := by
  simp only [deadlinePage, hrank, hid, hpaid, shipRank_eq hnow, DeadlineCursor.key, queryKey,
    shipKey_lt_iff]
  cases hc : cursor.paidAt <;> cases ho : order.paidAt <;> simp [paidKey] <;> grind

/-- The list without its pages. -/
def wholeList (query : OrderListQuery) : OrderListQuery :=
  { query with beforeCreatedAt := none, beforeId := none, beforeRank := none, beforePaidAt := none }

lemma orderFilter_toShip (hqueue : query.queue = some .toShip) (db : Db) (order : SalesOrder) :
    orderFilter ctx db query order =
      (orderFilter ctx db (wholeList query) order && deadlinePage ctx query order) := by
  have hwhole : deadlinePage ctx (wholeList query) order = true := by
    simp [deadlinePage, wholeList]
  have hclause : queueClause ctx db query order =
      (queueClause ctx db (wholeList query) order && deadlinePage ctx query order) := by
    simp only [queueClause, hqueue, if_true, wholeList]
    rw [show deadlinePage ctx { query with
        beforeCreatedAt := none, beforeId := none, beforeRank := none, beforePaidAt := none,
        queue := some .toShip } order = true by simp [deadlinePage], Bool.and_true]
  have hcursor : cursorClause query order = true := by simp [cursorClause, hqueue]
  have hcursor' : cursorClause (wholeList query) order = true := by
    simp [cursorClause, wholeList, hqueue]
  simp only [orderFilter, hclause, hcursor, hcursor', Bool.and_true]
  simp only [wholeList, Bool.and_assoc]

lemma paid_of_orderFilter (hqueue : query.queue = some .toShip) {db : Db} {order : SalesOrder}
    (h : orderFilter ctx db query order = true) : order.unifiedStatus = .paid := by
  simp only [orderFilter, Bool.and_eq_true, queueClause, hqueue, if_true, decide_eq_true_eq] at h
  exact h.1.2.1.1

end Statement

/-! ### The cursor -/

/-- The rank that the cursor names. -/
def cursorRank (ctx : QueryContext) (order : SalesOrder) : ℕ :=
  match shipWindow order.unifiedStatus order.paidAt ctx.now ctx.shipSlaHours ctx.shipWarnHours with
  | some .shipOverdue => 0
  | some .shipDueSoon => 1
  | _ => 2

def deadlinePayload (ctx : QueryContext) (order : SalesOrder) : CursorPayload :=
  [("k", .text "d"), ("r", .number (cursorRank ctx order)),
    ("t", .text ((order.paidAt.map ctx.codec.isoformat).getD "")),
    ("id", .text (toString order.id))]

/-- Base64, JSON and ISO times give back what was written. -/
structure ReadsBack (ctx : QueryContext) (order : SalesOrder) : Prop where
  payload : ctx.codec.decodeCursor (writeDeadlineCursor ctx order) = .ok (deadlinePayload ctx order)
  cursor_ne : writeDeadlineCursor ctx order ≠ ""
  time_ne : ∀ paid ∈ order.paidAt, ctx.codec.isoformat paid ≠ ""
  time : ∀ paid ∈ order.paidAt, ctx.codec.fromisoformat (ctx.codec.isoformat paid) = some paid

section Cursor

variable {ctx : QueryContext} {order : SalesOrder}

lemma cursorRank_cases (ctx : QueryContext) (order : SalesOrder) :
    cursorRank ctx order = 0 ∨ cursorRank ctx order = 1 ∨ cursorRank ctx order = 2 := by
  simp only [cursorRank]
  split <;> simp

/-- The cursor and the statement rank an order alike, except ahead of the clock. -/
lemma cursorRank_eq (hpaid : order.unifiedStatus = .paid)
    (hahead : ¬ WarnedAhead order.paidAt ctx.now ctx.shipSlaHours ctx.shipWarnHours) :
    cursorRank ctx order = rankAt ctx.now ctx.shipSlaHours ctx.shipWarnHours order.paidAt := by
  cases hat : order.paidAt with
  | none =>
    have hopen : paidOpen order = none := by simp [paidOpen, hpaid, hat]
    simp only [cursorRank, shipWindow_of_not_open order hopen, rankAt]
  | some paid =>
    have hopen : paidOpen order = some paid := (mem_paidOpen order).mpr ⟨hpaid, hat⟩
    rw [hat] at hahead
    simp only [cursorRank, shipWindow_of_open order hopen, rankAt]
    by_cases hdue : paid ≤ ctx.now - hours ctx.shipSlaHours
    · simp [hdue]
    · have hcuts := (cuts_agree_iff (not_le.mp hdue)).mpr hahead
      by_cases hsoon : paid ≤ ctx.now - hours ctx.shipSlaHours + hours (max ctx.shipWarnHours 0)
      · simp [hdue, hsoon, hcuts.mpr hsoon]
      · have hcut : ¬ paid ≤ ctx.now - hours (max (ctx.shipSlaHours - ctx.shipWarnHours) 0) :=
          fun h => hsoon (hcuts.mp h)
        simp [hdue, hsoon, hcut]

/-- The cursor is read as it was written. -/
theorem readDeadlineCursor_write (h : ReadsBack ctx order) (hid : order.id < 2 ^ 63) :
    readDeadlineCursor ctx.codec (some (writeDeadlineCursor ctx order)) =
      .ok (some ⟨cursorRank ctx order, order.paidAt, order.id⟩) := by
  have hrank : CursorValue.rank? (some (.number (cursorRank ctx order))) =
      .ok (some (cursorRank ctx order)) := by
    obtain hr | hr | hr := cursorRank_cases ctx order <;> rw [hr] <;> decide +kernel
  have hdigits : Text.isDigits order.id.repr = true := Text.isDigits_repr order.id
  have hint : intOf order.id.repr = .ok order.id := by simp only [intOf, Text.toInt_repr hid]
  have hk : (deadlinePayload ctx order).lookup "k" = some (.text "d") := rfl
  have hr : (deadlinePayload ctx order).lookup "r" = some (.number (cursorRank ctx order)) := rfl
  have ht : (deadlinePayload ctx order).lookup "t" =
      some (.text ((order.paidAt.map ctx.codec.isoformat).getD "")) := rfl
  have hi : (deadlinePayload ctx order).lookup "id" = some (.text order.id.repr) := rfl
  simp only [readDeadlineCursor, Option.getD_some, if_neg h.cursor_ne, decodeCursor, h.payload]
  cases hat : order.paidAt with
  | none =>
    rw [hat] at ht
    simp [hk, hr, ht, hi, hrank, CursorValue.digits?, hdigits, hint, bind, Except.bind, pure,
      Except.pure]
  | some paid =>
    have hne := h.time_ne paid hat
    have htime := h.time paid hat
    rw [hat] at ht
    simp [hk, hr, ht, hi, hrank, CursorValue.digits?, hdigits, hint, hne, htime, bind, Except.bind,
      pure, Except.pure]

end Cursor

/-! ### The page -/

/-- The statement of a page: what the request says, and the place that the cursor names. -/
structure Asks (ctx : QueryContext) (r : ListRequest) (cursor : Option DeadlineCursor)
    (query : OrderListQuery) : Prop where
  queue_eq : query.queue = some .toShip
  limit_eq : query.limit = r.limit + 1
  asOf_eq : query.asOf = some ctx.now
  slaHours_eq : query.slaHours = ctx.shipSlaHours
  warnHours_eq : query.warnHours = ctx.shipWarnHours
  beforeRank_eq : query.beforeRank = cursor.map DeadlineCursor.rank
  beforeId_eq : query.beforeId = cursor.map DeadlineCursor.id
  beforePaidAt_eq : query.beforePaidAt = cursor.bind DeadlineCursor.paidAt
  first_page : listQuery ctx { r with cursor := none } = .ok (wholeList query)

/-- The orders behind the cursor, in the order of the list. -/
def shipRows (ctx : ReadContext) (query : OrderListQuery) (db : Db) : List SalesOrder :=
  (db.orders.filter (orderFilter ctx db query)).insertionSort (shipFirst ctx query)

section Page

variable {ctx : QueryContext} {r : ListRequest} {query : OrderListQuery}
  {cursor : Option DeadlineCursor} {roleCode : RoleCode} {db : Db} {page : OrderPage}

lemma asks_of_listQuery (hqueue : r.queue = some "to_ship")
    (hcursor : readDeadlineCursor ctx.codec r.cursor = .ok cursor)
    (h : listQuery ctx r = .ok query) : Asks ctx r cursor query := by
  obtain ⟨place, hplace, h⟩ := bind_eq_ok.1 h
  obtain ⟨platform, hplatform, h⟩ := bind_eq_ok.1 h
  obtain ⟨status, hstatus, h⟩ := bind_eq_ok.1 h
  obtain ⟨desk, hdesk, h⟩ := bind_eq_ok.1 h
  obtain ⟨kind, hkind, h⟩ := bind_eq_ok.1 h
  have hplace' : place = (cursor.map Place.afterDeadline).getD .start := by
    simp only [beginning, hqueue, if_true, hcursor, Except.map, Except.ok.injEq] at hplace
    exact hplace.symm
  have hdesk' : desk = some .toShip := by
    rw [hqueue] at hdesk
    exact (Except.ok.inj hdesk).symm
  have hstart : beginning ctx { r with cursor := none } = .ok .start := by
    simp only [beginning, hqueue, if_true]
    rfl
  cases h
  refine ⟨hdesk', rfl, rfl, rfl, rfl, ?_, ?_, ?_, ?_⟩
  · cases cursor <;> simp [hplace', Place.rank]
  · cases cursor <;> simp [hplace', Place.id]
  · cases cursor <;> simp [hplace', Place.paidAt]
  · simp only [listQuery, hstart, orderQuery, hplatform, hstatus, hdesk, hkind, bind, Except.bind,
      pure, Except.pure, wholeList]
    rfl

/-- A page and the statement behind it. -/
lemma page_of_listOrders (h : OrderQueryService.listOrders ctx roleCode r db = .ok page) :
    ∃ query, listQuery ctx r = .ok query ∧ page = orderPage ctx roleCode r db
      (OrderReadRepository.listOrders ctx.toReadContext db query) := by
  obtain ⟨query, hquery, h⟩ := bind_eq_ok.1 h
  exact ⟨query, hquery, (Except.ok.inj h).symm⟩

lemma listOrders_eq (hqueue : query.queue = some .toShip) :
    OrderReadRepository.listOrders ctx.toReadContext db query =
      ((shipRows ctx.toReadContext query db).take query.limit).map (hit db) := by
  simp only [OrderReadRepository.listOrders, hqueue, if_true, shipRows]

section Shown

variable (hqueue : r.queue = some "to_ship") (hasks : Asks ctx r cursor query)
  (hpage : page = orderPage ctx roleCode r db
    (OrderReadRepository.listOrders ctx.toReadContext db query))

include hasks hpage

lemma page_items_map {α : Type} {f : OrderListItem → α} {g : SalesOrder → α}
    (hfg : ∀ hit unmatched, f (listItem ctx roleCode hit unmatched) = g hit.order) :
    page.items.map f = ((shipRows ctx.toReadContext query db).take r.limit).map g := by
  simp only [hpage, orderPage, listOrders_eq hasks.queue_eq, hasks.limit_eq, List.map_map,
    ← List.map_take, List.take_take, min_eq_left (Nat.le_succ r.limit), Function.comp_def, hfg]
  rfl

include hqueue

lemma page_cursor_eq : page.cursor =
    if r.limit < (shipRows ctx.toReadContext query db).length then
      ((shipRows ctx.toReadContext query db).take r.limit).getLast?.map (writeDeadlineCursor ctx)
    else none := by
  have hmore : r.limit < min (r.limit + 1) (shipRows ctx.toReadContext query db).length ↔
      r.limit < (shipRows ctx.toReadContext query db).length := by omega
  simp only [hpage, orderPage, listOrders_eq hasks.queue_eq, hasks.limit_eq, hqueue, if_true,
    List.length_map, List.length_take, hmore, ← List.map_take, List.take_take,
    min_eq_left (Nat.le_succ r.limit), List.getLast?_map, Option.map_map, decide_eq_true_eq]
  rfl

end Shown

lemma mem_shipRows (hasks : Asks ctx r cursor query) {order : SalesOrder} :
    order ∈ shipRows ctx.toReadContext query db ↔ order ∈ db.orders ∧
      orderFilter ctx.toReadContext db (wholeList query) order = true ∧
      ∀ c ∈ cursor.map DeadlineCursor.key, c < queryKey query ctx.now order := by
  simp only [shipRows, List.mem_insertionSort, List.mem_filter, orderFilter_toShip hasks.queue_eq,
    Bool.and_eq_true]
  cases cursor with
  | none =>
    have hall : deadlinePage ctx.toReadContext query order = true := by
      simp [deadlinePage, hasks.beforeRank_eq]
    simp [hall]
  | some c =>
    rw [deadlinePage_iff hasks.asOf_eq hasks.beforeRank_eq hasks.beforeId_eq hasks.beforePaidAt_eq]
    simp

/-- The rows are sorted strictly, since their ids differ. -/
lemma pairwise_shipRows (hasks : Asks ctx r cursor query)
    (hkeyed : Table.Keyed SalesOrder.id db.orders) :
    (shipRows ctx.toReadContext query db).Pairwise fun a b =>
      queryKey query ctx.now a < queryKey query ctx.now b := by
  apply Pages.pairwise_insertionSort (fun a b => shipFirst_iff_key hasks.asOf_eq a b)
  have hids : ((db.orders.filter (orderFilter ctx.toReadContext db query)).map
      SalesOrder.id).Nodup := hkeyed.sublist (List.filter_sublist.map _)
  rw [List.Nodup, List.pairwise_map] at hids ⊢
  exact hids.imp fun hne hkey => hne (shipKey_id_injective hkey)

end Page

/-! ### From the first page to the last -/

/-- A page that is asked for, and the shop at that time. -/
structure Visit where
  now : Instant
  db : Db
  page : OrderPage

/-- The desk at the time of a visit. -/
def Visit.desk (ctx : QueryContext) (v : Visit) : QueryContext := { ctx with now := v.now }

/-- Page after page under the cursor of the page before, each at a later time. -/
inductive Tour (ctx : QueryContext) (roleCode : RoleCode) (r : ListRequest) :
    Option String → List Visit → Prop
  | last {cursor : Option String} {v : Visit}
      (hpage : OrderQueryService.listOrders (v.desk ctx) roleCode { r with cursor } v.db =
        .ok v.page)
      (hend : v.page.cursor = none) : Tour ctx roleCode r cursor [v]
  | more {cursor : Option String} {v v' : Visit} {rest : List Visit} {d : String}
      (hpage : OrderQueryService.listOrders (v.desk ctx) roleCode { r with cursor } v.db =
        .ok v.page)
      (hnext : v.page.cursor = some d) (hnow : v.now ≤ v'.now)
      (hrest : Tour ctx roleCode r (some d) (v' :: rest)) : Tour ctx roleCode r cursor (v :: v' :: rest)

/-- The place of an order at the time of a visit. -/
def Visit.key (ctx : QueryContext) (v : Visit) (paidAt : Option Instant) (id : ℕ) : ShipKey :=
  shipKey (rankAt v.now ctx.shipSlaHours ctx.shipWarnHours paidAt) paidAt id

/-- The place of the last order on the page, if there are more. -/
def Visit.nextKey (ctx : QueryContext) (v : Visit) : Option ShipKey :=
  if v.page.cursor = none then none
  else v.page.items.getLast?.map fun item => v.key ctx item.paidAt item.id

/-- The ids are unique and fit into their column, and the cursors can be read. -/
structure Stored (ctx : QueryContext) (v : Visit) : Prop where
  ids_keyed : Table.Keyed SalesOrder.id v.db.orders
  id_lt : ∀ order ∈ v.db.orders, order.id < 2 ^ 63
  readsBack : ∀ order ∈ v.db.orders, ReadsBack (v.desk ctx) order

/-- The order is on the list: it waits, it was reviewed, and the filters of the request let it
through. -/
def Waits (ctx : QueryContext) (r : ListRequest) (paidAt : Option Instant) (id : ℕ) (v : Visit) :
    Prop :=
  ∃ query, listQuery (v.desk ctx) { r with cursor := none } = .ok query ∧
    ∃ order ∈ v.db.orders, order.id = id ∧ order.paidAt = paidAt ∧
      orderFilter (v.desk ctx).toReadContext v.db query order = true

/-- From one page to the next: the cursor ranks the last order as the statement does, and an order
that is still to come does not fall to a rank below. -/
def Steady (ctx : QueryContext) (paidAt : Option Instant) (id : ℕ) (v v' : Visit) : Prop :=
  ∀ item ∈ v.page.items.getLast?,
    ¬ WarnedAhead item.paidAt v.now ctx.shipSlaHours ctx.shipWarnHours ∧
    (v.key ctx item.paidAt item.id < v.key ctx paidAt id →
      rankAt v.now ctx.shipSlaHours ctx.shipWarnHours item.paidAt ≤
        rankAt v'.now ctx.shipSlaHours ctx.shipWarnHours paidAt)

section Tours

variable {ctx : QueryContext} {roleCode : RoleCode} {r : ListRequest} {text : Option String}
  {cursor : Option DeadlineCursor} {v : Visit} {paidAt : Option Instant} {id : ℕ}

/-- The order at the time of a visit, between the cursor of the page and the next one. -/
def Visit.stop (ctx : QueryContext) (cursor : Option DeadlineCursor) (paidAt : Option Instant)
    (id : ℕ) (v : Visit) : Pages.Stop ShipKey :=
  ⟨cursor.map DeadlineCursor.key, v.key ctx paidAt id, v.nextKey ctx⟩

/-- Without further filters the list holds the paid orders that were reviewed. -/
lemma waits_iff (hfilters : r.toOrderFilters = {}) (hqueue : r.queue = some "to_ship")
    (hkind : r.exceptionKind = none) :
    Waits ctx r paidAt id v ↔ ∃ order ∈ v.db.orders, order.id = id ∧ order.paidAt = paidAt ∧
      order.unifiedStatus = .paid ∧
      (order.reviewStatus = .autoPassed ∨ order.reviewStatus = .approved) := by
  obtain ⟨filters, limit, cursor, queue, kind⟩ := r
  subst hfilters hqueue hkind
  have hquery : listQuery (v.desk ctx) ⟨{}, limit, none, some "to_ship", none⟩ =
      .ok { limit := limit + 1, queue := some .toShip, slaHours := ctx.shipSlaHours,
            warnHours := ctx.shipWarnHours, asOf := some v.now } := rfl
  simp only [Waits, hquery, Except.ok.injEq, exists_eq_left']
  simp [orderFilter, whenGiven, queueClause, cursorClause, deadlinePage]

lemma queryKey_eq {query : OrderListQuery} (hasks : Asks (v.desk ctx) r cursor query)
    (order : SalesOrder) : queryKey query v.now order = v.key ctx order.paidAt order.id := by
  simp only [queryKey, Visit.key, hasks.slaHours_eq, hasks.warnHours_eq, Visit.desk]

/-- The statement behind a page that was visited. -/
lemma asks_of_visit (hqueue : r.queue = some "to_ship")
    (hcursor : readDeadlineCursor ctx.codec text = .ok cursor)
    (hpage : OrderQueryService.listOrders (v.desk ctx) roleCode { r with cursor := text } v.db =
      .ok v.page) :
    ∃ query, Asks (v.desk ctx) { r with cursor := text } cursor query ∧
      v.page = orderPage (v.desk ctx) roleCode { r with cursor := text } v.db
        (OrderReadRepository.listOrders (v.desk ctx).toReadContext v.db query) := by
  obtain ⟨query, hquery, hpage⟩ := page_of_listOrders hpage
  exact ⟨query, asks_of_listQuery hqueue hcursor hquery, hpage⟩

section Visited

variable {query : OrderListQuery} (hqueue : r.queue = some "to_ship") (hlimit : 1 ≤ r.limit)
  (hasks : Asks (v.desk ctx) { r with cursor := text } cursor query)
  (hpage : v.page = orderPage (v.desk ctx) roleCode { r with cursor := text } v.db
    (OrderReadRepository.listOrders (v.desk ctx).toReadContext v.db query))

include hqueue hlimit hasks hpage

/-- There are more pages if and only if there are more orders, and the cursor is that of the last
order shown. -/
lemma visit_last :
    (v.page.cursor = none ∧ v.nextKey ctx = none ∧
      (shipRows (v.desk ctx).toReadContext query v.db).length ≤ r.limit) ∨
    ∃ last item, ((shipRows (v.desk ctx).toReadContext query v.db).take r.limit).getLast? =
        some last ∧ v.page.items.getLast? = some item ∧
      item.paidAt = last.paidAt ∧ item.id = last.id ∧
      v.page.cursor = some (writeDeadlineCursor (v.desk ctx) last) ∧
      v.nextKey ctx = some (queryKey query v.now last) := by
  have hdesk : ({ r with cursor := text } : ListRequest).queue = some "to_ship" := hqueue
  have hcursor := page_cursor_eq hdesk hasks hpage
  by_cases hmore : r.limit < (shipRows (v.desk ctx).toReadContext query v.db).length
  · right
    have hne : (shipRows (v.desk ctx).toReadContext query v.db).take r.limit ≠ [] := by
      intro hnil
      have hlength := congrArg List.length hnil
      rw [List.length_take, List.length_nil] at hlength
      omega
    obtain ⟨last, hlast⟩ := Option.ne_none_iff_exists'.mp (mt List.getLast?_eq_none_iff.mp hne)
    have hitems := page_items_map (f := fun item => (item.paidAt, item.id))
      (g := fun order => (order.paidAt, order.id)) hasks hpage fun _ _ => rfl
    have hlasts := congrArg List.getLast? hitems
    rw [List.getLast?_map, List.getLast?_map, hlast] at hlasts
    obtain ⟨item, hitem, hsame⟩ := Option.map_eq_some_iff.mp hlasts
    obtain ⟨hpaid, hid⟩ := Prod.mk.inj hsame
    simp only [hmore, if_true, hlast, Option.map_some] at hcursor
    refine ⟨last, item, hlast, hitem, hpaid, hid, hcursor, ?_⟩
    rw [queryKey_eq hasks, Visit.nextKey, hcursor, if_neg (by simp), hitem, Option.map_some, hpaid,
      hid]
  · left
    rw [if_neg hmore] at hcursor
    exact ⟨hcursor, by simp [Visit.nextKey, hcursor], not_lt.mp hmore⟩

/-- The page shows the order if it lies between the cursor and the last one shown. -/
lemma countP_visit (hkeyed : Table.Keyed SalesOrder.id v.db.orders)
    (hwaits : Waits ctx r paidAt id v) [Decidable (v.stop ctx cursor paidAt id).Shows] :
    v.page.items.countP (fun item => item.id = id) =
      if (v.stop ctx cursor paidAt id).Shows then 1 else 0 := by
  obtain ⟨whole, hwhole, order, hmem, rfl, rfl, hfilter⟩ := hwaits
  obtain rfl : whole = wholeList query := Except.ok.inj (hwhole.symm.trans hasks.first_page)
  set rows := shipRows (v.desk ctx).toReadContext query v.db with hrows
  have hsorted := pairwise_shipRows hasks hkeyed
  have hids : ((rows.take r.limit).map SalesOrder.id).Nodup := by
    have hall : (rows.map SalesOrder.id).Nodup :=
      ((List.perm_insertionSort _ _).map SalesOrder.id).nodup_iff.mpr
        (hkeyed.sublist (List.filter_sublist.map _))
    exact hall.sublist ((List.take_sublist _ _).map _)
  have hcount : v.page.items.countP (fun item => item.id = order.id) =
      ((rows.take r.limit).map SalesOrder.id).count order.id := by
    rw [← page_items_map (f := OrderListItem.id) hasks hpage fun _ _ => rfl, List.count,
      List.countP_map]
    rfl
  have hahead : order ∈ rows ↔ (v.stop ctx cursor order.paidAt order.id).Ahead := by
    rw [mem_shipRows hasks]
    simp only [hmem, hfilter, true_and, Pages.Stop.Ahead, Visit.stop, ← queryKey_eq hasks order]
    rfl
  have hon : order.id ∈ (rows.take r.limit).map SalesOrder.id ↔ order ∈ rows.take r.limit := by
    refine ⟨fun h => ?_, List.mem_map_of_mem⟩
    obtain ⟨other, hother, hid⟩ := List.mem_map.mp h
    have hin : other ∈ v.db.orders := ((mem_shipRows hasks).mp (List.mem_of_mem_take hother)).1
    rwa [← hkeyed.eq_of_key_eq hin hmem hid]
  have hshows : order ∈ rows.take r.limit ↔ (v.stop ctx cursor order.paidAt order.id).Shows := by
    obtain ⟨-, hnext, hlength⟩ | ⟨last, item, hlast, -, -, -, -, hnext⟩ :=
      visit_last hqueue hlimit hasks hpage
    · rw [List.take_of_length_le hlength, hahead]
      simp [Pages.Stop.Shows, Visit.stop, hnext]
    · rw [Pages.mem_take_iff hsorted hlast, hahead]
      simp only [Pages.Stop.Shows, Visit.stop, hnext, Option.mem_some_iff, forall_eq',
        ← queryKey_eq hasks order]
      rfl
  rw [hcount, hids.count]
  simp only [hon, hshows]

/-- The next cursor is read as the place of the last order shown, which lies behind the cursor of
the page. -/
lemma visit_next (hstored : Stored ctx v) {v' : Visit} (hsteady : Steady ctx paidAt id v v')
    {d : String} (hd : v.page.cursor = some d) :
    ∃ next : DeadlineCursor, readDeadlineCursor ctx.codec (some d) = .ok (some next) ∧
      v.nextKey ctx = some next.key ∧ (∀ c ∈ cursor.map DeadlineCursor.key, c < next.key) ∧
      (next.key < v.key ctx paidAt id → next.key < v'.key ctx paidAt id) := by
  obtain ⟨hnone, -, -⟩ | ⟨last, item, hlast, hitem, hpaid, hid, hcursor, hnext⟩ :=
    visit_last hqueue hlimit hasks hpage
  · rw [hnone] at hd
    cases hd
  obtain rfl : d = writeDeadlineCursor (v.desk ctx) last := Option.some.inj (hd.symm.trans hcursor)
  obtain ⟨hmem, hfilter, hbehind⟩ :=
    (mem_shipRows hasks).mp (List.mem_of_mem_take (List.mem_of_getLast? hlast))
  have hstatus := paid_of_orderFilter (show (wholeList query).queue = some .toShip from
    hasks.queue_eq) hfilter
  obtain ⟨hahead, hrank⟩ := hsteady item hitem
  rw [hpaid, hid] at hrank
  rw [hpaid] at hahead
  have hkey : (⟨cursorRank (v.desk ctx) last, last.paidAt, last.id⟩ : DeadlineCursor).key =
      v.key ctx last.paidAt last.id := by
    have hsame : cursorRank (v.desk ctx) last =
        rankAt v.now ctx.shipSlaHours ctx.shipWarnHours last.paidAt := cursorRank_eq hstatus hahead
    rw [DeadlineCursor.key, hsame, Visit.key]
  refine ⟨_, readDeadlineCursor_write (hstored.readsBack last hmem) (hstored.id_lt last hmem),
    ?_, ?_, ?_⟩
  · rw [hnext, queryKey_eq hasks, hkey]
  · rw [hkey, ← queryKey_eq hasks]
    exact hbehind
  · rw [hkey]
    exact fun hlt => shipKey_lt_of_rank_le hlt (hrank hlt)

end Visited

open Classical in
/-- The way of an order through the pages that are asked for. -/
lemma Tour.way (hqueue : r.queue = some "to_ship") (hlimit : 1 ≤ r.limit) {visits : List Visit}
    (htour : Tour ctx roleCode r text visits)
    (hcursor : readDeadlineCursor ctx.codec text = .ok cursor)
    (hstored : ∀ v ∈ visits, Stored ctx v) (hwaits : ∀ v ∈ visits, Waits ctx r paidAt id v)
    (hsteady : visits.IsChain (Steady ctx paidAt id)) :
    ∃ v rest stops, visits = v :: rest ∧ Pages.Way (v.stop ctx cursor paidAt id :: stops) ∧
      (visits.flatMap fun v => v.page.items).countP (fun item => item.id = id) =
        (v.stop ctx cursor paidAt id :: stops).countP fun s => s.Shows := by
  induction htour generalizing cursor with
  | @last text v hpage hend =>
    obtain ⟨query, hasks, hpage⟩ := asks_of_visit hqueue hcursor hpage
    have hcount := countP_visit hqueue hlimit hasks hpage (hstored v (by simp)).ids_keyed
      (hwaits v (by simp))
    refine ⟨v, [], [], rfl, .last _ (by simp [Visit.stop, Visit.nextKey, hend]), ?_⟩
    simp [hcount, List.countP_cons]
  | @more text v v' rest d hpage hnext hnow hrest ih =>
    obtain ⟨query, hasks, hpage⟩ := asks_of_visit hqueue hcursor hpage
    rw [List.isChain_cons_cons] at hsteady
    obtain ⟨next, hread, hkey, hmoves, hahead⟩ := visit_next hqueue hlimit hasks hpage
      (hstored v (by simp)) hsteady.1 hnext
    obtain ⟨w, _, stops, hsame, hway, hcount⟩ := ih hread
      (fun u hu => hstored u (List.mem_cons_of_mem v hu))
      (fun u hu => hwaits u (List.mem_cons_of_mem v hu)) hsteady.2
    obtain ⟨rfl, rfl⟩ := List.cons.inj hsame
    refine ⟨v, _, _, rfl, Pages.Way.more next.key hkey rfl hmoves ?_ ?_ hway, ?_⟩
    · -- time has only moved the order to the front
      intro hpassed
      refine le_trans ?_ hpassed
      rw [Visit.stop, Visit.stop, Visit.key, Visit.key, shipKey_le_iff]
      obtain hlt | heq := lt_or_eq_of_le
        (rankAt_le_of_le hnow ctx.shipSlaHours ctx.shipWarnHours paidAt)
      · exact Or.inl hlt
      · exact Or.inr ⟨heq, Or.inr ⟨rfl, le_refl id⟩⟩
    · exact hahead
    · rw [List.flatMap_cons, List.countP_append, hcount, countP_visit hqueue hlimit hasks hpage
        (hstored v (by simp)).ids_keyed (hwaits v (by simp))]
      simp only [List.countP_cons, decide_eq_true_eq]
      omega

/-- Every order that stays on the list is listed once. -/
theorem toShip_lists_once (hqueue : r.queue = some "to_ship") (hlimit : 1 ≤ r.limit)
    {visits : List Visit} (htour : Tour ctx roleCode r none visits)
    (hstored : ∀ v ∈ visits, Stored ctx v) (hwaits : ∀ v ∈ visits, Waits ctx r paidAt id v)
    (hsteady : visits.IsChain (Steady ctx paidAt id)) :
    (visits.flatMap fun v => v.page.items).countP (fun item => item.id = id) = 1 := by
  have hcursor : readDeadlineCursor ctx.codec none = .ok none := rfl
  obtain ⟨v, rest, stops, -, hway, hcount⟩ :=
    htour.way hqueue hlimit hcursor hstored hwaits hsteady
  rw [hcount, hway.countP_shows, if_pos]
  simp [Pages.Stop.Ahead, Visit.stop]

end Tours

/-! ### Two orders -/

/-- The times at which two orders were paid. -/
def paidTimes : List (Instant × String) :=
  [(0, "1970-01-01T00:00:00+00:00"), (hours 1, "1970-01-01T01:00:00+00:00")]

/-- The cursors behind the two orders, as long as there is time and when they are due soon. -/
def shipCursors : List (CursorPayload × String) :=
  [([("k", .text "d"), ("r", .number 2), ("t", .text "1970-01-01T00:00:00+00:00"),
      ("id", .text "1")],
    "eyJrIjoiZCIsInIiOjIsInQiOiIxOTcwLTAxLTAxVDAwOjAwOjAwKzAwOjAwIiwiaWQiOiIxIn0"),
   ([("k", .text "d"), ("r", .number 2), ("t", .text "1970-01-01T01:00:00+00:00"),
      ("id", .text "2")],
    "eyJrIjoiZCIsInIiOjIsInQiOiIxOTcwLTAxLTAxVDAxOjAwOjAwKzAwOjAwIiwiaWQiOiIyIn0"),
   ([("k", .text "d"), ("r", .number 1), ("t", .text "1970-01-01T00:00:00+00:00"),
      ("id", .text "1")],
    "eyJrIjoiZCIsInIiOjEsInQiOiIxOTcwLTAxLTAxVDAwOjAwOjAwKzAwOjAwIiwiaWQiOiIxIn0"),
   ([("k", .text "d"), ("r", .number 1), ("t", .text "1970-01-01T01:00:00+00:00"),
      ("id", .text "2")],
    "eyJrIjoiZCIsInIiOjEsInQiOiIxOTcwLTAxLTAxVDAxOjAwOjAwKzAwOjAwIiwiaWQiOiIyIn0")]

/-- The desk of a shop that knows these times and cursors. -/
def shipDesk : QueryContext := { plainDesk with
  codec :=
    { decodeCursor := fun text => .ok (((shipCursors.find? fun c => c.2 == text).map Prod.fst).getD [])
      encodeCursor := fun payload => (shipCursors.lookup payload).getD ""
      fromisoformat := fun text => (paidTimes.find? fun t => t.2 == text).map Prod.fst
      isoformat := fun t => (paidTimes.lookup t).getD "" } }

/-- Two orders that were paid one hour after the other. -/
def waitingShop : Db where
  shops := [⟨1, "shopee", "", "SG"⟩]
  orders := [{ waitingOrder with paidAt := some 0 },
    { waitingOrder with id := 2, platformOrderId := "S2", idempotencyKey := "shopee:S2" }]

/-- One order a page. -/
def shipRequest : ListRequest := { limit := 1, queue := some "to_ship" }

/-- A page of the two orders. -/
def visitAt (now : Instant) (cursor : Option String) : Visit where
  now
  db := waitingShop
  page := ((OrderQueryService.listOrders { shipDesk with now } .opsStaff
    { shipRequest with cursor } waitingShop).toOption).getD ⟨[], none, false⟩

/-- The first page, ten hours after the payment. -/
def firstVisit : Visit := visitAt (hours 10) none

/-- The second page, an hour later and when both orders are due soon. -/
def soonVisit : Visit := visitAt (hours 11) firstVisit.page.cursor

def lateVisit : Visit := visitAt (hours 45) firstVisit.page.cursor

lemma stored_visitAt {now : Instant} (hnow : now ∈ [hours 10, hours 11, hours 45])
    (cursor : Option String) : Stored shipDesk (visitAt now cursor) := by
  have hreads : ∀ now ∈ [hours 10, hours 11, hours 45], ∀ order ∈ waitingShop.orders,
      let desk := { shipDesk with now };
      desk.codec.decodeCursor (writeDeadlineCursor desk order) = .ok (deadlinePayload desk order) ∧
      writeDeadlineCursor desk order ≠ "" ∧
      (∀ paid ∈ order.paidAt, desk.codec.isoformat paid ≠ "") ∧
      ∀ paid ∈ order.paidAt, desk.codec.fromisoformat (desk.codec.isoformat paid) = some paid := by
    decide +kernel
  have hkeyed : Table.Keyed SalesOrder.id waitingShop.orders := by decide
  have hlt : ∀ order ∈ waitingShop.orders, order.id < 2 ^ 63 := by decide
  refine ⟨hkeyed, hlt, fun order horder => ?_⟩
  obtain ⟨hpayload, hcursor, hne, htime⟩ := hreads now hnow order horder
  exact ⟨hpayload, hcursor, hne, htime⟩

/-- Both orders are on the list at any time. -/
lemma waits_visitAt (now : Instant) (cursor : Option String) :
    Waits shipDesk shipRequest (some (hours 1)) 2 (visitAt now cursor) := by
  rw [waits_iff rfl rfl rfl]
  exact ⟨_, List.mem_cons_of_mem _ (List.mem_singleton_self _), rfl, rfl, rfl, .inl rfl⟩

/-- Asked for an hour later, the second page shows the second order. -/
theorem toShip_lists_once_soonVisit :
    ([firstVisit, soonVisit].flatMap fun v => v.page.items).countP (fun item => item.id = 2) = 1 := by
  have htour : Tour shipDesk .opsStaff shipRequest none [firstVisit, soonVisit] :=
    .more rfl rfl (by decide) (.last rfl rfl)
  have hsteady : Steady shipDesk (some (hours 1)) 2 firstVisit soonVisit := by
    intro item hitem
    have hrank : ∀ item ∈ firstVisit.page.items.getLast?,
        rankAt (hours 10) 48 4 item.paidAt ≤ rankAt (hours 11) 48 4 (some (hours 1)) := by
      decide +kernel
    refine ⟨?_, fun _ => hrank item hitem⟩
    rintro ⟨_, hlt, _⟩
    exact absurd hlt (by decide)
  apply toShip_lists_once rfl (by decide) htour
  · simp only [List.forall_mem_cons, List.not_mem_nil, false_implies, implies_true, and_true]
    exact ⟨stored_visitAt (by simp) _, stored_visitAt (by simp) _⟩
  · simp only [List.forall_mem_cons, List.not_mem_nil, false_implies, implies_true, and_true]
    exact ⟨waits_visitAt _ _, waits_visitAt _ _⟩
  · exact List.isChain_pair.mpr hsteady

/-- Asked for when both orders are due soon, it shows none: they rank before the cursor. -/
theorem toShip_misses :
    Tour shipDesk .opsStaff shipRequest none [firstVisit, lateVisit] ∧
    (∀ v ∈ [firstVisit, lateVisit], Stored shipDesk v) ∧
    (∀ v ∈ [firstVisit, lateVisit], Waits shipDesk shipRequest (some (hours 1)) 2 v) ∧
    ([firstVisit, lateVisit].flatMap fun v => v.page.items).countP (fun item => item.id = 2) = 0 := by
  simp only [List.forall_mem_cons, List.not_mem_nil, false_implies, implies_true, and_true]
  exact ⟨.more rfl rfl (by decide) (.last rfl rfl),
    ⟨stored_visitAt (by simp) _, stored_visitAt (by simp) _⟩,
    ⟨waits_visitAt _ _, waits_visitAt _ _⟩, by decide +kernel⟩

end CrossPilot
