import CrossPilot.Lib.Related
import CrossPilot.Order.Query

/-!
# Data scopes

A member may see all shops, some, or none (`UserDataScope`). The scope is written by the management
of members; the requests to read orders get the role of the member and not the scope. So a request
tells about a shop outside the scope whenever its own filters let an order of that shop through.
-/

namespace CrossPilot

open OrderQueryService hiding listOrders getOrder exportOrders

/-! ### Scopes -/

/-- How far a scope reaches. -/
inductive DataScopeType
  | all | selected | none
  deriving DecidableEq

/-- What a scope is about. -/
inductive ResourceType
  | shop | warehouse | supplier
  deriving DecidableEq

/-- The scope of a member. -/
structure UserDataScope where
  tenantUserId : ℕ
  resourceType : ResourceType
  scopeType : DataScopeType
  shopIds : List ℕ
  deriving DecidableEq

/-- The shops a scope covers: the listed ones if some are selected. -/
def UserDataScope.covers (scope : UserDataScope) (shopId : ℕ) : Bool :=
  match scope.scopeType with
  | .all => true
  | .selected => scope.shopIds.contains shopId
  | .none => false

/-- `update_scope`. The list is kept only where it says something. -/
def updateScope (memberId : ℕ) (resourceType : ResourceType) (scopeType : DataScopeType)
    (shopIds : List ℕ) : Except ServiceError UserDataScope :=
  if scopeType ≠ .selected then .ok ⟨memberId, resourceType, scopeType, []⟩
  else if shopIds.isEmpty then .error (.paramInvalid "SELECTED 数据范围至少需要一个店铺 ID")
  else .ok ⟨memberId, resourceType, scopeType, shopIds⟩

/-- Who sends a request. -/
structure Identity where
  roleCode : RoleCode
  scope : UserDataScope

/-- The answer to a request of a member. The routes hand on the role. -/
def respondTo (ctx : QueryContext) (identity : Identity) (request : OrderRequest) (db : Db) :
    Except ServiceError OrderResponse :=
  respond ctx identity.roleCode request db

/-! ### Databases that are the same within a scope -/

/-- The orders of the covered shops. -/
def ordersWithin (covers : ℕ → Bool) (db : Db) : List SalesOrder :=
  db.orders.filter fun order => covers order.shopId

/-- A row belongs to an order of a covered shop. -/
def isWithin (covers : ℕ → Bool) (db : Db) (orderId : ℕ) : Bool :=
  (ordersWithin covers db).any fun order => order.id = orderId

/-- Two databases that differ only in orders of shops outside the scope, with all that belongs to
these orders. -/
structure SameWithin (covers : ℕ → Bool) (db db' : Db) : Prop where
  orders : ordersWithin covers db = ordersWithin covers db'
  shops : db.shops = db'.shops
  items : (db.items.filter fun item => isWithin covers db item.orderId) =
    db'.items.filter fun item => isWithin covers db item.orderId
  fees : (db.fees.filter fun fee => isWithin covers db fee.orderId) =
    db'.fees.filter fun fee => isWithin covers db fee.orderId
  statusLogs : (db.statusLogs.filter fun log => isWithin covers db log.orderId) =
    db'.statusLogs.filter fun log => isWithin covers db log.orderId
  shipments : (db.shipments.filter fun s => isWithin covers db s.orderId) =
    db'.shipments.filter fun s => isWithin covers db s.orderId

/-- A request can return an order of a shop: its filters let one through. -/
def OrderRequest.Reaches (ctx : QueryContext) (shopId : ℕ) : OrderRequest → Prop
  | .list r => ∃ query, listQuery ctx r = .ok query ∧ ∃ (db : Db) (order : SalesOrder),
      order.shopId = shopId ∧ orderFilter ctx.toReadContext db query order
  | .detail _ => True
  | .file r => ∃ fields query, exportFields r.fields = .ok fields ∧
      exportQuery ctx r = .ok query ∧ ∃ (db : Db) (order : SalesOrder),
        order.shopId = shopId ∧ orderFilter ctx.toReadContext db query order

/-- What is saved covers what was asked for. -/
lemma covers_of_updateScope {memberId : ℕ} {resourceType : ResourceType}
    {scopeType : DataScopeType} {shopIds : List ℕ} {scope : UserDataScope}
    (h : updateScope memberId resourceType scopeType shopIds = .ok scope) (shopId : ℕ) :
    scope.covers shopId ↔ scopeType = .all ∨ scopeType = .selected ∧ shopId ∈ shopIds := by
  simp only [updateScope] at h
  split_ifs at h with htype hempty
  · cases h
    cases scopeType with
    | all => simp [UserDataScope.covers]
    | selected => exact absurd rfl htype
    | none => simp [UserDataScope.covers]
  · cases h
    rw [not_not] at htype
    subst htype
    simp [UserDataScope.covers]

/-! ### What is read within a scope -/

section Within

variable {covers : ℕ → Bool} {db db' : Db} {ctx : ReadContext} {query : OrderListQuery}
  {order : SalesOrder}

lemma mem_ordersWithin : order ∈ ordersWithin covers db ↔
    order ∈ db.orders ∧ covers order.shopId := by
  simp [ordersWithin]

lemma isWithin_of_mem (h : order ∈ ordersWithin covers db) : isWithin covers db order.id :=
  List.any_eq_true.2 ⟨order, h, by simp⟩

lemma isWithin_of_eq {id : ℕ} (h : order ∈ ordersWithin covers db) (hid : id = order.id) :
    isWithin covers db id :=
  hid ▸ isWithin_of_mem h

lemma skuExists_within (h : SameWithin covers db db') (horder : order ∈ ordersWithin covers db)
    (value : String) : skuExists ctx db order value = skuExists ctx db' order value := by
  refine Related.any_eq_of_part h.items fun item hitem => ?_
  rw [Bool.and_eq_true, decide_eq_true_eq] at hitem
  exact isWithin_of_eq horder hitem.1

lemma exceptionClause_within (h : SameWithin covers db db')
    (horder : order ∈ ordersWithin covers db) :
    exceptionClause ctx db query order = exceptionClause ctx db' query order := by
  have hunmatched : (db.items.any fun item => item.orderId = order.id && item.skuId = none) =
      db'.items.any fun item => item.orderId = order.id && item.skuId = none := by
    refine Related.any_eq_of_part h.items fun item hitem => ?_
    rw [Bool.and_eq_true, decide_eq_true_eq] at hitem
    exact isWithin_of_eq horder hitem.1
  simp only [exceptionClause, hunmatched]

/-- The filters read what belongs to the order, and its shop. -/
lemma orderFilter_within (h : SameWithin covers db db')
    (horder : order ∈ ordersWithin covers db) :
    orderFilter ctx db query order = orderFilter ctx db' query order := by
  have hgoods : skuExists ctx db order = skuExists ctx db' order :=
    funext fun value => skuExists_within h horder value
  have hkeyword : keywordClause ctx db order = keywordClause ctx db' order := by
    funext keyword
    simp only [keywordClause, hgoods]
  have hqueue : queueClause ctx db query order = queueClause ctx db' query order := by
    simp only [queueClause, exceptionClause_within h horder]
  have hshop : shopOf db order = shopOf db' order := by
    simp only [shopOf, h.shops]
  simp only [orderFilter, hgoods, hkeyword, hqueue, hshop]

lemma hit_within (h : SameWithin covers db db') (horder : order ∈ ordersWithin covers db) :
    hit db order = hit db' order := by
  have hshop : shopOf db order = shopOf db' order := by
    simp only [shopOf, h.shops]
  have hshipment : shipmentOf db order = shipmentOf db' order := by
    refine Related.find?_eq_of_part h.shipments fun s hs => ?_
    rw [decide_eq_true_eq] at hs
    exact isWithin_of_eq horder hs
  simp only [hit, hshop, hshipment]

/-- A query that lets through orders of the scope only does not see the others. -/
lemma listOrders_within (h : SameWithin covers db db')
    (hquery : ∀ (db : Db) (order : SalesOrder), orderFilter ctx db query order →
      covers order.shopId) :
    OrderReadRepository.listOrders ctx db query = OrderReadRepository.listOrders ctx db' query := by
  have hrows : ∀ db : Db, db.orders.filter (orderFilter ctx db query) =
      (ordersWithin covers db).filter (orderFilter ctx db query) := by
    intro db
    rw [ordersWithin, List.filter_filter]
    refine List.filter_congr fun order _ => ?_
    cases hpass : orderFilter ctx db query order with
    | true => rw [hquery db order hpass]; rfl
    | false => rfl
  have hsame : db.orders.filter (orderFilter ctx db query) =
      db'.orders.filter (orderFilter ctx db' query) := by
    rw [hrows db, hrows db', ← h.orders]
    exact List.filter_congr fun order horder => orderFilter_within h horder
  have hhits : ∀ rows : List SalesOrder,
      (∀ order ∈ rows, order ∈ db.orders.filter (orderFilter ctx db query)) →
        (rows.take query.limit).map (hit db) = (rows.take query.limit).map (hit db') := by
    intro rows hmem
    refine List.map_congr_left fun order horder => ?_
    have hrow := hmem order (List.mem_of_mem_take horder)
    rw [hrows] at hrow
    exact hit_within h (List.mem_filter.1 hrow).1
  simp only [OrderReadRepository.listOrders, ← hsame]
  split_ifs
  · exact hhits _ fun order horder => (List.mem_insertionSort _).1 horder
  · exact hhits _ fun order horder => (List.mem_insertionSort _).1 horder

/-- What was found lies in the scope. -/
lemma mem_of_listOrders (hquery : ∀ (db : Db) (order : SalesOrder),
      orderFilter ctx db query order → covers order.shopId) {found : OrderHit}
    (hfound : found ∈ OrderReadRepository.listOrders ctx db query) :
    found.order ∈ ordersWithin covers db := by
  simp only [OrderReadRepository.listOrders, List.mem_map] at hfound
  obtain ⟨order, horder, rfl⟩ := hfound
  have hrow : order ∈ db.orders.filter (orderFilter ctx db query) := by
    have hsorted := List.mem_of_mem_take horder
    split_ifs at hsorted
    · exact (List.mem_insertionSort _).1 hsorted
    · exact (List.mem_insertionSort _).1 hsorted
  rw [List.mem_filter] at hrow
  exact mem_ordersWithin.2 ⟨hrow.1, hquery db order hrow.2⟩

lemma unmatchedOrderIds_within (h : SameWithin covers db db') {ids : List ℕ}
    (hids : ∀ id ∈ ids, isWithin covers db id) :
    OrderReadRepository.unmatchedOrderIds db ids =
      OrderReadRepository.unmatchedOrderIds db' ids := by
  refine congrArg (List.map OrderItem.orderId) (Related.filter_eq_of_part h.items ?_)
  intro item hitem
  rw [Bool.and_eq_true, List.contains_iff_mem] at hitem
  exact hids _ hitem.1

lemma listFees_within (h : SameWithin covers db db') {ids : List ℕ}
    (hids : ∀ id ∈ ids, isWithin covers db id) :
    OrderReadRepository.listFees db ids = OrderReadRepository.listFees db' ids := by
  refine congrArg (List.insertionSort _) (Related.filter_eq_of_part h.fees ?_)
  intro fee hfee
  rw [List.contains_iff_mem] at hfee
  exact hids _ hfee

end Within

section Answers

variable {covers : ℕ → Bool} {db db' : Db} {ctx : QueryContext} {roleCode : RoleCode}
  {hits : List OrderHit}

lemma isWithin_of_hits (hhits : ∀ found ∈ hits, found.order ∈ ordersWithin covers db) (n : ℕ) :
    ∀ id ∈ (hits.take n).map (fun h => h.order.id), isWithin covers db id := by
  intro id hid
  obtain ⟨found, hfound, rfl⟩ := List.mem_map.1 hid
  exact isWithin_of_mem (hhits found (List.mem_of_mem_take hfound))

lemma orderPage_within (h : SameWithin covers db db') (r : ListRequest)
    (hhits : ∀ found ∈ hits, found.order ∈ ordersWithin covers db) :
    orderPage ctx roleCode r db hits = orderPage ctx roleCode r db' hits := by
  simp only [orderPage, unmatchedOrderIds_within h (isWithin_of_hits hhits r.limit)]

lemma orderFile_within (h : SameWithin covers db db') (fields : List ExportField)
    (hhits : ∀ found ∈ hits, found.order ∈ ordersWithin covers db) :
    orderFile ctx roleCode fields db hits = orderFile ctx roleCode fields db' hits := by
  simp only [orderFile, listFees_within h (isWithin_of_hits hhits ctx.exportMaxRows)]

/-- A scope over all shops leaves nothing out. -/
lemma getOrder_within (h : SameWithin covers db db') (hcovers : ∀ shopId, covers shopId)
    (orderId : ℕ) : OrderQueryService.getOrder ctx roleCode orderId db =
      OrderQueryService.getOrder ctx roleCode orderId db' := by
  have hall : ∀ db : Db, ordersWithin covers db = db.orders := fun db =>
    List.filter_eq_self.2 fun order _ => hcovers order.shopId
  have horders : db.orders = db'.orders := by
    have hwithin := h.orders
    rwa [hall, hall] at hwithin
  simp only [OrderQueryService.getOrder, OrderReadRepository.getOrder, ← horders]
  cases hfound : db.orders.find? fun order => order.id = orderId with
  | none => rfl
  | some order =>
    have horder : order ∈ ordersWithin covers db := by
      rw [hall]
      exact List.mem_of_find?_eq_some hfound
    have hitems : OrderReadRepository.listItems db order.id =
        OrderReadRepository.listItems db' order.id := by
      refine congrArg (List.insertionSort _) (Related.filter_eq_of_part h.items ?_)
      intro item hitem
      exact isWithin_of_eq horder (of_decide_eq_true hitem)
    have hlogs : OrderReadRepository.listLogs db order.id =
        OrderReadRepository.listLogs db' order.id := by
      refine congrArg (List.take 200)
        (congrArg (List.insertionSort _) (Related.filter_eq_of_part h.statusLogs ?_))
      intro log hlog
      exact isWithin_of_eq horder (of_decide_eq_true hlog)
    have hfees : OrderReadRepository.listFees db [order.id] =
        OrderReadRepository.listFees db' [order.id] :=
      listFees_within h fun id hid => isWithin_of_eq horder (List.mem_singleton.1 hid)
    have hid : (hit db' order).order.id = order.id := rfl
    simp only [Option.map_some, orderInFull, hit_within h horder, hid, hitems, hlogs, hfees]

/-- The tables without the orders. -/
def withoutOrders (db : Db) : Db :=
  { db with orders := [], items := [], fees := [], statusLogs := [], shipments := [] }

/-- An order of a shop outside the scope may be there or not. -/
lemma sameWithin_of_not_covers {order : SalesOrder} (hcovers : covers order.shopId = false)
    (db : Db) : SameWithin covers { db with orders := [order] } (withoutOrders db) := by
  have hnone : ordersWithin covers { db with orders := [order] } = [] := by
    simp [ordersWithin, hcovers]
  have hwithin : ∀ id, isWithin covers { db with orders := [order] } id = false := by
    intro id
    rw [isWithin, hnone]
    rfl
  constructor
  · exact hnone
  · rfl
  all_goals simp [hwithin, withoutOrders]

lemma listOrders_withoutOrders (ctx : ReadContext) (db : Db) (query : OrderListQuery) :
    OrderReadRepository.listOrders ctx (withoutOrders db) query = [] := by
  simp [OrderReadRepository.listOrders, withoutOrders]

end Answers

/-! ### Requests that stay within a scope -/

/-- An order with a given id, of a given shop. -/
def foundOrder (orderId shopId : ℕ) : SalesOrder where
  id := orderId
  shopId := shopId
  platformCode := "tiktok"
  platformOrderId := "576461"
  idempotencyKey := "tiktok:" ++ toString shopId ++ ":576461"
  platformStatus := "AWAITING_SHIPMENT"
  unifiedStatus := .paid
  currency := "USD"

/-- What a member is answered does not depend on orders of shops outside the scope if and only if
the scope covers every shop an order of which the filters of the request let through. -/
theorem respondTo_eq_iff (ctx : QueryContext) (identity : Identity) (request : OrderRequest) :
    (∀ db db', SameWithin identity.scope.covers db db' →
      respondTo ctx identity request db = respondTo ctx identity request db') ↔
      ∀ shopId, request.Reaches ctx shopId → identity.scope.covers shopId := by
  constructor
  · intro hsame shopId hreach
    by_contra hcovers
    rw [Bool.not_eq_true] at hcovers
    cases request with
    | detail orderId =>
      have horder : identity.scope.covers (foundOrder orderId shopId).shopId = false := hcovers
      have hdetail := hsame _ _ (sameWithin_of_not_covers horder {})
      simp [respondTo, respond, OrderQueryService.getOrder, OrderReadRepository.getOrder,
        withoutOrders, foundOrder, Except.map] at hdetail
    | list r =>
      obtain ⟨query, hquery, db, order, rfl, hpass⟩ := hreach
      have hlimit : 0 < query.limit := by rw [(listQuery_ok hquery).1]; omega
      have hpage := hsame _ _ (sameWithin_of_not_covers hcovers db)
      rw [respondTo, respondTo, respond_list hquery, respond_list hquery,
        listOrders_singleton hlimit, if_pos hpass, listOrders_withoutOrders] at hpage
      simp only [Except.ok.injEq, OrderResponse.page.injEq] at hpage
      exact orderPage_ne _ _ _ _ _ hpage
    | file r =>
      obtain ⟨fields, query, hfields, hquery, db, order, rfl, hpass⟩ := hreach
      have hlimit : 0 < query.limit := by rw [(exportQuery_ok hquery).1]; omega
      have hfile := hsame _ _ (sameWithin_of_not_covers hcovers db)
      rw [respondTo, respondTo, respond_export hfields hquery, respond_export hfields hquery,
        listOrders_singleton hlimit, if_pos hpass, listOrders_withoutOrders] at hfile
      simp only [Except.ok.injEq, OrderResponse.file.injEq] at hfile
      exact orderFile_ne _ _ _ _ _ hfile
  · intro hreach db db' hwithin
    cases request with
    | detail orderId =>
      have hall : ∀ shopId, identity.scope.covers shopId := fun shopId => hreach shopId trivial
      simp only [respondTo, respond, getOrder_within hwithin hall]
    | list r =>
      cases hquery : listQuery ctx r with
      | error e => rw [respondTo, respondTo, respond_list_error hquery, respond_list_error hquery]
      | ok query =>
        have hpass : ∀ (db : Db) (order : SalesOrder),
            orderFilter ctx.toReadContext db query order →
              identity.scope.covers order.shopId :=
          fun db order horder => hreach _ ⟨query, hquery, db, order, rfl, horder⟩
        rw [respondTo, respondTo, respond_list hquery, respond_list hquery,
          ← listOrders_within hwithin hpass,
          orderPage_within hwithin r fun found hfound => mem_of_listOrders hpass hfound]
    | file r =>
      cases hquery : (do let _ ← exportFields r.fields; exportQuery ctx r) with
      | error e =>
        rw [respondTo, respondTo, respond_export_error hquery, respond_export_error hquery]
      | ok query =>
        obtain ⟨fields, hfields, hquery⟩ := bind_eq_ok.1 hquery
        have hpass : ∀ (db : Db) (order : SalesOrder),
            orderFilter ctx.toReadContext db query order →
              identity.scope.covers order.shopId :=
          fun db order horder => hreach _ ⟨fields, query, hfields, hquery, db, order, rfl, horder⟩
        rw [respondTo, respondTo, respond_export hfields hquery, respond_export hfields hquery,
          ← listOrders_within hwithin hpass,
          orderFile_within hwithin fields fun found hfound => mem_of_listOrders hpass hfound]

/-! ### A member without a scope -/

/-- A clerk who may see the orders of shop 1 only. -/
def clerk : Identity := ⟨.cs, ⟨5, .shop, .selected, [1]⟩⟩

/-- The clerk is shown an order of shop 3. -/
theorem not_respondTo_eq_clerk : ¬ ∀ (ctx : QueryContext) (identity : Identity)
    (request : OrderRequest) (db : Db) (db' : Db), SameWithin identity.scope.covers db db' →
      respondTo ctx identity request db = respondTo ctx identity request db' := by
  intro h
  have hwithin : SameWithin clerk.scope.covers { orders := [foundOrder 7 3] } (withoutOrders {}) :=
    sameWithin_of_not_covers (by decide) {}
  exact absurd (h plainDesk clerk (.list {}) _ _ hwithin) (by decide)

end CrossPilot
