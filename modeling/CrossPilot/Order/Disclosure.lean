import CrossPilot.Lib.Related
import CrossPilot.Order.Query

/-!
# What an answer gives away about buyers

A viewer is shown nothing of a buyer and of an address, and the finance role no name and no phone
number. Two databases that differ only in what a role is not shown are alike for it. A request that
does not search for buyers gets the same answer from both; a search that can find an order by its
buyer alone does not, since the keyword is compared with the columns as they are stored.
-/

namespace CrossPilot

open OrderReadRepository (unmatchedOrderIds listFees)
open OrderQueryService hiding listOrders getOrder exportOrders

/-! ### Roles that do not see who ordered -/

/-- A role that is not shown who ordered. -/
inductive Onlooker
  | viewer | finance
  deriving DecidableEq

namespace Onlooker

def roleCode : Onlooker → RoleCode
  | viewer => .viewer
  | finance => .finance

/-- The fields of the buyer and of the address that are to stay hidden: names, phone numbers and,
from a viewer, the address. -/
def hides : Onlooker → String → Bool
  | viewer, _ => true
  | finance, key => key ∈ ["name", "phone", "phone_last4"]

end Onlooker

/-! ### Databases that are alike -/

/-- Both texts are missing, empty or blank, or neither is. -/
structure SameEmptiness (a b : Option String) : Prop where
  missing : a = none ↔ b = none
  empty : a = some "" ↔ b = some ""
  blank : cleanText a = none ↔ cleanText b = none

/-- Two parties that agree in all that is not hidden. The last four digits of a phone number are
made from the number, and there need not be any. -/
structure AlikeParty (hides : String → Bool) (m m' : Option TextMap) : Prop where
  missing : m = none ↔ m' = none
  shown : ∀ key, hides key = false → field m key = field m' key
  hidden : ∀ key, hides key = true → key ≠ "phone_last4" →
    SameEmptiness (field m key) (field m' key)

/-- Two orders that differ in what is hidden only. -/
structure AlikeOrder (hides : String → Bool) (a b : SalesOrder) : Prop where
  same : b = { a with buyerInfo := b.buyerInfo, shipTo := b.shipTo, rawPayload := b.rawPayload }
  buyer : AlikeParty hides a.buyerInfo b.buyerInfo
  address : AlikeParty hides a.shipTo b.shipTo

/-- Two databases that differ in what is hidden only. -/
structure AlikeDb (hides : String → Bool) (db db' : Db) : Prop where
  same : db' = { db with orders := db'.orders }
  orders : List.Forall₂ (AlikeOrder hides) db.orders db'.orders

namespace SameEmptiness

lemma refl (a : Option String) : SameEmptiness a a := ⟨Iff.rfl, Iff.rfl, Iff.rfl⟩

lemma blank_eq {a b : Option String} (h : SameEmptiness a b) :
    CrossPilot.blank a = CrossPilot.blank b := by
  rw [Bool.eq_iff_iff]
  simp [CrossPilot.blank, h.missing, h.empty]

end SameEmptiness

namespace AlikeParty

variable {hides : String → Bool} {m m' : Option TextMap}

lemma sameEmptiness (h : AlikeParty hides m m') (key : String) (hkey : key ≠ "phone_last4") :
    SameEmptiness (field m key) (field m' key) := by
  cases hhides : hides key with
  | true => exact h.hidden key hhides hkey
  | false => rw [h.shown key hhides]; exact .refl _

/-- Buyers with different names are alike, if names are hidden. -/
lemma ofNames {a b : String} (hname : hides "name") (ha : cleanText (some a) ≠ none)
    (hb : cleanText (some b) ≠ none) :
    AlikeParty hides (some [("name", a)]) (some [("name", b)]) := by
  have hlookup : ∀ (t key : String), field (some [("name", t)]) key =
      if key = "name" then some t else none := by
    intro t key
    by_cases hkey : key = "name"
    · simp [field, hkey]
    · simp [field, hkey]
  constructor
  · simp
  · intro key hkey
    have hne : key ≠ "name" := by rintro rfl; simp [hname] at hkey
    simp [hlookup, hne]
  · intro key _ _
    rw [hlookup, hlookup]
    split_ifs
    · have hempty : ∀ {t : String}, cleanText (some t) ≠ none → some t ≠ some "" := by
        intro t ht h
        rw [h] at ht
        exact ht (by decide)
      exact ⟨by simp, iff_of_false (hempty ha) (hempty hb), iff_of_false ha hb⟩
    · exact .refl none

end AlikeParty

/-! ### What is shown of an order -/

section Shown

variable {who : Onlooker} {a b : SalesOrder}

lemma AlikeParty.refl {hides : String → Bool} (m : Option TextMap) : AlikeParty hides m m :=
  ⟨Iff.rfl, fun _ _ => rfl, fun _ _ _ => .refl _⟩

/-- A role is shown nothing that is hidden from it. -/
lemma maskParty_eq (h : AlikeOrder who.hides a b) :
    maskParty who.roleCode a.buyerInfo a.shipTo = maskParty who.roleCode b.buyerInfo b.shipTo := by
  cases who with
  | viewer => rfl
  | finance =>
    have hbuyer := h.buyer.shown "country" (by decide)
    have hcountry := h.address.shown "country" (by decide)
    have hstate := h.address.shown "state" (by decide)
    have hcity := h.address.shown "city" (by decide)
    simp only [Onlooker.roleCode, maskParty, hbuyer, hcountry, hstate, hcity]
    rfl

/-- Whether an address can be delivered to does not depend on its texts. -/
lemma addressInvalid_eq {hides : String → Bool} {m m' : Option TextMap}
    (h : AlikeParty hides m m') : addressInvalid m = addressInvalid m' := by
  have hcountry := (h.sameEmptiness "country" (by decide)).blank
  have hline1 := (h.sameEmptiness "line1" (by decide)).blank
  have hcity := (h.sameEmptiness "city" (by decide)).blank
  rw [Bool.eq_iff_iff]
  simp [addressInvalid, hcountry, hline1, hcity]

lemma addressClause_eq (h : AlikeOrder who.hides a b) : addressClause a = addressClause b := by
  have hmissing := h.address.missing
  have hcountry := (h.address.sameEmptiness "country" (by decide)).blank_eq
  have hline1 := (h.address.sameEmptiness "line1" (by decide)).blank_eq
  have hcity := (h.address.sameEmptiness "city" (by decide)).blank_eq
  rw [Bool.eq_iff_iff]
  simp [addressClause, hmissing, hcountry, hline1, hcity]

lemma AlikeOrder.cases (h : AlikeOrder who.hides a b) : ∃ buyerInfo shipTo rawPayload,
    b = { a with buyerInfo, shipTo, rawPayload } :=
  ⟨_, _, _, h.same⟩

lemma exceptionClause_eq {ctx : ReadContext} {db : Db} {query : OrderListQuery}
    (h : AlikeOrder who.hides a b) :
    exceptionClause ctx db query a = exceptionClause ctx db query b := by
  have haddress := addressClause_eq h
  obtain ⟨_, _, _, rfl⟩ := h.cases
  simp only [exceptionClause, paidOpen, ← haddress]

lemma queueClause_eq {ctx : ReadContext} {db : Db} {query : OrderListQuery}
    (h : AlikeOrder who.hides a b) :
    queueClause ctx db query a = queueClause ctx db query b := by
  have hexception : exceptionClause ctx db query a = exceptionClause ctx db query b :=
    exceptionClause_eq h
  have hpage : deadlinePage ctx query a = deadlinePage ctx query b := by
    obtain ⟨_, _, _, rfl⟩ := h.cases
    rfl
  obtain ⟨_, _, _, rfl⟩ := h.cases
  simp only [queueClause, ← hexception, ← hpage]

/-- A list is chosen without regard to what is hidden, unless it is searched. -/
lemma orderFilter_eq {ctx : ReadContext} {db : Db} {query : OrderListQuery}
    (hquery : query.keyword = none) (h : AlikeOrder who.hides a b) :
    orderFilter ctx db query a = orderFilter ctx db query b := by
  have hqueue : queueClause ctx db query a = queueClause ctx db query b := queueClause_eq h
  obtain ⟨_, _, _, rfl⟩ := h.cases
  simp only [orderFilter, ← hqueue, hquery, whenGiven, shopOf, skuExists, cursorClause]

/-- The orders of two hits differ in what is hidden only, and the rest is the same. -/
structure AlikeHit (hides : String → Bool) (x y : OrderHit) : Prop where
  order : AlikeOrder hides x.order y.order
  rest : y = { x with order := y.order }

lemma alikeHit (db : Db) (h : AlikeOrder who.hides a b) :
    AlikeHit who.hides (hit db a) (hit db b) := by
  refine ⟨h, ?_⟩
  obtain ⟨_, _, _, rfl⟩ := h.cases
  rfl

variable {x y : OrderHit}

lemma AlikeHit.cases (h : AlikeHit who.hides x y) : ∃ buyerInfo shipTo rawPayload,
    y = { x with order := { x.order with buyerInfo, shipTo, rawPayload } } := by
  obtain ⟨buyerInfo, shipTo, rawPayload, horder⟩ := h.order.cases
  refine ⟨buyerInfo, shipTo, rawPayload, ?_⟩
  rw [← horder]
  exact h.rest

lemma AlikeHit.id (h : AlikeHit who.hides x y) : x.order.id = y.order.id := by
  rw [h.order.same]

lemma listItem_eq {ctx : QueryContext} (h : AlikeHit who.hides x y) (skuUnmatched : Bool) :
    listItem ctx who.roleCode x skuUnmatched = listItem ctx who.roleCode y skuUnmatched := by
  have hmask := maskParty_eq h.order
  have haddress := addressInvalid_eq h.order.address
  obtain ⟨_, _, _, rfl⟩ := h.cases
  simp only [listItem, classifyExceptions, ← hmask, ← haddress]

lemma orderDetail_eq {ctx : QueryContext} (h : AlikeHit who.hides x y)
    (items : List OrderItem) (fees : List OrderFee) (logs : List OrderStatusLog) :
    orderDetail ctx who.roleCode x items fees logs =
      orderDetail ctx who.roleCode y items fees logs := by
  have hmask := maskParty_eq h.order
  have hitem : ∀ skuUnmatched, listItem ctx who.roleCode x skuUnmatched =
      listItem ctx who.roleCode y skuUnmatched := listItem_eq h
  obtain ⟨_, _, _, rfl⟩ := h.cases
  simp only [orderDetail, ← hmask, ← hitem]

lemma exportRow_eq {ctx : QueryContext} (h : AlikeHit who.hides x y)
    (fields : List ExportField) (fees : List OrderFee) :
    exportRow ctx who.roleCode x fields fees = exportRow ctx who.roleCode y fields fees := by
  have hmask := maskParty_eq h.order
  obtain ⟨_, _, _, rfl⟩ := h.cases
  simp only [exportRow, ← hmask]

end Shown

/-! ### What is answered -/

section Answers

variable {who : Onlooker} {db db' : Db}

lemma AlikeDb.cases {hides : String → Bool} (h : AlikeDb hides db db') :
    ∃ orders, db' = { db with orders } :=
  ⟨_, h.same⟩

lemma newestFirst_iff {a a' b b' : SalesOrder} (h : AlikeOrder who.hides a b)
    (h' : AlikeOrder who.hides a' b') : newestFirst a a' ↔ newestFirst b b' := by
  obtain ⟨_, _, _, rfl⟩ := h.cases
  obtain ⟨_, _, _, rfl⟩ := h'.cases
  exact Iff.rfl

lemma shipFirst_iff {ctx : ReadContext} {query : OrderListQuery} {a a' b b' : SalesOrder}
    (h : AlikeOrder who.hides a b) (h' : AlikeOrder who.hides a' b') :
    shipFirst ctx query a a' ↔ shipFirst ctx query b b' := by
  obtain ⟨_, _, _, rfl⟩ := h.cases
  obtain ⟨_, _, _, rfl⟩ := h'.cases
  exact Iff.rfl

/-- A list that is not searched has alike orders. -/
lemma listOrders_alike {ctx : ReadContext} {query : OrderListQuery} (hquery : query.keyword = none)
    (h : AlikeDb who.hides db db') :
    List.Forall₂ (AlikeHit who.hides) (OrderReadRepository.listOrders ctx db query)
      (OrderReadRepository.listOrders ctx db' query) := by
  have horders := h.orders
  obtain ⟨orders, rfl⟩ := h.cases
  have hrows : List.Forall₂ (AlikeOrder who.hides) (db.orders.filter (orderFilter ctx db query))
      (orders.filter (orderFilter ctx db query)) :=
    Related.filter horders fun _ _ hab => orderFilter_eq hquery hab
  have hsorted : List.Forall₂ (AlikeOrder who.hides)
      (if query.queue = some .toShip then
        (db.orders.filter (orderFilter ctx db query)).insertionSort (shipFirst ctx query)
      else (db.orders.filter (orderFilter ctx db query)).insertionSort newestFirst)
      (if query.queue = some .toShip then
        (orders.filter (orderFilter ctx db query)).insertionSort (shipFirst ctx query)
      else (orders.filter (orderFilter ctx db query)).insertionSort newestFirst) := by
    split_ifs
    · exact Related.insertionSort (fun _ _ _ _ hab hab' => shipFirst_iff hab hab') hrows
    · exact Related.insertionSort (fun _ _ _ _ hab hab' => newestFirst_iff hab hab') hrows
  exact Related.map (List.forall₂_take _ hsorted) fun _ _ hab => alikeHit db hab

lemma orderPage_eq {ctx : QueryContext} {r : ListRequest} {hits hits' : List OrderHit}
    (h : AlikeDb who.hides db db') (hhits : List.Forall₂ (AlikeHit who.hides) hits hits') :
    orderPage ctx who.roleCode r db hits = orderPage ctx who.roleCode r db' hits' := by
  obtain ⟨orders, rfl⟩ := h.cases
  have hvisible := List.forall₂_take r.limit hhits
  have hids : (hits.take r.limit).map (fun h => h.order.id) =
      (hits'.take r.limit).map fun h => h.order.id :=
    Related.map_eq hvisible fun _ _ hxy => hxy.id
  have hlast : ((hits.take r.limit).getLast?.map fun last =>
        if r.queue = some "to_ship" then writeDeadlineCursor ctx last.order
        else writeOrderCursor ctx.codec last.order.createdAt last.order.id) =
      (hits'.take r.limit).getLast?.map fun last =>
        if r.queue = some "to_ship" then writeDeadlineCursor ctx last.order
        else writeOrderCursor ctx.codec last.order.createdAt last.order.id := by
    refine Related.optionMap_eq (Related.getLast? hvisible) fun _ _ hxy => ?_
    obtain ⟨_, _, _, rfl⟩ := hxy.cases
    rfl
  have hitems : ∀ unmatched : List ℕ,
      ((hits.take r.limit).map fun h => listItem ctx who.roleCode h (unmatched.contains h.order.id)) =
      (hits'.take r.limit).map fun h => listItem ctx who.roleCode h (unmatched.contains h.order.id) :=
    fun unmatched => Related.map_eq hvisible fun _ _ hxy => by rw [listItem_eq hxy, hxy.id]
  simp only [orderPage, unmatchedOrderIds, hhits.length_eq, hids, hlast, hitems]

lemma orderFile_eq {ctx : QueryContext} {fields : List ExportField} {hits hits' : List OrderHit}
    (h : AlikeDb who.hides db db') (hhits : List.Forall₂ (AlikeHit who.hides) hits hits') :
    orderFile ctx who.roleCode fields db hits = orderFile ctx who.roleCode fields db' hits' := by
  obtain ⟨orders, rfl⟩ := h.cases
  have hvisible := List.forall₂_take ctx.exportMaxRows hhits
  have hids : (hits.take ctx.exportMaxRows).map (fun h => h.order.id) =
      (hits'.take ctx.exportMaxRows).map fun h => h.order.id :=
    Related.map_eq hvisible fun _ _ hxy => hxy.id
  have hrows : ∀ fees : List OrderFee,
      ((hits.take ctx.exportMaxRows).map fun h => exportRow ctx who.roleCode h fields
        (fees.filter fun fee => fee.orderId = h.order.id)) =
      (hits'.take ctx.exportMaxRows).map fun h => exportRow ctx who.roleCode h fields
        (fees.filter fun fee => fee.orderId = h.order.id) :=
    fun fees => Related.map_eq hvisible fun _ _ hxy => by rw [exportRow_eq hxy, hxy.id]
  simp only [orderFile, listFees, hhits.length_eq, hids, hrows]

/-- An order is shown in full without what is hidden. -/
lemma getOrder_eq {ctx : QueryContext} {orderId : ℕ} (h : AlikeDb who.hides db db') :
    OrderQueryService.getOrder ctx who.roleCode orderId db =
      OrderQueryService.getOrder ctx who.roleCode orderId db' := by
  have horders := h.orders
  obtain ⟨orders, rfl⟩ := h.cases
  have hfound : Option.Rel (AlikeOrder who.hides)
      (db.orders.find? fun order => order.id = orderId)
      (orders.find? fun order => order.id = orderId) :=
    Related.find? horders fun _ _ hab => by rw [hab.same]
  simp only [OrderQueryService.getOrder, OrderReadRepository.getOrder]
  generalize orders.find? (fun order => order.id = orderId) = y at hfound ⊢
  generalize db.orders.find? (fun order => order.id = orderId) = x at hfound ⊢
  cases hfound with
  | none => rfl
  | @some a b hab =>
    have hhit : AlikeHit who.hides (hit db a) (hit db b) := alikeHit db hab
    change Except.ok (orderInFull ctx who.roleCode db (hit db a)) =
      Except.ok (orderInFull ctx who.roleCode db (hit db b))
    rw [orderInFull, orderInFull, hhit.id, orderDetail_eq hhit]

end Answers

/-! ### Searches -/

/-- A query that can find an order by its buyer alone: its other filters let some order through
whose number and goods do not contain the keyword. -/
def OrderListQuery.SearchesBuyers (ctx : ReadContext) (query : OrderListQuery) : Prop :=
  ∃ keyword, query.keyword = some keyword ∧ ∃ (db : Db) (order : SalesOrder),
    orderFilter ctx db { query with keyword := none } order ∧
      contains ctx keyword order.platformOrderId = false ∧
      skuExists ctx db order keyword = false

/-- A request that can find an order by its buyer alone. -/
def OrderRequest.SearchesBuyers (ctx : QueryContext) : OrderRequest → Prop
  | .list r => ∃ query, listQuery ctx r = .ok query ∧ query.SearchesBuyers ctx.toReadContext
  | .detail _ => False
  | .file r => ∃ fields query, exportFields r.fields = .ok fields ∧
      exportQuery ctx r = .ok query ∧ query.SearchesBuyers ctx.toReadContext

section Searches

variable {ctx : ReadContext} {db : Db} {query : OrderListQuery} {order : SalesOrder}

/-- The keyword is one condition beside the others. -/
lemma orderFilter_and_keyword : orderFilter ctx db query order =
    (orderFilter ctx db { query with keyword := none } order &&
      whenGiven query.keyword (keywordClause ctx db order)) := by
  have hqueue : queueClause ctx db { query with keyword := none } order =
      queueClause ctx db query order := rfl
  have hcursor : cursorClause { query with keyword := none } order =
      cursorClause query order := rfl
  have hnone : whenGiven none (keywordClause ctx db order) = true := rfl
  simp only [orderFilter, hqueue, hcursor, hnone, Bool.and_true]
  cases whenGiven query.keyword (keywordClause ctx db order) with
  | true => simp only [Bool.and_true]
  | false => simp only [Bool.and_false, Bool.false_and]

/-- A keyword that every order has in its number or its goods chooses nothing. -/
lemma orderFilter_of_not_searchesBuyers (h : ¬ query.SearchesBuyers ctx) :
    orderFilter ctx db query order = orderFilter ctx db { query with keyword := none } order := by
  rw [orderFilter_and_keyword]
  cases hrest : orderFilter ctx db { query with keyword := none } order with
  | false => rfl
  | true =>
    rw [Bool.true_and]
    cases hkeyword : query.keyword with
    | none => rfl
    | some keyword =>
      have hknown : contains ctx keyword order.platformOrderId = true ∨
          skuExists ctx db order keyword = true := by
        by_contra hunknown
        rw [not_or, Bool.not_eq_true, Bool.not_eq_true] at hunknown
        exact h ⟨keyword, hkeyword, db, order, hrest, hunknown⟩
      rcases hknown with hnumber | hgoods
      · simp [whenGiven, keywordClause, hnumber]
      · simp [whenGiven, keywordClause, hgoods]

lemma listOrders_of_not_searchesBuyers (h : ¬ query.SearchesBuyers ctx) :
    OrderReadRepository.listOrders ctx db query =
      OrderReadRepository.listOrders ctx db { query with keyword := none } := by
  have hfilter : orderFilter ctx db query = orderFilter ctx db { query with keyword := none } :=
    funext fun _ => orderFilter_of_not_searchesBuyers h
  unfold OrderReadRepository.listOrders
  rw [hfilter]
  rfl

/-- The filters do not read the buyer, the keyword apart. -/
lemma orderFilter_buyerInfo (buyerInfo : Option TextMap) :
    orderFilter ctx db { query with keyword := none } { order with buyerInfo } =
      orderFilter ctx db { query with keyword := none } order := by
  have hqueue : queueClause ctx db { query with keyword := none } { order with buyerInfo } =
      queueClause ctx db { query with keyword := none } order := rfl
  have hgoods : skuExists ctx db { order with buyerInfo } = skuExists ctx db order := rfl
  simp only [orderFilter, hqueue, hgoods, shopOf, cursorClause, whenGiven]

/-- The same order, of a buyer of whom nothing but the name is known. -/
def SalesOrder.boughtBy (order : SalesOrder) (name : String) : SalesOrder :=
  { order with buyerInfo := some [("name", name)] }

/-- An order whose number and goods do not contain the keyword is found by the buyer's name. -/
lemma orderFilter_named {keyword : String} (hkeyword : query.keyword = some keyword)
    (hne : keyword ≠ "") (hrest : orderFilter ctx db { query with keyword := none } order)
    (hnumber : contains ctx keyword order.platformOrderId = false)
    (hgoods : skuExists ctx db order keyword = false) (name : String) :
    orderFilter ctx db query (order.boughtBy name) = contains ctx keyword name := by
  rw [orderFilter_and_keyword, SalesOrder.boughtBy, orderFilter_buyerInfo, hrest, hkeyword,
    Bool.true_and]
  have hgoods' : skuExists ctx db { order with buyerInfo := some [("name", name)] } keyword =
      false := hgoods
  have hlast4 : field (some [("name", name)]) "phone_last4" = none := rfl
  have hname : field (some [("name", name)]) "name" = some name := rfl
  simp [whenGiven, keywordClause, hnumber, hgoods', hlast4, hname, hne]

lemma cleanText_eq_none_iff {text : String} :
    cleanText (some text) = none ↔ ∀ c ∈ text.toList, Text.isSpace c := by
  rw [← Text.strip_eq_empty_iff]
  simp [cleanText]

lemma ne_empty_of_cleanText {value : Option String} {text : String}
    (h : cleanText value = some text) : text ≠ "" := by
  cases value with
  | none => cases h
  | some t =>
    simp only [cleanText] at h
    split_ifs at h with hempty
    cases h
    exact hempty

/-- A search that can find an order by its buyer alone finds one buyer and not another. -/
lemma exists_alike_of_searchesBuyers (who : Onlooker) (h : query.SearchesBuyers ctx)
    (hkeyword : query.keyword ≠ some "") (hlimit : 0 < query.limit) :
    ∃ (db : Db) (db' : Db) (found : OrderHit), AlikeDb who.hides db db' ∧
      OrderReadRepository.listOrders ctx db query = [found] ∧
      OrderReadRepository.listOrders ctx db' query = [] := by
  obtain ⟨keyword, hsome, db, order, hrest, hnumber, hgoods⟩ := h
  have hne : keyword ≠ "" := by rintro rfl; exact hkeyword hsome
  have hnamed := orderFilter_named hsome hne hrest hnumber hgoods
  have hletter : ∃ c, Text.isSpace c = false ∧
      contains ctx keyword (String.ofList [c]) = false := by
    rcases Like.not_ilike_or ctx.collation.fold_ne hne with ha | hb
    · exact ⟨'a', by decide, ha⟩
    · exact ⟨'b', by decide, hb⟩
  obtain ⟨c, hspace, hmisses⟩ := hletter
  have hfinds : contains ctx keyword ("x" ++ keyword) = true :=
    Like.ilike_containing_append ctx.collation.fold "x" keyword
  have hhides : who.hides "name" := by cases who <;> rfl
  have hx : cleanText (some ("x" ++ keyword)) ≠ none := by
    rw [Ne, cleanText_eq_none_iff]
    intro hall
    exact absurd (hall 'x' (by simp)) (by decide)
  have hc : cleanText (some (String.ofList [c])) ≠ none := by
    rw [Ne, cleanText_eq_none_iff]
    intro hall
    exact absurd (hall c (by simp)) (by simp [hspace])
  refine ⟨{ db with orders := [order.boughtBy ("x" ++ keyword)] },
    { db with orders := [order.boughtBy (String.ofList [c])] },
    hit db (order.boughtBy ("x" ++ keyword)),
    ⟨rfl, .cons ⟨rfl, .ofNames hhides hx hc, .refl _⟩ .nil⟩, ?_, ?_⟩
  · rw [listOrders_singleton hlimit, hnamed, hfinds]
    rfl
  · rw [listOrders_singleton hlimit, hnamed, hmisses]
    rfl

end Searches

/-! ### Requests that give nothing away -/

/-- A viewer learns nothing about buyers and addresses from a request, and the finance role nothing
about names and phone numbers, if and only if the request cannot find an order by its buyer alone:
it is refused, asks for one order, has no keyword, or lets only orders through whose number or goods
contain the keyword anyway. -/
theorem respond_eq_iff (ctx : QueryContext) (who : Onlooker) (request : OrderRequest) :
    (∀ db db', AlikeDb who.hides db db' →
      respond ctx who.roleCode request db = respond ctx who.roleCode request db') ↔
      ¬ request.SearchesBuyers ctx := by
  constructor
  · intro hsame hsearch
    cases request with
    | detail orderId => exact hsearch
    | list r =>
      obtain ⟨query, hquery, hsearch⟩ := hsearch
      obtain ⟨hlimit, hkeyword, -⟩ := listQuery_ok hquery
      obtain ⟨db, db', found, halike, hfound, hmissed⟩ :=
        exists_alike_of_searchesBuyers who hsearch
          (fun h => ne_empty_of_cleanText (hkeyword ▸ h) rfl) (by omega)
      have hpage := hsame db db' halike
      rw [respond_list hquery, respond_list hquery, hfound, hmissed] at hpage
      simp only [Except.ok.injEq, OrderResponse.page.injEq] at hpage
      exact orderPage_ne _ _ _ _ _ hpage
    | file r =>
      obtain ⟨fields, query, hfields, hquery, hsearch⟩ := hsearch
      obtain ⟨hlimit, hkeyword, -⟩ := exportQuery_ok hquery
      obtain ⟨db, db', found, halike, hfound, hmissed⟩ :=
        exists_alike_of_searchesBuyers who hsearch
          (fun h => ne_empty_of_cleanText (hkeyword ▸ h) rfl) (by omega)
      have hfile := hsame db db' halike
      rw [respond_export hfields hquery, respond_export hfields hquery, hfound, hmissed] at hfile
      simp only [Except.ok.injEq, OrderResponse.file.injEq] at hfile
      exact orderFile_ne _ _ _ _ _ hfile
  · intro hsearch db db' halike
    cases request with
    | detail orderId => simp only [respond, getOrder_eq halike]
    | list r =>
      cases hquery : listQuery ctx r with
      | error e => rw [respond_list_error hquery, respond_list_error hquery]
      | ok query =>
        have hquiet : ¬ query.SearchesBuyers ctx.toReadContext := fun h => hsearch ⟨query, hquery, h⟩
        rw [respond_list hquery, respond_list hquery, listOrders_of_not_searchesBuyers hquiet,
          listOrders_of_not_searchesBuyers hquiet]
        rw [orderPage_eq halike (listOrders_alike rfl halike)]
    | file r =>
      cases hquery : (do let _ ← exportFields r.fields; exportQuery ctx r) with
      | error e => rw [respond_export_error hquery, respond_export_error hquery]
      | ok query =>
        obtain ⟨fields, hfields, hquery⟩ := bind_eq_ok.1 hquery
        have hquiet : ¬ query.SearchesBuyers ctx.toReadContext :=
          fun h => hsearch ⟨fields, query, hfields, hquery, h⟩
        rw [respond_export hfields hquery, respond_export hfields hquery,
          listOrders_of_not_searchesBuyers hquiet, listOrders_of_not_searchesBuyers hquiet]
        rw [orderFile_eq halike (listOrders_alike rfl halike)]

/-! ### A viewer who searches for a name -/

/-- An order of a buyer with a given name. -/
def orderOf (buyerName : String) : SalesOrder where
  id := 7
  shopId := 3
  platformCode := "tiktok"
  platformOrderId := "576461"
  idempotencyKey := "tiktok:3:576461"
  platformStatus := "AWAITING_SHIPMENT"
  unifiedStatus := .paid
  buyerInfo := some [("name", buyerName)]
  shipTo := some [("country", "US"), ("city", "Austin")]
  currency := "USD"

/-- A shop with that order. -/
def shopWithBuyer (buyerName : String) : Db where
  shops := [⟨3, "tiktok", "Main", "US"⟩]
  orders := [orderOf buyerName]

/-- A viewer who searches for Alice is told whether she is the buyer. -/
theorem not_respond_eq_aliceSearch : ¬ ∀ (who : Onlooker) (request : OrderRequest) (db : Db)
    (db' : Db), AlikeDb who.hides db db' →
      respond plainDesk who.roleCode request db = respond plainDesk who.roleCode request db' := by
  intro h
  have halike : AlikeDb Onlooker.viewer.hides (shopWithBuyer "Alice") (shopWithBuyer "Bob") :=
    ⟨rfl, .cons ⟨rfl, .ofNames rfl (by decide) (by decide), .refl _⟩ .nil⟩
  have hsame := h .viewer (.list { keyword := some "alice" }) _ _ halike
  exact absurd hsame (by decide)

end CrossPilot
