import CrossPilot.Inventory.Replenishments
import CrossPilot.Lib.Groups
import CrossPilot.Lib.Like
import CrossPilot.Lib.Related
import CrossPilot.Purchase.Requests

/-!
# Orders from suggestions

Suggestions for some SKUs are turned into drafts, one for each supplier. What is ordered of a SKU is
what was suggested. The drafts of one request share its key: one draft has the key itself, several
have it with a `#` and their supplier behind it, and a repeated request looks for both.

The look-up does not escape the key. A key with a `\` is not found again, and the database refuses
the drafts that a repeated request makes under it.
-/

namespace CrossPilot

open Transaction Table Prog Groups

/-! ### The conversion -/

def EngineError.message : EngineError → String
  | value message => message
  | overflow message => message

/-- What is raised for an error of the suggestions. -/
def ReplenishmentError.raised : ReplenishmentError → ServiceError
  | service e => e
  | engine e => .value e.message

namespace Purchasing

/-- What suggestions are made of beside the database. -/
structure StockAdvice where
  stocks : List PlatformSafetyStock
  createdAt : ℕ → Instant
  now : Instant
  today : CalendarDate

structure ReplenishmentConvert where
  skuIds : List ℕ
  warehouseId : ℕ
  supplierId : Option ℕ := none
  currency : String
  windowDays : ℤ := 30
  unitPrice : Option ℚ := none
  unitPrice_nonneg : ∀ price ∈ unitPrice, 0 ≤ price

/-- `list_by_key_group`. -/
def listByKeyGroup (d : Db) (key : String) : List PurchaseOrder :=
  (d.purchaseOrders.filter fun o => o.idempotencyKey.any fun k =>
    k = key || Like.ilike id k (key ++ "#" ++ "%")).insertionSort fun a b => a.id ≤ b.id

/-- `defaults_for` at one SKU. -/
def defaultFor (d : Db) (skuId : ℕ) : Option SkuSupplier :=
  (d.supplierLinks.filter fun l => l.skuId = skuId && l.isDefault && !l.deleted).getLast?

/-- The supplier that is asked for, or the one that usually supplies the SKU. -/
def supplierFor (payload : ReplenishmentConvert) (defaults : ℕ → Option SkuSupplier) (skuId : ℕ) :
    Option ℕ :=
  (payload.supplierId.filter fun supplierId => supplierId ≠ 0).or
    ((defaults skuId).map SkuSupplier.supplierId)

/-- `_suggestion_price`. -/
def suggestionPrice (payload : ReplenishmentConvert) (sku : Sku) : Option ℚ :=
  payload.unitPrice.or
    (if sku.currency.map Text.strip = some payload.currency then sku.purchasePrice else none)

/-- A suggestion with its supplier and its price. -/
structure SuggestedLine where
  supplierId : ℕ
  skuId : ℕ
  quantity : ℤ
  price : ℚ

def suggestedLine (payload : ReplenishmentConvert) (defaults : ℕ → Option SkuSupplier)
    (row : ReplenishmentView) : Work SuggestedLine := do
  let supplierId ← orRaise (.paramInvalid "SKU 没有默认供应商")
    (supplierFor payload defaults row.skuId)
  let sku ← getSku row.skuId
  let price ← orRaise (.paramInvalid "补货转采购单时需要采购价") (suggestionPrice payload sku)
  return ⟨supplierId, row.skuId, row.suggestedQty, price⟩

/-- The line of a draft, which its schema checks. -/
def draftLine (row : SuggestedLine) : Work PurchaseLineWrite :=
  if hquantity : row.quantity ≤ 0 then raise (.value "Input should be greater than 0")
  else if hprice : row.price < 0 then raise (.value "金额不能为负")
  else return {
    skuId := row.skuId
    quantity := row.quantity
    unitPrice := row.price
    quantity_pos := not_le.mp hquantity
    unitPrice_nonneg := not_lt.mp hprice }

/-- The draft for a supplier. -/
def insertGroup (payload : ReplenishmentConvert) (actorId : ℕ) (key : Option String)
    (group : ℕ × List SuggestedLine) : Work PurchaseOrder := do
  let lines ← collect group.2 draftLine
  if h : lines = [] then
    raise (.value "List should have at least 1 item after validation, not 0")
  else
    insertOrder {
      supplierId := group.1
      warehouseId := payload.warehouseId
      currency := payload.currency
      note := "由补货建议生成"
      lines
      lines_ne_nil := h } actorId key

/-- The key of one draft among some. -/
def groupKey (key : Option String) (drafts supplierId : ℕ) : Option String :=
  if drafts = 1 then key else key.map fun k => k ++ "#" ++ toString supplierId

/-- The suggestions that are converted. -/
def chosenFrom (payload : ReplenishmentConvert) (suggestions : List ReplenishmentView) :
    List ReplenishmentView :=
  suggestions.filter fun row => row.skuId ∈ payload.skuIds ∧ 0 < row.suggestedQty

/-- A conversion that was not made before. -/
def convertNow (advice : StockAdvice) (payload : ReplenishmentConvert) (actorId : ℕ)
    (key : Option String) (visible : Bool) : Work (List PurchaseOrderView) := do
  match ← .select fun d => replenishments advice.stocks advice.createdAt advice.now advice.today
    payload.windowDays d with
  | .error e => raise e.raised
  | .ok suggestions =>
    let chosen := chosenFrom payload suggestions
    if chosen = [] then raise (.paramInvalid "没有可转成采购单的补货建议")
    else
      let defaults ← .select defaultFor
      let lines ← collect chosen (suggestedLine payload defaults)
      let grouped := lines.foldl (place SuggestedLine.supplierId) []
      let created ← collect grouped fun group =>
        insertGroup payload actorId (groupKey key grouped.length group.1) group
      collect created fun order => orderView order visible

def fromReplenishment (advice : StockAdvice) (payload : ReplenishmentConvert) (actorId : ℕ)
    (idempotencyKey : Option String) (visible : Bool) : Work (List PurchaseOrderView) := do
  let key ← cleanKey idempotencyKey
  let existing ← .select fun d => (key.map (listByKeyGroup d)).getD []
  if existing ≠ [] then collect existing fun order => orderView order visible
  else convertNow advice payload actorId key visible

/-! ### What is ordered -/

/-- The price of a SKU that there is. -/
def priceOf (d : Db) (payload : ReplenishmentConvert) (skuId : ℕ) : Option ℚ :=
  (d.skus.find? fun k => k.id = skuId ∧ k.deleted = false).bind (suggestionPrice payload)

/-- The line of a suggestion. -/
def lineFor (d : Db) (payload : ReplenishmentConvert) (row : ReplenishmentView) :
    Option SuggestedLine :=
  (supplierFor payload (defaultFor d) row.skuId).bind fun supplierId =>
    (priceOf d payload row.skuId).map fun price => ⟨supplierId, row.skuId, row.suggestedQty, price⟩

/-- The suggestions can be converted. -/
structure Convertible (d : Db) (payload : ReplenishmentConvert) (chosen : List ReplenishmentView) :
    Prop where
  ne_nil : chosen ≠ []
  supplied : ∀ row ∈ chosen, ∃ supplierId,
    supplierFor payload (defaultFor d) row.skuId = some supplierId ∧ SupplierKept d supplierId
  priced : ∀ row ∈ chosen, ∃ price, priceOf d payload row.skuId = some price ∧ 0 ≤ price
  warehouse : Destined d payload.warehouseId
  distinct : (chosen.map ReplenishmentView.skuId).Nodup

/-- The drafts that were made of the suggestions. -/
structure Converted (d d' : Db) (payload : ReplenishmentConvert) (key : Option String)
    (chosen : List ReplenishmentView) (created : List PurchaseOrder)
    (added : List PurchaseOrderItem) : Prop where
  data : Added d d' created added
  ne_nil : created ≠ []
  suppliers : (created.map PurchaseOrder.supplierId).Nodup
  orders : ∀ o ∈ created, o.warehouseId = payload.warehouseId ∧
    o.idempotencyKey = groupKey key created.length o.supplierId
  lines : ∀ r ∈ added, ∃ o ∈ created, r.purchaseOrderId = o.id ∧
    supplierFor payload (defaultFor d) r.skuId = some o.supplierId
  quantity : ∀ skuId, total (fun r => if r.skuId = skuId then r.quantity else 0) added =
    total (fun row => if row.skuId = skuId then row.suggestedQty else 0) chosen

section conversions

variable {c : Bucket → ℕ → ℕ → ℤ} {s : WorkState} {E : ServiceError → WorkState → Prop}
  {payload : ReplenishmentConvert} {chosen : List ReplenishmentView}

lemma Convertible.exists_line (h : Convertible s.data payload chosen) {row : ReplenishmentView}
    (hrow : row ∈ chosen) : ∃ line, lineFor s.data payload row = some line := by
  obtain ⟨supplierId, hsupplier, -⟩ := h.supplied row hrow
  obtain ⟨price, hprice, -⟩ := h.priced row hrow
  exact ⟨_, by rw [lineFor, hsupplier, hprice]; rfl⟩

/-- The suggestions are refused for want of a SKU, a supplier or a price. -/
lemma wp_suggestedLine {row : ReplenishmentView} {Q : SuggestedLine → WorkState → Prop}
    (hok : ∀ line, lineFor s.data payload row = some line → Q line s)
    (he : ∀ e, Refused e → lineFor s.data payload row = none → E e s) :
    (suggestedLine payload (defaultFor s.data) row).wp Q E s := by
  unfold lineFor priceOf at hok he
  simp only [suggestedLine, getSku, bind_eq, wp_bind, wp_select]
  cases hsupplier : supplierFor payload (defaultFor s.data) row.skuId with
  | none => exact he _ .paramInvalid (by rw [hsupplier]; rfl)
  | some supplierId =>
    rw [orRaise, pure_eq, wp_ret]
    cases hsku : s.data.skus.find? fun k => k.id = row.skuId ∧ k.deleted = false with
    | none => exact he _ .notFound (by rw [hsupplier, Option.bind_some, hsku]; rfl)
    | some sku =>
      rw [orRaise, pure_eq, wp_ret]
      cases hprice : suggestionPrice payload sku with
      | none =>
        refine he _ .paramInvalid ?_
        rw [hsupplier, Option.bind_some, hsku, Option.bind_some, hprice]
        rfl
      | some price =>
        refine hok _ ?_
        rw [hsupplier, Option.bind_some, hsku, Option.bind_some, hprice]
        rfl

lemma wp_suggestedLines {Q : List SuggestedLine → WorkState → Prop}
    (hok : ∀ lines, List.Forall₂ (fun row line => lineFor s.data payload row = some line)
      chosen lines → Q lines s)
    (he : ∀ e, Refused e → ¬ Convertible s.data payload chosen → E e s) :
    (collect chosen (suggestedLine payload (defaultFor s.data))).wp Q E s := by
  let I (rest : List ReplenishmentView) (done : List SuggestedLine) (s' : WorkState) : Prop :=
    s' = s ∧ ∃ pre, pre ++ rest = chosen ∧
      List.Forall₂ (fun row line => lineFor s.data payload row = some line) pre done
  refine wp_mono (wp_collect (I := I) ⟨rfl, [], rfl, .nil⟩ fun row rest done s' h => ?_)
    (fun lines s' h => ?_) fun e s' h => h
  · obtain ⟨rfl, pre, hpre, hdone⟩ := h
    refine wp_suggestedLine (fun line hline => ⟨rfl, pre ++ [row], by simpa using hpre, ?_⟩)
      fun e href hnone => he e href fun hconv => ?_
    · exact List.rel_append hdone (.cons hline .nil)
    · obtain ⟨line, hline⟩ := hconv.exists_line (hpre ▸ List.mem_append_right pre List.mem_cons_self)
      rw [hnone] at hline
      cases hline
  · obtain ⟨rfl, pre, hpre, hdone⟩ := h
    rw [List.append_nil] at hpre
    exact hok lines (hpre ▸ hdone)

/-- The lines of a draft are those of its group. -/
lemma wp_draftLines {rows : List SuggestedLine} {Q : List PurchaseLineWrite → WorkState → Prop}
    (hrows : ∀ row ∈ rows, 0 < row.quantity)
    (hok : (∀ row ∈ rows, 0 ≤ row.price) → ∀ lines, lines.map (fun l => (l.skuId, l.quantity)) =
      rows.map (fun row => (row.skuId, row.quantity)) → Q lines s)
    (he : ∀ e, Refused e → (¬ ∀ row ∈ rows, 0 ≤ row.price) → E e s) :
    (collect rows draftLine).wp Q E s := by
  let I (rest : List SuggestedLine) (done : List PurchaseLineWrite) (s' : WorkState) : Prop :=
    s' = s ∧ ∃ pre, pre ++ rest = rows ∧ (∀ row ∈ pre, 0 ≤ row.price) ∧
      done.map (fun l => (l.skuId, l.quantity)) = pre.map fun row => (row.skuId, row.quantity)
  refine wp_mono (wp_collect (I := I) ⟨rfl, [], rfl, by simp, rfl⟩ fun row rest done s' h => ?_)
    (fun lines s' h => ?_) fun e s' h => h
  · obtain ⟨rfl, pre, hpre, hprices, hdone⟩ := h
    have hmem : row ∈ rows := hpre ▸ List.mem_append_right pre List.mem_cons_self
    unfold draftLine
    rw [dif_neg (not_le.mpr (hrows row hmem))]
    split_ifs with hprice
    · exact he _ trivial fun hall => absurd (hall row hmem) (not_le.mpr hprice)
    · refine ⟨rfl, pre ++ [row], by simpa using hpre, fun x hx => ?_, by simp [hdone]⟩
      rcases List.mem_append.mp hx with hx | hx
      · exact hprices x hx
      · rw [List.mem_singleton.mp hx]
        exact not_lt.mp hprice
  · obtain ⟨rfl, pre, hpre, hprices, hdone⟩ := h
    rw [List.append_nil] at hpre
    exact hok (hpre ▸ hprices) lines (hpre ▸ hdone)

end conversions

/-! ### The keys of the drafts -/

section keys

variable {d : Db} {key : Option String}

lemma groupKey_injective {k : String} {drafts a b : ℕ} (hmany : drafts ≠ 1)
    (h : groupKey (some k) drafts a = groupKey (some k) drafts b) : a = b := by
  simp only [groupKey, if_neg hmany, Option.map_some, Option.some.injEq, String.append_right_inj]
    at h
  have hdigits := congrArg String.toList h
  simp only [Nat.toString_eq_repr, Nat.toList_repr] at hdigits
  have hread := Text.foldlM_toDigits a
  rw [hdigits, Text.foldlM_toDigits b] at hread
  exact (Option.some.inj hread).symm

/-- A draft of several is found again by its key, if the key has no escapes. -/
lemma ilike_groupKey_iff {k : String} (hk : ∀ c ∈ k.toList, c ∉ ['%', '_', '#']) (supplierId : ℕ) :
    Like.ilike id (k ++ "#" ++ toString supplierId) (k ++ "#" ++ "%") ↔ '\\' ∉ k.toList := by
  have hkey : Like.fits id (Like.tokens (k.toList ++ ['#', '%']))
      (k.toList ++ '#' :: (toString supplierId).toList) ↔ '\\' ∉ k.toList :=
    Like.fits_group_iff (by decide) (fun c hc => by simpa using hk c hc) _
  simpa [Like.ilike] using hkey

lemma mem_listByKeyGroup {k : String} {o : PurchaseOrder} : o ∈ listByKeyGroup d k ↔
    o ∈ d.purchaseOrders ∧ ∃ k', o.idempotencyKey = some k' ∧
      (k' = k ∨ Like.ilike id k' (k ++ "#" ++ "%")) := by
  simp [listByKeyGroup, Option.any_eq_true]

/-- Where no draft of a request is found, its keys are free, unless the key has escapes and there
are several. -/
lemma keyFree_groupKey {k : String} (hk : ∀ c ∈ k.toList, c ∉ ['%', '_', '#'])
    (hnone : listByKeyGroup d k = []) {drafts : ℕ} (hplain : drafts = 1 ∨ '\\' ∉ k.toList)
    (supplierId : ℕ) : KeyFree d (groupKey (some k) drafts supplierId) := by
  refine .inr fun o ho heq => ?_
  have hno : o ∉ listByKeyGroup d k := hnone ▸ List.not_mem_nil
  refine hno (mem_listByKeyGroup.mpr ⟨ho, ?_⟩)
  unfold groupKey at heq
  split_ifs at heq with hone
  · exact ⟨k, heq, .inl rfl⟩
  · exact ⟨_, heq, .inr ((ilike_groupKey_iff hk supplierId).mpr (hplain.resolve_left hone))⟩

end keys

/-! ### The drafts -/

section drafting

variable {c : Bucket → ℕ → ℕ → ℤ} {s : WorkState} {E : ServiceError → WorkState → Prop}
  {payload : ReplenishmentConvert} {actorId : ℕ} {key : Option String}

/-- A group can be drafted. -/
structure Draftable (d : Db) (payload : ReplenishmentConvert) (group : ℕ × List SuggestedLine) :
    Prop where
  supplier : SupplierKept d group.1
  warehouse : Destined d payload.warehouseId
  prices : ∀ row ∈ group.2, 0 ≤ row.price
  distinct : (group.2.map SuggestedLine.skuId).Nodup
  skus : ∀ row ∈ group.2, SkuKept d row.skuId

/-- The draft of a group. -/
structure DraftOf (payload : ReplenishmentConvert) (key : Option String)
    (group : ℕ × List SuggestedLine) (order : PurchaseOrder) : Prop where
  supplierId : order.supplierId = group.1
  warehouseId : order.warehouseId = payload.warehouseId
  idempotencyKey : order.idempotencyKey = key

lemma wp_insertGroup {group : ℕ × List SuggestedLine} {Q : PurchaseOrder → WorkState → Prop}
    (hb : OrderBooks c s) (hsound : Sound s.data) (hne : group.2 ≠ [])
    (hrows : ∀ row ∈ group.2, 0 < row.quantity)
    (hok : Draftable s.data payload group → KeyFree s.data key → ∀ order added s',
      OrderBooks c s' → Sound s'.data → Added s.data s'.data [order] added →
      DraftOf payload key group order → added.map (fun r => (r.skuId, r.quantity)) =
        group.2.map (fun row => (row.skuId, row.quantity)) → Q order s')
    (he : ∀ e s', Refused e → ¬ Draftable s.data payload group → E e s')
    (htaken : ¬ KeyFree s.data key → ∀ s', E keyTaken s') :
    (insertGroup payload actorId key group).wp Q E s := by
  unfold insertGroup
  rw [bind_eq, wp_bind]
  refine wp_draftLines hrows (fun hprices lines hlines => ?_) fun e href hno =>
    he e s href fun h => hno h.prices
  have hnil : lines ≠ [] := by
    rintro rfl
    exact hne (by simpa using hlines.symm)
  rw [dif_neg hnil]
  have hskus : lines.map PurchaseLineWrite.skuId = group.2.map SuggestedLine.skuId := by
    simpa [Function.comp_def] using congrArg (List.map Prod.fst) hlines
  have hkept : (∀ line ∈ lines, SkuKept s.data line.skuId) ↔
      ∀ row ∈ group.2, SkuKept s.data row.skuId := by
    have hmap : ∀ skuId, skuId ∈ lines.map PurchaseLineWrite.skuId ↔
        skuId ∈ group.2.map SuggestedLine.skuId := fun skuId => by rw [hskus]
    simp only [List.mem_map] at hmap
    exact ⟨fun h row hrow => by
        obtain ⟨line, hline, heq⟩ := (hmap _).mpr ⟨row, hrow, rfl⟩
        exact heq ▸ h line hline,
      fun h line hline => by
        obtain ⟨row, hrow, heq⟩ := (hmap _).mp ⟨line, hline, rfl⟩
        exact heq ▸ h row hrow⟩
  refine wp_insertOrder hb hsound (fun horderable hfree order added s' hleft hadded hdrafted => ?_)
    (fun e s' href hno => he e s' href fun h => hno ?_) htaken
  · exact hok ⟨horderable.supplier, horderable.warehouse, hprices, hskus ▸ horderable.distinct,
      hkept.mp horderable.skus⟩ hfree order added s' hleft.books hleft.sound hadded
      ⟨hdrafted.supplierId, hdrafted.warehouseId, hdrafted.idempotencyKey⟩
      (hdrafted.lines.trans hlines)
  · exact ⟨h.supplier, h.warehouse, hskus ▸ h.distinct, hkept.mpr h.skus⟩

/-- The drafts of some groups. -/
structure Drafts (d d' : Db) (payload : ReplenishmentConvert) (key : ℕ → Option String)
    (grouped : List (ℕ × List SuggestedLine)) (created : List PurchaseOrder)
    (added : List PurchaseOrderItem) : Prop where
  data : Added d d' created added
  orders : List.Forall₂ (fun group order => DraftOf payload (key group.1) group order)
    grouped created
  lines : ∀ r ∈ added, ∃ o ∈ created, r.purchaseOrderId = o.id ∧
    ∃ group ∈ grouped, group.1 = o.supplierId ∧ r.skuId ∈ group.2.map SuggestedLine.skuId
  pairs : added.map (fun r => (r.skuId, r.quantity)) =
    (grouped.flatMap Prod.snd).map fun row => (row.skuId, row.quantity)
  draftable : ∀ group ∈ grouped, Draftable d payload group

lemma Drafts.append {d d' d'' : Db} {key : ℕ → Option String}
    {grouped : List (ℕ × List SuggestedLine)} {created : List PurchaseOrder}
    {added added' : List PurchaseOrderItem} {group : ℕ × List SuggestedLine}
    {order : PurchaseOrder} (h : Drafts d d' payload key grouped created added)
    (hadded : Added d' d'' [order] added') (horder : DraftOf payload (key group.1) group order)
    (hpairs : added'.map (fun r => (r.skuId, r.quantity)) =
      group.2.map fun row => (row.skuId, row.quantity)) (hgroup : Draftable d payload group) :
    Drafts d d'' payload key (grouped ++ [group]) (created ++ [order]) (added ++ added') := by
  refine ⟨h.data.trans hadded, List.rel_append h.orders (.cons horder .nil), fun r hr => ?_, ?_,
    fun g hg => ?_⟩
  · rcases List.mem_append.mp hr with hr | hr
    · obtain ⟨o, ho, hown, g, hg, hsupplier, hsku⟩ := h.lines r hr
      exact ⟨o, List.mem_append_left _ ho, hown, g, List.mem_append_left _ hg, hsupplier, hsku⟩
    · obtain ⟨⟨o, ho, hown⟩, -⟩ := hadded.lines r hr
      rw [List.mem_singleton.mp ho] at hown
      refine ⟨order, by simp, hown, group, by simp, horder.supplierId.symm, ?_⟩
      have hmem : (r.skuId, r.quantity) ∈ group.2.map fun row => (row.skuId, row.quantity) :=
        hpairs ▸ List.mem_map_of_mem hr
      obtain ⟨row, hrow, heq⟩ := List.mem_map.mp hmem
      exact List.mem_map.mpr ⟨row, hrow, congrArg Prod.fst heq⟩
  · simp [h.pairs, hpairs]
  · rcases List.mem_append.mp hg with hg | hg
    · exact h.draftable g hg
    · rwa [List.mem_singleton.mp hg]

lemma Drafts.suppliers {d d' : Db} {key : ℕ → Option String}
    {grouped : List (ℕ × List SuggestedLine)} {created : List PurchaseOrder}
    {added : List PurchaseOrderItem} (h : Drafts d d' payload key grouped created added) :
    created.map PurchaseOrder.supplierId = grouped.map Prod.fst := by
  have horders := h.orders
  clear h
  induction horders with
  | nil => rfl
  | cons hone _ ih => simp [hone.supplierId, ih]

lemma Drafts.of_mem {d d' : Db} {key : ℕ → Option String}
    {grouped : List (ℕ × List SuggestedLine)} {created : List PurchaseOrder}
    {added : List PurchaseOrderItem} (h : Drafts d d' payload key grouped created added)
    {o : PurchaseOrder} (ho : o ∈ created) :
    o.warehouseId = payload.warehouseId ∧ o.idempotencyKey = key o.supplierId := by
  have horders := h.orders
  clear h
  induction horders with
  | nil => cases ho
  | cons hone _ ih =>
    rcases List.mem_cons.mp ho with rfl | ho
    · exact ⟨hone.warehouseId, hone.supplierId ▸ hone.idempotencyKey⟩
    · exact ih ho

lemma groupKey_none (drafts supplierId : ℕ) : groupKey none drafts supplierId = none := by
  unfold groupKey
  split_ifs <;> rfl

/-- The drafts of all groups, if none of their keys is taken. -/
lemma wp_insertGroups {grouped : List (ℕ × List SuggestedLine)} (hb : OrderBooks c s)
    (hsound : Sound s.data) (hnodup : (grouped.map Prod.fst).Nodup)
    (hne : ∀ group ∈ grouped, group.2 ≠ [])
    (hrows : ∀ group ∈ grouped, ∀ row ∈ group.2, 0 < row.quantity)
    {Q : List PurchaseOrder → WorkState → Prop}
    (hok : ∀ created added s', OrderBooks c s' → Sound s'.data →
      Drafts s.data s'.data payload (groupKey key grouped.length) grouped created added →
      Q created s')
    (he : ∀ e s', Refused e → (¬ ∀ group ∈ grouped, Draftable s.data payload group) → E e s')
    (htaken : (∃ group ∈ grouped, ¬ KeyFree s.data (groupKey key grouped.length group.1)) →
      ∀ s', E keyTaken s') :
    (collect grouped fun group =>
      insertGroup payload actorId (groupKey key grouped.length group.1) group).wp Q E s := by
  let I (rest : List (ℕ × List SuggestedLine)) (done : List PurchaseOrder) (s' : WorkState) : Prop :=
    ∃ pre added, pre ++ rest = grouped ∧ OrderBooks c s' ∧ Sound s'.data ∧
      Drafts s.data s'.data payload (groupKey key grouped.length) pre done added
  have hstart : I grouped [] s :=
    ⟨[], [], rfl, hb, hsound, ⟨by simp, by simp, by simp, by simp⟩, .nil, by simp, rfl, by simp⟩
  refine wp_mono (wp_collect (I := I) hstart fun group rest done s' h => ?_) (fun created s' h => ?_)
    fun e s' h => h
  · obtain ⟨pre, added, hpre, hb', hsound', hdrafts⟩ := h
    have hmem : group ∈ grouped := hpre ▸ List.mem_append_right pre List.mem_cons_self
    have hsame : Draftable s'.data payload group ↔ Draftable s.data payload group := by
      constructor <;> rintro ⟨h₁, h₂, h₃, h₄, h₅⟩
      · rw [hdrafts.data.data] at h₁ h₂ h₅
        exact ⟨h₁, h₂, h₃, h₄, h₅⟩
      · refine ⟨?_, ?_, h₃, h₄, ?_⟩ <;> rw [hdrafts.data.data]
        exacts [h₁, h₂, h₅]
    -- the drafts so far have other suppliers
    have hfree : KeyFree s.data (groupKey key grouped.length group.1) →
        KeyFree s'.data (groupKey key grouped.length group.1) := by
      intro hold
      cases key with
      | none => exact .inl (groupKey_none _ _)
      | some k =>
        refine .inr fun o ho heq => ?_
        rcases hdrafts.data.mem_orders.mp ho with ho | ho
        · rcases hold with hnone | hold
          · refine absurd hnone ?_
            unfold groupKey
            split_ifs <;> simp
          · exact hold o ho heq
        · have hnone := hnodup
          rw [← hpre, List.map_append, List.map_cons, List.nodup_append] at hnone
          have hsupplier : o.supplierId ∈ pre.map Prod.fst :=
            hdrafts.suppliers ▸ List.mem_map_of_mem ho
          have hother := hnone.2.2 _ hsupplier _ List.mem_cons_self
          have hmany : grouped.length ≠ 1 := by
            have hlen : 0 < pre.length := by
              rw [List.length_pos_iff]
              rintro rfl
              simp at hsupplier
            rw [← hpre, List.length_append, List.length_cons]
            omega
          rw [(hdrafts.of_mem ho).2] at heq
          exact hother (groupKey_injective hmany heq)
    refine wp_insertGroup hb' hsound' (hne group hmem) (hrows group hmem)
      (fun hdraftable _ order added' s'' hb'' hsound'' hadded hdraft hpairs => ?_)
      (fun e s'' href hno => he e s'' href fun hall => hno (hsame.mpr (hall group hmem)))
      fun hno s'' => htaken ⟨group, hmem, fun h => hno (hfree h)⟩ s''
    exact ⟨pre ++ [group], added ++ added', by simpa using hpre, hb'', hsound'',
      hdrafts.append hadded hdraft hpairs (hsame.mp hdraftable)⟩
  · obtain ⟨pre, added, hpre, hb', hsound', hdrafts⟩ := h
    rw [List.append_nil] at hpre
    rw [hpre] at hdrafts
    exact hok created added s' hb' hsound' hdrafts

end drafting

/-! ### All suggestions -/

section suggestions

variable {d d' : Db} {payload : ReplenishmentConvert} {chosen : List ReplenishmentView}
  {lines : List SuggestedLine}

lemma lineFor_eq_some {row : ReplenishmentView} {line : SuggestedLine} :
    lineFor d payload row = some line ↔
      supplierFor payload (defaultFor d) row.skuId = some line.supplierId ∧
        priceOf d payload row.skuId = some line.price ∧ line.skuId = row.skuId ∧
        line.quantity = row.suggestedQty := by
  unfold lineFor
  cases line
  simp only [Option.bind_eq_some_iff, Option.map_eq_some_iff, SuggestedLine.mk.injEq]
  constructor
  · rintro ⟨_, hsupplier, _, hprice, rfl, rfl, rfl, rfl⟩
    exact ⟨hsupplier, hprice, rfl, rfl⟩
  · rintro ⟨hsupplier, hprice, rfl, rfl⟩
    exact ⟨_, hsupplier, _, hprice, rfl, rfl, rfl, rfl⟩

lemma skuKept_of_priceOf {skuId : ℕ} {price : ℚ} (h : priceOf d payload skuId = some price) :
    SkuKept d skuId := by
  obtain ⟨sku, hfind, -⟩ := Option.bind_eq_some_iff.mp h
  exact ⟨sku, List.mem_of_find?_eq_some hfind, by simpa using List.find?_some hfind⟩

/-- Lines of one SKU have one supplier, and so are in one group. -/
lemma nodup_skus_iff (hsupplier : ∀ line ∈ lines, ∀ line' ∈ lines, line.skuId = line'.skuId →
      line.supplierId = line'.supplierId) : (lines.map SuggestedLine.skuId).Nodup ↔
    ∀ group ∈ groups (fun l : SuggestedLine => some l.supplierId) lines,
      (group.2.map SuggestedLine.skuId).Nodup := by
  constructor
  · intro hnodup group hgroup
    rw [(mem_groups.mp hgroup).2]
    exact hnodup.sublist (List.filter_sublist.map _)
  · intro hall
    rw [List.nodup_iff_count_le_one]
    intro skuId
    by_cases hmem : skuId ∈ lines.map SuggestedLine.skuId
    swap
    · rw [List.count_eq_zero_of_not_mem hmem]
      exact Nat.zero_le 1
    obtain ⟨line, hline, rfl⟩ := List.mem_map.mp hmem
    have hgroup := hall (line.supplierId, bucket (fun l => some l.supplierId) line.supplierId lines)
      (mem_groups.mpr ⟨⟨line, hline, rfl⟩, rfl⟩)
    refine le_trans (le_of_eq ?_) (List.nodup_iff_count_le_one.mp hgroup line.skuId)
    simp only [bucket, List.count, List.countP_map, List.countP_filter]
    refine List.countP_congr fun x hx => ?_
    simp only [Function.comp_apply, beq_iff_eq, Bool.and_eq_true, decide_eq_true_eq,
      Option.some.injEq]
    exact ⟨fun h => ⟨h, hsupplier x hx line hline h⟩, fun h => h.1⟩

/-- The suggestions can be converted if every draft can be made. -/
lemma convertible_iff (hne : chosen ≠ [])
    (hlines : List.Forall₂ (fun row line => lineFor d payload row = some line) chosen lines) :
    Convertible d payload chosen ↔
      ∀ group ∈ groups (fun l : SuggestedLine => some l.supplierId) lines,
        Draftable d payload group := by
  have hfrom : ∀ line ∈ lines, supplierFor payload (defaultFor d) line.skuId = some line.supplierId ∧
      priceOf d payload line.skuId = some line.price ∧ ∃ row ∈ chosen, row.skuId = line.skuId := by
    intro line hline
    obtain ⟨row, hrow, heq⟩ := Related.exists_left hlines hline
    obtain ⟨hsupplier, hprice, hsku, -⟩ := lineFor_eq_some.mp heq
    rw [hsku]
    exact ⟨hsupplier, hprice, row, hrow, rfl⟩
  have hline : ∀ row ∈ chosen, ∃ line ∈ lines, line.skuId = row.skuId := fun row hrow => by
    obtain ⟨line, hmem, heq⟩ := Related.exists_right hlines hrow
    exact ⟨line, hmem, (lineFor_eq_some.mp heq).2.2.1⟩
  have hskus : lines.map SuggestedLine.skuId = chosen.map ReplenishmentView.skuId :=
    (Related.map_eq hlines fun row line h => (lineFor_eq_some.mp h).2.2.1.symm).symm
  have hdistinct : (lines.map SuggestedLine.skuId).Nodup ↔ _ :=
    nodup_skus_iff fun line hl line' hl' heq => by
    have hsupplier := (hfrom line hl).1
    rw [heq, (hfrom line' hl').1] at hsupplier
    exact (Option.some.inj hsupplier).symm
  rw [hskus] at hdistinct
  -- every line is in the group of its supplier
  have hgroup : ∀ line ∈ lines, ∃ group ∈ groups (fun l : SuggestedLine => some l.supplierId) lines,
      group.1 = line.supplierId ∧ line ∈ group.2 := fun line hl =>
    ⟨_, mem_groups.mpr ⟨⟨line, hl, rfl⟩, rfl⟩, rfl, mem_bucket.mpr ⟨hl, rfl⟩⟩
  constructor
  · intro h group hmem
    obtain ⟨⟨first, hfirst, hkey⟩, hrows⟩ := mem_groups.mp hmem
    have hin : ∀ row ∈ group.2, row ∈ lines := fun row hrow =>
      (mem_bucket.mp (hrows ▸ hrow)).1
    refine ⟨?_, h.warehouse, fun row hrow => ?_, hdistinct.mp h.distinct group hmem,
      fun row hrow => skuKept_of_priceOf (hfrom row (hin row hrow)).2.1⟩
    · obtain ⟨hsupplier, -, x, hx, hsku⟩ := hfrom first hfirst
      obtain ⟨supplierId, hdefault, hkept⟩ := h.supplied x hx
      rw [hsku, hsupplier, hkey] at hdefault
      rwa [Option.some.inj hdefault]
    · obtain ⟨-, hprice, x, hx, hsku⟩ := hfrom row (hin row hrow)
      obtain ⟨price, hpriced, hnonneg⟩ := h.priced x hx
      rw [hsku, hprice] at hpriced
      rwa [Option.some.inj hpriced]
  · intro h
    have hof : ∀ row ∈ chosen, ∃ line ∈ lines, line.skuId = row.skuId ∧
        SupplierKept d line.supplierId ∧ Destined d payload.warehouseId ∧ 0 ≤ line.price := by
      intro row hrow
      obtain ⟨line, hl, hsku⟩ := hline row hrow
      obtain ⟨group, hmem, hkey, hin⟩ := hgroup line hl
      have hdraft := h group hmem
      exact ⟨line, hl, hsku, hkey ▸ hdraft.supplier, hdraft.warehouse, hdraft.prices line hin⟩
    refine ⟨hne, fun row hrow => ?_, fun row hrow => ?_, ?_,
      hdistinct.mpr fun group hmem => (h group hmem).distinct⟩
    · obtain ⟨line, hl, hsku, hkept, -⟩ := hof row hrow
      exact ⟨line.supplierId, hsku ▸ (hfrom line hl).1, hkept⟩
    · obtain ⟨line, hl, hsku, -, -, hprice⟩ := hof row hrow
      exact ⟨line.price, hsku ▸ (hfrom line hl).2.1, hprice⟩
    · obtain ⟨row, hrow⟩ := List.exists_mem_of_ne_nil chosen hne
      obtain ⟨-, -, -, -, hdestined, -⟩ := hof row hrow
      exact hdestined

/-- What is drafted of a SKU is what was suggested of it. -/
lemma Drafts.quantity {key : ℕ → Option String} {created : List PurchaseOrder}
    {added : List PurchaseOrderItem}
    (hlines : List.Forall₂ (fun row line => lineFor d payload row = some line) chosen lines)
    (h : Drafts d d' payload key (groups (fun l : SuggestedLine => some l.supplierId) lines) created
      added) (skuId : ℕ) :
    total (fun r => if r.skuId = skuId then r.quantity else 0) added =
      total (fun row => if row.skuId = skuId then row.suggestedQty else 0) chosen := by
  let g (x : ℕ × ℤ) : ℤ := if x.1 = skuId then x.2 else 0
  have hpairs : lines.map (fun l => (l.skuId, l.quantity)) =
      chosen.map fun row => (row.skuId, row.suggestedQty) :=
    (Related.map_eq hlines fun row line hline => by
      obtain ⟨-, -, hsku, hquantity⟩ := lineFor_eq_some.mp hline
      rw [hsku, hquantity]).symm
  have hmap : ∀ {ρ : Type} (f : ρ → ℕ × ℤ) (rows : List ρ),
      total (fun r => g (f r)) rows = ((rows.map f).map g).sum := by
    intro ρ f rows
    simp [total, Function.comp_def]
  calc total (fun r => g (r.skuId, r.quantity)) added
      = ((added.map fun r => (r.skuId, r.quantity)).map g).sum := hmap _ _
    _ = total (fun l : SuggestedLine => g (l.skuId, l.quantity))
        ((groups (fun l : SuggestedLine => some l.supplierId) lines).flatMap Prod.snd) := by
      rw [h.pairs, ← hmap]
    _ = total (fun l : SuggestedLine => g (l.skuId, l.quantity)) lines := by
      rw [total_flatMap]
      exact sum_groups _ _ _
    _ = total (fun row : ReplenishmentView => g (row.skuId, row.suggestedQty)) chosen := by
      rw [hmap, hpairs, ← hmap]

end suggestions

/-! ### The request -/

section requests

variable {c : Bucket → ℕ → ℕ → ℤ} {s : WorkState} {E : ServiceError → WorkState → Prop}
  {advice : StockAdvice} {payload : ReplenishmentConvert} {actorId : ℕ} {visible : Bool}

/-- Several orders are shown if each can be shown. -/
lemma wp_orderViews {orders : List PurchaseOrder} {Q : List PurchaseOrderView → WorkState → Prop}
    (hok : (∀ o ∈ orders, Showable s.data o) → ∀ views, Q views s)
    (he : (¬ ∀ o ∈ orders, Showable s.data o) → E .notFound s) :
    (collect orders fun order => orderView order visible).wp Q E s := by
  let I (rest : List PurchaseOrder) (_ : List PurchaseOrderView) (s' : WorkState) : Prop :=
    s' = s ∧ ∃ pre, pre ++ rest = orders ∧ ∀ o ∈ pre, Showable s.data o
  refine wp_mono (wp_collect (I := I) ⟨rfl, [], rfl, by simp⟩ fun o rest _ s' h => ?_)
    (fun views s' h => ?_) fun e s' h => h
  · obtain ⟨rfl, pre, hpre, hshown⟩ := h
    refine wp_orderView (fun hone _ => ⟨rfl, pre ++ [o], by simpa using hpre, fun x hx => ?_⟩)
      fun hno => he fun hall => hno (hall o (hpre ▸ List.mem_append_right pre List.mem_cons_self))
    rcases List.mem_append.mp hx with hx | hx
    · exact hshown x hx
    · rwa [List.mem_singleton.mp hx]
  · obtain ⟨rfl, pre, hpre, hshown⟩ := h
    rw [List.append_nil] at hpre
    exact hok (hpre ▸ hshown) views

/-- The suggestions that a request works on. -/
def StockAdvice.suggestions (advice : StockAdvice) (payload : ReplenishmentConvert) (d : Db) :
    Except ReplenishmentError (List ReplenishmentView) :=
  replenishments advice.stocks advice.createdAt advice.now advice.today payload.windowDays d

lemma refused_suggestions {d : Db} {e : ReplenishmentError}
    (h : advice.suggestions payload d = .error e) : Refused e.raised := by
  unfold StockAdvice.suggestions replenishments at h
  split_ifs at h
  · cases h
    exact .paramInvalid
  · split at h
    · cases h
      trivial
    · -- every view has its error from the engine
      rename_i since _
      generalize listActive advice.stocks d = rows at h
      induction rows with
      | nil => cases h
      | cons row rest ih =>
        rw [List.mapM_cons] at h
        rcases bind_eq_error.mp h with hrow | ⟨v, -, h⟩
        · rw [suggestFor] at hrow
          split at hrow
          · cases hrow
            trivial
          · cases hrow
        · rcases bind_eq_error.mp h with hrest | ⟨_, -, h⟩
          · exact ih hrest
          · cases h

/-- Suggestions are converted if they can be, unless the keys of the drafts are taken. -/
theorem wp_convertNow {key : Option String} (hb : OrderBooks c s) (hsound : Sound s.data)
    {Q : List PurchaseOrderView → WorkState → Prop}
    (hok : ∀ suggestions, advice.suggestions payload s.data = .ok suggestions →
      Convertible s.data payload (chosenFrom payload suggestions) → ∀ created added s',
      OrderBooks c s' → Sound s'.data → Converted s.data s'.data payload key
        (chosenFrom payload suggestions) created added → ∀ views, Q views s')
    (he : ∀ e s', Refused e → (∀ suggestions, advice.suggestions payload s.data = .ok suggestions →
      ¬ Convertible s.data payload (chosenFrom payload suggestions)) → E e s')
    (htaken : ∀ drafts supplierId, ¬ KeyFree s.data (groupKey key drafts supplierId) →
      ∀ s', E keyTaken s') :
    (convertNow advice payload actorId key visible).wp Q E s := by
  unfold convertNow
  rw [bind_eq, wp_bind, wp_select]
  cases hsuggestions : advice.suggestions payload s.data with
  | error e =>
    unfold StockAdvice.suggestions at hsuggestions
    rw [hsuggestions]
    refine he _ _ (refused_suggestions hsuggestions) fun _ h => ?_
    unfold StockAdvice.suggestions at h
    rw [hsuggestions] at h
    cases h
  | ok suggestions =>
    have hrefused : ∀ e s', Refused e →
        ¬ Convertible s.data payload (chosenFrom payload suggestions) → E e s' := by
      intro e s' href hno
      refine he e s' href fun suggestions' h => ?_
      rw [hsuggestions] at h
      rwa [← Except.ok.inj h]
    have hread := hsuggestions
    unfold StockAdvice.suggestions at hread
    rw [hread]
    dsimp only
    split_ifs with hnone
    · exact hrefused _ _ .paramInvalid fun h => h.ne_nil hnone
    rw [bind_eq, wp_bind, wp_select, bind_eq, wp_bind]
    refine wp_suggestedLines (fun lines hlines => ?_) fun e href hno => hrefused e _ href hno
    rw [foldl_place, bind_eq, wp_bind]
    have hiff := convertible_iff hnone hlines
    have hquantity : ∀ line ∈ lines, 0 < line.quantity := by
      intro line hline
      obtain ⟨row, hrow, heq⟩ := Related.exists_left hlines hline
      rw [(lineFor_eq_some.mp heq).2.2.2]
      have hchosen := (List.mem_filter.mp hrow).2
      simp only [decide_eq_true_eq] at hchosen
      exact hchosen.2
    refine wp_insertGroups hb hsound nodup_groups (fun group hmem => ?_) (fun group hmem row hrow => ?_)
      (fun created added s' hb' hsound' hdrafts => ?_) (fun e s' href hno => hrefused e s' href
        fun h => hno (hiff.mp h)) fun ⟨group, _, hno⟩ => htaken _ _ hno
    · obtain ⟨⟨line, hline, hkey⟩, hrows⟩ := mem_groups.mp hmem
      rw [hrows]
      exact List.ne_nil_of_mem (mem_bucket.mpr ⟨hline, hkey⟩)
    · exact hquantity row (mem_bucket.mp ((mem_groups.mp hmem).2 ▸ hrow)).1
    · have hconv := hiff.mpr hdrafts.draftable
      have hdata := hdrafts.data.data
      refine wp_orderViews (fun _ views => ?_) fun hno => absurd (fun o ho => ?_) hno
      · refine hok suggestions hsuggestions hconv created added s' hb' hsound'
          ⟨hdrafts.data, ?_, ?_, fun o ho => ?_, fun r hr => ?_, hdrafts.quantity hlines⟩ views
        · rintro rfl
          have hempty := hdrafts.suppliers
          obtain ⟨row, hrow⟩ := List.exists_mem_of_ne_nil _ hnone
          obtain ⟨line, hline, -⟩ := Related.exists_right hlines hrow
          have hmem : line.supplierId ∈
              (groups (fun l : SuggestedLine => some l.supplierId) lines).map Prod.fst :=
            List.mem_map.mpr ⟨_, mem_groups.mpr ⟨⟨line, hline, rfl⟩, rfl⟩, rfl⟩
          simp [← hempty] at hmem
        · rw [hdrafts.suppliers]
          exact nodup_groups
        · have hlen : created.length =
              (groups (fun l : SuggestedLine => some l.supplierId) lines).length := by
            simpa using congrArg List.length hdrafts.suppliers
          rw [hlen]
          exact hdrafts.of_mem ho
        · obtain ⟨o, ho, hown, group, hmem, hsupplier, hsku⟩ := hdrafts.lines r hr
          obtain ⟨line, hline, heq⟩ := List.mem_map.mp hsku
          obtain ⟨hin, hkey⟩ := mem_bucket.mp ((mem_groups.mp hmem).2 ▸ hline)
          obtain ⟨row, hrow, hof⟩ := Related.exists_left hlines hin
          obtain ⟨hfor, -, hskuOf, -⟩ := lineFor_eq_some.mp hof
          refine ⟨o, ho, hown, ?_⟩
          rw [← heq, hskuOf, hfor, hkey, hsupplier]
      · have hsupplier : o.supplierId ∈
            (groups (fun l : SuggestedLine => some l.supplierId) lines).map Prod.fst :=
          hdrafts.suppliers ▸ List.mem_map_of_mem ho
        obtain ⟨group, hmem, hkey⟩ := List.mem_map.mp hsupplier
        have hdraft := hdrafts.draftable group hmem
        obtain ⟨x, hx, -⟩ := hdraft.warehouse
        have hkept : WarehouseKept s.data o.warehouseId := by
          rw [(hdrafts.of_mem ho).1]
          exact ⟨x, List.mem_of_find?_eq_some hx, by simpa using List.find?_some hx⟩
        have hsupplierKept : SupplierKept s.data o.supplierId := hkey ▸ hdraft.supplier
        unfold Showable SupplierKept WarehouseKept at *
        rw [hdata]
        exact ⟨hsupplierKept, hkept⟩

/-- A conversion with a key whose drafts are there shows them. -/
theorem wp_fromReplenishment_again {idempotencyKey : Option String} {k : String}
    (hkey : Cleaned idempotencyKey (some k)) (hfound : listByKeyGroup s.data k ≠ []) :
    (fromReplenishment advice payload actorId idempotencyKey visible).wp (fun _ s' => s' = s)
      (fun _ s' => s' = s) s := by
  unfold fromReplenishment
  rw [bind_eq, wp_bind]
  refine wp_cleanKey (fun key hcleaned => ?_) fun _ _ _ => rfl
  obtain rfl : key = some k := hcleaned.stripped.trans hkey.stripped.symm
  rw [bind_eq, wp_bind, wp_select]
  split_ifs with hexisting
  · exact wp_orderViews (fun _ _ => rfl) fun _ => rfl
  · exact absurd hfound hexisting

/-- A conversion shows the drafts of an earlier one with its key, or makes drafts. -/
theorem wp_fromReplenishment {idempotencyKey : Option String} (hb : OrderBooks c s)
    (hsound : Sound s.data) {Q : List PurchaseOrderView → WorkState → Prop}
    (hagain : ∀ k, Cleaned idempotencyKey (some k) → listByKeyGroup s.data k ≠ [] →
      ∀ views, Q views s)
    (hok : ∀ key, Cleaned idempotencyKey key → (∀ k ∈ key, listByKeyGroup s.data k = []) →
      ∀ suggestions, advice.suggestions payload s.data = .ok suggestions →
      Convertible s.data payload (chosenFrom payload suggestions) → ∀ created added s',
      OrderBooks c s' → Sound s'.data → Converted s.data s'.data payload key
        (chosenFrom payload suggestions) created added → ∀ views, Q views s')
    (he : ∀ e s', Refused e → (∀ key, Cleaned idempotencyKey key →
      (∀ k ∈ key, listByKeyGroup s.data k = []) → ∀ suggestions,
      advice.suggestions payload s.data = .ok suggestions →
      ¬ Convertible s.data payload (chosenFrom payload suggestions)) → E e s')
    (htaken : ∀ k, Cleaned idempotencyKey (some k) → '\\' ∈ k.toList → ∀ s', E keyTaken s') :
    (fromReplenishment advice payload actorId idempotencyKey visible).wp Q E s := by
  unfold fromReplenishment
  rw [bind_eq, wp_bind]
  refine wp_cleanKey (fun key hkey => ?_) fun e href hno => he e _ href fun key hkey =>
    absurd hkey (hno key)
  rw [bind_eq, wp_bind, wp_select]
  split_ifs with hexisting
  · cases key with
    | none => exact absurd rfl hexisting
    | some k =>
      refine wp_orderViews (fun _ => hagain k hkey hexisting) fun _ =>
        he _ _ .notFound fun key' hkey' hnone => ?_
      obtain rfl : key' = some k := hkey'.stripped.trans hkey.stripped.symm
      exact absurd (hnone k rfl) hexisting
  rw [not_not] at hexisting
  have hnone : ∀ k ∈ key, listByKeyGroup s.data k = [] := by
    intro k hk
    rw [Option.mem_def.mp hk] at hexisting
    exact hexisting
  refine wp_convertNow hb hsound (hok key hkey hnone) (fun e s' href hno => he e s' href
    fun _ _ _ => hno) fun drafts supplierId hno s' => ?_
  cases key with
  | none => exact absurd (.inl (groupKey_none _ _)) hno
  | some k =>
    refine htaken k hkey ?_ s'
    by_contra hplain
    exact hno (keyFree_groupKey (hkey.plain k rfl) (hnone k rfl) (.inr hplain) supplierId)

end requests

end Purchasing

end CrossPilot
