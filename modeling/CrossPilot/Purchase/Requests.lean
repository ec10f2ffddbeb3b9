import CrossPilot.Purchase.OnOrder

/-!
# Requests on purchase orders

What each request leaves: the books as they were, and of its order and the lines of it what the
status of the order allows. The lines of other orders are not touched. A request that fails is
refused for what it asks for. It does not fail for want of stock unless somebody else has taken
goods in transit that belong to an order.
-/

namespace CrossPilot

open Transaction Table Prog

namespace Purchasing

open FirstMile (PurchaseRuleError)

/-! ### What may follow -/

/-- The statuses that may follow. -/
def nextStatuses : PurchaseStatus → List PurchaseStatus
  | .draft => [.pending, .cancelled]
  | .pending => [.draft, .approved, .cancelled]
  | .approved => [.partially, .received, .cancelled]
  | .partially => [.received, .closed]
  | .received => [.closed]
  | .closed | .cancelled => []

/-- Nothing of the line has come, and nothing was written off. -/
def Untouched (r : PurchaseOrderItem) : Prop :=
  0 < r.quantity ∧ r.receivedQty = 0 ∧ r.shortQty = 0

/-- What the status of an order says of its lines. -/
structure Lawful (d : Db) (o : PurchaseOrder) : Prop where
  lines : ∃ r ∈ d.purchaseItems, r.purchaseOrderId = o.id
  counts : ∀ r ∈ d.purchaseItems, r.purchaseOrderId = o.id →
    0 < r.quantity ∧ 0 ≤ r.receivedQty ∧ 0 ≤ r.shortQty
  untouched : o.status ∈ [.draft, .pending, .approved, .cancelled] →
    ∀ r ∈ d.purchaseItems, r.purchaseOrderId = o.id → r.receivedQty = 0 ∧ r.shortQty = 0
  begun : o.status = .partially →
    ∃ r ∈ d.purchaseItems, r.purchaseOrderId = o.id ∧ (r.receivedQty ≠ 0 ∨ r.shortQty ≠ 0)
  settled : o.status ∈ [.received, .closed] →
    ∀ r ∈ d.purchaseItems, r.purchaseOrderId = o.id → r.openQty = 0

/-- The lines of one order have changed by `kin`, and rows that are `new` may have come. -/
structure Touched (orderId : ℕ) (kin : PurchaseOrderItem → PurchaseOrderItem → Prop)
    (new : PurchaseOrderItem → Prop) (rows rows' : List PurchaseOrderItem) : Prop where
  others : ∀ r, r.purchaseOrderId ≠ orderId → (r ∈ rows' ↔ r ∈ rows)
  kept : ∀ r ∈ rows, r.purchaseOrderId = orderId →
    ∃ r' ∈ rows', r'.id = r.id ∧ r'.purchaseOrderId = orderId ∧ r'.skuId = r.skuId ∧ kin r r'
  came : ∀ r' ∈ rows', r'.purchaseOrderId = orderId →
    (∃ r ∈ rows, r'.id = r.id ∧ r.purchaseOrderId = orderId ∧ r'.skuId = r.skuId ∧ kin r r') ∨
      new r'

namespace Touched

variable {orderId : ℕ} {kin kin' kin'' : PurchaseOrderItem → PurchaseOrderItem → Prop}
  {new : PurchaseOrderItem → Prop} {rows rows' rows'' : List PurchaseOrderItem}

lemma refl (hk : ∀ r, kin r r) : Touched orderId kin new rows rows :=
  ⟨fun _ _ => Iff.rfl, fun r hr ho => ⟨r, hr, rfl, ho, rfl, hk r⟩,
    fun r hr ho => .inl ⟨r, hr, rfl, ho, rfl, hk r⟩⟩

lemma trans (h : Touched orderId kin new rows rows') (h' : Touched orderId kin' new rows' rows'')
    (hk : ∀ r r' r'', kin r r' → r'.id = r.id → kin' r' r'' → kin'' r r'')
    (hn : ∀ r r', new r → r'.id = r.id → kin' r r' → new r') :
    Touched orderId kin'' new rows rows'' := by
  refine ⟨fun r hr => (h'.others r hr).trans (h.others r hr), fun r hr ho => ?_, fun r hr ho => ?_⟩
  · obtain ⟨r₁, hr₁, hid₁, ho₁, hsku₁, hk₁⟩ := h.kept r hr ho
    obtain ⟨r₂, hr₂, hid₂, ho₂, hsku₂, hk₂⟩ := h'.kept r₁ hr₁ ho₁
    exact ⟨r₂, hr₂, hid₂.trans hid₁, ho₂, hsku₂.trans hsku₁, hk _ _ _ hk₁ hid₁ hk₂⟩
  · rcases h'.came r hr ho with ⟨r₁, hr₁, hid₁, ho₁, hsku₁, hk₁⟩ | hnew
    · rcases h.came r₁ hr₁ ho₁ with ⟨r₀, hr₀, hid₀, ho₀, hsku₀, hk₀⟩ | hnew
      · exact .inl ⟨r₀, hr₀, hid₁.trans hid₀, ho₀, hsku₁.trans hsku₀, hk _ _ _ hk₀ hid₀ hk₁⟩
      · exact .inr (hn _ _ hnew hid₁ hk₁)
    · exact .inr hnew

/-- One line of the order is changed. -/
lemma alter (hkeys : Keyed PurchaseOrderItem.id rows) {r : PurchaseOrderItem} (hr : r ∈ rows)
    (ho : r.purchaseOrderId = orderId) {f : PurchaseOrderItem → PurchaseOrderItem}
    (hid : ∀ r, (f r).id = r.id) (hof : ∀ r, (f r).purchaseOrderId = r.purchaseOrderId)
    (hsku : ∀ r, (f r).skuId = r.skuId) (hk : kin r (f r))
    (hrest : ∀ x ∈ rows, x.id ≠ r.id → kin x x) :
    Touched orderId kin new rows (alter PurchaseOrderItem.id r.id f rows) := by
  refine ⟨fun x hx => ?_, fun x hx hxo => ?_, fun x hx hxo => ?_⟩
  · have hne : x ∈ rows → x.id ≠ r.id := fun hmem heq =>
      hx (hkeys.eq_of_key_eq hmem hr heq ▸ ho)
    constructor
    · intro hmem
      obtain ⟨y, hy, rfl⟩ := mem_alter.mp hmem
      split_ifs at hx ⊢ with hyid
      · rw [hof, hkeys.eq_of_key_eq hy hr hyid] at hx
        exact absurd ho hx
      · exact hy
    · exact fun hmem => mem_alter_of_ne hmem (hne hmem)
  · by_cases hxid : x.id = r.id
    · obtain rfl := hkeys.eq_of_key_eq hx hr hxid
      exact ⟨f x, mem_alter_self hx, hid x, (hof x).trans ho, hsku x, hk⟩
    · exact ⟨x, mem_alter_of_ne hx hxid, rfl, hxo, rfl, hrest x hx hxid⟩
  · obtain ⟨y, hy, rfl⟩ := mem_alter.mp hx
    split_ifs at hxo ⊢ with hyid
    · obtain rfl := hkeys.eq_of_key_eq hy hr hyid
      exact .inl ⟨y, hy, hid y, ho, hsku y, hk⟩
    · exact .inl ⟨y, hy, rfl, hxo, rfl, hrest y hy hyid⟩

/-- A line is added to the order. -/
lemma append (hk : ∀ r, kin r r) {r : PurchaseOrderItem} (ho : r.purchaseOrderId = orderId)
    (hnew : new r) : Touched orderId kin new rows (rows ++ [r]) := by
  refine ⟨fun x hx => ?_, fun x hx hxo => ?_, fun x hx hxo => ?_⟩
  · have hne : x ≠ r := fun heq => hx (heq ▸ ho)
    simp [hne]
  · exact ⟨x, List.mem_append_left _ hx, rfl, hxo, rfl, hk x⟩
  · rcases List.mem_append.mp hx with hx | hx
    · exact .inl ⟨x, hx, rfl, hxo, rfl, hk x⟩
    · rw [List.mem_singleton.mp hx]
      exact .inr hnew

end Touched

/-! ### Reading -/

lemma mem_itemsOf {d : Db} {orderId : ℕ} {r : PurchaseOrderItem} :
    r ∈ itemsOf d orderId ↔ r ∈ d.purchaseItems ∧ r.purchaseOrderId = orderId := by
  simp [itemsOf]

/-- What the lines of an order weigh. -/
lemma weight_eq_itemsOf (d : Db) (g : PurchaseOrder → PurchaseOrderItem → ℤ) (o : PurchaseOrder) :
    weight PurchaseOrder.id PurchaseOrderItem.purchaseOrderId g d.purchaseItems o =
      total (g o) (itemsOf d o.id) := by
  rw [itemsOf, total_perm (List.perm_insertionSort _ _)]
  unfold weight
  induction d.purchaseItems with
  | nil => rfl
  | cons r rest ih => by_cases h : r.purchaseOrderId = o.id <;> simp [h, ih]

/-- The errors of a request that is refused for what it asks for. -/
def Refused : ServiceError → Prop
  | .app code _ => code ∈ [10001, 10002, 60008, 60009]
  | .value _ => True
  | _ => False

lemma Refused.notFound {message : String} : Refused (.notFound message) := by
  simp [Refused, ServiceError.notFound]

lemma Refused.paramInvalid {message : String} : Refused (.paramInvalid message) := by
  simp [Refused, ServiceError.paramInvalid]

lemma Refused.purchaseState {message : String} : Refused (.purchaseState message) := by
  simp [Refused, ServiceError.purchaseState]

lemma Refused.receiptInvalid {message : String} : Refused (.receiptInvalid message) := by
  simp [Refused, ServiceError.receiptInvalid]

/-- A request fails for what it asks for, if nobody else takes goods in transit. -/
def Fails (c : Bucket → ℕ → ℕ → ℤ) (e : ServiceError) : Prop :=
  (∀ t w, 0 ≤ c .inTransit t w) → Refused e

lemma Fails.of_refused {c : Bucket → ℕ → ℕ → ℤ} {e : ServiceError} (h : Refused e) : Fails c e :=
  fun _ => h

/-- The supplier has not been deleted. -/
def SupplierKept (d : Db) (supplierId : ℕ) : Prop :=
  ∃ x ∈ d.suppliers, x.id = supplierId ∧ x.deleted = false

/-- What an order names is still there. -/
def Showable (d : Db) (o : PurchaseOrder) : Prop :=
  SupplierKept d o.supplierId ∧ WarehouseKept d o.warehouseId

/-- Goods can be sent to the warehouse. -/
def Destined (d : Db) (warehouseId : ℕ) : Prop :=
  ∃ x, d.warehouses.find? (fun w => w.id = warehouseId ∧ w.deleted = false) = some x ∧
    x.warehouseType ≠ .platform

/-- An order can be drafted. -/
structure Orderable (d : Db) (payload : PurchaseOrderCreate) : Prop where
  supplier : SupplierKept d payload.supplierId
  warehouse : Destined d payload.warehouseId
  distinct : (payload.lines.map PurchaseLineWrite.skuId).Nodup
  skus : ∀ line ∈ payload.lines, SkuKept d line.skuId

section reading

variable {s : WorkState} {E : ServiceError → WorkState → Prop}

lemma wp_getOrder {orderId : ℕ} {Q : PurchaseOrder → WorkState → Prop}
    (hok : ∀ o ∈ s.data.purchaseOrders, o.id = orderId → Q o s)
    (he : (∀ o ∈ s.data.purchaseOrders, o.id ≠ orderId) → E .notFound s) :
    (getOrder orderId).wp Q E s := by
  simp only [getOrder, bind_eq, wp_bind, wp_select]
  cases hfind : s.data.purchaseOrders.find? fun o => o.id = orderId with
  | none => exact he (by simpa using hfind)
  | some o => exact hok o (List.mem_of_find?_eq_some hfind) (by simpa using List.find?_some hfind)

lemma wp_getSupplier {supplierId : ℕ} {Q : Supplier → WorkState → Prop}
    (hok : ∀ x, SupplierKept s.data supplierId → Q x s)
    (he : ¬ SupplierKept s.data supplierId → E .notFound s) :
    (getSupplier supplierId).wp Q E s := by
  simp only [getSupplier, bind_eq, wp_bind, wp_select]
  cases hfind : s.data.suppliers.find? fun x => x.id = supplierId ∧ x.deleted = false with
  | none =>
    refine he ?_
    rintro ⟨x, hx, hid, hkept⟩
    have hnot := List.find?_eq_none.mp hfind x hx
    simp [hid, hkept] at hnot
  | some x =>
    refine hok x ⟨x, List.mem_of_find?_eq_some hfind, ?_⟩
    simpa using List.find?_some hfind

lemma wp_orderView {o : PurchaseOrder} {visible : Bool} {Q : PurchaseOrderView → WorkState → Prop}
    (hok : Showable s.data o → ∀ v, Q v s) (he : ¬ Showable s.data o → E .notFound s) :
    (orderView o visible).wp Q E s := by
  unfold orderView
  rw [bind_eq, wp_bind]
  refine wp_getSupplier (fun _ hsupplier => ?_) fun hno => he fun h => hno h.1
  rw [bind_eq, wp_bind]
  exact wp_getWarehouse (fun _ hwarehouse => hok ⟨hsupplier, hwarehouse⟩ _) fun hno =>
    he fun h => hno h.2

/-- The error that the service makes of a broken rule. -/
def ruleError (e : PurchaseRuleError) : ServiceError :=
  if e.code = "state" then .purchaseState e.message else .receiptInvalid e.message

lemma refused_ruleError (e : PurchaseRuleError) : Refused (ruleError e) := by
  unfold ruleError
  split
  · exact .purchaseState
  · exact .receiptInvalid

lemma wp_raiseRule {α : Type} {x : Except PurchaseRuleError α} {Q : α → WorkState → Prop}
    (hok : ∀ a, x = .ok a → Q a s) (he : ∀ e, x = .error e → E (ruleError e) s) :
    (raiseRule x).wp Q E s := by
  cases x with
  | ok a => exact hok a rfl
  | error e =>
    have hraise : (raiseRule (.error e) : Work α) = .fail (ruleError e) := by
      by_cases h : e.code = "state" <;> simp [raiseRule, ruleError, raise, h]
    rw [hraise]
    exact he e rfl

/-- The key that a request is given. -/
structure Cleaned (value key : Option String) : Prop where
  stripped : key = (value.map Text.strip).filter (· ≠ "")
  plain : ∀ k ∈ key, ∀ c ∈ k.toList, c ∉ ['%', '_', '#']

lemma wp_cleanKey {value : Option String} {Q : Option String → WorkState → Prop}
    (hok : ∀ key, Cleaned value key → Q key s)
    (he : ∀ e, Refused e → (∀ key, ¬ Cleaned value key) → E e s) : (cleanKey value).wp Q E s := by
  unfold cleanKey
  generalize hvalue : value.map Text.strip = stripped
  cases stripped with
  | none => exact hok none ⟨by rw [hvalue]; rfl, by simp⟩
  | some text =>
    by_cases hempty : text = ""
    · subst hempty
      exact hok none ⟨by rw [hvalue]; rfl, by simp⟩
    have hstripped : some text = (value.map Text.strip).filter (· ≠ "") := by
      simp [hvalue, Option.filter, hempty]
    split
    · rename_i heq
      cases heq
    · rename_i heq
      exact absurd (Option.some.inj heq) hempty
    · rename_i heq
      cases heq
      split_ifs with hany
      · refine he _ .paramInvalid fun key hkey => ?_
        obtain ⟨c, hc, hmem⟩ := List.any_eq_true.mp hany
        exact hkey.plain text (hkey.stripped.trans hstripped.symm) c hc (of_decide_eq_true hmem)
      · refine hok _ ⟨hstripped, fun k hk c hc hmem => hany ?_⟩
        obtain rfl := Option.some.inj hk
        exact List.any_eq_true.mpr ⟨c, hc, decide_eq_true hmem⟩

lemma wp_destination {warehouseId : ℕ} {Q : Warehouse → WorkState → Prop}
    (hok : ∀ x, x.id = warehouseId → Destined s.data warehouseId → Q x s)
    (he : ∀ e, Refused e → ¬ Destined s.data warehouseId → E e s) :
    (destination warehouseId).wp Q E s := by
  simp only [destination, getWarehouse, bind_eq, wp_bind, wp_select]
  cases hfind : s.data.warehouses.find? fun w => w.id = warehouseId ∧ w.deleted = false with
  | none =>
    refine he _ .notFound ?_
    rintro ⟨x, hx, -⟩
    rw [hfind] at hx
    cases hx
  | some x =>
    have hid : x.id = warehouseId ∧ x.deleted = false := by simpa using List.find?_some hfind
    have hiff : Destined s.data warehouseId ↔ x.warehouseType ≠ .platform := by
      unfold Destined
      rw [hfind]
      simp
    cases htype : x.warehouseType
    all_goals simp only [htype, ne_eq, reduceCtorEq, not_false_eq_true, not_true_eq_false,
      iff_true, iff_false, orRaise, pure_eq, wp_ret, transitRegion] at hiff ⊢
    all_goals first
      | exact hok x hid.1 hiff
      | exact he _ .paramInvalid hiff

end reading

/-! ### Posting -/

section posting

variable {c g : Bucket → ℕ → ℕ → ℤ} {s : WorkState} {E : ServiceError → WorkState → Prop}

lemma balanceAt_inTransit_nonneg {d : Db} (h : Shelf d.inventories) (t w : ℕ) :
    0 ≤ balanceAt d .inTransit t w := by
  refine total_nonneg fun r hr => ?_
  split
  · exact h.inTransit_nonneg r hr
  · exact le_rfl

/-- A posting moves the slack. It fails for want of stock only if goods in transit are missing. -/
lemma OrderBooks.post (h : OrderBooks c s) {skuId warehouseId : ℕ} {available inTransit : ℤ}
    {refType : String} {refId : Option ℕ} {Q : Unit → WorkState → Prop}
    (havailable : 0 ≤ available)
    (hcover : (∀ t w, 0 ≤ g .inTransit t w) →
      0 ≤ balanceAt s.data .inTransit skuId warehouseId + inTransit)
    (hok : (available ≠ 0 ∨ inTransit ≠ 0 → Stockable s.data skuId warehouseId) → ∀ s',
      OrderBooks (fun b t w => c b t w + postedTo skuId warehouseId { available, inTransit } b t w)
        s' → Beside s.data s'.data → Q () s')
    (he : ∀ e s', Fails g e → ((∀ t w, 0 ≤ g .inTransit t w) →
      ¬ (available ≠ 0 ∨ inTransit ≠ 0 → Stockable s.data skuId warehouseId)) → E e s') :
    (postStock skuId warehouseId available inTransit refType refId).wp Q E s := by
  refine CrossPilot.Purchasing.wp_postStock h.ready h.unused.spare havailable
    (fun hkept s' hm => hok hkept s' (h.hauled hm) hm.frame)
    (fun hno => he _ _ (.of_refused .notFound) fun _ => hno)
    fun hshort s' => he _ _ (fun hc => ?_) fun hc => ?_
  · have := hcover hc
    omega
  · have := hcover hc
    omega

/-- Goods of several lines are posted, all of them on their way or all of them no longer. -/
lemma OrderBooks.postEach {o : PurchaseOrder} (q : PurchaseOrderItem → ℤ)
    (f : PurchaseOrderItem → Work Unit) (rows : List PurchaseOrderItem)
    (hf : ∀ row ∈ rows, f row = moveInTransit o row.skuId (q row))
    (hsign : (∀ row ∈ rows, 0 ≤ q row) ∨ ∀ row ∈ rows, q row ≤ 0)
    (h : OrderBooks (fun b t w => c b t w -
      total (fun row => postedTo row.skuId o.warehouseId { inTransit := q row } b t w) rows) s)
    {Q : Unit → WorkState → Prop}
    (hok : (∀ row ∈ rows, q row ≠ 0 → Stockable s.data row.skuId o.warehouseId) → ∀ s',
      OrderBooks c s' → Beside s.data s'.data → Q () s')
    (he : ∀ e s', Fails c e → ((∀ t w, 0 ≤ c .inTransit t w) →
      ¬ ∀ row ∈ rows, q row ≠ 0 → Stockable s.data row.skuId o.warehouseId) → E e s') :
    (Prog.forEach rows f).wp Q E s := by
  induction rows generalizing s with
  | nil => exact hok (by simp) s (h.congr fun b t w => by simp) rfl
  | cons row rest ih =>
    rw [Prog.forEach, wp_bind, hf row (by simp), moveInTransit]
    refine h.post (g := c) le_rfl (fun hc => ?_) (fun hkept s₁ h₁ hb₁ => ?_) fun e s' hfail hno =>
      he e s' hfail fun hc hall => hno hc fun hmoves => ?_
    · rcases hsign with hpos | hneg
      · have := balanceAt_inTransit_nonneg h.ready.shelf row.skuId o.warehouseId
        have := hpos row (by simp)
        omega
      · -- the goods have been taken off the orders, but not yet out of transit
        have hpurchased := purchased_inTransit_nonneg s.data row.skuId o.warehouseId
        have hslack := hc row.skuId o.warehouseId
        have hrest : total (fun x => postedTo x.skuId o.warehouseId { inTransit := q x }
            .inTransit row.skuId o.warehouseId) rest ≤ 0 := by
          refine total_nonpos fun x hx => ?_
          unfold postedTo
          split
          · exact hneg x (by simp [hx])
          · exact le_rfl
        have hbalance := h.balance .inTransit row.skuId o.warehouseId
        simp only [total_cons, postedTo, if_true, Delta.bucket] at hbalance hrest
        omega
    · have hsame : ∀ x : PurchaseOrderItem, Stockable s₁.data x.skuId o.warehouseId ↔
          Stockable s.data x.skuId o.warehouseId := fun x => by
        unfold Stockable SkuKept WarehouseKept
        rw [hb₁]
      refine ih (fun x hx => hf x (by simp [hx])) ?_ (h₁.congr fun b t w => ?_)
        (fun hall s' h' hb' => hok (fun x hx hne => ?_) s' h' ?_) fun e s' hfail hno =>
          he e s' hfail fun hc hall => hno hc fun x hx hne => (hsame x).mpr (hall x (by simp [hx]) hne)
      · exact hsign.imp (fun hp x hx => hp x (by simp [hx])) fun hn x hx => hn x (by simp [hx])
      · simp only [total_cons]
        ring
      · rcases List.mem_cons.mp hx with rfl | hx
        · exact hkept (.inr hne)
        · exact (hsame x).mp (hall x hx hne)
      · unfold Beside at hb₁ hb' ⊢
        rw [hb', hb₁]
    · exact hall row (by simp) (hmoves.resolve_left fun h => h rfl)

end posting

/-! ### Steps -/

/-- What an order may become. -/
structure Becomes (o o' : PurchaseOrder) : Prop where
  id : o'.id = o.id
  supplierId : o'.supplierId = o.supplierId
  warehouseId : o'.warehouseId = o.warehouseId
  currency : o'.currency = o.currency
  idempotencyKey : o'.idempotencyKey = o.idempotencyKey
  status : o'.status = o.status ∨ o'.status ∈ nextStatuses o.status

/-- Nothing will happen to the order any more. -/
def Done (o : PurchaseOrder) : Prop := o.status ∈ [.closed, .cancelled]

/-- Orders go on, lines and receipts are never taken back, and an order that is done stays as it
is. -/
structure OrderStep (d d' : Db) : Prop where
  orders : ∀ o ∈ d.purchaseOrders, ∃ o' ∈ d'.purchaseOrders, Becomes o o'
  lines : ∀ r ∈ d.purchaseItems, ∃ r' ∈ d'.purchaseItems, r'.id = r.id ∧
    r'.purchaseOrderId = r.purchaseOrderId ∧ r'.skuId = r.skuId ∧
    r.receivedQty ≤ r'.receivedQty ∧ r.shortQty ≤ r'.shortQty
  done : ∀ o ∈ d.purchaseOrders, Done o → o ∈ d'.purchaseOrders ∧
    ∀ r, r.purchaseOrderId = o.id → (r ∈ d'.purchaseItems ↔ r ∈ d.purchaseItems)
  receipts : d.receipts <+: d'.receipts

/-- What the receipts say was received of a line. -/
def notedReceived (receipts : List PurchaseReceipt) (itemId : ℕ) : ℤ :=
  total (fun x => total (fun l => if l.itemId = itemId then l.receiveQty else 0) x.lines) receipts

/-- What they say was written off. -/
def notedShort (receipts : List PurchaseReceipt) (itemId : ℕ) : ℤ :=
  total (fun x => if x.disposition = .short then
    total (fun l => if l.itemId = itemId then l.transitRelease else 0) x.lines else 0) receipts

/-- The lines are as the statuses of the orders say, and as the receipts say. -/
structure Sound (d : Db) : Prop where
  lawful : ∀ o ∈ d.purchaseOrders, Lawful d o
  noted : ∀ x ∈ d.receipts, ∀ l ∈ x.lines, ∃ r ∈ d.purchaseItems, r.id = l.itemId
  received : ∀ r ∈ d.purchaseItems, r.receivedQty = notedReceived d.receipts r.id
  short : ∀ r ∈ d.purchaseItems, r.shortQty = notedShort d.receipts r.id

/-- Nothing but stock and the tables of purchasing differs. -/
def Framed (d d' : Db) : Prop :=
  d' = { d with
    inventories := d'.inventories, flows := d'.flows, purchaseOrders := d'.purchaseOrders
    purchaseItems := d'.purchaseItems, receipts := d'.receipts }

/-- What a request leaves. -/
structure Left (c : Bucket → ℕ → ℕ → ℤ) (d : Db) (s' : WorkState) : Prop where
  books : OrderBooks c s'
  step : OrderStep d s'.data
  sound : Sound s'.data
  frame : Framed d s'.data

/-- An edit leaves what was received. -/
def SameReceipts (r r' : PurchaseOrderItem) : Prop :=
  r'.receivedQty = r.receivedQty ∧ r'.shortQty = r.shortQty ∧ (0 < r.quantity → 0 < r'.quantity)

lemma SameReceipts.refl (r : PurchaseOrderItem) : SameReceipts r r := ⟨rfl, rfl, id⟩

lemma SameReceipts.trans {r r' r'' : PurchaseOrderItem} (h : SameReceipts r r')
    (h' : SameReceipts r' r'') : SameReceipts r r'' :=
  ⟨h'.1.trans h.1, h'.2.1.trans h.2.1, fun hpos => h'.2.2 (h.2.2 hpos)⟩

/-- A line that was not there before. -/
def NewLine (d : Db) (r : PurchaseOrderItem) : Prop :=
  Untouched r ∧ ∀ x ∈ d.purchaseItems, x.id ≠ r.id

lemma NewLine.of_same {d : Db} {r r' : PurchaseOrderItem} (h : NewLine d r) (hid : r'.id = r.id)
    (hsame : SameReceipts r r') : NewLine d r' :=
  ⟨⟨hsame.2.2 h.1.1, hsame.1.trans h.1.2.1, hsame.2.1.trans h.1.2.2⟩, hid ▸ h.2⟩

section steps

variable {d d' : Db} {o o' : PurchaseOrder} {kin : PurchaseOrderItem → PurchaseOrderItem → Prop}
  {new : PurchaseOrderItem → Prop}

lemma Becomes.refl (o : PurchaseOrder) : Becomes o o := ⟨rfl, rfl, rfl, rfl, rfl, .inl rfl⟩

lemma OrderStep.refl (d : Db) : OrderStep d d :=
  ⟨fun o ho => ⟨o, ho, .refl o⟩, fun r hr => ⟨r, hr, rfl, rfl, rfl, le_rfl, le_rfl⟩,
    fun _ ho _ => ⟨ho, fun _ _ => Iff.rfl⟩, List.prefix_refl _⟩

/-- Nothing was noted of a line that nobody mentions. -/
lemma noted_eq_zero {receipts : List PurchaseReceipt} {itemId : ℕ}
    (h : ∀ x ∈ receipts, ∀ l ∈ x.lines, l.itemId ≠ itemId) :
    notedReceived receipts itemId = 0 ∧ notedShort receipts itemId = 0 := by
  constructor
  · exact total_eq_zero fun x hx => total_eq_zero fun l hl => if_neg (h x hx l hl)
  · refine total_eq_zero fun x hx => ?_
    split
    · exact total_eq_zero fun l hl => if_neg (h x hx l hl)
    · rfl

/-- One order has gone on. -/
structure GoneOn (d d' : Db) (o o' : PurchaseOrder) : Prop where
  mem : o ∈ d.purchaseOrders
  live : ¬ Done o
  becomes : Becomes o o'
  rows : ∀ x, x ∈ d'.purchaseOrders ↔ x = o' ∨ x ∈ d.purchaseOrders ∧ x.id ≠ o.id

/-- The orders after a change of one of them. -/
lemma GoneOn.of_alter (hk : Keyed PurchaseOrder.id d.purchaseOrders) (ho : o ∈ d.purchaseOrders)
    (hlive : ¬ Done o) {f : PurchaseOrder → PurchaseOrder} (hf : Becomes o (f o))
    (horders : d'.purchaseOrders = alter PurchaseOrder.id o.id f d.purchaseOrders) :
    GoneOn d d' o (f o) := by
  refine ⟨ho, hlive, hf, fun x => ?_⟩
  rw [horders, mem_alter]
  constructor
  · rintro ⟨y, hy, rfl⟩
    split_ifs with hid
    · exact .inl (by rw [hk.eq_of_key_eq hy ho hid])
    · exact .inr ⟨hy, hid⟩
  · rintro (rfl | ⟨hx, hne⟩)
    · exact ⟨o, ho, by rw [if_pos rfl]⟩
    · exact ⟨x, hx, by rw [if_neg hne]⟩

lemma OrderStep.of_goneOn (hk : Keyed PurchaseOrder.id d.purchaseOrders) (hgo : GoneOn d d' o o')
    (ht : Touched o.id kin new d.purchaseItems d'.purchaseItems)
    (hkin : ∀ r r', kin r r' → r.receivedQty ≤ r'.receivedQty ∧ r.shortQty ≤ r'.shortQty)
    (hreceipts : d.receipts <+: d'.receipts) : OrderStep d d' := by
  refine ⟨fun x hx => ?_, fun r hr => ?_, fun x hx hdone => ?_, hreceipts⟩
  · by_cases hid : x.id = o.id
    · obtain rfl := hk.eq_of_key_eq hx hgo.mem hid
      exact ⟨o', (hgo.rows o').mpr (.inl rfl), hgo.becomes⟩
    · exact ⟨x, (hgo.rows x).mpr (.inr ⟨hx, hid⟩), .refl x⟩
  · by_cases hown : r.purchaseOrderId = o.id
    · obtain ⟨r', hr', hid, hown', hsku, hrel⟩ := ht.kept r hr hown
      exact ⟨r', hr', hid, hown'.trans hown.symm, hsku, hkin r r' hrel⟩
    · exact ⟨r, (ht.others r hown).mpr hr, rfl, rfl, rfl, le_rfl, le_rfl⟩
  · have hne : x.id ≠ o.id := fun hid => hgo.live (hk.eq_of_key_eq hx hgo.mem hid ▸ hdone)
    exact ⟨(hgo.rows x).mpr (.inr ⟨hx, hne⟩), fun r hr => ht.others r (hr ▸ hne)⟩

/-- The lines of the other orders are what they were. -/
lemma Lawful.of_others (h : Lawful d o)
    (hrows : ∀ r, r.purchaseOrderId = o.id → (r ∈ d'.purchaseItems ↔ r ∈ d.purchaseItems)) :
    Lawful d' o := by
  refine ⟨?_, fun r hr ho => h.counts r ((hrows r ho).mp hr) ho,
    fun hst r hr ho => h.untouched hst r ((hrows r ho).mp hr) ho, fun hst => ?_,
    fun hst r hr ho => h.settled hst r ((hrows r ho).mp hr) ho⟩
  · obtain ⟨r, hr, ho⟩ := h.lines
    exact ⟨r, (hrows r ho).mpr hr, ho⟩
  · obtain ⟨r, hr, ho, hany⟩ := h.begun hst
    exact ⟨r, (hrows r ho).mpr hr, ho, hany⟩

lemma Sound.lawful_of_goneOn (h : Sound d) (hgo : GoneOn d d' o o')
    (ht : Touched o.id kin new d.purchaseItems d'.purchaseItems) (hnew : Lawful d' o') :
    ∀ x ∈ d'.purchaseOrders, Lawful d' x := by
  intro x hx
  rcases (hgo.rows x).mp hx with rfl | ⟨hold, hne⟩
  · exact hnew
  · exact (h.lawful x hold).of_others fun r hr => ht.others r (hr ▸ hne)

/-- An edit changes nothing that the receipts speak of. -/
lemma Sound.of_edited (h : Sound d) (hgo : GoneOn d d' o o')
    (ht : Touched o.id SameReceipts (NewLine d) d.purchaseItems d'.purchaseItems)
    (hreceipts : d'.receipts = d.receipts) (hnew : Lawful d' o') : Sound d' := by
  -- every line is one of before with the same receipts, or a new one
  have hfrom : ∀ r ∈ d'.purchaseItems,
      (∃ r₀ ∈ d.purchaseItems, r.id = r₀.id ∧ SameReceipts r₀ r) ∨ NewLine d r := by
    intro r hr
    by_cases hown : r.purchaseOrderId = o.id
    · rcases ht.came r hr hown with ⟨r₀, hr₀, hid, -, -, hsame⟩ | hnew
      · exact .inl ⟨r₀, hr₀, hid, hsame⟩
      · exact .inr hnew
    · exact .inl ⟨r, (ht.others r hown).mp hr, rfl, .refl r⟩
  have hzero : ∀ r, NewLine d r →
      notedReceived d.receipts r.id = 0 ∧ notedShort d.receipts r.id = 0 := by
    intro r hnew
    refine noted_eq_zero fun x hx l hl heq => ?_
    obtain ⟨y, hy, hyid⟩ := h.noted x hx l hl
    exact hnew.2 y hy (hyid.trans heq)
  refine ⟨h.lawful_of_goneOn hgo ht hnew, fun x hx l hl => ?_, fun r hr => ?_, fun r hr => ?_⟩
  · rw [hreceipts] at hx
    obtain ⟨r, hr, hid⟩ := h.noted x hx l hl
    by_cases hown : r.purchaseOrderId = o.id
    · obtain ⟨r', hr', hid', -⟩ := ht.kept r hr hown
      exact ⟨r', hr', hid'.trans hid⟩
    · exact ⟨r, (ht.others r hown).mpr hr, hid⟩
  · rw [hreceipts]
    rcases hfrom r hr with ⟨r₀, hr₀, hid, hsame⟩ | hnew
    · rw [hid, hsame.1, h.received r₀ hr₀]
    · rw [hnew.1.2.1, (hzero r hnew).1]
  · rw [hreceipts]
    rcases hfrom r hr with ⟨r₀, hr₀, hid, hsame⟩ | hnew
    · rw [hid, hsame.2.1, h.short r₀ hr₀]
    · rw [hnew.1.2.2, (hzero r hnew).2]

/-- The lines of an order that is edited suit its status. -/
lemma Lawful.of_edited (h : Lawful d o)
    (ht : Touched o.id SameReceipts (NewLine d) d.purchaseItems d'.purchaseItems)
    (hedit : o.status ∈ openForEdit) (hid : o'.id = o.id) (hstatus : o'.status = o.status) :
    Lawful d' o' := by
  rw [← hid] at ht
  refine ⟨?_, fun r hr hown => ?_, fun hst r hr hown => ?_, fun hst => ?_, fun hst => ?_⟩
  · obtain ⟨r, hr, hown⟩ := h.lines
    obtain ⟨r', hr', -, hown', -⟩ := ht.kept r hr (hown.trans hid.symm)
    exact ⟨r', hr', hown'⟩
  · rcases ht.came r hr hown with ⟨r₀, hr₀, -, hown₀, -, hrec, hsho, hpos⟩ | hnew
    · have := h.counts r₀ hr₀ (hown₀.trans hid)
      exact ⟨hpos this.1, hrec ▸ this.2.1, hsho ▸ this.2.2⟩
    · exact ⟨hnew.1.1, hnew.1.2.1.ge, hnew.1.2.2.ge⟩
  · rcases ht.came r hr hown with ⟨r₀, hr₀, -, hown₀, -, hrec, hsho, -⟩ | hnew
    · rw [hrec, hsho]
      exact h.untouched (hstatus ▸ hst) r₀ hr₀ (hown₀.trans hid)
    · exact hnew.1.2
  · obtain ⟨r, hr, hown, hany⟩ := h.begun (hstatus ▸ hst)
    obtain ⟨r', hr', -, hown', -, hrec, hsho, -⟩ := ht.kept r hr (hown.trans hid.symm)
    exact ⟨r', hr', hown', by rwa [hrec, hsho]⟩
  · rw [hstatus] at hst
    simp only [openForEdit, List.mem_cons, List.not_mem_nil, or_false] at hedit hst
    rcases hst with hst | hst <;> simp [hst] at hedit

end steps

/-! ### Moving an order on -/

section transitions

variable {c : Bucket → ℕ → ℕ → ℤ} {s : WorkState} {o : PurchaseOrder}

/-- What comes of an action that is accepted. -/
structure Accepted (status : PurchaseStatus) (action : PurchaseAction) (status' : PurchaseStatus) :
    Prop where
  next : status' ∈ nextStatuses status
  live : status ∉ [.closed, .cancelled]
  opens : status' ∈ openForReceipt ↔ action = .approve
  leaves : status ∈ openForReceipt ↔
    action = .cancel ∧ status = .approved ∨ action = .close ∧ status = .partially
  untouched : action ≠ .close → status ∈ [.draft, .pending, .approved, .cancelled]
  closes : status' ∈ [.received, .closed] ↔ action = .close
  ends : action = .cancel ∨ action = .close → status' ∈ [.closed, .cancelled]
  whole : status' ≠ .partially

lemma Accepted.of_ok {status status' : PurchaseStatus} {action : PurchaseAction} {received : ℤ}
    (h : assertTransition status action received = .ok status') :
    Accepted status action status' := by
  cases action <;> cases status <;> simp only [assertTransition] at h
  all_goals first
    | cases h
    | split at h <;> cases h
  all_goals constructor <;> decide

/-- What the lines of an order that is moved on have brought more or less. -/
lemma weight_status (o : PurchaseOrder) {status : PurchaseStatus} (b : Bucket) (t w : ℕ) :
    weight PurchaseOrder.id PurchaseOrderItem.purchaseOrderId (fun o r => r.brought o b t w)
        s.data.purchaseItems { o with status } -
      weight PurchaseOrder.id PurchaseOrderItem.purchaseOrderId (fun o r => r.brought o b t w)
        s.data.purchaseItems o =
      total (fun r => postedTo r.skuId o.warehouseId
        { inTransit := (if status ∈ openForReceipt then r.openQty else 0) -
          if o.status ∈ openForReceipt then r.openQty else 0 } b t w) (itemsOf s.data o.id) := by
  rw [weight_eq_itemsOf, weight_eq_itemsOf]
  simp only
  induction itemsOf s.data o.id with
  | nil => simp
  | cons r rest ih =>
    simp only [total_cons, ← ih]
    have hone : r.brought { o with status } b t w - r.brought o b t w =
        postedTo r.skuId o.warehouseId
          { inTransit := (if status ∈ openForReceipt then r.openQty else 0) -
            if o.status ∈ openForReceipt then r.openQty else 0 } b t w := by
      unfold PurchaseOrderItem.brought postedTo
      split
      · cases b <;> simp [PurchaseOrderItem.delta, Delta.bucket]
      · simp
    rw [← hone]
    ring

/-- The action moves goods. -/
def Moves (o : PurchaseOrder) (action : PurchaseAction) : Prop :=
  action = .approve ∨ action = .cancel ∧ o.status = .approved

/-- What an action does to the stock makes up for what it makes of the order. -/
lemma wp_moveStock {s₁ : WorkState} {rows : List PurchaseOrderItem} {action : PurchaseAction}
    {status : PurchaseStatus} {received : ℤ} {E : ServiceError → WorkState → Prop}
    {Q : Unit → WorkState → Prop}
    (hstatus : assertTransition o.status action received = .ok status)
    (hfresh : ∀ r ∈ rows, action = .approve → r.openQty = r.quantity)
    (hclosed : action = .close → ∀ r ∈ rows, r.openQty = 0)
    (h : OrderBooks (fun b t w => c b t w - total (fun r => postedTo r.skuId o.warehouseId
      { inTransit := (if status ∈ openForReceipt then r.openQty else 0) -
        if o.status ∈ openForReceipt then r.openQty else 0 } b t w) rows) s₁)
    (hok : (Moves o action → ∀ r ∈ rows, r.openQty ≠ 0 →
      Stockable s₁.data r.skuId o.warehouseId) → ∀ s', OrderBooks c s' → Beside s₁.data s'.data →
      Q () s')
    (he : ∀ e s', Fails c e → ((∀ t w, 0 ≤ c .inTransit t w) → ¬ (Moves o action →
      ∀ r ∈ rows, r.openQty ≠ 0 → Stockable s₁.data r.skuId o.warehouseId)) → E e s') :
    (moveStock o action rows).wp Q E s₁ := by
  obtain ⟨-, -, hto, hfrom, -, -, -, -⟩ := Accepted.of_ok hstatus
  -- nothing is moved if nothing is brought
  have hnone : (∀ r ∈ rows, ((if status ∈ openForReceipt then r.openQty else 0) -
      if o.status ∈ openForReceipt then r.openQty else 0) = 0) → OrderBooks c s₁ := by
    intro hzero
    refine h.congr fun b t w => ?_
    rw [total_eq_zero, sub_zero]
    intro r hr
    rw [hzero r hr]
    unfold postedTo
    cases b <;> simp [Delta.bucket]
  unfold moveStock
  cases action with
  | approve =>
    have hin : status ∈ openForReceipt := hto.mpr rfl
    have hout : o.status ∉ openForReceipt := fun hopen => by simpa using hfrom.mp hopen
    refine OrderBooks.postEach (o := o) PurchaseOrderItem.quantity _ rows (fun _ _ => rfl)
      (.inl fun r hr => ?_) (h.congr fun b t w => ?_) (fun hall => hok fun _ r hr hne => ?_)
      fun e s' hfail hno => he e s' hfail fun hc hall => hno hc fun r hr hne => ?_
    · rw [← hfresh r hr rfl]
      exact openQty_nonneg _ _ _
    · rw [total_congr]
      intro r hr
      rw [if_pos hin, if_neg hout, sub_zero, hfresh r hr rfl]
    · exact hall r hr (hfresh r hr rfl ▸ hne)
    · exact hall (.inl rfl) r hr ((hfresh r hr rfl).symm ▸ hne)
  | cancel =>
    have hout : status ∉ openForReceipt := fun hopen => by simpa using hto.mp hopen
    have hiff : o.status ∈ openForReceipt ↔ o.status = .approved := by simpa using hfrom
    simp only
    split_ifs with happroved
    · refine OrderBooks.postEach (o := o) (fun r => -r.openQty) _ rows (fun r _ => ?_)
        (.inr fun r _ => ?_) (h.congr fun b t w => ?_)
        (fun hall => hok fun _ r hr hne => hall r hr (neg_ne_zero.mpr hne))
        fun e s' hfail hno => he e s' hfail fun hc hall => hno hc fun r hr hne =>
          hall (.inr ⟨rfl, happroved⟩) r hr (neg_ne_zero.mp hne)
      · split_ifs with hzero
        · rfl
        · simp only [not_not] at hzero
          simp [moveInTransit, postStock, hzero]
      · exact neg_nonpos.mpr (openQty_nonneg _ _ _)
      · rw [total_congr]
        intro r _
        rw [if_neg hout, if_pos (hiff.mpr happroved), zero_sub]
    · refine hok (fun hmoves => ?_) s₁ (hnone fun r _ => ?_) rfl
      · exact absurd hmoves (by simp [Moves, happroved])
      · rw [if_neg hout, if_neg (fun hopen => happroved (hiff.mp hopen)), sub_zero]
  | submit =>
    have hout : status ∉ openForReceipt := fun hopen => by simpa using hto.mp hopen
    have hout' : o.status ∉ openForReceipt := fun hopen => by simpa using hfrom.mp hopen
    exact hok (fun hmoves => absurd hmoves (by simp [Moves])) s₁
      (hnone fun r _ => by rw [if_neg hout, if_neg hout', sub_zero]) rfl
  | reject =>
    have hout : status ∉ openForReceipt := fun hopen => by simpa using hto.mp hopen
    have hout' : o.status ∉ openForReceipt := fun hopen => by simpa using hfrom.mp hopen
    exact hok (fun hmoves => absurd hmoves (by simp [Moves])) s₁
      (hnone fun r _ => by rw [if_neg hout, if_neg hout', sub_zero]) rfl
  | close =>
    exact hok (fun hmoves => absurd hmoves (by simp [Moves])) s₁
      (hnone fun r hr => by simp [hclosed rfl r hr]) rfl

/-- The action can be taken on the order. -/
structure Movable (d : Db) (o : PurchaseOrder) (action : PurchaseAction) : Prop where
  rule : (assertTransition o.status action
    (total PurchaseOrderItem.receivedQty (itemsOf d o.id))).isOk
  closes : action = .close → ∀ r ∈ itemsOf d o.id, r.openQty = 0
  submits : action = .submit → itemsOf d o.id ≠ []
  goods : Moves o action → ∀ r ∈ itemsOf d o.id, r.openQty ≠ 0 →
    Stockable d r.skuId o.warehouseId
  shown : Showable d o

/-- An order is moved on if the action can be taken. -/
theorem wp_transition {orderId : ℕ} {action : PurchaseAction} {actorId : ℕ} {visible : Bool}
    (hb : OrderBooks c s) (hsound : Sound s.data) {Q : PurchaseOrderView → WorkState → Prop}
    {E : ServiceError → WorkState → Prop}
    (hok : ∀ o ∈ s.data.purchaseOrders, o.id = orderId → Movable s.data o action →
      ∀ status view s', Accepted o.status action status → Left c s.data s' →
      { o with status, updatedBy := actorId } ∈ s'.data.purchaseOrders → Q view s')
    (he : ∀ e s', Fails c e → ((∀ t w, 0 ≤ c .inTransit t w) →
      ∀ o ∈ s.data.purchaseOrders, o.id = orderId → ¬ Movable s.data o action) → E e s') :
    (transition orderId action actorId visible).wp Q E s := by
  unfold transition
  rw [bind_eq, wp_bind]
  refine wp_getOrder (fun o ho hid => ?_) fun hno =>
    he _ s (.of_refused .notFound) fun _ o ho hid => absurd hid (hno o ho)
  -- there is one order with the id
  have hfail : ∀ e s', Fails c e → ((∀ t w, 0 ≤ c .inTransit t w) →
      ¬ Movable s.data o action) → E e s' := by
    intro e s' hfail hno
    refine he e s' hfail fun hc x hx hxid => ?_
    rw [hb.tables.orders.eq_of_key_eq hx ho (hxid.trans hid.symm)]
    exact hno hc
  have hlaw := hsound.lawful o ho
  rw [bind_eq, wp_bind, listForOrder, wp_select]
  split_ifs with hclose hsubmit
  · obtain ⟨hact, r, hr, hne⟩ := hclose
    exact hfail _ _ (.of_refused .purchaseState) fun _ h => hne (h.closes hact r hr)
  · exact hfail _ _ (.of_refused .paramInvalid) fun _ h => h.submits hsubmit.1 hsubmit.2
  rw [bind_eq, wp_bind]
  refine wp_raiseRule (fun status hstatus => ?_) fun e herror =>
    hfail _ _ (.of_refused (refused_ruleError e)) fun _ h => ?_
  swap
  · have hrule := h.rule
    rw [herror] at hrule
    cases hrule
  have haccepted := Accepted.of_ok hstatus
  let f (x : PurchaseOrder) : PurchaseOrder := { x with status, updatedBy := actorId }
  rw [bind_eq, wp_bind, saveOrder, wp_update, bind_eq, wp_bind]
  have hb₁ := hb.alter_order ho (f := f) fun _ => rfl
  -- the order has moved on, and its goods will follow
  refine wp_moveStock (c := c) hstatus (fun r hr happrove => ?_) (fun hcl r hr => ?_)
    (hb₁.congr fun b t w => ?_) (fun hgoods s₂ hb₂ hbeside => ?_) fun e s' hf hno =>
      hfail e s' hf fun hc h => hno hc h.goods
  · subst happrove
    have hr' := mem_itemsOf.mp hr
    have hzero := hlaw.untouched (haccepted.untouched (by simp)) r hr'.1 hr'.2
    rw [PurchaseOrderItem.openQty, hzero.1, hzero.2, openQty_fresh (hlaw.counts r hr'.1 hr'.2).1]
  · by_contra hne
    exact hclose ⟨hcl, r, hr, hne⟩
  · rw [← weight_status o]
    rfl
  · have hgo : GoneOn s.data s₂.data o (f o) := by
      refine .of_alter hb.tables.orders ho haccepted.live ?_ ?_
      · exact ⟨rfl, rfl, rfl, rfl, rfl, .inr haccepted.next⟩
      · rw [hbeside]
    have hitems : s₂.data.purchaseItems = s.data.purchaseItems := by rw [hbeside]
    have hreceipts : s₂.data.receipts = s.data.receipts := by rw [hbeside]
    have ht : Touched o.id SameReceipts (NewLine s.data) s.data.purchaseItems
        s₂.data.purchaseItems := hitems ▸ .refl SameReceipts.refl
    have hsame : Showable s₂.data (f o) ↔ Showable s.data o := by
      unfold Showable SupplierKept WarehouseKept
      rw [hbeside]
    refine wp_orderView (fun hshown v => hok o ho hid ⟨?_, fun hact r hr => ?_, fun hact hnil => ?_,
      hgoods, hsame.mp hshown⟩ status v s₂ haccepted ⟨hb₂, .of_goneOn hb.tables.orders hgo ht
        (fun r r' h => ?_) (hreceipts ▸ List.prefix_refl _), hsound.of_edited hgo ht hreceipts ?_,
        by unfold Framed; rw [hbeside]⟩
      ((hgo.rows (f o)).mpr (.inl rfl))) fun hno => hfail _ _ (.of_refused .notFound) fun _ h =>
        hno (hsame.mpr h.shown)
    · rw [hstatus]
      rfl
    · by_contra hne
      exact hclose ⟨hact, r, hr, hne⟩
    · exact hsubmit ⟨hact, hnil⟩
    · exact ⟨h.1.ge, h.2.1.ge⟩
    · refine ⟨?_, ?_, fun hst => ?_, fun hst => ?_, fun hst => ?_⟩
      · rw [hitems]
        exact hlaw.lines
      · rw [hitems]
        exact hlaw.counts
      · rw [hitems]
        refine hlaw.untouched (haccepted.untouched fun hact => ?_)
        have hcl := haccepted.closes.mpr hact
        simp only [f, List.mem_cons, List.not_mem_nil, or_false] at hst hcl
        rcases hcl with hcl | hcl <;> simp [hcl] at hst
      · exact absurd hst haccepted.whole
      · rw [hitems]
        intro r hr hown
        by_contra hne
        exact hclose ⟨haccepted.closes.mp hst, r, mem_itemsOf.mpr ⟨hr, hown⟩, hne⟩

end transitions

/-! ### Drafting an order -/

section drafts

variable {c : Bucket → ℕ → ℕ → ℤ} {s : WorkState} {E : ServiceError → WorkState → Prop}

lemma wp_addItem {item : PurchaseOrderItem} {Q : Unit → WorkState → Prop}
    (hnew : ∀ x ∈ s.data.purchaseItems,
      (x.purchaseOrderId, x.skuId) ≠ (item.purchaseOrderId, item.skuId))
    (h : Q () { s with data := { s.data with
      purchaseItems := s.data.purchaseItems ++ [item] } }) : (addItem item).wp Q E s := by
  have hfree : (s.data.purchaseItems.any fun r =>
      r.purchaseOrderId = item.purchaseOrderId && r.skuId = item.skuId) = false := by
    rw [List.any_eq_false]
    intro x hx htaken
    simp only [Bool.and_eq_true, decide_eq_true_eq] at htaken
    exact hnew x hx (by rw [htaken.1, htaken.2])
  unfold addItem
  simp only [bind_eq, wp_bind, wp_update, hfree, Bool.false_eq_true, if_false, pure_eq, wp_ret]
  exact h

/-- Nobody has the key. -/
def KeyFree (d : Db) (key : Option String) : Prop :=
  key = none ∨ ∀ x ∈ d.purchaseOrders, x.idempotencyKey ≠ key

/-- What the database says of a second order under a key. -/
def keyTaken : ServiceError := .integrity "uq_purchase_order_idempotency"

lemma wp_addOrder {order : PurchaseOrder} {Q : Unit → WorkState → Prop}
    (hok : KeyFree s.data order.idempotencyKey → Q () { s with data := { s.data with
      purchaseOrders := s.data.purchaseOrders ++ [order] } })
    (he : ¬ KeyFree s.data order.idempotencyKey → E keyTaken s) :
    (addOrder order).wp Q E s := by
  have hfree : KeyFree s.data order.idempotencyKey ↔ (order.idempotencyKey.isSome &&
      s.data.purchaseOrders.any fun o => o.idempotencyKey = order.idempotencyKey) = false := by
    unfold KeyFree
    cases order.idempotencyKey <;> simp
  unfold addOrder
  simp only [bind_eq, wp_bind, wp_update, pure_eq]
  by_cases hkey : KeyFree s.data order.idempotencyKey
  · simp only [hfree.mp hkey, Bool.false_eq_true, if_false, wp_ret]
    exact hok hkey
  · rw [hfree, Bool.not_eq_false] at hkey
    simp only [hkey, if_true]
    exact he (by simp [hfree, hkey])

/-- Orders and their lines have been added. -/
structure Added (d d' : Db) (orders : List PurchaseOrder) (added : List PurchaseOrderItem) :
    Prop where
  data : d' = { d with
    purchaseOrders := d.purchaseOrders ++ orders
    purchaseItems := d.purchaseItems ++ added }
  fresh : ∀ order ∈ orders, ∀ o ∈ d.purchaseOrders, o.id ≠ order.id
  draft : ∀ order ∈ orders, order.status = .draft
  lines : ∀ r ∈ added, (∃ order ∈ orders, r.purchaseOrderId = order.id) ∧ NewLine d r

namespace Added

variable {d d' d'' : Db} {orders orders' : List PurchaseOrder}
  {added added' : List PurchaseOrderItem}

lemma mem_items (h : Added d d' orders added) {r : PurchaseOrderItem} :
    r ∈ d'.purchaseItems ↔ r ∈ d.purchaseItems ∨ r ∈ added := by
  rw [h.data]
  exact List.mem_append

lemma mem_orders (h : Added d d' orders added) {o : PurchaseOrder} :
    o ∈ d'.purchaseOrders ↔ o ∈ d.purchaseOrders ∨ o ∈ orders := by
  rw [h.data]
  exact List.mem_append

lemma trans (h : Added d d' orders added) (h' : Added d' d'' orders' added') :
    Added d d'' (orders ++ orders') (added ++ added') := by
  refine ⟨?_, fun x hx o ho => ?_, fun x hx => ?_, fun r hr => ?_⟩
  · rw [h'.data, h.data]
    simp only [List.append_assoc]
  · rcases List.mem_append.mp hx with hx | hx
    · exact h.fresh x hx o ho
    · exact h'.fresh x hx o (h.mem_orders.mpr (.inl ho))
  · rcases List.mem_append.mp hx with hx | hx
    · exact h.draft x hx
    · exact h'.draft x hx
  · rcases List.mem_append.mp hr with hr | hr
    · obtain ⟨⟨x, hx, hown⟩, hnew⟩ := h.lines r hr
      exact ⟨⟨x, List.mem_append_left _ hx, hown⟩, hnew⟩
    · obtain ⟨⟨x, hx, hown⟩, hnew⟩ := h'.lines r hr
      exact ⟨⟨x, List.mem_append_right _ hx, hown⟩, hnew.1, fun y hy =>
        hnew.2 y (h.mem_items.mpr (.inl hy))⟩

lemma mem_items_of_old (h : Added d d' orders added) {o : PurchaseOrder}
    (ho : o ∈ d.purchaseOrders) {r : PurchaseOrderItem} (hr : r.purchaseOrderId = o.id) :
    r ∈ d'.purchaseItems ↔ r ∈ d.purchaseItems := by
  rw [h.mem_items, or_iff_left_iff_imp]
  intro hadded
  obtain ⟨order, horder, hown⟩ := (h.lines r hadded).1
  exact absurd (hr.symm.trans hown) (h.fresh order horder o ho)

lemma step (h : Added d d' orders added) : OrderStep d d' := by
  refine ⟨fun o ho => ⟨o, h.mem_orders.mpr (.inl ho), .refl o⟩, fun r hr => ?_, fun o ho _ => ?_,
    by rw [h.data]⟩
  · exact ⟨r, h.mem_items.mpr (.inl hr), rfl, rfl, rfl, le_rfl, le_rfl⟩
  · exact ⟨h.mem_orders.mpr (.inl ho), fun r hr => h.mem_items_of_old ho hr⟩

lemma frame (h : Added d d' orders added) : Framed d d' := by
  unfold Framed
  rw [h.data]

lemma sound (h : Added d d' orders added) (hd : Ordered d) (hs : Sound d)
    (hne : ∀ order ∈ orders, ∃ r ∈ added, r.purchaseOrderId = order.id) : Sound d' := by
  have hreceipts : d'.receipts = d.receipts := by rw [h.data]
  have hzero : ∀ r ∈ added,
      notedReceived d.receipts r.id = 0 ∧ notedShort d.receipts r.id = 0 := by
    intro r hr
    refine noted_eq_zero fun x hx l hl heq => ?_
    obtain ⟨y, hy, hyid⟩ := hs.noted x hx l hl
    exact (h.lines r hr).2.2 y hy (hyid.trans heq)
  -- the lines of a new order are among those that were added
  have hown : ∀ order ∈ orders, ∀ r ∈ d'.purchaseItems, r.purchaseOrderId = order.id →
      Untouched r := by
    intro order horder r hr hro
    rcases h.mem_items.mp hr with hold | hadded
    · obtain ⟨o, ho, hoid⟩ := hd.owned r hold
      exact absurd (hoid.trans hro) (h.fresh order horder o ho)
    · exact (h.lines r hadded).2.1
  refine ⟨fun o ho => ?_, fun x hx l hl => ?_, fun r hr => ?_, fun r hr => ?_⟩
  · rcases h.mem_orders.mp ho with hold | hnew
    · exact (hs.lawful o hold).of_others fun r hr => h.mem_items_of_old hold hr
    · have hdraft := h.draft o hnew
      refine ⟨?_, fun r hr hro => ?_, fun _ r hr hro => (hown o hnew r hr hro).2, fun hst => ?_,
        fun hst => ?_⟩
      · obtain ⟨r, hr, hro⟩ := hne o hnew
        exact ⟨r, h.mem_items.mpr (.inr hr), hro⟩
      · obtain ⟨hpos, hreceived, hshort⟩ := hown o hnew r hr hro
        exact ⟨hpos, hreceived.ge, hshort.ge⟩
      · simp [hdraft] at hst
      · simp [hdraft] at hst
  · rw [hreceipts] at hx
    obtain ⟨r, hr, hid⟩ := hs.noted x hx l hl
    exact ⟨r, h.mem_items.mpr (.inl hr), hid⟩
  · rw [hreceipts]
    rcases h.mem_items.mp hr with hold | hadded
    · exact hs.received r hold
    · rw [(hzero r hadded).1, (h.lines r hadded).2.1.2.1]
  · rw [hreceipts]
    rcases h.mem_items.mp hr with hold | hadded
    · exact hs.short r hold
    · rw [(hzero r hadded).2, (h.lines r hadded).2.1.2.2]

end Added

/-- The lines of a draft have brought nothing. -/
lemma brought_draft {o : PurchaseOrder} {r : PurchaseOrderItem} (ho : o.status = .draft)
    (hr : r.receivedQty = 0) (b : Bucket) (t w : ℕ) : r.brought o b t w = 0 := by
  unfold PurchaseOrderItem.brought
  split
  · cases b <;> simp [PurchaseOrderItem.delta, Delta.bucket, ho, hr, openForReceipt]
  · rfl

lemma wp_forEach_getSku {lines : List PurchaseLineWrite} {Q : Unit → WorkState → Prop}
    (hok : (∀ line ∈ lines, SkuKept s.data line.skuId) → Q () s)
    (he : (¬ ∀ line ∈ lines, SkuKept s.data line.skuId) → E .notFound s) :
    (Prog.forEach lines fun line => (getSku line.skuId).bind fun _ => .ret ()).wp Q E s := by
  induction lines with
  | nil => exact hok (by simp)
  | cons line rest ih =>
    rw [Prog.forEach, wp_bind, wp_bind]
    refine wp_getSku (fun _ hsku => ih (fun hall => hok ?_) fun hno => he ?_) fun hno => he ?_
    · exact List.forall_mem_cons.mpr ⟨hsku, hall⟩
    · exact fun hall => hno (List.forall_mem_cons.mp hall).2
    · exact fun hall => hno (List.forall_mem_cons.mp hall).1

/-- The order and its lines are as they were asked for. -/
structure Drafted (payload : PurchaseOrderCreate) (key : Option String) (order : PurchaseOrder)
    (added : List PurchaseOrderItem) : Prop where
  supplierId : order.supplierId = payload.supplierId
  warehouseId : order.warehouseId = payload.warehouseId
  idempotencyKey : order.idempotencyKey = key
  lines : added.map (fun r => (r.skuId, r.quantity)) =
    payload.lines.map fun line => (line.skuId, line.quantity)

/-- A draft is added with its lines, if it can be ordered and nobody has its key. -/
theorem wp_insertOrder {payload : PurchaseOrderCreate} {actorId : ℕ} {key : Option String}
    {Q : PurchaseOrder → WorkState → Prop} (hb : OrderBooks c s) (hsound : Sound s.data)
    (hok : Orderable s.data payload → KeyFree s.data key → ∀ order added s', Left c s.data s' →
      Added s.data s'.data [order] added → Drafted payload key order added → Q order s')
    (he : ∀ e s', Refused e → ¬ Orderable s.data payload → E e s')
    (htaken : ¬ KeyFree s.data key → ∀ s', E keyTaken s') :
    (insertOrder payload actorId key).wp Q E s := by
  unfold insertOrder
  rw [bind_eq, wp_bind]
  refine wp_getSupplier (fun _ hsupplier => ?_) fun hno => he _ _ .notFound fun h => hno h.supplier
  rw [bind_eq, wp_bind]
  refine wp_destination (fun warehouse hwarehouse hdestined => ?_) fun e href hno =>
    he e s href fun h => hno h.warehouse
  by_cases hnodup : (payload.lines.map PurchaseLineWrite.skuId).Nodup
  swap
  · rw [if_pos hnodup]
    exact he _ _ .paramInvalid fun h => hnodup h.distinct
  rw [if_neg (not_not.mpr hnodup)]
  simp only [bind_eq, pure_eq]
  rw [wp_bind]
  refine wp_forEach_getSku (fun hskusKept => ?_) fun hno => he _ _ .notFound fun h => hno h.skus
  rw [wp_bind, wp_nextSnowflakeId, wp_bind]
  generalize hfields : PurchaseOrder.mk _ _ _ _ _ _ _ _ _ _ = order
  have hid : order.id = s.session.ids 0 := by rw [← hfields]
  have hdraft : order.status = .draft := by rw [← hfields]
  have hkeyOf : order.idempotencyKey = key := by rw [← hfields]
  have hsupplierOf : order.supplierId = payload.supplierId := by rw [← hfields]
  have hwarehouseOf : order.warehouseId = payload.warehouseId := by rw [← hfields, hwarehouse]
  refine wp_addOrder (fun hfree => ?_) fun hno => htaken (hkeyOf ▸ hno) _
  rw [hkeyOf] at hfree
  have hfresh : ∀ o ∈ s.data.purchaseOrders, o.id ≠ order.id := hid ▸ hb.unused.orders 0
  rw [wp_bind]
  -- the lines so far, and those that are left
  let I (rest : List PurchaseLineWrite) (s' : WorkState) : Prop := ∃ added,
    Added s.data s'.data [order] added ∧ (∀ r ∈ added, r.purchaseOrderId = order.id) ∧
      OrderBooks c s' ∧
      added.map (fun r => (r.skuId, r.quantity)) ++ rest.map (fun l => (l.skuId, l.quantity)) =
        payload.lines.map fun l => (l.skuId, l.quantity)
  have hstart : I payload.lines
      { s with
        session := { s.session with ids := fun n => s.session.ids (n + 1) }
        data := { s.data with purchaseOrders := s.data.purchaseOrders ++ [order] } } :=
    ⟨[], ⟨by simp, by simpa using hfresh, by simpa using hdraft, by simp⟩, by simp,
      hb.append_order hid, by simp⟩
  refine wp_mono (wp_forEach (I := I) (E := fun _ _ => False) hstart fun line rest s₁ h => ?_)
    (fun _ s' h => ?_) fun _ _ h => h.elim
  · obtain ⟨added, hadded, hown, hb₁, hpairs⟩ := h
    have hskus : added.map PurchaseOrderItem.skuId ++
        (line :: rest).map PurchaseLineWrite.skuId = payload.lines.map PurchaseLineWrite.skuId := by
      have := congrArg (List.map Prod.fst) hpairs
      simpa [Function.comp_def] using this
    rw [wp_bind, wp_nextSnowflakeId]
    have horder : order ∈ s₁.data.purchaseOrders := hadded.mem_orders.mpr (.inr (by simp))
    let item := line.item (s₁.session.ids 0) (s.session.ids 0) payload.currency actorId
    have hunused : ∀ x ∈ s₁.data.purchaseItems, x.id ≠ item.id := hb₁.unused.items 0
    have hsku : ∀ x ∈ s₁.data.purchaseItems,
        (x.purchaseOrderId, x.skuId) ≠ (item.purchaseOrderId, item.skuId) := by
      intro x hx heq
      obtain ⟨hxo, hsame⟩ := Prod.mk.inj heq
      rcases hadded.mem_items.mp hx with hold | hnew
      · obtain ⟨o, ho, hoid⟩ := hb.tables.owned x hold
        exact hfresh o ho ((hoid.trans hxo).trans hid.symm)
      · have hdistinct := hskus.symm ▸ hnodup
        rw [List.nodup_append] at hdistinct
        exact hdistinct.2.2 _ (List.mem_map_of_mem hnew) _ (List.mem_cons_self ..) hsame
    have hb₂ := (hb₁.append_item horder (r := item) hid rfl hsku).congr (g := c) fun b t w => by
      rw [brought_draft hdraft rfl, sub_zero]
    refine wp_addItem hsku ⟨added ++ [item], ⟨?_, hadded.fresh, hadded.draft, fun r hr => ?_⟩,
      fun r hr => ?_, hb₂, ?_⟩
    · rw [hadded.data, List.append_assoc]
    · rcases List.mem_append.mp hr with hr | hr
      · exact hadded.lines r hr
      · rw [List.mem_singleton.mp hr]
        refine ⟨⟨order, by simp, hid.symm⟩, ⟨line.quantity_pos, rfl, rfl⟩, fun x hx => ?_⟩
        exact hunused x (hadded.mem_items.mpr (.inl hx))
    · rcases List.mem_append.mp hr with hr | hr
      · exact hown r hr
      · rw [List.mem_singleton.mp hr]
        exact hid.symm
    · rw [List.map_append, List.append_assoc]
      exact hpairs
  · obtain ⟨added, hadded, hown, hb', hpairs⟩ := h
    have hlines : added.map (fun r => (r.skuId, r.quantity)) =
        payload.lines.map fun l => (l.skuId, l.quantity) := by simpa using hpairs
    have hne : added ≠ [] := by
      rintro rfl
      exact payload.lines_ne_nil (by simpa using hlines.symm)
    have hline : ∃ r ∈ added, r.purchaseOrderId = order.id := by
      obtain ⟨r, hr⟩ := List.exists_mem_of_ne_nil added hne
      exact ⟨r, hr, hown r hr⟩
    exact hok ⟨hsupplier, hdestined, hnodup, hskusKept⟩ hfree order added s'
      ⟨hb', hadded.step, hadded.sound hb.tables hsound (by simpa using hline), hadded.frame⟩ hadded
      ⟨hsupplierOf, hwarehouseOf, hkeyOf, hlines⟩

/-- An order is created, or was created before with the same key. -/
theorem wp_createOrder {payload : PurchaseOrderCreate} {actorId : ℕ} {key : Option String}
    {visible : Bool} (hb : OrderBooks c s) (hsound : Sound s.data) :
    (createOrder payload actorId key visible).wp
      (fun _ s' => Left c s.data s' ∧ ∀ k, Cleaned key (some k) →
        ∃ o ∈ s'.data.purchaseOrders, o.idempotencyKey = some k)
      (fun e _ => Fails c e) s := by
  have hmissing : Fails c .notFound := .of_refused .notFound
  unfold createOrder
  rw [bind_eq, wp_bind]
  refine wp_cleanKey (fun cleaned hcleaned => ?_) fun e he _ => .of_refused he
  have hkeyOf : ∀ k, Cleaned key (some k) → cleaned = some k := fun k hk =>
    hcleaned.stripped.trans hk.stripped.symm
  rw [bind_eq, wp_bind, wp_select]
  cases hfind : (if cleaned.isSome then
      s.data.purchaseOrders.find? fun o => o.idempotencyKey = cleaned else none) with
  | some existing =>
    refine wp_orderView (fun _ _ => ⟨⟨hb, .refl _, hsound, rfl⟩, fun k hk => ?_⟩) fun _ => hmissing
    rw [hkeyOf k hk, Option.isSome_some, if_pos rfl] at hfind
    exact ⟨existing, List.mem_of_find?_eq_some hfind, by simpa using List.find?_some hfind⟩
  | none =>
    have hfree : KeyFree s.data cleaned := by
      cases cleaned with
      | none => exact .inl rfl
      | some key => exact .inr (by simpa using hfind)
    simp only [bind_eq]
    rw [wp_bind]
    refine wp_insertOrder hb hsound (fun _ _ order _ s' hleft hadded hdrafted =>
      wp_orderView (fun _ _ => ⟨hleft, fun k hk => ?_⟩) fun _ => hmissing)
      (fun e _ he _ => .of_refused he) fun hno => absurd hfree hno
    exact ⟨order, hadded.mem_orders.mpr (.inr (by simp)),
      hdrafted.idempotencyKey.trans (hkeyOf k hk)⟩

end drafts

/-! ### Editing -/

section edits

variable {c : Bucket → ℕ → ℕ → ℤ} {s : WorkState} {o : PurchaseOrder}

/-- The row of an edited line. -/
def edited (line : PurchaseLineWrite) (actorId : ℕ) (r : PurchaseOrderItem) : PurchaseOrderItem :=
  { r with
    quantity := line.quantity, unitPrice := LandedCost.quantize line.unitPrice
    taxIncluded := line.taxIncluded, expectedOn := line.expectedOn, updatedBy := actorId }

/-- How far an edit of `o` has come: the lines of the SKUs that were not seen are as they were. -/
structure Editing (c : Bucket → ℕ → ℕ → ℤ) (d : Db) (o : PurchaseOrder) (seen : List ℕ)
    (s : WorkState) : Prop where
  books : OrderBooks c s
  touched : Touched o.id SameReceipts (NewLine d) d.purchaseItems s.data.purchaseItems
  orders : s.data.purchaseOrders = d.purchaseOrders
  receipts : s.data.receipts = d.receipts
  frame : Framed d s.data
  unseen : ∀ r, r.purchaseOrderId = o.id → r.skuId ∉ seen →
    (r ∈ s.data.purchaseItems ↔ r ∈ d.purchaseItems)

/-- One line of an edit. -/
lemma wp_applyLineEdit {d : Db} {seen : List ℕ} {line : PurchaseLineWrite} {actorId : ℕ}
    (h : Editing c d o seen s) (ho : o ∈ d.purchaseOrders)
    (hseen : line.skuId ∉ seen) :
    (applyLineEdit o actorId (itemsOf d o.id) line).wp
      (fun _ s' => Editing c d o (line.skuId :: seen) s') (fun e _ => Fails c e) s := by
  have ho' : o ∈ s.data.purchaseOrders := h.orders ▸ ho
  unfold applyLineEdit
  cases hfind : (itemsOf d o.id).find? fun row => row.skuId = line.skuId with
  | none =>
    have hnone : ∀ r ∈ s.data.purchaseItems, r.purchaseOrderId = o.id → r.skuId ≠ line.skuId := by
      intro r hr hown heq
      have hold := (h.unseen r hown (heq ▸ hseen)).mp hr
      have := List.find?_eq_none.mp hfind r (mem_itemsOf.mpr ⟨hold, hown⟩)
      simp [heq] at this
    simp only [bind_eq]
    rw [wp_bind]
    refine wp_getSku (fun _ _ => ?_) fun _ => .of_refused .notFound
    -- the row is added once its goods are on their way
    have hadd : ∀ s₁, OrderBooks (fun b t w => c b t w +
          (line.item (s₁.session.ids 0) o.id (Text.strip o.currency) actorId).brought o b t w) s₁ →
        Beside s.data s₁.data →
        (nextSnowflakeId.bind fun itemId => addItem
          (line.item itemId o.id (Text.strip o.currency) actorId)).wp
          (fun _ s' => Editing c d o (line.skuId :: seen) s') (fun e _ => Fails c e) s₁ := by
      intro s₁ hb₁ hbeside
      have hitems : s₁.data.purchaseItems = s.data.purchaseItems := by rw [hbeside]
      have horders : s₁.data.purchaseOrders = d.purchaseOrders := by rw [hbeside, h.orders]
      have hreceipts : s₁.data.receipts = d.receipts := by rw [hbeside, h.receipts]
      set item := line.item (s₁.session.ids 0) o.id (Text.strip o.currency) actorId with hitem
      have hsku : ∀ x ∈ s₁.data.purchaseItems,
          (x.purchaseOrderId, x.skuId) ≠ (item.purchaseOrderId, item.skuId) := by
        intro x hx heq
        obtain ⟨hown, hsame⟩ := Prod.mk.inj heq
        exact hnone x (hitems ▸ hx) hown hsame
      have hnew : NewLine d item := by
        refine ⟨⟨line.quantity_pos, rfl, rfl⟩, fun x hx => ?_⟩
        have hunused := hb₁.unused.items 0
        rw [hitems] at hunused
        by_cases hown : x.purchaseOrderId = o.id
        · obtain ⟨x', hx', hid, -⟩ := h.touched.kept x hx hown
          exact hid ▸ hunused x' hx'
        · exact hunused x ((h.touched.others x hown).mpr hx)
      rw [wp_bind, wp_nextSnowflakeId]
      have hb₂ := (hb₁.append_item (horders ▸ ho) (r := item) rfl rfl hsku).congr (g := c)
        fun b t w => by ring
      refine wp_addItem hsku ⟨hb₂, ?_, horders, hreceipts, ?_, fun r hown hr => ?_⟩
      · rw [hitems]
        exact h.touched.trans (.append SameReceipts.refl rfl hnew)
          (fun _ _ _ h₁ _ h₂ => h₁.trans h₂) fun _ _ => NewLine.of_same
      · have hframe := h.frame
        unfold Framed at hframe ⊢
        rw [hbeside, hframe]
      · rw [List.mem_cons, not_or] at hr
        rw [hitems, List.mem_append, List.mem_singleton, h.unseen r hown hr.2, or_iff_left_iff_imp]
        rintro rfl
        exact absurd rfl hr.1
    split_ifs with hopen
    · rw [wp_bind, moveInTransit]
      refine h.books.post (g := c) le_rfl (fun _ => ?_) (fun _ s₁ hb₁ hbeside => ?_)
        fun e _ hfail _ => hfail
      · exact add_nonneg (balanceAt_inTransit_nonneg h.books.ready.shelf _ _) line.quantity_pos.le
      · refine hadd s₁ (hb₁.congr fun b t w => ?_) hbeside
        congr 1
        unfold postedTo PurchaseOrderItem.brought PurchaseOrderItem.delta
        rw [if_pos hopen, PurchaseOrderItem.openQty]
        cases b <;> simp [Delta.bucket, PurchaseLineWrite.item, openQty_fresh line.quantity_pos]
    · refine hadd s (h.books.congr fun b t w => ?_) rfl
      unfold PurchaseOrderItem.brought PurchaseOrderItem.delta
      rw [if_neg hopen]
      cases b <;> simp [Delta.bucket, PurchaseLineWrite.item]
  | some item =>
    obtain ⟨hold, hown⟩ := mem_itemsOf.mp (List.mem_of_find?_eq_some hfind)
    have hsku : item.skuId = line.skuId := by simpa using List.find?_some hfind
    have hitem : item ∈ s.data.purchaseItems := (h.unseen item hown (hsku ▸ hseen)).mpr hold
    simp only [bind_eq]
    rw [wp_bind]
    refine wp_raiseRule (fun delta hdelta => ?_) fun e _ => .of_refused (refused_ruleError e)
    obtain ⟨-, -, -, hdelta⟩ := transitDelta_ok hdelta
    -- the line is changed once its goods have been moved
    have hsave : ∀ s₁, OrderBooks (fun b t w => c b t w +
          postedTo item.skuId o.warehouseId { inTransit := delta } b t w) s₁ →
        Beside s.data s₁.data →
        (saveItem item.id (edited line actorId)).wp
          (fun _ s' => Editing c d o (line.skuId :: seen) s') (fun e _ => Fails c e) s₁ := by
      intro s₁ hb₁ hbeside
      have hitems : s₁.data.purchaseItems = s.data.purchaseItems := by rw [hbeside]
      have horders : s₁.data.purchaseOrders = d.purchaseOrders := by rw [hbeside, h.orders]
      have hreceipts : s₁.data.receipts = d.receipts := by rw [hbeside, h.receipts]
      have hmem : item ∈ s₁.data.purchaseItems := hitems ▸ hitem
      have hb₂ := (hb₁.alter_item (horders ▸ ho) hmem hown.symm (f := edited line actorId)
        (fun _ => rfl) (fun _ => rfl) fun _ => rfl).congr (g := c) fun b t w => by
          have hbrought : (edited line actorId item).brought o b t w - item.brought o b t w =
              postedTo item.skuId o.warehouseId { inTransit := delta } b t w := by
            rw [brought_sub (r := item) (x := edited line actorId item) rfl, hdelta]
            simp [edited, PurchaseOrderItem.openQty]
          rw [hbrought]
          ring
      unfold saveItem
      rw [wp_update]
      refine ⟨hb₂, ?_, horders, hreceipts, ?_, fun r hro hr => ?_⟩
      · have hone : Touched o.id SameReceipts (NewLine d) s₁.data.purchaseItems
            (alter PurchaseOrderItem.id item.id (edited line actorId) s₁.data.purchaseItems) :=
          .alter hb₁.tables.items hmem hown (fun _ => rfl) (fun _ => rfl) (fun _ => rfl)
            ⟨rfl, rfl, fun _ => line.quantity_pos⟩ fun x _ _ => .refl x
        exact (hitems ▸ h.touched).trans hone (fun _ _ _ h₁ _ h₂ => h₁.trans h₂)
          fun _ _ => NewLine.of_same
      · have hframe := h.frame
        unfold Framed at hframe ⊢
        rw [hbeside, hframe]
      · rw [List.mem_cons, not_or] at hr
        rw [← h.unseen r hro hr.2, ← hitems]
        constructor
        · intro hmem'
          obtain ⟨y, hy, rfl⟩ := mem_alter.mp hmem'
          split_ifs at hr ⊢ with hyid
          · obtain rfl := hb₁.tables.items.eq_of_key_eq hy hmem hyid
            exact absurd hsku hr.1
          · exact hy
        · intro hmem'
          refine mem_alter_of_ne hmem' fun heq => hr.1 ?_
          rw [hb₁.tables.items.eq_of_key_eq hmem' hmem heq, hsku]
    split_ifs with hzero
    · rw [wp_bind, moveInTransit]
      refine h.books.post (g := c) le_rfl (fun hc => ?_) (fun _ s₁ hb₁ hbeside => ?_)
        fun e _ hfail _ => hfail
      · rw [hdelta]
        split_ifs with hopen
        · have hcovers := openQty_le_purchased ho' hitem hown.symm hopen
          have hbalance := h.books.balance .inTransit item.skuId o.warehouseId
          have hslack := hc item.skuId o.warehouseId
          have hafter := openQty_nonneg line.quantity item.receivedQty item.shortQty
          unfold PurchaseOrderItem.openQty at hcovers
          omega
        · rw [add_zero]
          exact balanceAt_inTransit_nonneg h.books.ready.shelf _ _
      · exact hsave s₁ hb₁ hbeside
    · rw [not_not] at hzero
      refine hsave s (h.books.congr fun b t w => ?_) rfl
      unfold postedTo
      rw [hzero]
      cases b <;> simp [Delta.bucket]

/-- All lines of an edit. -/
lemma wp_applyEach {d : Db} {actorId : ℕ} (ho : o ∈ d.purchaseOrders)
    (lines : List PurchaseLineWrite) (seen : List ℕ) (h : Editing c d o seen s) :
    (applyEach o actorId (itemsOf d o.id) seen lines).wp
      (fun _ s' => ∃ seen', Editing c d o seen' s') (fun e _ => Fails c e) s := by
  induction lines generalizing seen s with
  | nil => exact ⟨seen, h⟩
  | cons line rest ih =>
    rw [applyEach]
    split_ifs with hseen
    · exact .of_refused .paramInvalid
    · rw [bind_eq, wp_bind]
      exact wp_mono (wp_applyLineEdit h ho hseen) (fun _ s₁ h₁ => ih _ h₁) fun _ _ he => he

/-- An order is edited. -/
theorem wp_updateOrder {orderId : ℕ} {payload : PurchaseOrderPatch} {actorId : ℕ} {visible : Bool}
    (hb : OrderBooks c s) (hsound : Sound s.data) :
    (updateOrder orderId payload actorId visible).wp (fun _ s' => Left c s.data s')
      (fun e _ => Fails c e) s := by
  unfold updateOrder
  rw [bind_eq, wp_bind]
  refine wp_getOrder (fun o ho _ => ?_) fun _ => .of_refused .notFound
  rw [bind_eq, wp_bind]
  refine wp_raiseRule (fun _ hedit => ?_) fun e _ => .of_refused (refused_ruleError e)
  have hopen : o.status ∈ openForEdit := by
    unfold assertCanEdit at hedit
    split_ifs at hedit with hmem
    exact hmem
  -- the lines first, and then the order itself
  have hlines : ∀ (seen : List ℕ) (s₁ : WorkState),
      Editing c s.data o seen s₁ → ∀ f : PurchaseOrder → PurchaseOrder,
      (∀ x, (f x).id = x.id ∧ (f x).supplierId = x.supplierId ∧
        (f x).warehouseId = x.warehouseId ∧ (f x).currency = x.currency ∧
        (f x).idempotencyKey = x.idempotencyKey ∧ (f x).status = x.status) →
      ((saveOrder o.id f).bind fun _ => orderView (f o) visible).wp
        (fun _ s' => Left c s.data s') (fun e _ => Fails c e) s₁ := by
    intro seen s₁ h f hf
    have ho₁ : o ∈ s₁.data.purchaseOrders := h.orders ▸ ho
    unfold saveOrder
    rw [wp_bind, wp_update]
    have hb₂ := (h.books.alter_order ho₁ (f := f) fun x => (hf x).1).congr (g := c) fun b t w => by
      have hsame : ∀ r : PurchaseOrderItem, r.brought (f o) b t w = r.brought o b t w := fun r => by
        unfold PurchaseOrderItem.brought
        rw [(hf o).2.2.1, (hf o).2.2.2.2.2]
      simp only [weight, (hf o).1, hsame, sub_self, sub_zero]
    have hgo : GoneOn s.data { s₁.data with
        purchaseOrders := alter PurchaseOrder.id o.id f s₁.data.purchaseOrders } o (f o) := by
      refine .of_alter hb.tables.orders ho ?_ ?_ (by rw [h.orders])
      · intro hdone
        simp only [Done, openForEdit, List.mem_cons, List.not_mem_nil, or_false] at hdone hopen
        rcases hdone with hdone | hdone <;> simp [hdone] at hopen
      · obtain ⟨h₁, h₂, h₃, h₄, h₅, h₆⟩ := hf o
        exact ⟨h₁, h₂, h₃, h₄, h₅, .inl h₆⟩
    have hframe : Framed s.data { s₁.data with
        purchaseOrders := alter PurchaseOrder.id o.id f s₁.data.purchaseOrders } := by
      have hold := h.frame
      unfold Framed at hold ⊢
      rw [hold]
    refine wp_orderView (fun _ _ => ⟨hb₂, .of_goneOn hb.tables.orders hgo h.touched
      (fun r r' hsame => ⟨hsame.1.ge, hsame.2.1.ge⟩) (h.receipts ▸ List.prefix_refl _),
      hsound.of_edited hgo h.touched h.receipts
      ((hsound.lawful o ho).of_edited h.touched hopen (hf o).1 (hf o).2.2.2.2.2), hframe⟩)
      fun _ => .of_refused .notFound
  have hstart : Editing c s.data o [] s :=
    ⟨hb, .refl SameReceipts.refl, rfl, rfl, rfl, fun _ _ _ => Iff.rfl⟩
  have hfields : ∀ totalAmount : ℚ, ∀ x : PurchaseOrder,
      let f (x : PurchaseOrder) : PurchaseOrder :=
        { x with
          note := payload.note.getD x.note, expectedOn := payload.expectedOn.getD x.expectedOn
          totalAmount, updatedBy := actorId }
      (f x).id = x.id ∧ (f x).supplierId = x.supplierId ∧ (f x).warehouseId = x.warehouseId ∧
        (f x).currency = x.currency ∧ (f x).idempotencyKey = x.idempotencyKey ∧
        (f x).status = x.status := fun _ _ => ⟨rfl, rfl, rfl, rfl, rfl, rfl⟩
  cases payload.lines with
  | none => exact hlines [] s hstart _ (hfields _)
  | some lines =>
    simp only [applyLineEdits, bind_eq, pure_eq, listForOrder]
    rw [wp_bind, wp_bind, wp_select, wp_bind]
    refine wp_mono (wp_applyEach ho lines [] hstart) (fun _ s₁ h₁ => ?_) fun _ _ he => he
    obtain ⟨seen, h₁⟩ := h₁
    rw [wp_bind, wp_select]
    exact hlines seen s₁ h₁ _ (hfields _)

end edits

end Purchasing

end CrossPilot
