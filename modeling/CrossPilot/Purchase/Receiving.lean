import CrossPilot.Purchase.Requests

/-!
# Receiving goods

A receipt is accepted if its order can be received, its lines are different lines of the order,
each asks for something the order has (`Acceptable`), and what it names has not been deleted. Stock
is never a reason to refuse it, unless somebody else has taken goods in transit. What a receipt
notes is what the lines get.
-/

namespace CrossPilot

open Transaction Table Prog

namespace Purchasing

open FirstMile (PurchaseRuleError)

/-! ### What is accepted -/

/-- There is something to write off, or something that may be received. -/
def Asks (row : PurchaseOrderItem) (quantity : ℤ) (allowOver : Bool) : Disposition → Prop
  | .short => 0 < row.openQty
  | .receive => 0 < quantity ∧ (quantity ≤ row.openQty ∨ allowOver = true)

lemma planReceive_isOk_iff (row : PurchaseOrderItem) (quantity : ℤ) (allowOver : Bool)
    (disposition : Disposition) :
    (∃ plan, planReceive row.quantity row.receivedQty row.shortQty quantity disposition allowOver =
      .ok plan) ↔ Asks row quantity allowOver disposition := by
  unfold planReceive Asks PurchaseOrderItem.openQty
  cases disposition with
  | short =>
    simp only
    split_ifs with h
    · simpa using h
    · simpa using h
  | receive =>
    simp only
    split_ifs with hpos hover
    · simp [not_lt.mpr hpos]
    · simp [hover.1, hover.2]
    · cases allowOver
      · simpa using ⟨by simpa using hpos, by simpa using hover⟩
      · simpa using hpos

/-- A line of a receipt is about a line of the order that has what it asks for. -/
def Receivable (d : Db) (o : PurchaseOrder) (payload : ReceiptCreate) (line : ReceiptLineWrite) :
    Prop :=
  ∃ row ∈ itemsOf d o.id, row.id = line.itemId ∧ Stockable d row.skuId o.warehouseId ∧
    Asks row line.quantity payload.allowOver payload.disposition

/-- A receipt that is accepted. -/
structure Acceptable (d : Db) (o : PurchaseOrder) (payload : ReceiptCreate) : Prop where
  status : o.status ∈ openForReceipt
  distinct : (payload.lines.map ReceiptLineWrite.itemId).Nodup
  lines : ∀ line ∈ payload.lines, Receivable d o payload line
  shown : Showable d o

/-! ### The lines of a receipt -/

/-- What was noted of a line has been received of it or written off. -/
structure Noted (disposition : Disposition) (recorded : List ReceiptLine)
    (r r' : PurchaseOrderItem) : Prop where
  quantity : r'.quantity = r.quantity
  received_le : r.receivedQty ≤ r'.receivedQty
  short_le : r.shortQty ≤ r'.shortQty
  received : r'.receivedQty =
    r.receivedQty + total (fun l => if l.itemId = r.id then l.receiveQty else 0) recorded
  short : r'.shortQty = r.shortQty + if disposition = .short then
    total (fun l => if l.itemId = r.id then l.transitRelease else 0) recorded else 0

lemma Noted.refl (disposition : Disposition) (r : PurchaseOrderItem) : Noted disposition [] r r :=
  ⟨rfl, le_rfl, le_rfl, by simp, by simp⟩

lemma Noted.trans {disposition : Disposition} {recorded recorded' : List ReceiptLine}
    {r r' r'' : PurchaseOrderItem} (h : Noted disposition recorded r r') (hid : r'.id = r.id)
    (h' : Noted disposition recorded' r' r'') : Noted disposition (recorded ++ recorded') r r'' := by
  refine ⟨h'.quantity.trans h.quantity, h.received_le.trans h'.received_le,
    h.short_le.trans h'.short_le, ?_, ?_⟩
  · rw [h'.received, h.received, hid, total_append]
    ring
  · rw [h'.short, h.short, hid, total_append]
    split <;> ring

/-- A line is not concerned by what was noted of another. -/
lemma Noted.of_other {disposition : Disposition} {l : ReceiptLine} {r : PurchaseOrderItem}
    (hne : r.id ≠ l.itemId) : Noted disposition [l] r r := by
  refine ⟨rfl, le_rfl, le_rfl, ?_, ?_⟩ <;> simp [hne.symm]

/-- What a plan makes of a line is what is noted of it. -/
lemma Noted.of_plan {disposition : Disposition} {row : PurchaseOrderItem} {quantity : ℤ}
    {allowOver : Bool} {plan : ReceiptPlan} (actorId : ℕ)
    (h : planReceive row.quantity row.receivedQty row.shortQty quantity disposition allowOver =
      .ok plan) :
    Noted disposition [⟨row.id, row.skuId, plan.receiveQty, plan.transitRelease⟩] row
      (plan.applied actorId row) := by
  obtain ⟨hrec, hnew, hshort, -, -⟩ := planReceive_ok h
  refine ⟨rfl, ?_, hshort, ?_, ?_⟩
  · simp only [ReceiptPlan.applied, hnew]
    omega
  · simp [ReceiptPlan.applied, hnew]
  · unfold planReceive at h
    cases disposition with
    | short =>
      simp only at h
      split_ifs at h
      cases h
      simp [ReceiptPlan.applied]
    | receive =>
      simp only at h
      split_ifs at h
      cases h
      simp [ReceiptPlan.applied]

/-- Nothing is open of a line that was written off. -/
lemma openQty_applied {row : PurchaseOrderItem} {quantity : ℤ} {allowOver : Bool}
    {plan : ReceiptPlan} (actorId : ℕ)
    (h : planReceive row.quantity row.receivedQty row.shortQty quantity .short allowOver =
      .ok plan) : (plan.applied actorId row).openQty = 0 := by
  unfold planReceive at h
  simp only at h
  split_ifs at h
  cases h
  simp only [PurchaseOrderItem.openQty, ReceiptPlan.applied, openQty]
  omega

section lines

variable {c : Bucket → ℕ → ℕ → ℤ} {s : WorkState} {o : PurchaseOrder} {payload : ReceiptCreate}
  {E : ServiceError → WorkState → Prop}

/-- How far a receipt has come: the lines that were not seen are as they were. -/
structure Receiving (c : Bucket → ℕ → ℕ → ℤ) (d : Db) (o : PurchaseOrder)
    (disposition : Disposition) (seen : List ℕ) (recorded : List ReceiptLine) (s : WorkState) :
    Prop where
  books : OrderBooks c s
  touched : Touched o.id (Noted disposition recorded) (fun _ => False) d.purchaseItems
    s.data.purchaseItems
  frame : s.data = { d with
    inventories := s.data.inventories, flows := s.data.flows
    purchaseItems := s.data.purchaseItems }
  items : ∀ l ∈ recorded, ∃ r ∈ d.purchaseItems, r.id = l.itemId ∧ r.purchaseOrderId = o.id
  unseen : ∀ r, r.id ∉ seen → (r ∈ s.data.purchaseItems ↔ r ∈ d.purchaseItems)
  settled : disposition = .short → ∀ r ∈ s.data.purchaseItems, r.id ∈ seen → r.openQty = 0

/-- The lines of a receipt are taken down if all of them can be. -/
lemma wp_receiveLines {d : Db} {actorId : ℕ} (hd : Ordered d) (ho : o ∈ d.purchaseOrders)
    (hopen : o.status ∈ openForReceipt) (lines : List ReceiptLineWrite) (seen : List ℕ)
    (before : List ReceiptLine) (h : Receiving c d o payload.disposition seen before s)
    (hnodup : (lines.map ReceiptLineWrite.itemId).Nodup)
    (hseen : ∀ line ∈ lines, line.itemId ∉ seen) {Q : List ReceiptLine → WorkState → Prop}
    (hok : (∀ line ∈ lines, Receivable d o payload line) → ∀ recorded s',
      Receiving c d o payload.disposition ((lines.map ReceiptLineWrite.itemId).reverse ++ seen)
        (before ++ recorded) s' → Q recorded s')
    (he : ∀ e s', Fails c e → ((∀ t w, 0 ≤ c .inTransit t w) →
      ¬ ∀ line ∈ lines, Receivable d o payload line) → E e s') :
    (receiveLines o payload actorId (itemsOf d o.id) lines).wp Q E s := by
  induction lines generalizing seen before s Q with
  | nil => exact hok (by simp) [] s (by simpa using h)
  | cons line rest ih =>
    obtain ⟨hfirst, hnodup'⟩ := List.nodup_cons.mp hnodup
    rw [receiveLines, bind_eq, wp_bind]
    cases hfind : (itemsOf d o.id).find? fun row => row.id = line.itemId with
    | none =>
      refine he _ s (.of_refused .notFound) fun _ hall => ?_
      obtain ⟨row, hrow, hid, -⟩ := hall line (by simp)
      have := List.find?_eq_none.mp hfind row hrow
      simp [hid] at this
    | some item =>
      have hmem := List.mem_of_find?_eq_some hfind
      obtain ⟨hold, hown⟩ := mem_itemsOf.mp hmem
      have hid : item.id = line.itemId := by simpa using List.find?_some hfind
      have hitem : item ∈ s.data.purchaseItems :=
        (h.unseen item (hid ▸ hseen line (by simp))).mpr hold
      -- the line asks for what this row has
      have honly : Receivable d o payload line → Stockable d item.skuId o.warehouseId ∧
          Asks item line.quantity payload.allowOver payload.disposition := by
        rintro ⟨row, hrow, hrowid, hgoods⟩
        rwa [hd.items.eq_of_key_eq (mem_itemsOf.mp hrow).1 hold (hrowid.trans hid.symm)] at hgoods
      simp only [orRaise, pure_eq, wp_ret]
      rw [bind_eq, wp_bind]
      refine wp_raiseRule (fun plan hplan => ?_) fun e herror => ?_
      swap
      · refine he _ s (.of_refused (refused_ruleError e)) fun _ hall => ?_
        obtain ⟨plan, hplan⟩ :=
          (planReceive_isOk_iff ..).mpr (honly (hall line (by simp))).2
        rw [herror] at hplan
        cases hplan
      have hasks := (planReceive_isOk_iff ..).mp ⟨plan, hplan⟩
      obtain ⟨hreceive, hnew, -, hrelease, -⟩ := planReceive_ok hplan
      have ho' : o ∈ s.data.purchaseOrders := by
        rw [h.frame]
        exact ho
      have hskus : s.data.skus = d.skus := by rw [h.frame]
      have hwarehouses : s.data.warehouses = d.warehouses := by rw [h.frame]
      have hstock : ∀ {s₁ : WorkState}, s₁.data.skus = s.data.skus →
          s₁.data.warehouses = s.data.warehouses → (Stockable s₁.data item.skuId o.warehouseId ↔
            Stockable d item.skuId o.warehouseId) := by
        intro s₁ h₁ h₂
        unfold Stockable SkuKept WarehouseKept
        rw [h₁, h₂, hskus, hwarehouses]
      have hbrought : ∀ b t w, (plan.applied actorId item).brought o b t w -
          item.brought o b t w = postedTo item.skuId o.warehouseId
            { available := plan.receiveQty, inTransit := -plan.transitRelease } b t w := by
        intro b t w
        rw [brought_sub (r := item) (x := plan.applied actorId item) rfl, if_pos hopen]
        simp only [ReceiptPlan.applied, PurchaseOrderItem.openQty, hnew, hrelease]
        congr 2
        · ring
        · ring
      rw [bind_eq, wp_bind, saveItem, wp_update]
      have hb₁ := h.books.alter_item ho' hitem hown.symm (f := plan.applied actorId)
        (fun _ => rfl) (fun _ => rfl) fun _ => rfl
      rw [bind_eq, wp_bind]
      refine hb₁.post (g := c) hreceive (fun hc => ?_) (fun hkept s₂ hb₂ hbeside => ?_)
        fun e s' hfail hno => he e s' hfail fun hc hall => ?_
      · have hcovers := openQty_le_purchased ho' hitem hown.symm hopen
        have hbalance := h.books.balance .inTransit item.skuId o.warehouseId
        have hslack := hc item.skuId o.warehouseId
        have hafter := openQty_nonneg item.quantity plan.newReceived plan.newShort
        unfold PurchaseOrderItem.openQty at hcovers
        change 0 ≤ balanceAt s.data .inTransit item.skuId o.warehouseId + _
        omega
      · have hfit := (hstock rfl rfl).mp (hkept (planReceive_moves hplan))
        have hline : Receivable d o payload line := ⟨item, hmem, hid, hfit, hasks⟩
        have hitems : s₂.data.purchaseItems = alter PurchaseOrderItem.id item.id
            (plan.applied actorId) s.data.purchaseItems := by rw [hbeside]
        have h₂ : Receiving c d o payload.disposition (line.itemId :: seen)
            (before ++ [⟨item.id, item.skuId, plan.receiveQty, plan.transitRelease⟩]) s₂ := by
          have hone : Touched o.id
              (Noted payload.disposition
                [⟨item.id, item.skuId, plan.receiveQty, plan.transitRelease⟩]) (fun _ => False)
              s.data.purchaseItems s₂.data.purchaseItems := by
            rw [hitems]
            exact .alter h.books.tables.items hitem hown (fun _ => rfl) (fun _ => rfl)
              (fun _ => rfl) (.of_plan actorId hplan) fun x _ hne => .of_other hne
          refine ⟨hb₂.congr fun b t w => ?_, ?_, ?_, fun l hl => ?_, fun r hr => ?_,
            fun hshort r hr hrseen => ?_⟩
          · rw [hbrought]
            ring
          · exact h.touched.trans hone (fun _ _ _ h₁ hid' h₂ => h₁.trans hid' h₂)
              fun _ _ hno => hno.elim
          · rw [hbeside, h.frame]
          · rcases List.mem_append.mp hl with hl | hl
            · exact h.items l hl
            · rw [List.mem_singleton.mp hl]
              exact ⟨item, hold, rfl, hown⟩
          · rw [List.mem_cons, not_or, ← hid] at hr
            rw [hitems, mem_alter_iff_of_ne (f := plan.applied actorId) (fun _ => rfl) hr.1,
              h.unseen r hr.2]
          · rw [hitems] at hr
            obtain ⟨x, hx, rfl⟩ := mem_alter.mp hr
            split_ifs at hrseen ⊢ with hxid
            · obtain rfl := h.books.tables.items.eq_of_key_eq hx hitem hxid
              exact openQty_applied actorId (hshort ▸ hplan)
            · rw [List.mem_cons, or_iff_right (fun heq => hxid (heq.trans hid.symm))] at hrseen
              exact h.settled hshort x hx hrseen
        rw [bind_eq, wp_bind]
        refine ih _ _ h₂ hnodup' (fun x hx => ?_) (fun hall recorded s' h' => ?_)
          fun e s' hfail hno => he e s' hfail fun hc hall => ?_
        · rw [List.mem_cons, not_or]
          exact ⟨fun heq => hfirst (heq ▸ List.mem_map_of_mem hx), hseen x (by simp [hx])⟩
        · refine hok (List.forall_mem_cons.mpr ⟨hline, hall⟩) _ s' ?_
          simpa using h'
        · exact hno hc fun x hx => hall x (by simp [hx])
      · exact hno hc fun _ => (hstock rfl rfl).mpr (honly (hall line (by simp))).1

end lines

/-! ### The receipt -/

section receipts

variable {c : Bucket → ℕ → ℕ → ℤ} {s : WorkState} {E : ServiceError → WorkState → Prop}

/-- The status after a receipt says what the lines are like. -/
lemma nextReceiptStatus_spec (rows : List PurchaseOrderItem) :
    nextReceiptStatus (rows.map fun r => (r.quantity, r.receivedQty, r.shortQty)) = .received ∧
        (∀ r ∈ rows, r.openQty = 0) ∨
      nextReceiptStatus (rows.map fun r => (r.quantity, r.receivedQty, r.shortQty)) = .partially ∧
        (∃ r ∈ rows, r.receivedQty ≠ 0 ∨ r.shortQty ≠ 0) ∨
      nextReceiptStatus (rows.map fun r => (r.quantity, r.receivedQty, r.shortQty)) = .approved ∧
        ∀ r ∈ rows, r.receivedQty = 0 ∧ r.shortQty = 0 := by
  unfold nextReceiptStatus
  split_ifs with hall hany
  · refine .inl ⟨rfl, fun r hr => ?_⟩
    have hzero := hall.2
    simp only [List.all_map, List.all_eq_true, Function.comp_apply, decide_eq_true_eq] at hzero
    exact hzero r hr
  · exact .inr (.inl ⟨rfl, by simpa using hany⟩)
  · exact .inr (.inr ⟨rfl, by simpa using hany⟩)

/-- Where nothing is open any more everything has been received. -/
lemma nextReceiptStatus_settled {rows : List PurchaseOrderItem} (hne : rows ≠ [])
    (h : ∀ r ∈ rows, r.openQty = 0) :
    nextReceiptStatus (rows.map fun r => (r.quantity, r.receivedQty, r.shortQty)) = .received := by
  unfold nextReceiptStatus
  rw [if_pos]
  refine ⟨by simpa using hne, ?_⟩
  simp only [List.all_map, List.all_eq_true, Function.comp_apply, decide_eq_true_eq]
  exact h

/-- What the receipts note, with one more. -/
lemma noted_append (receipts : List PurchaseReceipt) (x : PurchaseReceipt) (itemId : ℕ) :
    notedReceived (receipts ++ [x]) itemId = notedReceived receipts itemId +
        total (fun l => if l.itemId = itemId then l.receiveQty else 0) x.lines ∧
      notedShort (receipts ++ [x]) itemId = notedShort receipts itemId +
        if x.disposition = .short then
          total (fun l => if l.itemId = itemId then l.transitRelease else 0) x.lines else 0 := by
  simp [notedReceived, notedShort]

lemma wp_addReceipt {receipt : PurchaseReceipt} {Q : Unit → WorkState → Prop}
    (hnew : receipt.idempotencyKey = none ∨
      ∀ x ∈ s.data.receipts, x.idempotencyKey ≠ receipt.idempotencyKey)
    (h : Q () { s with data := { s.data with receipts := s.data.receipts ++ [receipt] } }) :
    (addReceipt receipt).wp Q E s := by
  have hfree : (receipt.idempotencyKey.isSome &&
      s.data.receipts.any fun r => r.idempotencyKey = receipt.idempotencyKey) = false := by
    rcases hnew with hnone | hne
    · simp [hnone]
    · simpa using fun _ => hne
  unfold addReceipt
  simp only [bind_eq, wp_bind, wp_update, hfree, Bool.false_eq_true, if_false, pure_eq, wp_ret]
  exact h

/-- A receipt that was noted leaves the tables sound. -/
lemma Sound.of_received {d d' : Db} {o o' : PurchaseOrder} {x : PurchaseReceipt} (h : Sound d)
    (hgo : GoneOn d d' o o') (ht : Touched o.id (Noted x.disposition x.lines) (fun _ => False)
      d.purchaseItems d'.purchaseItems)
    (hitems : ∀ l ∈ x.lines, ∃ r ∈ d.purchaseItems, r.id = l.itemId ∧ r.purchaseOrderId = o.id)
    (hk : Keyed PurchaseOrderItem.id d.purchaseItems)
    (hreceipts : d'.receipts = d.receipts ++ [x]) (hnew : Lawful d' o') : Sound d' := by
  -- what a line has become
  have hfrom : ∀ r ∈ d'.purchaseItems, ∃ r₀ ∈ d.purchaseItems, r.id = r₀.id ∧
      Noted x.disposition x.lines r₀ r := by
    intro r hr
    by_cases hown : r.purchaseOrderId = o.id
    · rcases ht.came r hr hown with ⟨r₀, hr₀, hid, -, -, hnoted⟩ | hno
      · exact ⟨r₀, hr₀, hid, hnoted⟩
      · exact hno.elim
    · have hold := (ht.others r hown).mp hr
      have hother : ∀ l ∈ x.lines, l.itemId ≠ r.id := by
        intro l hl heq
        obtain ⟨y, hy, hyid, hyo⟩ := hitems l hl
        exact hown (hk.eq_of_key_eq hy hold (hyid.trans heq) ▸ hyo)
      have hzero : ∀ f : ReceiptLine → ℤ,
          total (fun l => if l.itemId = r.id then f l else 0) x.lines = 0 := fun f =>
        total_eq_zero fun l hl => if_neg (hother l hl)
      exact ⟨r, hold, rfl, rfl, le_rfl, le_rfl, by rw [hzero, add_zero], by simp [hzero]⟩
  refine ⟨h.lawful_of_goneOn hgo ht hnew, fun y hy l hl => ?_, fun r hr => ?_, fun r hr => ?_⟩
  · have hstays : ∀ r ∈ d.purchaseItems, ∃ r' ∈ d'.purchaseItems, r'.id = r.id := by
      intro r hr
      by_cases hown : r.purchaseOrderId = o.id
      · obtain ⟨r', hr', hid, -⟩ := ht.kept r hr hown
        exact ⟨r', hr', hid⟩
      · exact ⟨r, (ht.others r hown).mpr hr, rfl⟩
    have hmem : ∃ r ∈ d.purchaseItems, r.id = l.itemId := by
      rw [hreceipts] at hy
      rcases List.mem_append.mp hy with hy | hy
      · exact h.noted y hy l hl
      · rw [List.mem_singleton.mp hy] at hl
        obtain ⟨r, hr, hid, -⟩ := hitems l hl
        exact ⟨r, hr, hid⟩
    obtain ⟨r, hr, hid⟩ := hmem
    obtain ⟨r', hr', hid'⟩ := hstays r hr
    exact ⟨r', hr', hid'.trans hid⟩
  · obtain ⟨r₀, hr₀, hid, hnoted⟩ := hfrom r hr
    rw [hreceipts, hid, (noted_append ..).1, hnoted.received, h.received r₀ hr₀]
  · obtain ⟨r₀, hr₀, hid, hnoted⟩ := hfrom r hr
    rw [hreceipts, hid, (noted_append ..).2, hnoted.short, h.short r₀ hr₀]

end receipts

/-- A receipt writes off whatever is open of the order. -/
def WritesOff (d : Db) (o : PurchaseOrder) (payload : ReceiptCreate) (named : List ℕ) : Prop :=
  payload.disposition = .short ∧ ∀ r ∈ itemsOf d o.id, r.openQty ≠ 0 → r.id ∈ named

section requests

variable {c : Bucket → ℕ → ℕ → ℤ} {s : WorkState} {payload : ReceiptCreate} {actorId : ℕ}
  {visible : Bool}

/-- The books do not care for receipts. -/
lemma OrderBooks.note (h : OrderBooks c s) (receipts : List PurchaseReceipt) :
    OrderBooks c { s with data := { s.data with receipts } } := by
  obtain ⟨⟨hshelf, hcoherent⟩, ⟨⟨hinj, hbal, htr⟩, horders, hitems⟩, ⟨h₁, h₂, h₃, h₄⟩, hbalance⟩ := h
  exact ⟨⟨hshelf, hcoherent⟩, ⟨⟨hinj, hbal, htr⟩, horders, hitems⟩, ⟨h₁, h₂, h₃, h₄⟩, hbalance⟩

/-- What remains to be done once the lines are received: the order follows them. -/
lemma wp_followLines {d : Db} {o : PurchaseOrder} {seen : List ℕ} {recorded : List ReceiptLine}
    {key : Option String} (hd : Ordered d) (hsound : Sound d) (ho : o ∈ d.purchaseOrders)
    (hopen : o.status ∈ openForReceipt)
    (hkey : key = none ∨ ∀ x ∈ d.receipts, x.idempotencyKey ≠ key)
    (h : Receiving c d o payload.disposition seen recorded s)
    {Q : ReceiptView → WorkState → Prop} {E : ServiceError → WorkState → Prop}
    (hok : Showable d o → ∀ view s', Left c d s' →
      (∃ x ∈ s'.data.receipts, x.idempotencyKey = key) →
      (WritesOff d o payload seen → ∃ o' ∈ s'.data.purchaseOrders, o'.id = o.id ∧
        o'.status = .received) → Q view s')
    (he : ¬ Showable d o → ∀ s', E .notFound s') :
    (Prog.bind (listForOrder o.id) fun fresh =>
      let status :=
        nextReceiptStatus (fresh.map fun row => (row.quantity, row.receivedQty, row.shortQty))
      Prog.bind (saveOrder o.id fun o => { o with status, updatedBy := actorId }) fun _ =>
      Prog.bind nextSnowflakeId fun id =>
      Prog.bind (addReceipt ⟨id, o.id, payload.disposition, recorded, payload.note, key⟩) fun _ =>
      Prog.bind (orderView { o with status, updatedBy := actorId } visible) fun view =>
      .ret ⟨id, o.id, payload.disposition, payload.note, view⟩).wp Q E s := by
  have hlaw := hsound.lawful o ho
  rw [wp_bind, listForOrder, wp_select]
  have hspec := nextReceiptStatus_spec (itemsOf s.data o.id)
  generalize hstatus : nextReceiptStatus ((itemsOf s.data o.id).map fun r =>
    (r.quantity, r.receivedQty, r.shortQty)) = status at hspec
  have horders : s.data.purchaseOrders = d.purchaseOrders := by rw [h.frame]
  have hreceipts : s.data.receipts = d.receipts := by rw [h.frame]
  let f (x : PurchaseOrder) : PurchaseOrder := { x with status, updatedBy := actorId }
  -- a line that has begun stays so
  have hbegun : o.status = .partially → status ≠ .approved := by
    intro hpart happ
    obtain ⟨r, hr, hown, hany⟩ := hlaw.begun hpart
    obtain ⟨r', hr', -, hown', -, hnoted⟩ := h.touched.kept r hr hown
    have hcounts := hlaw.counts r hr hown
    have hrec := hnoted.received_le
    have hsho := hnoted.short_le
    rcases hspec with ⟨hs, -⟩ | ⟨hs, -⟩ | ⟨-, hzero⟩
    · rw [hs] at happ
      cases happ
    · rw [hs] at happ
      cases happ
    · have := hzero r' (mem_itemsOf.mpr ⟨hr', hown'⟩)
      omega
  have hbecomes : Becomes o (f o) := by
    refine ⟨rfl, rfl, rfl, rfl, rfl, ?_⟩
    simp only [openForReceipt, List.mem_cons, List.not_mem_nil, or_false] at hopen
    rcases hopen with ho | ho <;> rcases hspec with ⟨hs, -⟩ | ⟨hs, -⟩ | ⟨hs, -⟩ <;>
      simp [f, ho, hs, nextStatuses]
    exact absurd hs (hbegun ho)
  have hlive : ¬ Done o := by
    simp only [openForReceipt, List.mem_cons, List.not_mem_nil, or_false] at hopen
    rcases hopen with ho | ho <;> simp [Done, ho]
  have hlawful : ∀ d', d'.purchaseItems = s.data.purchaseItems → Lawful d' (f o) := by
    intro d' hitems
    have hmem : ∀ {r : PurchaseOrderItem}, r ∈ d'.purchaseItems → r.purchaseOrderId = o.id →
        r ∈ itemsOf s.data o.id := fun hr hown => mem_itemsOf.mpr ⟨hitems ▸ hr, hown⟩
    refine ⟨?_, fun r hr hown => ?_, fun hst r hr hown => ?_, fun hst => ?_, fun hst r hr hown => ?_⟩
    · obtain ⟨r, hr, hown⟩ := hlaw.lines
      obtain ⟨r', hr', -, hown', -⟩ := h.touched.kept r hr hown
      exact ⟨r', hitems ▸ hr', hown'⟩
    · rcases h.touched.came r (hitems ▸ hr) hown with ⟨r₀, hr₀, -, hown₀, -, hnoted⟩ | hno
      · have hcounts := hlaw.counts r₀ hr₀ hown₀
        have hrec := hnoted.received_le
        have hsho := hnoted.short_le
        rw [hnoted.quantity]
        omega
      · exact hno.elim
    · rcases hspec with ⟨hs, -⟩ | ⟨hs, -⟩ | ⟨-, hzero⟩
      · simp [f, hs] at hst
      · simp [f, hs] at hst
      · exact hzero r (hmem hr hown)
    · rcases hspec with ⟨hs, -⟩ | ⟨-, r, hr, hany⟩ | ⟨hs, -⟩
      · simp [f, hs] at hst
      · obtain ⟨hr, hown⟩ := mem_itemsOf.mp hr
        exact ⟨r, hitems ▸ hr, hown, hany⟩
      · simp [f, hs] at hst
    · rcases hspec with ⟨-, hzero⟩ | ⟨hs, -⟩ | ⟨hs, -⟩
      · exact hzero r (hmem hr hown)
      · simp [f, hs] at hst
      · simp [f, hs] at hst
  have hb₁ := (h.books.alter_order (horders ▸ ho) (f := f) fun _ => rfl).congr (g := c)
    fun b t w => by
      rw [sub_eq_self]
      refine (weight_status (s := s) o b t w).trans (total_eq_zero fun r hr => ?_)
      have hzero : ((if status ∈ openForReceipt then r.openQty else 0) -
          if o.status ∈ openForReceipt then r.openQty else 0) = 0 := by
        rw [if_pos hopen]
        rcases hspec with ⟨-, hzero⟩ | ⟨hs, -⟩ | ⟨hs, -⟩
        · simp [hzero r hr]
        · simp [hs, openForReceipt]
        · simp [hs, openForReceipt]
      rw [hzero]
      unfold postedTo
      cases b <;> simp [Delta.bucket]
  simp only [wp_bind]
  rw [saveOrder, wp_update, wp_nextSnowflakeId]
  refine wp_addReceipt (by simpa only [hreceipts] using hkey) ?_
  refine wp_orderView (fun hshown view => ?_) fun hno => ?_
  · refine hok ?_ _ _ ⟨hb₁.draw.note _, ?_, ?_, ?_⟩
      ⟨_, List.mem_append_right _ (List.mem_singleton_self _), rfl⟩ fun hoff =>
        ⟨f o, mem_alter_self (horders ▸ ho), rfl, ?_⟩
    · unfold Showable SupplierKept WarehouseKept at hshown ⊢
      rw [h.frame] at hshown
      exact hshown
    · refine .of_goneOn hd.orders (.of_alter hd.orders ho hlive hbecomes (by rw [horders]))
        h.touched (fun r r' hnoted => ⟨hnoted.received_le, hnoted.short_le⟩)
        (hreceipts ▸ List.prefix_append _ _)
    · refine hsound.of_received (x := ⟨_, _, _, recorded, _, _⟩)
        (.of_alter hd.orders ho hlive hbecomes (by rw [horders])) h.touched h.items hd.items
        (by rw [hreceipts]) (hlawful _ rfl)
    · unfold Framed
      rw [h.frame]
    · refine hstatus.symm.trans (nextReceiptStatus_settled (fun hnil => ?_) fun r hr => ?_)
      · obtain ⟨r, hr, hown⟩ := hlaw.lines
        obtain ⟨r', hr', -, hown', -⟩ := h.touched.kept r hr hown
        have hmem := mem_itemsOf.mpr ⟨hr', hown'⟩
        rw [hnil] at hmem
        cases hmem
      · obtain ⟨hr, hown⟩ := mem_itemsOf.mp hr
        by_cases hrseen : r.id ∈ seen
        · exact h.settled hoff.1 r hr hrseen
        · by_contra hne
          exact hrseen (hoff.2 r (mem_itemsOf.mpr ⟨(h.unseen r hrseen).mp hr, hown⟩) hne)
  · refine he (fun hshown => hno ?_) _
    unfold Showable SupplierKept WarehouseKept at hshown ⊢
    rw [h.frame]
    exact hshown

/-- A receipt is taken down if it can be accepted, and is refused otherwise. -/
theorem wp_receiveNow {orderId : ℕ} {key : Option String} (hb : OrderBooks c s)
    (hsound : Sound s.data) (hkey : key = none ∨ ∀ x ∈ s.data.receipts, x.idempotencyKey ≠ key)
    {Q : ReceiptView → WorkState → Prop} {E : ServiceError → WorkState → Prop}
    (hok : ∀ o ∈ s.data.purchaseOrders, o.id = orderId → Acceptable s.data o payload →
      ∀ view s', Left c s.data s' → (∃ x ∈ s'.data.receipts, x.idempotencyKey = key) →
      (WritesOff s.data o payload (payload.lines.map ReceiptLineWrite.itemId) →
        ∃ o' ∈ s'.data.purchaseOrders, o'.id = o.id ∧ o'.status = .received) → Q view s')
    (he : ∀ e s', Fails c e → ((∀ t w, 0 ≤ c .inTransit t w) →
      ∀ o ∈ s.data.purchaseOrders, o.id = orderId → ¬ Acceptable s.data o payload) → E e s') :
    (receiveNow orderId payload actorId key visible).wp Q E s := by
  unfold receiveNow
  rw [bind_eq, wp_bind]
  refine wp_getOrder (fun o ho hid => ?_) fun hno =>
    he _ s (.of_refused .notFound) fun _ o ho hid => absurd hid (hno o ho)
  -- there is one order with the id
  have hfail : ∀ e s', Fails c e → ((∀ t w, 0 ≤ c .inTransit t w) →
      ¬ Acceptable s.data o payload) → E e s' := by
    intro e s' hfail hno
    refine he e s' hfail fun hc x hx hxid => ?_
    rw [hb.tables.orders.eq_of_key_eq hx ho (hxid.trans hid.symm)]
    exact hno hc
  rw [bind_eq, wp_bind]
  refine wp_raiseRule (fun _ hcan => ?_) fun e herror => ?_
  swap
  · refine hfail _ s (.of_refused (refused_ruleError e)) fun _ hacc => ?_
    unfold assertCanReceive at herror
    rw [if_pos hacc.status] at herror
    cases herror
  have hopen : o.status ∈ openForReceipt := by
    unfold assertCanReceive at hcan
    split_ifs at hcan with hmem
    exact hmem
  rw [bind_eq, wp_bind, listForOrder, wp_select]
  by_cases hnodup : (payload.lines.map ReceiptLineWrite.itemId).Nodup
  swap
  · rw [if_pos hnodup]
    exact hfail _ s (.of_refused .receiptInvalid) fun _ hacc => hnodup hacc.distinct
  rw [if_neg (not_not.mpr hnodup), bind_eq, wp_bind]
  have hstart : Receiving c s.data o payload.disposition [] [] s :=
    ⟨hb, .refl fun r => .refl _ r, rfl, by simp, fun _ _ => Iff.rfl, by simp⟩
  refine wp_receiveLines hb.tables ho hopen payload.lines [] [] hstart hnodup (by simp)
    (fun hall recorded s₁ h₁ => ?_) fun e s' hf hno => hfail e s' hf fun hc hacc =>
      hno hc hacc.lines
  exact wp_followLines hb.tables hsound ho hopen hkey h₁
    (fun hshown view s' hleft hreceipt hoff =>
      hok o ho hid ⟨hopen, hnodup, hall, hshown⟩ view s' hleft hreceipt fun h =>
        hoff ⟨h.1, fun r hr hne => by simpa using h.2 r hr hne⟩)
    fun hno s' => hfail _ s' (.of_refused .notFound) fun _ hacc => hno hacc.shown

/-- A receipt whose key is new is taken down now. -/
lemma wp_receive_new {orderId : ℕ} {key cleaned : Option String} (hkey : Cleaned key cleaned)
    (hfree : cleaned = none ∨ ∀ x ∈ s.data.receipts, x.idempotencyKey ≠ cleaned)
    {Q : ReceiptView → WorkState → Prop} {E : ServiceError → WorkState → Prop}
    (h : (receiveNow orderId payload actorId cleaned visible).wp Q E s) :
    (receive orderId payload actorId key visible).wp Q E s := by
  unfold receive
  rw [bind_eq, wp_bind]
  refine wp_cleanKey (fun cleaned' hcleaned => ?_) fun e _ hno => absurd hkey (hno cleaned)
  obtain rfl : cleaned' = cleaned := hcleaned.stripped.trans hkey.stripped.symm
  have hnone : (if cleaned'.isSome then
      s.data.receipts.find? fun r => r.idempotencyKey = cleaned' else none) = none := by
    rcases hfree with rfl | hfree
    · rfl
    · split_ifs
      · simpa using hfree
      · rfl
  rw [bind_eq, wp_bind, wp_select, hnone]
  exact h

/-- Goods are received, or were received before with the same key. -/
theorem wp_receive {orderId : ℕ} {key : Option String} (hb : OrderBooks c s)
    (hsound : Sound s.data) :
    (receive orderId payload actorId key visible).wp
      (fun _ s' => Left c s.data s' ∧ ∀ k, Cleaned key (some k) →
        ∃ x ∈ s'.data.receipts, x.idempotencyKey = some k)
      (fun e _ => Fails c e) s := by
  unfold receive
  rw [bind_eq, wp_bind]
  refine wp_cleanKey (fun cleaned hcleaned => ?_) fun e he _ => .of_refused he
  have hkeyOf : ∀ k, Cleaned key (some k) → cleaned = some k := fun k hk =>
    hcleaned.stripped.trans hk.stripped.symm
  rw [bind_eq, wp_bind, wp_select]
  cases hfind : (if cleaned.isSome then
      s.data.receipts.find? fun r => r.idempotencyKey = cleaned else none) with
  | some existing =>
    simp only [bind_eq]
    rw [wp_bind]
    refine wp_getOrder (fun o _ _ => ?_) fun _ => .of_refused .notFound
    rw [wp_bind]
    refine wp_orderView (fun _ _ => ⟨⟨hb, .refl _, hsound, rfl⟩, fun k hk => ?_⟩)
      fun _ => .of_refused .notFound
    rw [hkeyOf k hk, Option.isSome_some, if_pos rfl] at hfind
    exact ⟨existing, List.mem_of_find?_eq_some hfind, by simpa using List.find?_some hfind⟩
  | none =>
    have hfree : cleaned = none ∨ ∀ x ∈ s.data.receipts, x.idempotencyKey ≠ cleaned := by
      cases cleaned with
      | none => exact .inl rfl
      | some key => exact .inr (by simpa using hfind)
    refine wp_receiveNow hb hsound hfree (fun _ _ _ _ _ _ hleft hkey _ => ⟨hleft, fun k hk => ?_⟩)
      fun _ _ hfail _ => hfail
    exact hkeyOf k hk ▸ hkey

end requests

end Purchasing

end CrossPilot
