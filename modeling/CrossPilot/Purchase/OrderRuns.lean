import CrossPilot.Purchase.Receiving
import CrossPilot.Purchase.Replenish

/-!
# Runs of purchasing

Requests of buyers follow one another, and in between the rest of the system moves stock. In every
state that is reached the balances are what the orders have brought and what the others have moved.
Orders only go on, receipts are only added, and a repeated request changes nothing.
-/

namespace CrossPilot

open Transaction Table Prog

namespace Purchasing

/-! ### Requests -/

/-- A request of a buyer. -/
inductive PurchaseCall
  | create (payload : PurchaseOrderCreate) (key : Option String)
  | convert (advice : StockAdvice) (payload : ReplenishmentConvert) (key : Option String)
  | update (orderId : ℕ) (payload : PurchaseOrderPatch)
  | transition (orderId : ℕ) (action : PurchaseAction)
  | receive (orderId : ℕ) (payload : ReceiptCreate) (key : Option String)

/-- The work of a request. What it answers is shown to the buyer. -/
def PurchaseCall.work (actorId : ℕ) (visible : Bool) : PurchaseCall → Work Unit
  | create payload key => (createOrder payload actorId key visible).map fun _ => ()
  | convert advice payload key =>
    (fromReplenishment advice payload actorId key visible).map fun _ => ()
  | update orderId payload => (updateOrder orderId payload actorId visible).map fun _ => ()
  | transition orderId action =>
    (Purchasing.transition orderId action actorId visible).map fun _ => ()
  | receive orderId payload key =>
    (Purchasing.receive orderId payload actorId key visible).map fun _ => ()

/-- A worker with a new session, whose ids nobody has yet. -/
structure Buyer (l : Session) (d : Db) : Prop where
  seen : l.seen = []
  unused : Unused l d

/-- A run that begins with `d₀`, with the data before and after each step of the others. They leave
the tables of purchasing alone. -/
inductive PurchaseRun (d₀ : Db) : List (Db × Db) → Db → Prop
  | start : PurchaseRun d₀ [] d₀
  | request {others : List (Db × Db)} {d : Db} (call : PurchaseCall) (actorId : ℕ) (visible : Bool)
    (l : Session) : PurchaseRun d₀ others d → Buyer l d →
    PurchaseRun d₀ others ((call.work actorId visible).commit l d)
  | elsewhere {others : List (Db × Db)} {d d' : Db} : PurchaseRun d₀ others d →
    Shelf d'.inventories → d'.purchaseOrders = d.purchaseOrders →
    d'.purchaseItems = d.purchaseItems → d'.receipts = d.receipts →
    PurchaseRun d₀ (others ++ [(d, d')]) d'

/-- Nothing has been ordered yet. -/
structure Unopened (d : Db) : Prop where
  shelf : Shelf d.inventories
  orders : d.purchaseOrders = []
  items : d.purchaseItems = []
  receipts : d.receipts = []

/-- What others have moved, and what was there before. -/
def slack (d₀ : Db) (others : List (Db × Db)) (b : Bucket) (t w : ℕ) : ℤ :=
  balanceAt d₀ b t w + total (fun step => balanceAt step.2 b t w - balanceAt step.1 b t w) others

/-! ### A request -/

section requests

variable {c : Bucket → ℕ → ℕ → ℤ} {s : WorkState}

/-- The key of a request has an escape. -/
def PurchaseCall.Escaped : PurchaseCall → Prop
  | convert _ _ key => ∃ k, Cleaned key (some k) ∧ '\\' ∈ k.toList
  | _ => False

/-- A request with this key has been answered. -/
def PurchaseCall.Answered (d : Db) : PurchaseCall → Prop
  | create _ key => ∃ k, Cleaned key (some k) ∧ ∃ o ∈ d.purchaseOrders, o.idempotencyKey = some k
  | convert _ _ key => ∃ k, Cleaned key (some k) ∧ listByKeyGroup d k ≠ []
  | receive _ _ key => ∃ k, Cleaned key (some k) ∧ ∃ x ∈ d.receipts, x.idempotencyKey = some k
  | update _ _ | transition _ _ => False

/-- A request has a key. -/
def PurchaseCall.IsKeyed : PurchaseCall → Prop
  | create _ key | convert _ _ key | receive _ _ key => ∃ k, Cleaned key (some k)
  | update _ _ | transition _ _ => False

/-- The drafts of a conversion are found by its key. -/
lemma Converted.found {d d' : Db} {payload : ReplenishmentConvert} {k : String}
    {chosen : List ReplenishmentView} {created : List PurchaseOrder}
    {added : List PurchaseOrderItem} (h : Converted d d' payload (some k) chosen created added)
    (hk : ∀ c ∈ k.toList, c ∉ ['%', '_', '#']) (hplain : '\\' ∉ k.toList) :
    listByKeyGroup d' k ≠ [] := by
  obtain ⟨o, ho⟩ := List.exists_mem_of_ne_nil created h.ne_nil
  refine List.ne_nil_of_mem (a := o) (mem_listByKeyGroup.mpr ⟨h.data.mem_orders.mpr (.inr ho), ?_⟩)
  have hkey := (h.orders o ho).2
  unfold groupKey at hkey
  split_ifs at hkey
  · exact ⟨k, hkey, .inl rfl⟩
  · exact ⟨_, hkey, .inr ((ilike_groupKey_iff hk o.supplierId).mpr hplain)⟩

/-- What comes of a request. -/
theorem wp_work (call : PurchaseCall) (actorId : ℕ) (visible : Bool) (hb : OrderBooks c s)
    (hsound : Sound s.data) :
    (call.work actorId visible).wp
      (fun _ s' => Left c s.data s' ∧ (call.IsKeyed → ¬ call.Escaped → call.Answered s'.data))
      (fun e _ => Fails c e ∨ e = keyTaken ∧ call.Escaped) s := by
  cases call with
  | create payload key =>
    rw [PurchaseCall.work, Prog.map, wp_bind]
    exact wp_mono (wp_createOrder hb hsound) (fun _ s' h => ⟨h.1, fun ⟨k, hk⟩ _ => ⟨k, hk, h.2 k hk⟩⟩)
      fun _ _ h => .inl h
  | convert advice payload key =>
    rw [PurchaseCall.work, Prog.map, wp_bind]
    refine wp_fromReplenishment hb hsound
      (fun k hk hfound _ => ⟨⟨hb, .refl _, hsound, rfl⟩, fun _ _ => ⟨k, hk, hfound⟩⟩)
      (fun cleaned hcleaned _ suggestions _ _ created added s' hb' hsound' hconv _ =>
        ⟨⟨hb', hconv.data.step, hsound', hconv.data.frame⟩, ?_⟩)
      (fun e _ href _ => .inl (.of_refused href)) fun k hk hescape _ => .inr ⟨rfl, k, hk, hescape⟩
    rintro ⟨k, hk⟩ hplain
    obtain rfl : cleaned = some k := hcleaned.stripped.trans hk.stripped.symm
    exact ⟨k, hk, hconv.found (hk.plain k rfl) fun hescape => hplain ⟨k, hk, hescape⟩⟩
  | update orderId payload =>
    rw [PurchaseCall.work, Prog.map, wp_bind]
    exact wp_mono (wp_updateOrder hb hsound) (fun _ s' h => ⟨h, fun hkeyed => hkeyed.elim⟩)
      fun _ _ h => .inl h
  | transition orderId action =>
    rw [PurchaseCall.work, Prog.map, wp_bind]
    exact wp_transition hb hsound (fun _ _ _ _ _ _ s' _ hleft _ => ⟨hleft, fun hkeyed => hkeyed.elim⟩)
      fun _ _ h _ => .inl h
  | receive orderId payload key =>
    rw [PurchaseCall.work, Prog.map, wp_bind]
    exact wp_mono (wp_receive hb hsound) (fun _ s' h => ⟨h.1, fun ⟨k, hk⟩ _ => ⟨k, hk, h.2 k hk⟩⟩)
      fun _ _ h => .inl h

end requests

/-! ### Runs -/

/-- What a run keeps. -/
structure Reached (d₀ : Db) (others : List (Db × Db)) (d : Db) : Prop where
  shelf : Shelf d.inventories
  tables : Ordered d
  sound : Sound d
  balance : ∀ b t w, balanceAt d b t w = d.purchased b t w + slack d₀ others b t w

/-- What becomes of the orders and receipts of `d`. -/
structure Later (d d' : Db) : Prop where
  orders : ∀ o ∈ d.purchaseOrders, ∃ o' ∈ d'.purchaseOrders, o'.id = o.id ∧
    o'.supplierId = o.supplierId ∧ o'.warehouseId = o.warehouseId ∧ o'.currency = o.currency ∧
    o'.idempotencyKey = o.idempotencyKey ∧
    Relation.ReflTransGen (fun a b => b ∈ nextStatuses a) o.status o'.status
  lines : ∀ r ∈ d.purchaseItems, ∃ r' ∈ d'.purchaseItems, r'.id = r.id ∧
    r'.purchaseOrderId = r.purchaseOrderId ∧ r'.skuId = r.skuId ∧
    r.receivedQty ≤ r'.receivedQty ∧ r.shortQty ≤ r'.shortQty
  done : ∀ o ∈ d.purchaseOrders, Done o → o ∈ d'.purchaseOrders ∧
    ∀ r, r.purchaseOrderId = o.id → (r ∈ d'.purchaseItems ↔ r ∈ d.purchaseItems)
  receipts : d.receipts <+: d'.receipts

section runs

variable {d₀ d d' : Db} {others others' : List (Db × Db)} {l : Session}

lemma Unopened.reached (h : Unopened d₀) : Reached d₀ [] d₀ := by
  refine ⟨h.shelf, ⟨?_, ?_, ?_, ?_⟩, ⟨?_, ?_, ?_, ?_⟩, fun b t w => ?_⟩
  · simp [Keyed, h.orders]
  · simp [Keyed, h.items]
  · simp [Keyed, h.items]
  · simp [h.items]
  · simp [h.orders]
  · simp [h.receipts]
  · simp [h.items]
  · simp [h.items]
  · simp [slack, Db.purchased, weighed, h.orders]

/-- The books of a worker who begins a request. -/
lemma Reached.books (h : Reached d₀ others d) (hl : Buyer l d) :
    OrderBooks (slack d₀ others) ⟨l, d, []⟩ :=
  ⟨⟨h.shelf, by simp [hl.seen]⟩, hl.unused, h.tables, h.balance⟩

/-- A request is one step on the way, and leaves its books as they were. -/
lemma Reached.request (call : PurchaseCall) (actorId : ℕ) (visible : Bool)
    (h : Reached d₀ others d) (hl : Buyer l d) :
    OrderStep d ((call.work actorId visible).commit l d) ∧
      Reached d₀ others ((call.work actorId visible).commit l d) := by
  refine commit_of_wp (R := fun d' => OrderStep d d' ∧ Reached d₀ others d')
    (wp_mono (wp_work call actorId visible (h.books hl) h.sound) (fun _ s' h' => ?_) fun _ _ _ => ?_)
  · obtain ⟨⟨hbooks, hstep, hsound, -⟩, -⟩ := h'
    exact ⟨hstep, hbooks.ready.shelf, hbooks.tables, hsound, hbooks.balance⟩
  · exact ⟨.refl d, h⟩

/-- What the others move is in the slack. -/
lemma Reached.elsewhere (h : Reached d₀ others d) (hshelf : Shelf d'.inventories)
    (horders : d'.purchaseOrders = d.purchaseOrders)
    (hitems : d'.purchaseItems = d.purchaseItems) (hreceipts : d'.receipts = d.receipts) :
    OrderStep d d' ∧ Reached d₀ (others ++ [(d, d')]) d' := by
  have hlawful : ∀ o ∈ d'.purchaseOrders, Lawful d' o := fun o ho =>
    (h.sound.lawful o (horders ▸ ho)).of_others fun r _ => by rw [hitems]
  refine ⟨⟨fun o ho => ⟨o, horders ▸ ho, .refl o⟩, fun r hr => ⟨r, hitems ▸ hr, rfl, rfl, rfl,
    le_rfl, le_rfl⟩, fun o ho _ => ⟨horders ▸ ho, fun r _ => by rw [hitems]⟩,
    hreceipts ▸ List.prefix_refl _⟩, hshelf, ?_, ⟨hlawful, ?_, ?_, ?_⟩, fun b t w => ?_⟩
  · obtain ⟨h₁, h₂, h₃, h₄⟩ := h.tables
    refine ⟨?_, ?_, ?_, ?_⟩
    · rwa [horders]
    · rwa [hitems]
    · rwa [hitems]
    · rwa [horders, hitems]
  · rw [hreceipts, hitems]
    exact h.sound.noted
  · rw [hreceipts, hitems]
    exact h.sound.received
  · rw [hreceipts, hitems]
    exact h.sound.short
  · have hbalance := h.balance b t w
    have hpurchased : d'.purchased b t w = d.purchased b t w := by
      unfold Db.purchased
      rw [horders, hitems]
    simp only [slack, total_append, total_cons, total_nil, hpurchased] at hbalance ⊢
    omega

theorem PurchaseRun.reached (h₀ : Unopened d₀) (h : PurchaseRun d₀ others d) :
    Reached d₀ others d := by
  induction h with
  | start => exact h₀.reached
  | request call actorId visible l _ hl ih => exact (ih.request call actorId visible hl).2
  | elsewhere _ hshelf horders hitems hreceipts ih =>
    exact (ih.elsewhere hshelf horders hitems hreceipts).2

/-- A run goes on. -/
lemma PurchaseRun.append (h : PurchaseRun d₀ others d) (h' : PurchaseRun d others' d') :
    PurchaseRun d₀ (others ++ others') d' := by
  induction h' with
  | start => simpa using h
  | request call actorId visible l _ hl ih => exact .request call actorId visible l ih hl
  | elsewhere _ hshelf horders hitems hreceipts ih =>
    rw [← List.append_assoc]
    exact .elsewhere ih hshelf horders hitems hreceipts

lemma Later.refl (d : Db) : Later d d :=
  ⟨fun o ho => ⟨o, ho, rfl, rfl, rfl, rfl, rfl, .refl⟩,
    fun r hr => ⟨r, hr, rfl, rfl, rfl, le_rfl, le_rfl⟩,
    fun _ ho _ => ⟨ho, fun _ _ => Iff.rfl⟩, List.prefix_refl _⟩

lemma Later.step {d'' : Db} (h : Later d d') (h' : OrderStep d' d'') : Later d d'' := by
  refine ⟨fun o ho => ?_, fun r hr => ?_, fun o ho hdone => ?_, h.receipts.trans h'.receipts⟩
  · obtain ⟨o₁, ho₁, hid₁, hs₁, hw₁, hc₁, hk₁, hstatus₁⟩ := h.orders o ho
    obtain ⟨o₂, ho₂, hid₂, hs₂, hw₂, hc₂, hk₂, hstatus₂⟩ := h'.orders o₁ ho₁
    refine ⟨o₂, ho₂, hid₂.trans hid₁, hs₂.trans hs₁, hw₂.trans hw₁, hc₂.trans hc₁, hk₂.trans hk₁, ?_⟩
    rcases hstatus₂ with hsame | hnext
    · rwa [hsame]
    · exact hstatus₁.tail hnext
  · obtain ⟨r₁, hr₁, hid₁, ho₁, hsku₁, hrec₁, hsho₁⟩ := h.lines r hr
    obtain ⟨r₂, hr₂, hid₂, ho₂, hsku₂, hrec₂, hsho₂⟩ := h'.lines r₁ hr₁
    exact ⟨r₂, hr₂, hid₂.trans hid₁, ho₂.trans ho₁, hsku₂.trans hsku₁, hrec₁.trans hrec₂,
      hsho₁.trans hsho₂⟩
  · obtain ⟨ho₁, hlines₁⟩ := h.done o ho hdone
    obtain ⟨ho₂, hlines₂⟩ := h'.done o ho₁ hdone
    exact ⟨ho₂, fun r hr => (hlines₂ r hr).trans (hlines₁ r hr)⟩

lemma PurchaseRun.later (h : Reached d₀ others d) (h' : PurchaseRun d others' d') :
    Later d d' ∧ Reached d₀ (others ++ others') d' := by
  induction h' with
  | start => exact ⟨.refl d, by simpa using h⟩
  | request call actorId visible l _ hl ih =>
    obtain ⟨hstep, hreached⟩ := ih.2.request call actorId visible hl
    exact ⟨ih.1.step hstep, hreached⟩
  | elsewhere _ hshelf horders hitems hreceipts ih =>
    obtain ⟨hstep, hreached⟩ := ih.2.elsewhere hshelf horders hitems hreceipts
    rw [← List.append_assoc]
    exact ⟨ih.1.step hstep, hreached⟩

end runs

/-! ### New ids -/

/-- A session with ids from `n` on. -/
def sessionFrom (n : ℕ) : Session where
  ids := fun k => n + k

/-- All ids of the data are less than `n`. -/
def Below (d : Db) (n : ℕ) : Prop :=
  (∀ r ∈ d.inventories, r.id < n) ∧ (∀ x ∈ d.transfers, x.id < n) ∧
    (∀ o ∈ d.purchaseOrders, o.id < n) ∧ ∀ r ∈ d.purchaseItems, r.id < n

instance (d : Db) (n : ℕ) : Decidable (Below d n) := by
  unfold Below
  infer_instance

lemma Below.buyer {d : Db} {n : ℕ} (h : Below d n) : Buyer (sessionFrom n) d := by
  have hne : ∀ {i : ℕ}, i < n → ∀ k, i ≠ n + k := fun hi k heq => by omega
  exact ⟨rfl, ⟨fun _ _ => Nat.add_left_cancel, fun k r hr => hne (h.1 r hr) k,
    fun k x hx => hne (h.2.1 x hx) k⟩, fun k o ho => hne (h.2.2.1 o ho) k,
    fun k r hr => hne (h.2.2.2 r hr) k⟩

/-- There are always new ids. -/
lemma exists_below (d : Db) : ∃ n, Below d n := by
  have hbound : ∀ {ρ : Type} (key : ρ → ℕ) (rows : List ρ), ∃ n, ∀ r ∈ rows, key r < n := by
    intro ρ key rows
    induction rows with
    | nil => exact ⟨0, by simp⟩
    | cons r rest ih =>
      obtain ⟨n, hn⟩ := ih
      refine ⟨max n (key r + 1), fun x hx => ?_⟩
      rcases List.mem_cons.mp hx with rfl | hx
      · exact lt_max_of_lt_right (Nat.lt_succ_self _)
      · exact lt_max_of_lt_left (hn x hx)
  obtain ⟨a, ha⟩ := hbound Inventory.id d.inventories
  obtain ⟨b, hb⟩ := hbound StockTransfer.id d.transfers
  obtain ⟨e, he⟩ := hbound PurchaseOrder.id d.purchaseOrders
  obtain ⟨f, hf⟩ := hbound PurchaseOrderItem.id d.purchaseItems
  refine ⟨max (max a b) (max e f), fun r hr => ?_, fun x hx => ?_, fun o ho => ?_, fun r hr => ?_⟩
  · exact lt_max_of_lt_left (lt_max_of_lt_left (ha r hr))
  · exact lt_max_of_lt_left (lt_max_of_lt_right (hb x hx))
  · exact lt_max_of_lt_right (lt_max_of_lt_left (he o ho))
  · exact lt_max_of_lt_right (lt_max_of_lt_right (hf r hr))

/-! ### Ten pieces -/

/-- A shop with a warehouse, a SKU and its supplier, where nothing has been ordered. -/
def newShop : Db where
  warehouses := [{ id := 1 }]
  skus := [{ id := 3 }]
  suppliers := [{ id := 2, name := "S" }]
  supplierLinks := [{ id := 4, supplierId := 2, skuId := 3, isDefault := true }]

def tenPieces : PurchaseOrderCreate where
  supplierId := 2
  warehouseId := 1
  currency := "USD"
  lines := [{
    skuId := 3, quantity := 10, unitPrice := 5
    quantity_pos := by decide, unitPrice_nonneg := by decide }]
  lines_ne_nil := by decide

/-- The order is drafted, submitted and approved. -/
def draftedShop : Db :=
  ((PurchaseCall.create tenPieces (some "k")).work 0 true).commit (sessionFrom 100) newShop

def submittedShop : Db :=
  ((PurchaseCall.transition 100 .submit).work 0 true).commit (sessionFrom 200) draftedShop

def approvedShop : Db :=
  ((PurchaseCall.transition 100 .approve).work 0 true).commit (sessionFrom 200) submittedShop

lemma unopened_newShop : Unopened newShop :=
  ⟨⟨by simp [Keyed, newShop], by simp [Keyed, newShop], by simp [newShop], by simp [newShop],
    by simp [newShop], by simp [newShop]⟩, rfl, rfl, rfl⟩

lemma slack_newShop (t w : ℕ) : 0 ≤ slack newShop [] .inTransit t w := by
  simp [slack, balanceAt, newShop]

lemma buyer_newShop : Buyer (sessionFrom 100) newShop := Below.buyer (by decide)

lemma run_draftedShop : PurchaseRun newShop [] draftedShop :=
  .request _ 0 true _ .start buyer_newShop

lemma run_approvedShop : PurchaseRun draftedShop [] approvedShop :=
  .request _ 0 true _ (.request _ 0 true _ .start (Below.buyer (by decide +kernel)))
    (Below.buyer (by decide +kernel))

lemma buyer_approvedShop : Buyer (sessionFrom 300) approvedShop := Below.buyer (by decide +kernel)

/-! ### Every run -/

lemma cleaned_none : Cleaned none none := ⟨rfl, by simp⟩

section results

variable {d₀ d d' : Db} {others others' : List (Db × Db)} {l : Session}

/-- In every state that is reached the balances are what the orders have brought, what was there in
the beginning, and what others have moved. -/
theorem purchase_balance (h₀ : Unopened d₀) (h : PurchaseRun d₀ others d) (b : Bucket) (t w : ℕ) :
    balanceAt d b t w = d.purchased b t w + slack d₀ others b t w :=
  (h.reached h₀).balance b t w

theorem purchase_balance_approvedShop :
    balanceAt approvedShop .inTransit 3 1 =
        approvedShop.purchased .inTransit 3 1 + slack newShop [] .inTransit 3 1 ∧
      approvedShop.purchased .inTransit 3 1 = 10 :=
  ⟨purchase_balance unopened_newShop (run_draftedShop.append run_approvedShop) .inTransit 3 1,
    by decide +kernel⟩

/-- Orders go the way that their statuses allow, lines and receipts are never taken back, and what is
done stays as it is. The lines are always as the statuses and the receipts say. -/
theorem purchase_lifecycle (h₀ : Unopened d₀) (h : PurchaseRun d₀ others d)
    (h' : PurchaseRun d others' d') : Later d d' ∧ Sound d' := by
  obtain ⟨hlater, hreached⟩ := h'.later (h.reached h₀)
  exact ⟨hlater, hreached.sound⟩

theorem purchase_lifecycle_approvedShop : Later draftedShop approvedShop ∧ Sound approvedShop :=
  purchase_lifecycle unopened_newShop run_draftedShop run_approvedShop

/-- Ten pieces have come. -/
def allTen : ReceiptCreate where
  disposition := .receive
  lines := [⟨101, 10, by decide⟩]
  lines_ne_nil := by decide

/-- Five pieces are always to be there. -/
def fiveKept : StockAdvice where
  stocks := [{
    id := 10, skuId := 3, platformCode := "tiktok", quantity := 5, leadTimeDays := 0, coverDays := 0
    quantity_le := by decide, leadTimeDays_le := by decide, coverDays_le := by decide }]
  createdAt := fun _ => newYearInstant
  now := newYearInstant
  today := newYear

def atFive : ReplenishmentConvert where
  skuIds := [3]
  warehouseId := 1
  currency := "USD"
  unitPrice := some 5
  unitPrice_nonneg := by decide

end results

/-! ### Repeated requests -/

/-- The same request with the same key. What it asks for may have changed, and the clock has. -/
inductive Repeats : PurchaseCall → PurchaseCall → Prop
  | create (payload payload' : PurchaseOrderCreate) (key : Option String) :
    Repeats (.create payload key) (.create payload' key)
  | convert (advice advice' : StockAdvice) (payload payload' : ReplenishmentConvert)
    (key : Option String) : Repeats (.convert advice payload key) (.convert advice' payload' key)
  | receive (orderId orderId' : ℕ) (payload payload' : ReceiptCreate) (key : Option String) :
    Repeats (.receive orderId payload key) (.receive orderId' payload' key)

section repetition

variable {d₀ d d' : Db} {others others' : List (Db × Db)} {call call' : PurchaseCall}
  {actorId actorId' : ℕ} {visible visible' : Bool} {l : Session}

/-- An answered request is answered for good, whoever repeats it. -/
lemma PurchaseCall.Answered.later (h : call.Answered d) (hlater : Later d d')
    (hrep : Repeats call call') : call'.Answered d' := by
  have horder : ∀ o ∈ d.purchaseOrders, ∃ o' ∈ d'.purchaseOrders,
      o'.idempotencyKey = o.idempotencyKey := by
    intro o ho
    obtain ⟨o', ho', -, -, -, -, hkey, -⟩ := hlater.orders o ho
    exact ⟨o', ho', hkey⟩
  cases hrep with
  | create payload payload' key =>
    obtain ⟨k, hk, o, ho, hkey⟩ := h
    obtain ⟨o', ho', hsame⟩ := horder o ho
    exact ⟨k, hk, o', ho', hsame.trans hkey⟩
  | convert advice advice' payload payload' key =>
    obtain ⟨k, hk, hfound⟩ := h
    obtain ⟨o, hmem⟩ := List.exists_mem_of_ne_nil _ hfound
    obtain ⟨ho, k', hkey, hlike⟩ := mem_listByKeyGroup.mp hmem
    obtain ⟨o', ho', hsame⟩ := horder o ho
    exact ⟨k, hk, List.ne_nil_of_mem (mem_listByKeyGroup.mpr ⟨ho', k', hsame.trans hkey, hlike⟩)⟩
  | receive orderId orderId' payload payload' key =>
    obtain ⟨k, hk, x, hx, hkey⟩ := h
    exact ⟨k, hk, x, hlater.receipts.subset hx, hkey⟩

/-- An answered request changes nothing. -/
lemma wp_answered {s : WorkState} (h : call.Answered s.data) :
    (call.work actorId visible).wp (fun _ s' => s' = s) (fun _ _ => True) s := by
  cases call with
  | create payload key =>
    obtain ⟨k, hk, o, ho, hkey⟩ := h
    rw [PurchaseCall.work, Prog.map, wp_bind, createOrder, bind_eq, wp_bind]
    refine wp_cleanKey (fun cleaned hcleaned => ?_) fun _ _ _ => trivial
    obtain rfl : cleaned = some k := hcleaned.stripped.trans hk.stripped.symm
    rw [bind_eq, wp_bind, wp_select, Option.isSome_some, if_pos rfl]
    cases hfind : s.data.purchaseOrders.find? fun o => o.idempotencyKey = some k with
    | none =>
      have hnone := List.find?_eq_none.mp hfind o ho
      simp [hkey] at hnone
    | some existing => exact wp_orderView (fun _ _ => rfl) fun _ => trivial
  | convert advice payload key =>
    obtain ⟨k, hk, hfound⟩ := h
    rw [PurchaseCall.work, Prog.map, wp_bind]
    exact wp_mono (wp_fromReplenishment_again hk hfound) (fun _ _ h => h) fun _ _ _ => trivial
  | receive orderId payload key =>
    obtain ⟨k, hk, x, hx, hkey⟩ := h
    rw [PurchaseCall.work, Prog.map, wp_bind, Purchasing.receive, bind_eq, wp_bind]
    refine wp_cleanKey (fun cleaned hcleaned => ?_) fun _ _ _ => trivial
    obtain rfl : cleaned = some k := hcleaned.stripped.trans hk.stripped.symm
    rw [bind_eq, wp_bind, wp_select, Option.isSome_some, if_pos rfl]
    cases hfind : s.data.receipts.find? fun r => r.idempotencyKey = some k with
    | none =>
      have hnone := List.find?_eq_none.mp hfind x hx
      simp [hkey] at hnone
    | some existing =>
      simp only [bind_eq]
      rw [wp_bind]
      refine wp_getOrder (fun o _ _ => ?_) fun _ => trivial
      rw [wp_bind]
      exact wp_orderView (fun _ _ => rfl) fun _ => trivial
  | update orderId payload => exact h.elim
  | transition orderId action => exact h.elim

/-- A request that was answered once changes nothing when it is repeated, however much later. -/
theorem repeated_request (h₀ : Unopened d₀) (h : PurchaseRun d₀ others d) (hl : Buyer l d)
    (hok : ((call.work actorId visible).exec ⟨l, d, []⟩).1.isOk) (hkeyed : call.IsKeyed)
    (hplain : ¬ call.Escaped)
    (h' : PurchaseRun ((call.work actorId visible).commit l d) others' d')
    (hrep : Repeats call call') (l' : Session) :
    (call'.work actorId' visible').commit l' d' = d' := by
  have hreached := h.reached h₀
  have hwp := wp_work call actorId visible (hreached.books hl) hreached.sound
  have hanswered : call.Answered ((call.work actorId visible).commit l d) :=
    commit_of_ok (R := fun d => call.Answered d) (wp_mono hwp (fun _ _ h => h.2 hkeyed hplain)
      fun _ _ _ => trivial) hok
  have hlater := (h'.later (hreached.request call actorId visible hl).2).1
  refine commit_of_wp (R := (· = d')) (wp_mono (wp_answered (hanswered.later hlater hrep))
    (fun _ s' hs => ?_) fun _ _ _ => rfl)
  rw [hs]

theorem repeated_request_approvedShop :
    ((PurchaseCall.create tenPieces (some "k")).work 7 false).commit (sessionFrom 400)
      approvedShop = approvedShop :=
  repeated_request (d := newShop) unopened_newShop .start buyer_newShop
    (by decide +kernel : ((PurchaseCall.create tenPieces (some "k")).work 0 true |>.exec
      ⟨sessionFrom 100, newShop, []⟩).1.isOk) ⟨"k", by decide +kernel, by simp⟩
    id run_approvedShop (.create tenPieces tenPieces (some "k")) (sessionFrom 400)

end repetition

/-! ### The end of an order -/

section endings

variable {d₀ d : Db} {others : List (Db × Db)} {o : PurchaseOrder}

/-- What an order and its lines name is still there. -/
structure Intact (d : Db) (o : PurchaseOrder) : Prop where
  shown : Showable d o
  skus : ∀ r ∈ itemsOf d o.id, SkuKept d r.skuId

/-- An action that can be taken is taken. -/
lemma Reached.moved (h : Reached d₀ others d)
    (hslack : ∀ t w, 0 ≤ slack d₀ others .inTransit t w) (ho : o ∈ d.purchaseOrders)
    {action : PurchaseAction} (hmovable : Movable d o action) :
    ∃ d', PurchaseRun d [] d' ∧ ∃ o' ∈ d'.purchaseOrders, o'.id = o.id ∧
      Accepted o.status action o'.status := by
  obtain ⟨n, hn⟩ := exists_below d
  have hwp : ((PurchaseCall.transition o.id action).work 0 false).wp
      (fun _ s' => ∃ o' ∈ s'.data.purchaseOrders, o'.id = o.id ∧
        Accepted o.status action o'.status) (fun _ _ => False) ⟨sessionFrom n, d, []⟩ := by
    rw [PurchaseCall.work, Prog.map, wp_bind]
    refine wp_transition (h.books hn.buyer) h.sound
      (fun x hx hid _ status _ s' hacc _ hin => ?_) fun _ _ _ hno => hno hslack o ho rfl hmovable
    rw [h.tables.orders.eq_of_key_eq hx ho hid] at hacc hin
    exact ⟨_, hin, rfl, hacc⟩
  refine ⟨_, .request (.transition o.id action) 0 false (sessionFrom n) .start hn.buyer, ?_⟩
  exact commit_of_wp (R := fun d' => ∃ o' ∈ d'.purchaseOrders, o'.id = o.id ∧
    Accepted o.status action o'.status) (wp_mono hwp (fun _ _ h => h) fun _ _ h => h.elim)

lemma Reached.cancelled (h : Reached d₀ others d) (ho : o ∈ d.purchaseOrders)
    (hintact : Intact d o) (hstatus : o.status ∈ [.draft, .pending, .approved]) :
    Movable d o .cancel := by
  have hzero : total PurchaseOrderItem.receivedQty (itemsOf d o.id) = 0 := by
    refine total_eq_zero fun r hr => ?_
    obtain ⟨hr, hown⟩ := mem_itemsOf.mp hr
    refine ((h.sound.lawful o ho).untouched ?_ r hr hown).1
    simp only [List.mem_cons, List.not_mem_nil, or_false] at hstatus ⊢
    rcases hstatus with hs | hs | hs <;> simp [hs]
  refine ⟨?_, by simp, by simp, fun _ r hr _ => ⟨hintact.skus r hr, hintact.shown.2⟩, hintact.shown⟩
  rw [hzero]
  simp only [List.mem_cons, List.not_mem_nil, or_false] at hstatus
  rcases hstatus with hs | hs | hs <;> rw [hs] <;> rfl

lemma Reached.closed (h : Reached d₀ others d) (ho : o ∈ d.purchaseOrders) (hshown : Showable d o)
    (hstatus : o.status = .received ∨
      o.status = .partially ∧ ∀ r ∈ itemsOf d o.id, r.openQty = 0) : Movable d o .close := by
  refine ⟨?_, fun _ r hr => ?_, by simp, fun hmoves => absurd hmoves (by simp [Moves]), hshown⟩
  · rcases hstatus with hs | ⟨hs, -⟩ <;> rw [hs] <;> rfl
  · rcases hstatus with hs | ⟨-, hzero⟩
    · obtain ⟨hr, hown⟩ := mem_itemsOf.mp hr
      exact (h.sound.lawful o ho).settled (by simp [hs]) r hr hown
    · exact hzero r hr

/-- What is open of an order can be written off. -/
lemma Reached.writtenOff (h : Reached d₀ others d)
    (hslack : ∀ t w, 0 ≤ slack d₀ others .inTransit t w) (ho : o ∈ d.purchaseOrders)
    (hintact : Intact d o) (hstatus : o.status = .partially)
    (hopen : ¬ ∀ r ∈ itemsOf d o.id, r.openQty = 0) :
    ∃ d', PurchaseRun d [] d' ∧ Reached d₀ others d' ∧ ∃ o' ∈ d'.purchaseOrders, o'.id = o.id ∧
      o'.status = .received ∧ Showable d' o' := by
  obtain ⟨n, hn⟩ := exists_below d
  have hbooks := h.books hn.buyer
  let rows := (itemsOf d o.id).filter fun r => r.openQty ≠ 0
  have hmem : ∀ {r : PurchaseOrderItem}, r ∈ rows ↔ r ∈ itemsOf d o.id ∧ r.openQty ≠ 0 := by
    simp [rows]
  let payload : ReceiptCreate :=
    { disposition := .short
      lines := rows.map fun r => ⟨r.id, 0, le_rfl⟩
      lines_ne_nil := by
        intro hnil
        refine hopen fun r hr => ?_
        by_contra hne
        have hin := hmem.mpr ⟨hr, hne⟩
        rw [List.map_eq_nil_iff.mp hnil] at hin
        cases hin }
  have hids : payload.lines.map ReceiptLineWrite.itemId = rows.map PurchaseOrderItem.id := by
    simp [payload, Function.comp_def]
  have hacc : Acceptable d o payload := by
    refine ⟨by simp [openForReceipt, hstatus], ?_, fun line hline => ?_, hintact.shown⟩
    · rw [hids]
      have hsub : (d.purchaseItems.filter fun r => r.purchaseOrderId = o.id).map
          PurchaseOrderItem.id |>.Nodup := h.tables.items.sublist (List.filter_sublist.map _)
      have hperm := (List.perm_insertionSort (fun a b : PurchaseOrderItem => a.id ≤ b.id)
        (d.purchaseItems.filter fun r => r.purchaseOrderId = o.id)).map PurchaseOrderItem.id
      exact (hperm.nodup_iff.mpr hsub).sublist (List.filter_sublist.map _)
    · obtain ⟨r, hr, rfl⟩ := List.mem_map.mp hline
      obtain ⟨hin, hne⟩ := hmem.mp hr
      exact ⟨r, hin, rfl, ⟨hintact.skus r hin, hintact.shown.2⟩,
        lt_of_le_of_ne (openQty_nonneg _ _ _) (Ne.symm hne)⟩
  let R (d' : Db) : Prop := Reached d₀ others d' ∧ OrderStep d d' ∧ Framed d d' ∧
    ∃ o' ∈ d'.purchaseOrders, o'.id = o.id ∧ o'.status = .received
  have hwp : ((PurchaseCall.receive o.id payload none).work 0 false).wp (fun _ s' => R s'.data)
      (fun _ _ => False) ⟨sessionFrom n, d, []⟩ := by
    rw [PurchaseCall.work, Prog.map, wp_bind]
    refine wp_receive_new cleaned_none (.inl rfl) (wp_receiveNow hbooks h.sound
      (.inl rfl) (fun x hx hid _ _ s' hleft _ hoff => ?_) fun _ _ _ hno => hno hslack o ho rfl hacc)
    obtain rfl := h.tables.orders.eq_of_key_eq hx ho hid
    refine ⟨⟨hleft.books.ready.shelf, hleft.books.tables, hleft.sound, hleft.books.balance⟩,
      hleft.step, hleft.frame, hoff ⟨rfl, fun r hr hne => ?_⟩⟩
    rw [hids]
    exact List.mem_map_of_mem (hmem.mpr ⟨hr, hne⟩)
  obtain ⟨hreached, hstep, hframe, o', ho', hid, hreceived⟩ := commit_of_wp (R := R)
    (wp_mono hwp (fun _ _ h => h) fun _ _ h => h.elim)
  refine ⟨_, .request (.receive o.id payload none) 0 false (sessionFrom n) .start hn.buyer,
    hreached, o', ho', hid, hreceived, ?_⟩
  -- the order names what it named, and that is still there
  obtain ⟨x, hx, hbecomes⟩ := hstep.orders o ho
  rw [hreached.tables.orders.eq_of_key_eq ho' hx (hid.trans hbecomes.id.symm)]
  unfold Framed at hframe
  unfold Showable SupplierKept WarehouseKept
  rw [hframe, hbecomes.supplierId, hbecomes.warehouseId]
  exact hintact.shown

end endings

end Purchasing

end CrossPilot
