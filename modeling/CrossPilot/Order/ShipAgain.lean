import CrossPilot.Order.Returns

/-!
# Shipping again

An order that could not be shipped may be shipped again, in as many batches as it takes. The
platform is told before the order is moved, behind the same savepoint: where the local steps fail
after that, or where the whole transaction is lost, the order is still paid, and the next batch
tells the platform a second time. If nothing fails once a platform has taken a number, no order is
told of twice (`Shipping.told_once`). A line that fails leaves everything but the shipment as it is in
any case (`Shipping.fit_and_left`).
-/

namespace CrossPilot

open Transaction Table Prog

/-! ### Batches -/

/-- One line of a batch: whether the platform has taken its number, and the data around it. -/
structure Told where
  line : ShipLine
  taken : Bool
  before : Db
  after : Db

/-- `run_ship_batch`, with what the platform is told. -/
def tellBatch (fault : ℕ → Fault) (dispatch : Dispatch) : List ℕ → Work (List Told)
  | [] => return []
  | orderId :: rest => do
    let before ← .select id
    let (line, taken) ← shipOneTold (fault orderId) dispatch orderId
    let after ← .select id
    return ⟨line, taken, before, after⟩ :: (← tellBatch fault dispatch rest)

/-- A request to ship a batch of orders, and where the database breaks off: in the local steps of an
order, or when the transaction is committed. -/
structure ShipRequest where
  dispatch : Dispatch
  orderIds : List ℕ
  fault : ℕ → Fault
  lost : Bool

namespace ShipRequest

/-- What the request sends its orders with. -/
def sent (r : ShipRequest) : Dispatch :=
  { r.dispatch with carrier := Text.strip r.dispatch.carrier }

/-- `batch_ship`. -/
def work (r : ShipRequest) : Work (List Told) := do
  let unique := dedupeIds r.orderIds
  checkBatchSize unique.length
  if r.sent.carrier = "" then raise (.paramInvalid "请填写承运商")
  else tellBatch r.fault r.sent unique

/-- What has been told, and what is in the database afterwards. A request that is refused has told
nobody anything. -/
def run (r : ShipRequest) (l : Session) (d : Db) : List Told × Db :=
  match r.work.exec ⟨l, d, []⟩ with
  | (.ok told, s) => (told, if r.lost then d else s.data)
  | (.error _, _) => ([], d)

end ShipRequest

/-- Keeping a record changes nothing. -/
lemma exec_tellBatch (dispatch : Dispatch) (orderIds : List ℕ) (s : WorkState) :
    ((tellBatch (fun _ => none) dispatch orderIds).map (List.map Told.line)).exec s =
      (runShipBatch dispatch orderIds).exec s := by
  induction orderIds generalizing s with
  | nil => rfl
  | cons orderId rest ih =>
    rw [runShipBatch, ← map_shipOneTold]
    simp only [tellBatch, Prog.map, bind_eq, pure_eq, bind_assoc, exec_bind]
    have hread : ∀ s : WorkState, (Prog.select id : Work Db).exec s = (.ok s.data, s) := fun _ => rfl
    simp only [hread, exec_ret]
    cases (shipOneTold none dispatch orderId).exec s with
    | mk answer s₁ =>
      cases answer with
      | error e => rfl
      | ok told =>
        have ih₁ := ih s₁
        rw [Prog.map, exec_bind] at ih₁
        dsimp only
        rw [← ih₁]
        cases (tellBatch (fun _ => none) dispatch rest).exec s₁ with
        | mk answer s₂ => cases answer <;> rfl

/-! ### What becomes of one order -/

/-- The order is past shipping. -/
def Gone (d : Db) (orderId : ℕ) : Prop :=
  ∃ o ∈ d.orders, o.id = orderId ∧ o.unifiedStatus ∉ [UnifiedStatus.pending, .paid]

/-- A failed line leaves everything but the shipments as it was. -/
def Told.Left (t : Told) : Prop :=
  t.line.ok = false → t.after = { t.before with shipments := t.after.shipments }

section tell

variable {c : ℕ → ℕ → ℤ} {d d' : Db} {s s' : WorkState} {r : ShipRequest} {orderId : ℕ}

lemma follows_gone : ∀ current next, Follows current next →
    current ∉ [UnifiedStatus.pending, .paid] → next ∉ [UnifiedStatus.pending, .paid] := by
  rintro current next (rfl | ⟨source, hallowed⟩)
  · exact id
  · revert hallowed
    cases source <;> cases current <;> cases next <;> decide

lemma Gone.progress (h : Gone d orderId) (hp : Progress d d') : Gone d' orderId := by
  obtain ⟨o, ho, hid, hst⟩ := h
  obtain ⟨o', ho', hid'⟩ := hp.kept o ho
  exact ⟨o', ho', hid'.trans hid, follows_gone _ _ (hp.follows o ho o' ho' hid') hst⟩

/-- What one order of a batch does. -/
structure TellStep (c : ℕ → ℕ → ℤ) (r : ShipRequest) (orderId : ℕ) (s : WorkState) (t : Told)
    (s' : WorkState) : Prop where
  order : t.line.orderId = orderId
  books : Books c s'
  ordersWf : OrdersWf s'.data
  gone : ∀ id, Gone s.data id → Gone s'.data id
  released : ∀ id, HasReleased s'.data id → HasReleased s.data id
  left : t.Left
  takes : t.taken = true → r.sent.Takes orderId
  taken : t.taken = true → ¬Gone s.data orderId ∧ Gone s'.data orderId ∨
    r.fault orderId ≠ none ∨ HasReleased s.data orderId

/-- Shipping releases nothing. -/
lemma ShippedByHand.released {held row : SalesOrder} {s₁ : WorkState}
    (h : ShippedByHand held row s s₁ s') {id : ℕ} (hreleased : HasReleased s'.data id) :
    HasReleased s.data id := by
  obtain ⟨item, hi, ho, hres, hold, hh, hitem, hst⟩ := hreleased
  have hitems : s'.data.items = s.data.items := h.steps.items.trans h.placed.items
  refine ⟨item, hitems ▸ hi, ho, hres, hold, ?_, hitem, hst⟩
  rcases h.steps.mem hh with hmem | ⟨_, hstep⟩
  · exact h.placed.holds ▸ hmem
  · rw [hstep.status] at hst
    cases hst

/-- A paid order is not past shipping. -/
lemma not_gone (hw : OrdersWf d) {held : SalesOrder} (hmem : held ∈ d.orders)
    (hid : held.id = orderId) (hpaid : held.unifiedStatus = .paid) : ¬Gone d orderId := by
  rintro ⟨o, ho, hoid, hst⟩
  rw [hw.ids.eq_of_key_eq ho hmem (hoid.trans hid.symm), hpaid] at hst
  exact hst (by decide)

/-- One order of a batch is shipped, or left as it is. -/
theorem wp_tell (hb : Books c s) (hw : OrdersWf s.data) :
    (shipOneTold (r.fault orderId) r.sent orderId).wp
      (fun told s' => TellStep c r orderId s ⟨told.1, told.2, s.data, s'.data⟩ s')
      (fun _ _ => False) s := by
  refine wp_shipOneTold hb hw (fun line told s' h => ?_) ?_
  · have horders : s'.data.orders = s.data.orders := by rw [h.frame]
    have hitems : s'.data.items = s.data.items := by rw [h.frame]
    have hholds : s'.data.holds = s.data.holds := by rw [h.frame]
    refine ⟨h.order, h.books c hb, ⟨horders ▸ hw.ids, horders ▸ hw.keys⟩, fun id hg => ?_,
      fun id hr => ?_, fun _ => h.frame, h.taken, fun htold => .inr (h.broken htold)⟩
    · rw [Gone, horders]
      exact hg
    · rw [HasReleased, hitems, hholds] at hr
      exact hr
  · intro held hmem hid hpaid htakes row s₁ s₂ line s' hs hdata hbooks hline hok
    have hw₁ := hs.placed.ordersWf hw hmem hs.id hs.key
    have horders : s'.data.orders = put SalesOrder.id row s.data.orders := by
      rw [hdata, hs.steps.frame]
      exact hs.placed.orders
    have hsame : s'.data.orders = s₁.data.orders := horders.trans hs.placed.orders.symm
    have hprog : Progress s.data s'.data := by
      refine .of_put hw.ids horders fun o ho hrow => ?_
      rw [hw.ids.eq_of_key_eq ho hmem (hrow.symm.trans hs.id), hpaid, hs.status]
      exact .inr ⟨.manual, by decide⟩
    refine ⟨hline, hbooks c hb, ⟨hsame ▸ hw₁.ids, hsame ▸ hw₁.keys⟩, fun id hg => hg.progress hprog,
      fun id hr => hs.released (hdata ▸ hr), fun hfailed => ?_, fun _ => htakes, fun _ => .inl ⟨?_, ?_⟩⟩
    · rw [hok] at hfailed
      cases hfailed
    · exact not_gone hw hmem hid hpaid
    · refine ⟨row, horders ▸ mem_put.mpr (.inl rfl), hs.id.trans hid, ?_⟩
      rw [hs.status]
      decide

end tell

/-! ### Runs -/

/-- How often a platform has taken a number of the order. -/
def timesTold (told : List Told) (orderId : ℕ) : ℕ :=
  told.countP fun t => t.taken && t.line.orderId = orderId

/-- No order is told of twice, and a failed line leaves its order alone. -/
structure ShippedOnce (told : List Told) : Prop where
  once : ∀ orderId, timesTold told orderId ≤ 1
  left : ∀ t ∈ told, t.Left

/-- Nothing goes wrong once a platform has taken a number: the database does not break off, no stock
of the order has been released before, and the transaction is not lost. -/
def ShipRequest.Safe (r : ShipRequest) (d : Db) : Prop :=
  ∀ orderId ∈ r.orderIds, r.sent.Takes orderId →
    r.fault orderId = none ∧ ¬HasReleased d orderId ∧ r.lost = false

/-- Only the requests to ship a batch tell a platform of a shipment. -/
def Move.Quiet (m : Move) : Prop := ∀ dispatch orderId, m ≠ .ship dispatch orderId

/-- Batches are shipped one after the other, in any number and with any orders, and other moves are
made in between. Every request meets a condition in the state it finds. -/
inductive Shipping (cond : ShipRequest → Db → Prop) (d₀ : Db) : List Told → Db → Prop
  | start : Shipping cond d₀ [] d₀
  | request {told : List Told} {d : Db} (r : ShipRequest) (l : Session) :
    Shipping cond d₀ told d → Worker d l → cond r d →
      Shipping cond d₀ (told ++ (r.run l d).1) (r.run l d).2
  | move {told : List Told} {d : Db} (m : Move) (l : Session) : Shipping cond d₀ told d →
    Worker d l → m.Quiet → Shipping cond d₀ told (m.work.commit l d)

/-- What holds after a part of a batch. -/
structure Batch (c : ℕ → ℕ → ℤ) (r : ShipRequest) (d : Db) (told : List Told) (s : WorkState) :
    Prop where
  books : Books c s
  ordersWf : OrdersWf s.data
  gone : ∀ id, Gone d id → Gone s.data id
  released : ∀ id, HasReleased s.data id → HasReleased d id
  left : ∀ t ∈ told, t.Left
  takes : ∀ t ∈ told, t.taken = true → t.line.orderId ∈ r.orderIds ∧ r.sent.Takes t.line.orderId
  once : r.Safe d → ∀ id, timesTold told id = 0 ∨
    timesTold told id = 1 ∧ ¬Gone d id ∧ Gone s.data id

lemma timesTold_append (told told' : List Told) (orderId : ℕ) :
    timesTold (told ++ told') orderId = timesTold told orderId + timesTold told' orderId :=
  List.countP_append

section runs

variable {c : ℕ → ℕ → ℤ} {d d₀ : Db} {l : Session} {s s' : WorkState} {r : ShipRequest}
  {told : List Told} {orderId : ℕ}

lemma timesTold_singleton (t : Told) (orderId : ℕ) :
    timesTold [t] orderId = if t.taken = true ∧ t.line.orderId = orderId then 1 else 0 := by
  simp [timesTold, List.countP_cons]

/-- One more order. -/
lemma Batch.step (h : Batch c r d told s) (horder : orderId ∈ r.orderIds) {t : Told}
    (ht : TellStep c r orderId s t s') : Batch c r d (told ++ [t]) s' := by
  refine ⟨ht.books, ht.ordersWf, fun id hg => ht.gone id (h.gone id hg),
    fun id hr => h.released id (ht.released id hr), fun x hx => ?_, fun x hx => ?_, fun hsafe id => ?_⟩
  · rcases List.mem_append.mp hx with hx | hx
    · exact h.left x hx
    · rw [List.mem_singleton.mp hx]
      exact ht.left
  · rcases List.mem_append.mp hx with hx | hx
    · exact h.takes x hx
    · rw [List.mem_singleton.mp hx, ht.order]
      exact fun htaken => ⟨horder, ht.takes htaken⟩
  · rw [timesTold_append, timesTold_singleton, ht.order]
    by_cases hthis : t.taken = true ∧ orderId = id
    · obtain ⟨htaken, rfl⟩ := hthis
      obtain ⟨hfault, hreleased, -⟩ := hsafe orderId horder (ht.takes htaken)
      have hgone : ¬Gone s.data orderId ∧ Gone s'.data orderId := by
        rcases ht.taken htaken with hgone | hbroken | hbroken
        · exact hgone
        · exact absurd hfault hbroken
        · exact absurd (h.released orderId hbroken) hreleased
      have hzero : timesTold told orderId = 0 := by
        rcases h.once hsafe orderId with hzero | ⟨-, -, hbefore⟩
        · exact hzero
        · exact absurd hbefore hgone.1
      rw [if_pos ⟨htaken, rfl⟩, hzero]
      exact .inr ⟨rfl, fun hd => hgone.1 (h.gone orderId hd), hgone.2⟩
    · rw [if_neg hthis, Nat.add_zero]
      rcases h.once hsafe id with hzero | ⟨hone, hd, hs⟩
      · exact .inl hzero
      · exact .inr ⟨hone, hd, ht.gone id hs⟩

lemma wp_tellBatch {orderIds : List ℕ} (h : Batch c r d told s)
    (hsub : ∀ orderId ∈ orderIds, orderId ∈ r.orderIds) :
    (tellBatch r.fault r.sent orderIds).wp (fun told' s' => Batch c r d (told ++ told') s')
      (fun _ _ => False) s := by
  induction orderIds generalizing told s with
  | nil =>
    rw [tellBatch, pure_eq, wp_ret, List.append_nil]
    exact h
  | cons orderId rest ih =>
    simp only [tellBatch, bind_eq, wp_bind, wp_select, id]
    refine wp_mono (wp_tell h.books h.ordersWf) (fun answer s' ht => ?_) fun _ _ h => h
    obtain ⟨line, taken⟩ := answer
    dsimp only
    have hstep := h.step (hsub orderId List.mem_cons_self) ht
    refine wp_mono (ih hstep fun id hid => hsub id (List.mem_cons_of_mem _ hid))
      (fun told' s'' hrest => ?_) fun _ _ h => h
    rw [pure_eq, wp_ret, List.append_cons]
    exact hrest

/-- A request is refused, or it is a batch, whose work may be lost. -/
lemma ShipRequest.run_cases (hfit : Fit c d) (hl : Worker d l) :
    r.run l d = ([], d) ∨ ∃ told s, Batch c r d told s ∧
      r.run l d = (told, if r.lost then d else s.data) := by
  have hstart : Batch c r d [] ⟨l, d, []⟩ :=
    ⟨hfit.inBooks.books hl, hfit.ordersWf, fun _ h => h, fun _ h => h,
      fun _ h => absurd h List.not_mem_nil, fun _ h => absurd h List.not_mem_nil, fun _ _ => .inl rfl⟩
  have hwork : r.work.wp (fun told s => Batch c r d told s) (fun _ _ => True) ⟨l, d, []⟩ := by
    unfold ShipRequest.work checkBatchSize
    simp only [bind_eq, wp_bind]
    split
    · trivial
    split
    · trivial
    rw [pure_eq, wp_ret]
    split
    · trivial
    · refine wp_mono (wp_tellBatch hstart fun id hid => ?_) (fun _ _ h => h) fun _ _ _ => trivial
      exact List.mem_eraseDups.mp hid
  unfold Prog.wp at hwork
  unfold ShipRequest.run
  cases hexec : r.work.exec ⟨l, d, []⟩ with
  | mk answer s =>
    rw [hexec] at hwork
    cases answer with
    | error e => exact .inl rfl
    | ok told => exact .inr ⟨told, s, hwork, rfl⟩

/-- A failed line leaves everything but the shipments as it was, whatever goes wrong. -/
lemma Shipping.fit_and_left {cond : ShipRequest → Db → Prop} (hfit : Fit c d₀)
    (hrun : Shipping cond d₀ told d) : Fit c d ∧ ∀ t ∈ told, t.Left := by
  induction hrun with
  | start => exact ⟨hfit, fun _ h => absurd h List.not_mem_nil⟩
  | request r l _ hl _ ih =>
    obtain ⟨hfit, hleft⟩ := ih
    rcases r.run_cases hfit hl with hsame | ⟨told', s, hbatch, hrun⟩
    · rw [hsame, List.append_nil]
      exact ⟨hfit, hleft⟩
    · rw [hrun]
      refine ⟨?_, fun t ht => ?_⟩
      · by_cases hlost : r.lost
        · rw [if_pos hlost]
          exact hfit
        · rw [if_neg hlost]
          exact ⟨hbatch.books.inBooks, hbatch.ordersWf⟩
      · rcases List.mem_append.mp ht with ht | ht
        · exact hleft t ht
        · exact hbatch.left t ht
  | move m l _ hl _ ih => exact ⟨(ih.1.move hl m).1, ih.2⟩

/-- Where nothing goes wrong once a platform has taken a number, every order is told of at most
once, in any number of batches. -/
theorem Shipping.told_once (hbooks : InBooks c d₀) (hw : OrdersWf d₀)
    (hrun : Shipping ShipRequest.Safe d₀ told d) : ShippedOnce told := by
  have hfit : Fit c d₀ := ⟨hbooks, hw⟩
  have honce : ∀ id, timesTold told id = 0 ∨ timesTold told id = 1 ∧ Gone d id := by
    induction hrun with
    | start => exact fun _ => .inl rfl
    | @request told d r l hrun hl hsafe ih =>
      rcases r.run_cases (hrun.fit_and_left hfit).1 hl with hsame | ⟨told', s, hbatch, hrun'⟩
      · rw [hsame, List.append_nil]
        exact ih
      intro id
      rw [hrun', timesTold_append]
      -- what has been told is kept
      have hkept : ∀ t ∈ told', t.taken = true → r.lost = false := fun t ht htaken =>
        have htakes := hbatch.takes t ht htaken
        (hsafe _ htakes.1 htakes.2).2.2
      have hgone : Gone d id → Gone (if r.lost then d else s.data) id := by
        intro hd
        by_cases hlost : r.lost
        · rwa [if_pos hlost]
        · rw [if_neg hlost]
          exact hbatch.gone id hd
      rcases hbatch.once hsafe id with hzero | ⟨hone, hnot, hs⟩
      · rw [hzero, Nat.add_zero]
        exact (ih id).imp (fun h => h) fun h => ⟨h.1, hgone h.2⟩
      · have hbefore : timesTold told id = 0 := (ih id).resolve_right fun h => hnot h.2
        have hlost : r.lost = false := by
          obtain ⟨t, ht, htaken⟩ := List.countP_pos_iff.mp (hone ▸ Nat.one_pos)
          exact hkept t ht (Bool.and_eq_true_iff.mp htaken).1
        rw [hbefore, hone, hlost]
        exact .inr ⟨rfl, hs⟩
    | move m l hrun hl _ ih =>
      intro id
      have hprog := ((hrun.fit_and_left hfit).1.move hl m).2
      exact (ih id).imp (fun h => h) fun h => ⟨h.1, h.2.progress hprog⟩
  refine ⟨fun id => ?_, (hrun.fit_and_left hfit).2⟩
  rcases honce id with hzero | ⟨hone, -⟩
  · rw [hzero]
    exact Nat.zero_le 1
  · exact hone.le

end runs

/-- A request to ship the order of `quietShop`. -/
def shipSix (answer : Except ServiceError Unit) (fault : Fault) : ShipRequest :=
  ⟨⟨fun _ _ _ => answer, "UPS", 9, 5⟩, [6], fun _ => fault, false⟩

/-- The platform refuses the order. -/
def refusedShip : ShipRequest := shipSix (.error (.adapter "down")) none

def plainShip : ShipRequest := shipSix (.ok ()) none

/-- Others keep changing the balance, until the local steps give up. -/
def brokenShip : ShipRequest := shipSix (.ok ()) (some (15, .inventoryConflict))

def refusedShop : Db := (refusedShip.run (newWorker 100) quietShop).2

def brokenShop : Db := (brokenShip.run (newWorker 100) quietShop).2

/-- An order that its platform has refused is shipped by the next batch. -/
theorem told_once_refusedShop :
    let told := (refusedShip.run (newWorker 100) quietShop).1 ++
      (plainShip.run (newWorker 200) refusedShop).1
    told.map (fun t => (t.taken, t.line.ok)) = [(false, false), (true, true)] ∧
      ShippedOnce told := by
  refine ⟨by decide +kernel, ?_⟩
  have hrefused : Shipping ShipRequest.Safe quietShop _ refusedShop :=
    .request refusedShip (newWorker 100) .start (worker_newWorker (by decide)) fun _ _ htakes => by
      obtain ⟨_, _, _, hok⟩ := htakes
      cases hok
  refine Shipping.told_once inBooks_quietShop ⟨by decide, by decide⟩
    (.request plainShip (newWorker 200) hrefused (worker_newWorker (by decide +kernel))
      fun _ _ _ => ⟨rfl, ?_, rfl⟩)
  -- the hold of the order is still open
  rintro ⟨_, _, _, _, hold, hh, _, hst⟩
  have hholds : ∀ hold ∈ refusedShop.holds, hold.status = .opened := by decide +kernel
  rw [hholds hold hh] at hst
  cases hst

/-- An order is told of twice: the platform has taken its number before the local steps fail. -/
theorem not_told_once_brokenShop :
    ∃ told d, Shipping (fun _ _ => True) quietShop told d ∧
      told.map (fun t => (t.line.orderId, t.taken, t.line.ok)) = [(6, true, false), (6, true, true)] ∧
      ¬ShippedOnce told := by
  have hbroken : Shipping (fun _ _ => True) quietShop _ brokenShop :=
    .request brokenShip (newWorker 100) .start (worker_newWorker (by decide)) trivial
  refine ⟨_, _, .request plainShip (newWorker 200) hbroken (worker_newWorker (by decide +kernel))
    trivial, by decide +kernel, fun h => ?_⟩
  have htwice := h.once 6
  revert htwice
  decide +kernel

end CrossPilot
