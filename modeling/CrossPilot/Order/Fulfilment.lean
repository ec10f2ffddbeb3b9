import CrossPilot.Order.Matching
import CrossPilot.Order.StockStep

/-!
# From payment to shipping

The snapshots of one order are ingested one after the other: while it is unpaid or paid, and then
as shipped. The stock reserved on payment should be what is shipped in the end. But every snapshot
that is stored gives the order new lines, and shipping looks for the holds of the current lines. It
finds none, ships from the free stock, and leaves the stock reserved for the order occupied. So the
stock of the order is settled exactly if nothing was held for it when the first snapshot said
`shipped` (`settled_iff`).
-/

namespace CrossPilot

open Transaction Table Prog

/-! ### Runs -/

/-- The statuses up to shipping. -/
def UnifiedStatus.uptoShipped : List UnifiedStatus := [.pending, .paid, .shipped]

/-- The snapshots are ingested one after the other, each in a transaction of its own. -/
inductive Ingests (intake : Intake) : Db → List UnifiedOrder → Db → Prop
  | nil {d : Db} : Ingests intake d [] d
  | cons {d d' : Db} {order : UnifiedOrder} {rest : List UnifiedOrder} (l : Session) :
    Worker d l → Ingests intake ((ingestOrder intake order).commit l d) rest d' →
    Ingests intake d (order :: rest) d'

/-- The id is that of the order with the key, or could be once there is one. -/
def IsOrder (d : Db) (key : String) (orderId : ℕ) : Prop :=
  (∃ o ∈ d.orders, o.idempotencyKey = key ∧ o.id = orderId) ∨
    (∀ o ∈ d.orders, o.idempotencyKey ≠ key) ∧ ¬ Uses d orderId

/-- What has become of the stock in a run from `d₀` that moves nothing but one order. -/
structure Accounts (c : ℕ → ℕ → ℤ) (d₀ d : Db) (orderId : ℕ) : Prop where
  inBooks : InBooks c d
  others : d.holds.filter (fun h => h.orderId ≠ orderId) = d₀.holds
  kept : ∀ t w, balanceAt d .available t w + heldIn .shipped d t w =
    balanceAt d₀ .available t w + heldIn .shipped d₀ t w
  own : ∀ h ∈ d.holds, h.orderId = orderId → h.status ≠ .released

/-- A run from `d₀`, where the order did not exist, has come to `d`. -/
structure Tracked (c : ℕ → ℕ → ℤ) (d₀ d : Db) (key : String) : Prop where
  ordersWf : OrdersWf d
  inBooks : InBooks c d
  accounts : ∀ orderId, IsOrder d key orderId → Accounts c d₀ d orderId

section runs

variable {c : ℕ → ℕ → ℤ} {d₀ d : Db} {key : String} {intake : Intake} {order : UnifiedOrder}
  {row : SalesOrder} {s s' s'' : WorkState} {orderId : ℕ}

lemma Tracked.start (hd : InBooks c d₀) (hw : OrdersWf d₀)
    (hnone : ∀ o ∈ d₀.orders, o.idempotencyKey ≠ key) : Tracked c d₀ d₀ key := by
  refine ⟨hw, hd, fun orderId hid => ?_⟩
  rcases hid with ⟨o, ho, hk, -⟩ | ⟨-, hun⟩
  · exact absurd hk (hnone o ho)
  · have hne : ∀ h ∈ d₀.holds, h.orderId ≠ orderId := fun h hh heq =>
      hun (.hold hh (.inr (.inr heq.symm)))
    exact ⟨hd, List.filter_eq_self.mpr fun h hh => by simpa using hne h hh, fun _ _ => rfl,
      fun h hh heq => absurd heq (hne h hh)⟩

/-- The row of a snapshot that has been stored is the order's. -/
lemma Ingested.isOrder (hi : Ingested intake order key row s s') : IsOrder s.data key row.id := by
  by_cases h : ∃ o ∈ s.data.orders, o.idempotencyKey = key
  · obtain ⟨o, ho, hk⟩ := h
    exact .inl ⟨o, ho, hk, (hi.found o ho hk).1⟩
  · have hnone : ∀ o ∈ s.data.orders, o.idempotencyKey ≠ key := fun o ho hk => h ⟨o, ho, hk⟩
    exact .inr ⟨hnone, hi.new hnone⟩

/-- Storing a snapshot and moving its holds keeps the accounts. -/
lemma Accounts.advance (ha : Accounts c d₀ s.data row.id) (hb : Books c s)
    (hi : Ingested intake order key row s s')
    (hs : HoldSteps (fun _ => LineStep s'.data row.id) s' s'') :
    Accounts c d₀ s''.data row.id := by
  have hb' := hi.books c hb
  refine ⟨(hs.books hb').inBooks, ?_, fun t w => ?_, fun h hh ho => ?_⟩
  · rw [hs.others hb' fun _ _ hP => hP.order, hi.holds]
    exact ha.others
  · rw [hs.shipped hb', ← ha.kept t w]
    unfold balanceAt heldIn
    rw [hi.inventories, hi.holds]
  · rcases hs.mem hh with hin | ⟨-, hP⟩
    · rw [hi.holds] at hin
      exact ha.own h hin ho
    · exact hP.status

/-- What one snapshot on the way up to shipping does to a tracked order. -/
structure Advanced (c : ℕ → ℕ → ℤ) (intake : Intake) (order : UnifiedOrder) (key : String)
    (d₀ d d' : Db) (row : SalesOrder) : Prop where
  tracked : Tracked c d₀ d' key
  mem : row ∈ d'.orders
  rowKey : row.idempotencyKey = key
  updatedAt : row.platformUpdatedAt = some order.updatedAt
  status : row.unifiedStatus = (decisionOn intake order key d).toStatus
  found : ∀ o ∈ d.orders, o.idempotencyKey = key → o.id = row.id
  new : (∀ o ∈ d.orders, o.idempotencyKey ≠ key) → ¬ Uses d row.id
  holds : ∀ h ∈ d.holds, h ∈ d'.holds
  opened : (decisionOn intake order key d).toStatus = .shipped →
    NoneOpen d row.id → NoneOpen d' row.id

/-- The next snapshot of an order that moves forward. -/
theorem Tracked.ingest (ht : Tracked c d₀ d key) {l : Session} (hl : Worker d l)
    (hkey : order.key intake.shop = some key)
    (hnewer : ∀ o ∈ d.orders, o.idempotencyKey = key → ¬ UpToDate o order)
    (hto : (decisionOn intake order key d).toStatus ∈ UnifiedStatus.uptoShipped) :
    ∃ row, Advanced c intake order key d₀ d ((ingestOrder intake order).commit l d) row := by
  have hb := ht.inBooks.books hl
  refine commit_of_wp (R := fun d' => ∃ row, Advanced c intake order key d₀ d d' row)
    (wp_ingestOrder hl.fresh ht.ordersWf hkey ?_ ?_)
  · intro o ho hk hup
    exact absurd hup (hnewer o ho hk)
  intro row s' action hi _
  have hacc := ht.accounts row.id hi.isOrder
  have hb' := hi.books c hb
  have hcancel : (decisionOn intake order key d).toStatus ≠ .cancelled := by
    intro heq
    rw [heq] at hto
    exact absurd hto (by decide)
  refine wp_stockStep_forward hb' (fun i hi' ho h hh => ?_) hcancel fun s'' hs hopen => ?_
  · rw [hi.holds] at hh
    exact hi.fresh i hi' ho h hh
  have horders : s''.data.orders = s'.data.orders := by rw [hs.frame]
  have hb'' := hs.books hb'
  have hmem : row ∈ s''.data.orders := horders ▸ hi.mem_orders
  have hw'' : OrdersWf s''.data := ⟨horders ▸ hi.ordersWf.ids, horders ▸ hi.ordersWf.keys⟩
  refine ⟨row, ⟨hw'', hb''.inBooks, fun orderId hid => ?_⟩, hmem, hi.rowKey, hi.updatedAt, hi.status,
    fun o ho hk => (hi.found o ho hk).1, hi.new, fun h hh => ?_, fun hsh hnone h hh ho hst => ?_⟩
  · rcases hid with ⟨o, ho, hk, rfl⟩ | ⟨hno, -⟩
    · rw [hw''.keys.eq_of_key_eq ho hmem (hk.trans hi.rowKey.symm)]
      exact hacc.advance hb hi (hs.mono fun _ _ hP => hP.1)
    · exact absurd hi.rowKey (hno row hmem)
  · refine hs.mem_of_forall_ne (hi.holds.symm ▸ hh) ?_
    rintro _ h' ⟨⟨-, -, item, hitem, hid, ho, -⟩, -⟩ heq
    exact hi.fresh item hitem ho h hh (heq.symm.trans hid.symm)
  · have hin := hopen (hsh ▸ by decide) h hh hst
    rw [hi.holds] at hin
    exact hnone h hin ho hst

/-! ### The two ends -/

/-- The stock of an order that did not exist in `d₀` is settled: nothing is held for it, nothing is
occupied, and what has left the warehouses is what its holds took from them. -/
structure Settled (d₀ d : Db) (orderId : ℕ) : Prop where
  noneOpen : NoneOpen d orderId
  occupied : ∀ t w, balanceAt d .occupied t w = balanceAt d₀ .occupied t w
  drop : ∀ t w, balanceAt d₀ .available t w - balanceAt d .available t w =
    total (fun h => if h.skuId = t then allocatedAt h.allocations w else 0)
      (d.holds.filter fun h => h.orderId = orderId)

/-- The accounts of an order are settled exactly if none of its holds is open. -/
lemma Accounts.settled_iff_noneOpen (ha : Accounts c d₀ d orderId) (h₀ : InBooks c d₀) :
    Settled d₀ d orderId ↔ NoneOpen d orderId := by
  refine ⟨fun h => h.noneOpen, fun hnone => ⟨hnone, fun t w => ?_, fun t w => ?_⟩⟩
  · have hsplit := heldBy_add_others .opened d orderId t w
    rw [heldBy_eq_zero hnone, ha.others, zero_add] at hsplit
    rw [ha.inBooks.occupied, h₀.occupied, ← hsplit]
    rfl
  · have hsplit := heldBy_add_others .shipped d orderId t w
    rw [ha.others] at hsplit
    have hkept := ha.kept t w
    have hown : heldBy .shipped d orderId t w =
        total (fun h => if h.skuId = t then allocatedAt h.allocations w else 0)
          (d.holds.filter fun h => h.orderId = orderId) := by
      apply total_congr
      intro h hh
      obtain ⟨hin, ho⟩ := List.mem_filter.mp hh
      have ho : h.orderId = orderId := by simpa using ho
      unfold InventoryHold.part
      cases hst : h.status with
      | opened => exact absurd hst (hnone h hin ho)
      | released => exact absurd hst (ha.own h hin ho)
      | shipped => simp
      | short => simp [ha.inBooks.wf.short h hin hst, allocatedAt]
    rw [← hown]
    unfold heldIn at hkept hsplit
    linarith

/-- A snapshot leaves an order in the status it is mapped to, or in the one it had. -/
lemma decisionOn_toStatus_or {target : UnifiedStatus}
    (htarget : resolveTarget order.platformStatus intake.table = some target) :
    (decisionOn intake order key d).toStatus = target ∨ ∃ o ∈ d.orders, o.idempotencyKey = key ∧
      o.unifiedStatus = (decisionOn intake order key d).toStatus := by
  rw [decisionOn, Intake.resolve, htarget]
  cases hfind : d.orders.find? fun o => o.idempotencyKey = key with
  | none => exact .inl (by simp)
  | some o =>
    rcases decideStatus_toStatus_or (some o.unifiedStatus) target intake.source with heq | heq
    · exact .inl heq
    · exact .inr ⟨o, List.mem_of_find?_eq_some hfind, by simpa using List.find?_some hfind,
        Option.some.inj heq⟩

/-- An order that is not shipped yet is shipped by a snapshot that says so. -/
lemma decisionOn_shipped
    (hst : ∀ o ∈ d.orders, o.idempotencyKey = key →
      o.unifiedStatus ∈ [UnifiedStatus.pending, .paid])
    (htarget : resolveTarget order.platformStatus intake.table = some .shipped)
    (hsource : intake.source ≠ .manual) :
    (decisionOn intake order key d).toStatus = .shipped := by
  rw [decisionOn, Intake.resolve, htarget]
  cases hfind : d.orders.find? fun o => o.idempotencyKey = key with
  | none => rfl
  | some o =>
    have hmem := hst o (List.mem_of_find?_eq_some hfind) (by simpa using List.find?_some hfind)
    simp only [List.mem_cons, List.not_mem_nil, or_false] at hmem
    simp only [Option.map_some]
    rcases hmem with heq | heq
    · rw [heq]
      cases hs : intake.source with
      | manual => exact absurd hs hsource
      | system => rfl
      | webhook => rfl
    · rw [heq]
      cases hs : intake.source with
      | manual => exact absurd hs hsource
      | system => rfl
      | webhook => rfl

/-- There is one row for the key. -/
lemma Advanced.eq_row {d' : Db} (h : Advanced c intake order key d₀ d d' row) {o : SalesOrder}
    (ho : o ∈ d'.orders) (hk : o.idempotencyKey = key) : o = row :=
  h.tracked.ordersWf.keys.eq_of_key_eq ho h.mem (hk.trans h.rowKey.symm)

/-- What has been stored is older than what is newer than the snapshot. -/
lemma Advanced.not_upToDate {d' : Db} (h : Advanced c intake order key d₀ d d' row)
    {x : UnifiedOrder} (hx : order.updatedAt < x.updatedAt) :
    ∀ o ∈ d'.orders, o.idempotencyKey = key → ¬ UpToDate o x := by
  rintro o ho hk ⟨stored, hstored, hle⟩
  rw [h.eq_row ho hk, h.updatedAt] at hstored
  rw [← Option.some.inj hstored] at hle
  exact absurd hx (not_lt.mpr hle)

/-- While no snapshot says so, the order is not shipped. -/
lemma Tracked.beforeShipping {pre : List UnifiedOrder} {d₁ : Db} (hrun : Ingests intake d pre d₁)
    (ht : Tracked c d₀ d key) (hkey : ∀ o ∈ pre, o.key intake.shop = some key)
    (htarget : ∀ o ∈ pre, ∃ t ∈ [UnifiedStatus.pending, .paid],
      resolveTarget o.platformStatus intake.table = some t)
    (htime : pre.Pairwise fun a b => a.updatedAt < b.updatedAt)
    (hnewer : ∀ x ∈ pre, ∀ o ∈ d.orders, o.idempotencyKey = key → ¬ UpToDate o x)
    (hst : ∀ o ∈ d.orders, o.idempotencyKey = key →
      o.unifiedStatus ∈ [UnifiedStatus.pending, .paid]) :
    Tracked c d₀ d₁ key ∧
      (∀ o ∈ d₁.orders, o.idempotencyKey = key →
        o.unifiedStatus ∈ [UnifiedStatus.pending, .paid]) ∧
      ∀ x, (∀ o ∈ pre, o.updatedAt < x.updatedAt) →
        (∀ o ∈ d.orders, o.idempotencyKey = key → ¬ UpToDate o x) →
        ∀ o ∈ d₁.orders, o.idempotencyKey = key → ¬ UpToDate o x := by
  induction hrun with
  | nil => exact ⟨ht, hst, fun x _ hx => hx⟩
  | cons l hl hrest ih =>
    rename_i d d' order rest
    obtain ⟨t, ht', hresolve⟩ := htarget order (by simp)
    have hto : (decisionOn intake order key d).toStatus ∈ [UnifiedStatus.pending, .paid] := by
      rcases decisionOn_toStatus_or hresolve with heq | ⟨o, ho, hk, heq⟩
      · rw [heq]
        exact ht'
      · rw [← heq]
        exact hst o ho hk
    obtain ⟨row, ha⟩ := ht.ingest hl (hkey order (by simp)) (hnewer order (by simp))
      (List.mem_of_mem_take (i := 2) hto)
    obtain ⟨hlt, htime⟩ := List.pairwise_cons.mp htime
    obtain ⟨ht₁, hst₁, hup⟩ := ih ha.tracked (fun o ho => hkey o (by simp [ho]))
      (fun o ho => htarget o (by simp [ho])) htime (fun x hx => ha.not_upToDate (hlt x hx))
      (fun o ho hk => by rw [ha.eq_row ho hk, ha.status]; exact hto)
    refine ⟨ht₁, hst₁, fun x hx _ => hup x (fun o ho => hx o (by simp [ho])) ?_⟩
    exact ha.not_upToDate (hx order (by simp))

/-- A shipped order stays shipped, and its holds stay as they are. -/
lemma Tracked.afterShipping {post : List UnifiedOrder} {d₂ : Db} (hrun : Ingests intake d post d₂)
    (ht : Tracked c d₀ d key) (hmem : row ∈ d.orders) (hrow : row.idempotencyKey = key)
    (hst : row.unifiedStatus = .shipped) (hkey : ∀ o ∈ post, o.key intake.shop = some key)
    (htarget : ∀ o ∈ post, resolveTarget o.platformStatus intake.table = some .shipped)
    (htime : post.Pairwise fun a b => a.updatedAt < b.updatedAt)
    (hnewer : ∀ x ∈ post, ∀ o ∈ d.orders, o.idempotencyKey = key → ¬ UpToDate o x) :
    ∃ row₂ ∈ d₂.orders, row₂.idempotencyKey = key ∧ row₂.id = row.id ∧
      row₂.unifiedStatus = .shipped ∧ Tracked c d₀ d₂ key ∧
      (NoneOpen d₂ row.id ↔ NoneOpen d row.id) := by
  induction hrun generalizing row with
  | nil => exact ⟨row, hmem, hrow, rfl, hst, ht, .rfl⟩
  | cons l hl hrest ih =>
    rename_i d d' order rest
    have hto : (decisionOn intake order key d).toStatus = .shipped := by
      rcases decisionOn_toStatus_or (htarget order (by simp)) with heq | ⟨o, ho, hk, heq⟩
      · exact heq
      · rw [← heq, ht.ordersWf.keys.eq_of_key_eq ho hmem (hk.trans hrow.symm), hst]
    obtain ⟨row', ha⟩ := ht.ingest hl (hkey order (by simp)) (hnewer order (by simp))
      (by rw [hto]; decide)
    obtain ⟨hlt, htime⟩ := List.pairwise_cons.mp htime
    obtain ⟨row₂, hmem₂, hrow₂, hid, hst₂, ht₂, hopen⟩ := ih ha.tracked ha.mem ha.rowKey
      (ha.status.trans hto) (fun o ho => hkey o (by simp [ho])) (fun o ho => htarget o (by simp [ho]))
      htime (fun x hx => ha.not_upToDate (hlt x hx))
    have hsame := ha.found row hmem hrow
    refine ⟨row₂, hmem₂, hrow₂, hid.trans hsame.symm, hst₂, ht₂, ?_⟩
    rw [hsame, hopen]
    exact ⟨fun h hold hh => h hold (ha.holds hold hh), ha.opened hto⟩

/-- Ingesting the snapshots of an order up to shipping settles its stock if, and only if, it had no
open hold when the first of them said `shipped`. -/
theorem settled_iff {pre post : List UnifiedOrder} {d₁ d₂ : Db} (hd : InBooks c d₀)
    (hw : OrdersWf d₀) (hnone : ∀ o ∈ d₀.orders, o.idempotencyKey ≠ key)
    (hpre : Ingests intake d₀ pre d₁) (hpost : Ingests intake d₁ post d₂) (hne : post ≠ [])
    (hkey : ∀ o ∈ pre ++ post, o.key intake.shop = some key)
    (htime : (pre ++ post).Pairwise fun a b => a.updatedAt < b.updatedAt)
    (hpaid : ∀ o ∈ pre, ∃ t ∈ [UnifiedStatus.pending, .paid],
      resolveTarget o.platformStatus intake.table = some t)
    (hshipped : ∀ o ∈ post, resolveTarget o.platformStatus intake.table = some .shipped)
    (hsource : intake.source ≠ .manual) :
    ∃ row ∈ d₂.orders, row.idempotencyKey = key ∧ row.unifiedStatus = .shipped ∧
      (Settled d₀ d₂ row.id ↔ NoneOpen d₁ row.id) := by
  obtain ⟨htime₁, htime₂, hlt⟩ := List.pairwise_append.mp htime
  obtain ⟨ht₁, hst₁, hup⟩ := (Tracked.start hd hw hnone).beforeShipping hpre
    (fun o ho => hkey o (by simp [ho])) hpaid htime₁
    (fun _ _ o ho hk => absurd hk (hnone o ho)) (fun o ho hk => absurd hk (hnone o ho))
  cases hpost with
  | nil => exact absurd rfl hne
  | cons l hl hrest =>
    rename_i order rest
    obtain ⟨hlt₂, htime₂⟩ := List.pairwise_cons.mp htime₂
    have hto : (decisionOn intake order key d₁).toStatus = .shipped :=
      decisionOn_shipped hst₁ (hshipped order (by simp)) hsource
    obtain ⟨row, ha⟩ := ht₁.ingest hl (hkey order (by simp))
      (hup order (fun o ho => hlt o ho order (by simp)) fun o ho hk => absurd hk (hnone o ho))
      (by rw [hto]; decide)
    obtain ⟨row₂, hmem₂, hrow₂, hid, hst₂, ht₂, hopen⟩ := ha.tracked.afterShipping hrest ha.mem
      ha.rowKey (ha.status.trans hto) (fun o ho => hkey o (by simp [ho]))
      (fun o ho => hshipped o (by simp [ho])) htime₂ (fun x hx => ha.not_upToDate (hlt₂ x hx))
    refine ⟨row₂, hmem₂, hrow₂, hst₂, ?_⟩
    have haccounts := ht₂.accounts row₂.id (.inl ⟨row₂, hmem₂, hrow₂, rfl⟩)
    rw [haccounts.settled_iff_noneOpen hd, hid, hopen]
    exact ⟨fun h hold hh => h hold (ha.holds hold hh), ha.opened hto⟩

end runs

/-- Every line of the shop is for its one SKU. -/
def skuIntake : Intake := { linkedIntake with column := fun _ _ => some 3 }

def shippedSnapshot : UnifiedOrder := { paidSnapshot with platformStatus := "SHIPPED", updatedAt := 2 }

/-- The shop after the payment, and after the shipment. -/
def paidShop : Db := (ingestOrder skuIntake paidSnapshot).commit newWorker linkedShop
def shippedShop : Db := (ingestOrder skuIntake shippedSnapshot).commit (newWorker 200) paidShop

lemma ingests_paidShop : Ingests skuIntake linkedShop [paidSnapshot] paidShop :=
  .cons newWorker (worker_newWorker (by decide)) .nil

lemma ingests_shippedShop : Ingests skuIntake paidShop [shippedSnapshot] shippedShop :=
  .cons (newWorker 200) (worker_newWorker (by decide +kernel)) .nil

lemma inBooks_linkedShop : InBooks (fun _ _ => 0) linkedShop := by
  refine ⟨⟨?_, ?_, ?_, ?_, ?_, ?_⟩, ⟨?_, ?_, ?_, ?_, ?_, ?_, ?_⟩, fun _ _ => le_rfl, fun t w => ?_⟩
  iterate 9 decide
  · simp [linkedShop]
  iterate 3 decide
  · simp only [balanceAt, heldIn, linkedShop, total_cons, total_nil]
    split <;> rfl

theorem settled_iff_shippedShop :
    ∃ row ∈ shippedShop.orders, row.idempotencyKey = "tiktok:4:A" ∧
      row.unifiedStatus = .shipped ∧
      (Settled linkedShop shippedShop row.id ↔ NoneOpen paidShop row.id) := by
  refine settled_iff inBooks_linkedShop ⟨by decide, by decide⟩ (by decide) ingests_paidShop
    ingests_shippedShop (by decide) ?_ (by decide) ?_ ?_ (by decide)
  iterate 3 decide +kernel

theorem not_settled_shippedShop :
    Ingests skuIntake linkedShop [paidSnapshot] paidShop ∧
      Ingests skuIntake paidShop [shippedSnapshot] shippedShop ∧
      (∀ i ∈ shippedShop.items, i.skuId = some 3) ∧ balanceAt shippedShop .occupied 3 1 = 2 ∧
      ∃ row ∈ shippedShop.orders, row.unifiedStatus = .shipped ∧
        ¬ Settled linkedShop shippedShop row.id := by
  refine ⟨ingests_paidShop, ingests_shippedShop, by decide +kernel, by decide +kernel, ?_⟩
  have hopen : ∃ row ∈ shippedShop.orders, row.unifiedStatus = .shipped ∧
      ∃ hold ∈ shippedShop.holds, hold.orderId = row.id ∧ hold.status = .opened := by
    decide +kernel
  obtain ⟨row, hrow, hst, hold, hh, ho, hopened⟩ := hopen
  exact ⟨row, hrow, hst, fun h => h.noneOpen hold hh ho hopened⟩

end CrossPilot
