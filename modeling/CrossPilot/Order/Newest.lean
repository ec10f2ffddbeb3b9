import CrossPilot.Order.Fulfilment
import CrossPilot.Order.Returns

/-!
# Snapshots out of order

The snapshots of an order come late, more than once and out of order, and some never come. Whatever
the delivery, once the newest has come the columns, the lines and the fees of the order show it.
The status does so too, unless the newest status may not follow the stored one: what was only seen
unpaid does not turn into a refund or a return, and what was only seen paid does not turn into a
return (`Behind`).
-/

namespace CrossPilot

open Transaction Table Prog

/-! ### Statuses -/

/-- The stored status is that of the newest snapshot, or one that it may not follow. -/
def Behind (stored newest : UnifiedStatus) : Prop :=
  stored = newest ∨ stored = .pending ∧ newest ∈ UnifiedStatus.offChain ∨
    stored = .paid ∧ newest = .returned

instance (stored newest : UnifiedStatus) : Decidable (Behind stored newest) :=
  inferInstanceAs (Decidable (_ ∨ _ ∨ _))

/-- `t` comes after `s` on a path of allowed changes. -/
def Reaches (s t : UnifiedStatus) : Prop := allowed s t .system = true ∨ Behind s t

instance (s t : UnifiedStatus) : Decidable (Reaches s t) := inferInstanceAs (Decidable (_ ∨ _))

lemma mem_all (s : UnifiedStatus) : s ∈ UnifiedStatus.all := by
  cases s <;> decide

lemma Reaches.trans {a b c : UnifiedStatus} (hab : Reaches a b) (hbc : Reaches b c) :
    Reaches a c := by
  have h : ∀ a ∈ UnifiedStatus.all, ∀ b ∈ UnifiedStatus.all, Reaches a b →
      ∀ c ∈ UnifiedStatus.all, Reaches b c → Reaches a c := by
    decide +kernel
  exact h a (mem_all a) b (mem_all b) hab c (mem_all c) hbc

/-- Only operators are treated differently. -/
lemma allowed_of_ne_manual {source : StatusChangeSource} (h : source ≠ .manual)
    (s t : UnifiedStatus) : allowed s t source = allowed s t .system := by
  cases source with
  | system => rfl
  | webhook => rfl
  | manual => exact absurd rfl h

/-- A later snapshot leaves the stored status behind no further. -/
lemma Behind.decide {c s t : UnifiedStatus} (h : Behind c s) (hst : Reaches s t)
    {source : StatusChangeSource} (hsource : source ≠ .manual) :
    Behind (decideStatus (some c) (some t) source).toStatus t := by
  have hall : ∀ c ∈ UnifiedStatus.all, ∀ s ∈ UnifiedStatus.all, Behind c s →
      ∀ t ∈ UnifiedStatus.all, Reaches s t →
        Behind (decideStatus (some c) (some t) .system).toStatus t := by
    decide +kernel
  have hsame : decideStatus (some c) (some t) source = decideStatus (some c) (some t) .system := by
    simp only [decideStatus, allowed_of_ne_manual hsource]
  rw [hsame]
  exact hall c (mem_all c) s (mem_all s) h t (mem_all t) hst

/-! ### Histories -/

/-- The snapshots of an order, as the platform has made them: later and later, each with a status
that may follow the one before. -/
structure History (intake : Intake) (key : String) (status : UnifiedOrder → UnifiedStatus)
    (h : List UnifiedOrder) : Prop where
  keys : ∀ o ∈ h, o.key intake.shop = some key
  mapped : ∀ o ∈ h, resolveTarget o.platformStatus intake.table = some (status o)
  path : h.IsChain fun a b => a.updatedAt < b.updatedAt ∧
    (status a = status b ∨ allowed (status a) (status b) .system = true)

/-- A snapshot that is delivered, by whom, and on whose behalf. -/
structure Arrival where
  order : UnifiedOrder
  source : StatusChangeSource
  operatorId : Option ℕ

/-- Snapshots are ingested one after the other, each in a transaction of its own. -/
inductive Arrivals (intake : Intake) (d₀ : Db) : List Arrival → Db → Prop
  | start : Arrivals intake d₀ [] d₀
  | next {arrivals : List Arrival} {d : Db} (a : Arrival) (l : Session) :
    Arrivals intake d₀ arrivals d → Worker d l → Arrivals intake d₀ (arrivals ++ [a])
      ((Move.ingest { intake with source := a.source, operatorId := a.operatorId }
        a.order).work.commit l d)

/-- The order shows a snapshot: in its row, its lines and its fees. -/
structure Shows (intake : Intake) (key : String) (order : UnifiedOrder) (row : SalesOrder) (d : Db) :
    Prop where
  mem : row ∈ d.orders
  rowKey : row.idempotencyKey = key
  mirrors : Mirrors order row
  items : ∃ ids, d.items.filter (fun i => i.orderId = row.id) =
    newLines intake.column row ids order.items
  fees : ∃ ids, d.fees.filter (fun f => f.orderId = row.id) = newFees row ids order.fees

variable {c : ℕ → ℕ → ℤ} {d d₀ : Db} {l : Session} {intake : Intake} {key : String}
  {status : UnifiedOrder → UnifiedStatus} {h : List UnifiedOrder}

/-- Of two snapshots of a history, the status of the newer one comes after that of the older. -/
lemma History.reaches (hh : History intake key status h) {a b : UnifiedOrder} (ha : a ∈ h)
    (hb : b ∈ h) (hlt : a.updatedAt < b.updatedAt) : Reaches (status a) (status b) := by
  let R : UnifiedOrder → UnifiedOrder → Prop := fun a b =>
    a.updatedAt < b.updatedAt ∧ Reaches (status a) (status b)
  have : Trans R R R := ⟨fun hab hbc => ⟨hab.1.trans hbc.1, hab.2.trans hbc.2⟩⟩
  have hpath : h.IsChain R := hh.path.imp fun a b hab =>
    ⟨hab.1, hab.2.elim (fun heq => .inr (.inl heq)) .inl⟩
  let S : UnifiedOrder → UnifiedOrder → Prop := fun a b =>
    (a.updatedAt < b.updatedAt → Reaches (status a) (status b)) ∧
      (b.updatedAt < a.updatedAt → Reaches (status b) (status a))
  have hpairs : h.Pairwise S := (List.isChain_iff_pairwise.1 hpath).imp fun hab =>
    ⟨fun _ => hab.2, fun hba => absurd hab.1 (not_lt.2 hba.le)⟩
  have hdiag : ∀ x ∈ h, S x x := fun x _ =>
    ⟨fun hlt => absurd hlt (lt_irrefl _), fun hlt => absurd hlt (lt_irrefl _)⟩
  have hsymm : Std.Symm S := ⟨fun _ _ hab => ⟨hab.2, hab.1⟩⟩
  exact (hpairs.forall_of_forall hdiag ha hb).1 hlt

/-- The last snapshot of a history is the newest. -/
lemma History.le_newest (hh : History intake key status h) {newest : UnifiedOrder}
    (hnewest : h.getLast? = some newest) {o : UnifiedOrder} (ho : o ∈ h) :
    o = newest ∨ o.updatedAt < newest.updatedAt := by
  have : Trans (fun a b : UnifiedOrder => a.updatedAt < b.updatedAt)
      (fun a b : UnifiedOrder => a.updatedAt < b.updatedAt)
      fun a b : UnifiedOrder => a.updatedAt < b.updatedAt := ⟨fun hab hbc => hab.trans hbc⟩
  have hpairs : h.Pairwise fun a b => a.updatedAt < b.updatedAt :=
    List.isChain_iff_pairwise.1 (hh.path.imp fun a b hab => hab.1)
  obtain ⟨before, rfl⟩ := List.getLast?_eq_some_iff.1 hnewest
  rcases List.mem_append.1 ho with hbefore | hlast
  · exact .inr ((List.pairwise_append.1 hpairs).2.2 o hbefore newest List.mem_cons_self)
  · exact .inl (List.mem_singleton.1 hlast)

/-! ### One snapshot -/

/-- The rows that belong somewhere, after they have been replaced. -/
lemma filter_renewed {α : Type} {p : α → Prop} [DecidablePred p] {old new : List α}
    (h : ∀ x ∈ new, p x) : (old.filter (fun x => ¬p x) ++ new).filter (fun x => p x) = new := by
  have hold : (old.filter fun x => ¬p x).filter (fun x => p x) = [] := by
    simp [List.filter_filter]
  have hnew : new.filter (fun x => p x) = new := List.filter_eq_self.2 fun x hx => by simp [h x hx]
  rw [List.filter_append, hold, hnew, List.nil_append]

/-- The rows of other orders stay. -/
lemma mem_orders_of_ne {row : SalesOrder} {s₁ : WorkState}
    (hw : OrdersWf d) {order : UnifiedOrder} (hi : Ingested intake order key row ⟨l, d, []⟩ s₁)
    {o : SalesOrder} (ho : o.idempotencyKey ≠ key) : o ∈ s₁.data.orders ↔ o ∈ d.orders := by
  rw [hi.orders, mem_put]
  constructor
  · rintro (rfl | ⟨hmem, -⟩)
    · exact absurd hi.rowKey ho
    · exact hmem
  · intro hmem
    refine .inr ⟨hmem, fun hid => ?_⟩
    by_cases hnone : ∀ e ∈ d.orders, e.idempotencyKey ≠ key
    · exact hi.new hnone (.order hmem hid.symm)
    · push Not at hnone
      obtain ⟨e, he, hk⟩ := hnone
      have hsame : o = e := hw.ids.eq_of_key_eq hmem he (hid.trans (hi.found e he hk).1.symm)
      exact ho (hsame ▸ hk)

/-- What a transaction that ingests a snapshot comes to: nothing, if the stored row is as new, or
the order shows the snapshot and the other orders stay. -/
lemma ingest_shows (intake : Intake) (hfit : Fit c d) (hl : Worker d l) {order : UnifiedOrder}
    (hkey : order.key intake.shop = some key) {d' : Db}
    (hd : d' = (Move.ingest intake order).work.commit l d) :
    (d' = d ∧ ∃ o ∈ d.orders, o.idempotencyKey = key ∧ UpToDate o order) ∨
    ((∀ o ∈ d.orders, o.idempotencyKey = key → ¬UpToDate o order) ∧
      (∀ o, o.idempotencyKey ≠ key → (o ∈ d'.orders ↔ o ∈ d.orders)) ∧
      ∃ row, Shows intake key order row d' ∧
        row.unifiedStatus = (decisionOn intake order key d).toStatus) := by
  subst hd
  refine commit_of_wp (R := fun d' =>
    (d' = d ∧ ∃ o ∈ d.orders, o.idempotencyKey = key ∧ UpToDate o order) ∨
    ((∀ o ∈ d.orders, o.idempotencyKey = key → ¬UpToDate o order) ∧
      (∀ o, o.idempotencyKey ≠ key → (o ∈ d'.orders ↔ o ∈ d.orders)) ∧
      ∃ row, Shows intake key order row d' ∧
        row.unifiedStatus = (decisionOn intake order key d).toStatus)) ?_
  have hb := hfit.inBooks.books hl
  rw [Move.work, bind_eq, wp_bind]
  refine wp_ingestOrder_mirrored hl.fresh hfit.ordersWf hkey
    (fun o ho hk hup => .inl ⟨rfl, o, ho, hk, hup⟩) fun row s₁ action hi _ => ?_
  have hend : ∀ {P : Option InventoryHold → InventoryHold → Prop} (s₂ : WorkState),
      HoldSteps P s₁ s₂ → Shows intake key order row s₂.data := by
    intro P s₂ hs
    obtain ⟨ids, hitems⟩ := hi.items
    obtain ⟨ids', hfees⟩ := hi.fees
    refine ⟨?_, hi.rowKey, hi.mirrors, ⟨ids, ?_⟩, ids', ?_⟩
    · rw [hs.frame]
      exact hi.mem_orders
    · have hlines : ∀ i ∈ newLines intake.column row ids order.items, i.orderId = row.id := by
        intro i hin
        obtain ⟨n, item, -, rfl⟩ := mem_newLines.1 hin
        rfl
      rw [hs.items, hitems]
      exact filter_renewed hlines
    · have hnew : ∀ f ∈ newFees row ids' order.fees, f.orderId = row.id := by
        intro f hf
        obtain ⟨n, hn, rfl⟩ := List.mem_mapIdx.1 hf
        rfl
      have hsame : s₂.data.fees = s₁.data.fees := by rw [hs.frame]
      rw [hsame, hfees]
      exact filter_renewed hnew
  have hb₁ := hi.books c hb
  have hnewer : ∀ o ∈ d.orders, o.idempotencyKey = key → ¬UpToDate o order := fun o ho hk =>
    (hi.found o ho hk).2
  have hothers : ∀ {P : Option InventoryHold → InventoryHold → Prop} (s₂ : WorkState),
      HoldSteps P s₁ s₂ → ∀ o, o.idempotencyKey ≠ key → (o ∈ s₂.data.orders ↔ o ∈ d.orders) := by
    intro P s₂ hs o ho
    rw [hs.frame]
    exact mem_orders_of_ne hfit.ordersWf hi.toIngested ho
  by_cases hcancel : (decisionOn intake order key d).toStatus = .cancelled
  · exact wp_stockStep_cancelled hb₁ hcancel fun s₂ hs _ =>
      .inr ⟨hnewer, hothers s₂ hs, row, hend s₂ hs, hi.status⟩
  · refine wp_stockStep_forward hb₁ (fun i hi' ho hold hh => ?_) hcancel fun s₂ hs _ =>
      .inr ⟨hnewer, hothers s₂ hs, row, hend s₂ hs, hi.status⟩
    rw [hi.holds] at hh
    exact hi.fresh i hi' ho hold hh

/-! ### All snapshots -/

/-- What is kept of the snapshots that have come: the order shows the newest of them. -/
structure UpToLatest (intake : Intake) (key : String) (status : UnifiedOrder → UnifiedStatus)
    (arrivals : List Arrival) (latest : UnifiedOrder) (d : Db) : Prop where
  mem : latest ∈ arrivals.map Arrival.order
  newest : ∀ o ∈ arrivals.map Arrival.order, o.updatedAt ≤ latest.updatedAt
  shows : ∃ row, Shows intake key latest row d ∧ Behind row.unifiedStatus (status latest)

lemma Shows.upToDate_iff (hw : OrdersWf d) {latest order : UnifiedOrder} {row : SalesOrder}
    (h : Shows intake key latest row d) :
    (∃ o ∈ d.orders, o.idempotencyKey = key ∧ UpToDate o order) ↔
      order.updatedAt ≤ latest.updatedAt := by
  constructor
  · rintro ⟨o, ho, hk, stored, hstored, hle⟩
    rw [hw.keys.eq_of_key_eq ho h.mem (hk.trans h.rowKey.symm), h.mirrors.updatedAt] at hstored
    cases hstored
    exact hle
  · intro hle
    exact ⟨row, h.mem, h.rowKey, latest.updatedAt, h.mirrors.updatedAt, hle⟩

/-- One more snapshot. -/
lemma UpToLatest.next (hfit : Fit c d) (hl : Worker d l) (hh : History intake key status h)
    {arrivals : List Arrival} {latest : UnifiedOrder}
    (hup : UpToLatest intake key status arrivals latest d)
    (harrivals : ∀ o ∈ arrivals.map Arrival.order, o ∈ h) {a : Arrival} (ha : a.order ∈ h)
    (hsource : a.source ≠ .manual) :
    ∃ latest', UpToLatest intake key status (arrivals ++ [a]) latest'
      ((Move.ingest { intake with source := a.source, operatorId := a.operatorId }
        a.order).work.commit l d) := by
  obtain ⟨row, hshows, hbehind⟩ := hup.shows
  have hw := hfit.ordersWf
  rcases ingest_shows { intake with source := a.source, operatorId := a.operatorId } hfit hl
    (hh.keys _ ha) rfl with ⟨hsame, hold⟩ | ⟨hnewer, -, row', hshows', hstatus⟩
  · have hle := (hshows.upToDate_iff hw).1 hold
    rw [hsame]
    refine ⟨latest, ?_, ?_, row, hshows, hbehind⟩
    · rw [List.map_append]
      exact List.mem_append_left _ hup.mem
    · intro o ho
      rw [List.map_append] at ho
      rcases List.mem_append.1 ho with ho | ho
      · exact hup.newest o ho
      · rw [List.mem_singleton.1 ho]
        exact hle
  · have hlt : latest.updatedAt < a.order.updatedAt := by
      by_contra hle
      obtain ⟨o, ho, hk, hup'⟩ := (hshows.upToDate_iff hw).2 (not_lt.1 hle)
      exact hnewer o ho hk hup'
    refine ⟨a.order, ?_, ?_, row', ⟨hshows'.mem, hshows'.rowKey, hshows'.mirrors, hshows'.items,
      hshows'.fees⟩, ?_⟩
    · simp
    · intro o ho
      rw [List.map_append] at ho
      rcases List.mem_append.1 ho with ho | ho
      · exact (hup.newest o ho).trans hlt.le
      · rw [List.mem_singleton.1 ho]
    · rw [hstatus, decisionOn_of_mem hw hshows.mem hshows.rowKey]
      simp only [Intake.resolve, hh.mapped _ ha]
      exact hbehind.decide (hh.reaches (harrivals _ hup.mem) ha hlt) hsource

/-- The first snapshot that comes. -/
lemma UpToLatest.first (hfit : Fit c d) (hl : Worker d l) (hh : History intake key status h)
    (hnone : ∀ o ∈ d.orders, o.idempotencyKey ≠ key) {a : Arrival} (ha : a.order ∈ h) :
    UpToLatest intake key status [a] a.order
      ((Move.ingest { intake with source := a.source, operatorId := a.operatorId }
        a.order).work.commit l d) := by
  rcases ingest_shows { intake with source := a.source, operatorId := a.operatorId } hfit hl
    (hh.keys _ ha) rfl with ⟨-, o, ho, hk, -⟩ | ⟨-, -, row, hshows, hstatus⟩
  · exact absurd hk (hnone o ho)
  · refine ⟨by simp, by simp, row, ⟨hshows.mem, hshows.rowKey, hshows.mirrors, hshows.items,
      hshows.fees⟩, .inl ?_⟩
    have hfind : d.orders.find? (fun o => o.idempotencyKey = key) = none :=
      List.find?_eq_none.2 fun o ho => by simpa using hnone o ho
    rw [hstatus, decisionOn, hfind]
    simp [Intake.resolve, hh.mapped _ ha]

/-- The snapshots come in any order, and the order shows the newest of those that came. -/
theorem Arrivals.upToLatest (hfit : Fit c d₀) (hnone : ∀ o ∈ d₀.orders, o.idempotencyKey ≠ key)
    (hh : History intake key status h) {arrivals : List Arrival}
    (hrun : Arrivals intake d₀ arrivals d)
    (hmem : ∀ a ∈ arrivals, a.order ∈ h ∧ a.source ≠ .manual) :
    Fit c d ∧ ((arrivals = [] ∧ d = d₀) ∨
      ∃ latest, UpToLatest intake key status arrivals latest d) := by
  induction hrun with
  | start => exact ⟨hfit, .inl ⟨rfl, rfl⟩⟩
  | @next arrivals d a l _ hl ih =>
    obtain ⟨hfit', hcases⟩ := ih fun b hb => hmem b (List.mem_append_left _ hb)
    obtain ⟨ha, hsource⟩ := hmem a (List.mem_append_right _ List.mem_cons_self)
    refine ⟨(hfit'.ingest hl _ _).1, .inr ?_⟩
    rcases hcases with ⟨rfl, rfl⟩ | ⟨latest, hup⟩
    · exact ⟨a.order, UpToLatest.first hfit' hl hh hnone ha⟩
    · refine hup.next hfit' hl hh (fun o ho => ?_) ha hsource
      obtain ⟨b, hb, rfl⟩ := List.mem_map.1 ho
      exact (hmem b (List.mem_append_left _ hb)).1

/-- Once the newest snapshot of a history has come, the order shows it, and its status is the newest
or may not be followed by it. -/
theorem newest_shown (hfit : Fit c d₀) (hnone : ∀ o ∈ d₀.orders, o.idempotencyKey ≠ key)
    (hh : History intake key status h) {newest : UnifiedOrder} (hlast : h.getLast? = some newest)
    {arrivals : List Arrival} (hrun : Arrivals intake d₀ arrivals d)
    (hmem : ∀ a ∈ arrivals, a.order ∈ h ∧ a.source ≠ .manual)
    (hnewest : newest ∈ arrivals.map Arrival.order) :
    ∃ row, Shows intake key newest row d ∧ Behind row.unifiedStatus (status newest) := by
  obtain ⟨-, ⟨rfl, -⟩ | ⟨latest, hup⟩⟩ := hrun.upToLatest hfit hnone hh hmem
  · cases hnewest
  have heq : latest = newest := by
    obtain ⟨a, ha, hlatest⟩ := List.mem_map.1 hup.mem
    have hin : latest ∈ h := hlatest ▸ (hmem a ha).1
    rcases hh.le_newest hlast hin with heq | hlt
    · exact heq
    · exact absurd (hup.newest newest hnewest) (not_le.2 hlt)
  rw [← heq]
  exact hup.shows

/-! ### An order that was never seen paid -/

/-- The buyer has paid and wants the money back. -/
def refundIntake : Intake := { linkedIntake with
  table := [("UNPAID", "PENDING"), ("AWAITING_SHIPMENT", "PAID"), ("REFUNDING", "REFUNDING")] }

def unpaidSnapshot : UnifiedOrder := { paidSnapshot with platformStatus := "UNPAID", updatedAt := 1 }

def paidLater : UnifiedOrder := { paidSnapshot with updatedAt := 2, paidAt := some 2 }

def refundSnapshot : UnifiedOrder :=
  { paidSnapshot with platformStatus := "REFUNDING", updatedAt := 3 }

def refundHistory : List UnifiedOrder := [unpaidSnapshot, paidLater, refundSnapshot]

def mappedStatus (order : UnifiedOrder) : UnifiedStatus :=
  (resolveTarget order.platformStatus refundIntake.table).getD .pending

lemma history_refund : History refundIntake "tiktok:4:A" mappedStatus refundHistory := by
  refine ⟨?_, ?_, ?_⟩
  · decide +kernel
  · decide +kernel
  · simp only [refundHistory, List.isChain_cons_cons, List.isChain_singleton, and_true]
    decide +kernel

/-- A snapshot that a poll finds. -/
def polled (order : UnifiedOrder) : Arrival := ⟨order, .system, none⟩

/-- The shop after it has ingested a snapshot that a poll found. -/
def ingestPolled (order : UnifiedOrder) (base : ℕ) (d : Db) : Db :=
  (Move.ingest { refundIntake with source := .system, operatorId := none }
    order).work.commit (newWorker base) d

lemma Arrivals.polled {arrivals : List Arrival} {d : Db}
    (h : Arrivals refundIntake linkedShop arrivals d) (order : UnifiedOrder) (base : ℕ)
    (hbelow : Below base d) : Arrivals refundIntake linkedShop
      (arrivals ++ [CrossPilot.polled order]) (ingestPolled order base d) :=
  .next (CrossPilot.polled order) (newWorker base) h (worker_newWorker hbelow)

/-- The news of the refund comes before that of the payment. -/
def lateShop : Db := ingestPolled paidLater 200 (ingestPolled refundSnapshot 100 linkedShop)

/-- The news of the payment does not come. -/
def unpaidShop : Db := ingestPolled refundSnapshot 200 (ingestPolled unpaidSnapshot 100 linkedShop)

/-- All but the first news come. -/
def paidFirstShop : Db := ingestPolled refundSnapshot 200 (ingestPolled paidLater 100 linkedShop)

theorem newest_shown_lateShop : ∃ row, Shows refundIntake "tiktok:4:A" refundSnapshot row lateShop ∧
    Behind row.unifiedStatus (mappedStatus refundSnapshot) := by
  have hrun : Arrivals refundIntake linkedShop [polled refundSnapshot, polled paidLater] lateShop :=
    (Arrivals.start.polled refundSnapshot 100 (by decide)).polled paidLater 200 (by decide +kernel)
  refine newest_shown ⟨inBooks_linkedShop, by decide, by decide⟩ (by decide) history_refund rfl hrun
    ?_ ?_
  · decide
  · decide

theorem not_newest_shown_unpaidShop :
    History refundIntake "tiktok:4:A" mappedStatus refundHistory ∧
    mappedStatus refundSnapshot = .refunding ∧ refundSnapshot.paidAt = none ∧
    (Arrivals refundIntake linkedShop [polled unpaidSnapshot, polled refundSnapshot] unpaidShop ∧
      unpaidShop.orders.map (·.unifiedStatus) = [.pending]) ∧
    (Arrivals refundIntake linkedShop [polled paidLater, polled refundSnapshot] paidFirstShop ∧
      paidFirstShop.orders.map (·.paidAt) = [some 2]) := by
  refine ⟨history_refund, by decide +kernel, rfl, ⟨?_, by decide +kernel⟩, ?_, by decide +kernel⟩
  · exact (Arrivals.start.polled unpaidSnapshot 100 (by decide)).polled refundSnapshot 200
      (by decide +kernel)
  · exact (Arrivals.start.polled paidLater 100 (by decide)).polled refundSnapshot 200
      (by decide +kernel)

end CrossPilot
