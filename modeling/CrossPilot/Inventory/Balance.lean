import CrossPilot.Inventory.Change

/-!
# Balances of a lone transaction

What the operations of `Inventory.Change` do when no other transaction runs: `commitChange` moves
one balance if the bounds allow it and raises otherwise; `draw` takes a quantity from some balances
of the SKU and leaves everything else alone. The session may hold balances that are out of date.
Effects are stated as `Moved`: which sums of balances went up by how much.
-/

namespace CrossPilot

open Transaction Table

/-- The part of a change that concerns one bucket. -/
def Delta.bucket (δ : Delta) : Bucket → ℤ
  | .available => δ.available
  | .occupied => δ.occupied
  | .defective => δ.defective
  | .inTransit => δ.inTransit

@[simp] lemma Inventory.bucket_shift (δ : Delta) (r : Inventory) (b : Bucket) :
    (r.shift δ).bucket b = r.bucket b + δ.bucket b := by
  cases b <;> rfl

/-- The balances that the constraints of the table allow. -/
structure Shelf (rows : List Inventory) : Prop where
  ids : Keyed Inventory.id rows
  pairs : Keyed Inventory.pair rows
  occupied_nonneg : ∀ r ∈ rows, 0 ≤ r.occupied
  occupied_le : ∀ r ∈ rows, r.occupied ≤ r.available
  inTransit_nonneg : ∀ r ∈ rows, 0 ≤ r.inTransit
  defective_nonneg : ∀ r ∈ rows, 0 ≤ r.defective

lemma Shelf.shift {rows : List Inventory} (h : Shelf rows) {r : Inventory} (hr : r ∈ rows)
    {δ : Delta} (hfit : r.fits δ) : Shelf (alter Inventory.id r.id (·.shift δ) rows) := by
  simp only [Inventory.fits, Bool.and_eq_true, decide_eq_true_eq] at hfit
  have each : ∀ r' ∈ alter Inventory.id r.id (·.shift δ) rows, r' = r.shift δ ∨ r' ∈ rows := by
    intro r' hr'
    obtain ⟨t, ht, rfl⟩ := mem_alter.mp hr'
    by_cases hid : t.id = r.id
    · rw [if_pos hid, h.ids.eq_of_key_eq ht hr hid]
      exact .inl rfl
    · rw [if_neg hid]
      exact .inr ht
  refine ⟨h.ids.alter fun _ => rfl, h.pairs.alter fun _ => rfl, ?_, ?_, ?_, ?_⟩ <;>
    intro r' hr' <;> rcases each r' hr' with rfl | hmem
  · exact hfit.1.1.1.2
  · exact h.occupied_nonneg r' hmem
  · exact hfit.2
  · exact h.occupied_le r' hmem
  · exact hfit.1.2
  · exact h.inTransit_nonneg r' hmem
  · exact hfit.1.1.2
  · exact h.defective_nonneg r' hmem

/-- `held` is the balance `row` as it was at some time. -/
structure Inventory.AsOf (held row : Inventory) : Prop where
  id : held.id = row.id
  pair : held.pair = row.pair
  version : held.version ≤ row.version
  bucket : held.version = row.version → ∀ b, held.bucket b = row.bucket b

lemma Inventory.AsOf.refl (row : Inventory) : row.AsOf row := ⟨rfl, rfl, le_rfl, fun _ _ => rfl⟩

lemma Inventory.AsOf.shift {held row : Inventory} (h : held.AsOf row) (δ : Delta) :
    held.AsOf (row.shift δ) := by
  refine ⟨h.id, h.pair, h.version.trans (Nat.le_succ _), fun heq => ?_⟩
  have := h.version
  rw [Inventory.shift_version] at heq
  omega

/-- A state in which balances can be worked on. -/
structure Ready (s : WorkState) : Prop where
  shelf : Shelf s.data.inventories
  coherent : ∀ held ∈ s.session.seen, ∀ row ∈ s.data.inventories, held.id = row.id → held.AsOf row

/-- `s'` comes after `s` with the data `d`; only the identity map may have changed besides. -/
structure Continues (s s' : WorkState) (d : Db) : Prop where
  ready : Ready s'
  data : s'.data = d
  ids : s'.session.ids = s.session.ids
  marks : s'.marks = s.marks

lemma Continues.trans {s s' s'' : WorkState} {d d' : Db} (h : Continues s s' d)
    (h' : Continues s' s'' d') : Continues s s'' d' :=
  ⟨h'.ready, h'.data, h'.ids.trans h.ids, h'.marks.trans h.marks⟩

/-- The balance of a SKU in a warehouse. -/
def balanceAt (d : Db) (b : Bucket) (skuId warehouseId : ℕ) : ℤ :=
  total (fun r => if r.pair = (skuId, warehouseId) then r.bucket b else 0) d.inventories

/-- There is a balance of the SKU in the warehouse. -/
def Stocks (d : Db) (skuId warehouseId : ℕ) : Prop :=
  ∃ r ∈ d.inventories, r.pair = (skuId, warehouseId)

lemma Shelf.balanceAt_eq {d : Db} (h : Shelf d.inventories) {r : Inventory}
    (hr : r ∈ d.inventories) {skuId warehouseId : ℕ} (hp : r.pair = (skuId, warehouseId))
    (b : Bucket) : balanceAt d b skuId warehouseId = r.bucket b := by
  obtain ⟨rfl, rfl⟩ := Prod.mk.inj hp
  exact total_ite_key h.pairs hr fun t => t.bucket b

/-- The data after the change of one balance. -/
def Db.shifted (d : Db) (r : Inventory) (δ : Delta) : Db :=
  { d with inventories := alter Inventory.id r.id (·.shift δ) d.inventories }

/-- The data after a change of one balance and a line in the ledger. -/
def Db.logged (d : Db) (r : Inventory) (δ : Delta) (line : InventoryFlow) : Db :=
  { d.shifted r δ with flows := d.flows ++ [line] }

/-- The ledger line of a change of `r` speaks of the bucket before and after it. -/
def Db.posted (d : Db) (r : Inventory) (note : FlowNote) (δ : Delta) : Db :=
  d.logged r δ
    (note.line (r.shift δ) (r.bucket note.bucket) ((r.shift δ).bucket note.bucket))

/-- Balances have moved: `gain b s w` went to bucket `b` of SKU `s` in warehouse `w`. The ledger
has grown, and nothing else has changed. -/
structure Moved (d d' : Db) (gain : Bucket → ℕ → ℕ → ℤ) : Prop where
  frame : d' = { d with inventories := d'.inventories, flows := d'.flows }
  rows : d'.inventories.map (fun r => (r.id, r.pair)) = d.inventories.map fun r => (r.id, r.pair)
  balance : ∀ b s w, balanceAt d' b s w = balanceAt d b s w + gain b s w

namespace Moved

variable {d d' d'' : Db} {gain gain' : Bucket → ℕ → ℕ → ℤ}

lemma refl (d : Db) : Moved d d fun _ _ _ => 0 := ⟨rfl, rfl, by simp⟩

lemma trans (h : Moved d d' gain) (h' : Moved d' d'' gain') :
    Moved d d'' fun b s w => gain b s w + gain' b s w := by
  refine ⟨?_, h'.rows.trans h.rows, fun b s w => ?_⟩
  · rw [h'.frame, h.frame]
  · rw [h'.balance, h.balance]
    ring

lemma congr (h : Moved d d' gain) (heq : ∀ b s w, gain b s w = gain' b s w) : Moved d d' gain' :=
  ⟨h.frame, h.rows, fun b s w => by rw [h.balance, heq]⟩

/-- No balance comes or goes. -/
lemma stocks (h : Moved d d' gain) (s w : ℕ) : Stocks d' s w ↔ Stocks d s w := by
  have hpairs := congrArg (List.map Prod.snd) h.rows
  simp only [List.map_map] at hpairs
  have := congrArg (fun l => (s, w) ∈ l) hpairs
  simpa [Stocks] using this

lemma mem_ids (h : Moved d d' gain) (id : ℕ) :
    (∃ r ∈ d'.inventories, r.id = id) ↔ ∃ r ∈ d.inventories, r.id = id := by
  have hids := congrArg (List.map Prod.fst) h.rows
  simp only [List.map_map] at hids
  have := congrArg (fun l => id ∈ l) hids
  simpa using this

/-- The change of one balance. -/
lemma shifted (hs : Shelf d.inventories) {r : Inventory} (hr : r ∈ d.inventories) (δ : Delta) :
    Moved d (d.shifted r δ) fun b s w => if r.pair = (s, w) then δ.bucket b else 0 := by
  have hrows := @map_alter _ _ _ Inventory.id _ r.id (Inventory.shift δ)
    (fun r : Inventory => (r.id, r.pair)) (fun _ => rfl) d.inventories
  refine ⟨rfl, hrows, fun b s w => ?_⟩
  refine (total_alter hs.ids hr _ _).trans ?_
  congr 1
  by_cases hp : r.pair = (s, w) <;> simp [hp]

lemma logged (hs : Shelf d.inventories) {r : Inventory} (hr : r ∈ d.inventories) (δ : Delta)
    (line : InventoryFlow) :
    Moved d (d.logged r δ line) fun b s w => if r.pair = (s, w) then δ.bucket b else 0 := by
  obtain ⟨-, hrows, hbalance⟩ := shifted hs hr δ
  exact ⟨rfl, hrows, hbalance⟩

end Moved

/-! ### Statements -/

section statements

variable {s : WorkState} {E : ServiceError → WorkState → Prop}

lemma Ready.put (hs : Ready s) {r : Inventory} (hr : r ∈ s.data.inventories) :
    Ready { s with session := s.session.put r } := by
  refine ⟨hs.shelf, ?_⟩
  intro held hh row hrow hid
  simp only [Session.put, List.mem_cons, List.mem_filter] at hh
  rcases hh with rfl | ⟨hh, -⟩
  · rw [hs.shelf.ids.eq_of_key_eq hr hrow hid]
    exact .refl row
  · exact hs.coherent held hh row hrow hid

lemma wp_refresh {Q : Option Inventory → WorkState → Prop} (hs : Ready s) {r : Inventory}
    (hr : r ∈ s.data.inventories) :
    (refresh r.id).wp Q E s ↔ Q (some r) { s with session := s.session.put r } := by
  have hfind := (find?_eq_some_iff hs.shelf.ids).mpr ⟨hr, rfl⟩
  simp [refresh, hfind]

/-- The row that a change is meant for, and no other, is hit by it. -/
lemma Shelf.hit_iff {rows : List Inventory} (h : Shelf rows) {r t : Inventory} (hr : r ∈ rows)
    (ht : t ∈ rows) {version : ℕ} {δ : Delta} :
    t.hit r.id version δ ↔ t.id = r.id ∧ r.version = version ∧ r.fits δ := by
  simp only [Inventory.hit, Bool.and_eq_true, decide_eq_true_eq]
  constructor
  · rintro ⟨⟨hid, hv⟩, hfit⟩
    obtain rfl := h.ids.eq_of_key_eq ht hr hid
    exact ⟨rfl, hv, hfit⟩
  · rintro ⟨hid, hv, hfit⟩
    obtain rfl := h.ids.eq_of_key_eq ht hr hid
    exact ⟨⟨rfl, hv⟩, hfit⟩

/-- The update, when it finds its row. -/
lemma wp_applyChange_of_hit {Q : ChangeStatus → WorkState → Prop} (hs : Ready s) {r : Inventory}
    (hr : r ∈ s.data.inventories) {δ : Delta} (hfit : r.fits δ) :
    (applyChange r.id r.version δ).wp Q E s ↔
      Q .applied { s with data := s.data.shifted r δ } := by
  have hhit : ∀ t ∈ s.data.inventories, t.hit r.id r.version δ ↔ t.id = r.id := fun t ht => by
    simp [hs.shelf.hit_iff hr ht, hfit]
  have htargets : s.data.inventories.filter (·.hit r.id r.version δ) = [r] :=
    hs.shelf.ids.filter_eq_singleton hr ((hhit r hr).mpr rfl) fun t ht => (hhit t ht).mp
  have hlocked : ∀ t ∈ s.data.inventories,
      t.locked [.inventory r.id] r.id r.version δ = decide (t.id = r.id) := fun t ht => by
    rw [Bool.eq_iff_iff]
    simp [Inventory.locked, hhit t ht]
  have hrows : s.data.inventories.filter (·.locked [.inventory r.id] r.id r.version δ) = [r] :=
    hs.shelf.ids.filter_eq_singleton hr (by simp [hlocked r hr]) fun t ht => by
      simp [hlocked t ht]
  have hafter : s.data.inventories.map (·.applied [.inventory r.id] r.id r.version δ) =
      alter Inventory.id r.id (·.shift δ) s.data.inventories := by
    apply List.map_congr_left
    intro t ht
    simp [Inventory.applied, hlocked t ht]
  simp only [applyChange, Prog.bind_eq, Prog.wp_bind, Prog.wp_update, htargets, List.map_cons,
    List.map_nil, hrows, hafter, List.length_singleton, if_true, Prog.pure_eq, Prog.wp_ret,
    Db.shifted]

/-- The update, when the version is another or the bounds forbid it. -/
lemma wp_applyChange_of_not_hit {Q : ChangeStatus → WorkState → Prop} (hs : Ready s)
    {r : Inventory} (hr : r ∈ s.data.inventories) {version : ℕ} {δ : Delta}
    (hnot : ¬ (r.version = version ∧ r.fits δ)) :
    (applyChange r.id version δ).wp Q E s ↔
      Q (if r.version ≠ version then .conflict else .insufficient)
        { s with session := s.session.put r } := by
  have hhit : ∀ t ∈ s.data.inventories, t.hit r.id version δ = false := fun t ht => by
    rw [Bool.eq_false_iff, ne_eq, hs.shelf.hit_iff hr ht]
    exact fun h => hnot h.2
  have htargets : s.data.inventories.filter (·.hit r.id version δ) = [] :=
    List.filter_eq_nil_iff.mpr fun t ht => by simp [hhit t ht]
  have hrows : s.data.inventories.filter (·.locked [] r.id version δ) = [] :=
    List.filter_eq_nil_iff.mpr fun t _ => by simp [Inventory.locked]
  have hafter : s.data.inventories.map (·.applied [] r.id version δ) = s.data.inventories := by
    conv_rhs => rw [← List.map_id s.data.inventories]
    apply List.map_congr_left
    intro t _
    simp [Inventory.applied, Inventory.locked]
  simp only [applyChange, Prog.bind_eq, Prog.wp_bind, Prog.wp_update, htargets, List.map_nil,
    hrows, hafter, List.length_nil]
  rw [if_neg (by decide), Prog.wp_bind, wp_refresh hs hr]
  simp

lemma Ready.shifted (hs : Ready s) {r : Inventory} (hr : r ∈ s.data.inventories) {δ : Delta}
    (hfit : r.fits δ) : Ready { s with data := s.data.shifted r δ } := by
  refine ⟨hs.shelf.shift hr hfit, ?_⟩
  intro held hh row hrow hid
  obtain ⟨t, ht, rfl⟩ := mem_alter.mp hrow
  by_cases ht' : t.id = r.id
  · rw [if_pos ht'] at hid ⊢
    exact (hs.coherent held hh t ht hid).shift δ
  · rw [if_neg ht'] at hid ⊢
    exact hs.coherent held hh t ht hid

/-- One try at a change: it is applied if the balance is up to date and the bounds allow it; a
balance that is out of date is brought up to date. -/
theorem wp_applyOnce {Q : ChangeStatus × Option Inventory → WorkState → Prop} (hs : Ready s)
    {row r : Inventory} (hr : r ∈ s.data.inventories) (hid : row.id = r.id) {δ : Delta}
    (happlied : row.version = r.version → r.fits δ → ∀ s', Continues s s' (s.data.shifted r δ) →
      Q (.applied, some (r.shift δ)) s')
    (hconflict : row.version ≠ r.version → ∀ s', Continues s s' s.data → Q (.conflict, some r) s')
    (hinsufficient : row.version = r.version → r.fits δ = false →
      ∀ s', Continues s s' s.data → Q (.insufficient, none) s') :
    (applyOnce row δ).wp Q E s := by
  have hput : ∀ {s' : WorkState}, Ready s' → ∀ {t : Inventory}, t ∈ s'.data.inventories →
      Continues s' { s' with session := s'.session.put t } s'.data :=
    fun hs' _ ht => ⟨hs'.put ht, rfl, rfl, rfl⟩
  simp only [applyOnce, Prog.bind_eq, Prog.wp_bind, hid]
  by_cases hv : row.version = r.version
  · rw [hv]
    cases hfit : r.fits δ with
    | true =>
      have hs₁ := hs.shifted hr hfit
      have hmem : r.shift δ ∈ (s.data.shifted r δ).inventories := mem_alter_self hr
      rw [wp_applyChange_of_hit hs hr hfit]
      simp only [Prog.wp_bind, Prog.pure_eq, Prog.wp_ret]
      rw [show r.id = (r.shift δ).id from rfl, wp_refresh hs₁ hmem]
      exact happlied hv hfit _ ⟨hs₁.put hmem, rfl, rfl, rfl⟩
    | false =>
      rw [wp_applyChange_of_not_hit hs hr (by simp [hfit])]
      simp only [ne_eq, not_true_eq_false, if_false, Prog.pure_eq, Prog.wp_ret]
      exact hinsufficient hv hfit _ (hput hs hr)
  · rw [wp_applyChange_of_not_hit hs hr fun h => hv h.1.symm]
    simp only [ne_eq, Ne.symm hv, not_false_eq_true, if_true, Prog.wp_bind, Prog.pure_eq,
      Prog.wp_ret]
    rw [wp_refresh (hs.put hr) hr]
    exact hconflict hv _ ⟨(hs.put hr).put hr, rfl, rfl, rfl⟩

/-- A change of a balance that is up to date. -/
private lemma wp_commitLoop_current {Q : Inventory → WorkState → Prop} (hs : Ready s)
    {row r : Inventory} (hr : r ∈ s.data.inventories) (hrow : row.AsOf r)
    (hv : row.version = r.version) {note : FlowNote} {δ : Delta} (tries : ℕ)
    (hok : r.fits δ → ∀ s', Continues s s' (s.data.posted r note δ) → Q (r.shift δ) s')
    (hinsufficient : r.fits δ = false → ∀ s', Continues s s' s.data →
      E .inventoryInsufficient s') :
    (commitLoop note δ (tries + 1) row).wp Q E s := by
  simp only [commitLoop, Prog.bind_eq, Prog.wp_bind]
  refine wp_applyOnce hs hr hrow.id (fun _ hfit s' h => ?_) (fun h => absurd hv h)
    fun _ hfit s' h => hinsufficient hfit s' h
  simp only [Prog.wp_bind, appendFlow, Prog.wp_insert, Prog.pure_eq, Prog.wp_ret]
  refine hok hfit _ ⟨⟨?_, ?_⟩, ?_, h.ids, h.marks⟩
  · exact h.ready.shelf
  · exact h.ready.coherent
  · rw [h.data, hrow.bucket hv]
    rfl

/-- `commitChange` moves the balance if the bounds allow it, and raises if they do not. -/
theorem wp_commitChange {Q : Inventory → WorkState → Prop} (hs : Ready s) {row r : Inventory}
    (hr : r ∈ s.data.inventories) (hrow : row.AsOf r) {note : FlowNote} {δ : Delta}
    (hok : r.fits δ → ∀ s', Continues s s' (s.data.posted r note δ) → Q (r.shift δ) s')
    (hinsufficient : r.fits δ = false → ∀ s', Continues s s' s.data →
      E .inventoryInsufficient s') :
    (commitChange row note δ).wp Q E s := by
  unfold commitChange versionRetries
  by_cases hv : row.version = r.version
  · exact wp_commitLoop_current hs hr hrow hv 4 hok hinsufficient
  · rw [commitLoop]
    simp only [Prog.bind_eq, Prog.wp_bind]
    refine wp_applyOnce hs hr hrow.id (fun h => absurd h hv) (fun _ s' h => ?_)
      fun h => absurd h hv
    -- the second try starts from the balance as it is now
    refine wp_commitLoop_current h.ready (h.data ▸ hr) (.refl r) rfl 3 (fun hfit s'' h' => ?_)
      fun hfit s'' h' => hinsufficient hfit s'' (h.data ▸ h.trans h')
    exact hok hfit s'' (h.data ▸ h.trans h')

/-- The session's object for a row is the row as it was at some time, also when the row asked for is
itself out of date. -/
lemma wp_present_of_asOf {Q : Inventory → WorkState → Prop} (hs : Ready s) {row r : Inventory}
    (hr : r ∈ s.data.inventories) (hrow : row.AsOf r)
    (h : ∀ held s', held.AsOf r → Continues s s' s.data → Q held s') :
    (present row).wp Q E s := by
  simp only [present, Prog.bind_eq, Prog.wp_bind, Prog.wp_query]
  cases hfind : s.session.seen.find? fun t => t.id = row.id with
  | some held =>
    have hid : held.id = row.id := by simpa using List.find?_some hfind
    exact h held s (hs.coherent held (List.mem_of_find?_eq_some hfind) r hr (hid.trans hrow.id))
      ⟨hs, rfl, rfl, rfl⟩
  | none =>
    simp only [Prog.wp_bind, Prog.wp_remember, Prog.pure_eq, Prog.wp_ret]
    refine h row _ hrow ⟨⟨hs.shelf, ?_⟩, rfl, rfl, rfl⟩
    intro held hh t ht hid
    rcases List.mem_cons.mp hh with rfl | hh
    · rw [hs.shelf.ids.eq_of_key_eq ht hr (hid.symm.trans hrow.id)]
      exact hrow
    · exact hs.coherent held hh t ht hid

lemma wp_present {Q : Inventory → WorkState → Prop} (hs : Ready s) {row : Inventory}
    (hrow : row ∈ s.data.inventories)
    (h : ∀ held s', held.AsOf row → Continues s s' s.data → Q held s') :
    (present row).wp Q E s :=
  wp_present_of_asOf hs hrow (.refl row) h

/-- `getPair` finds the balance, perhaps as it was at some earlier time. -/
lemma wp_getPair {Q : Option Inventory → WorkState → Prop} (hs : Ready s) {skuId warehouseId : ℕ}
    (hsome : ∀ r ∈ s.data.inventories, r.pair = (skuId, warehouseId) →
      ∀ held s', held.AsOf r → Continues s s' s.data → Q (some held) s')
    (hnone : ¬ Stocks s.data skuId warehouseId → Q none s) :
    (getPair skuId warehouseId).wp Q E s := by
  simp only [getPair, Prog.bind_eq, Prog.wp_bind, Prog.wp_select]
  cases hfind : s.data.inventories.find? fun r => r.pair = (skuId, warehouseId) with
  | none =>
    refine hnone ?_
    rintro ⟨r, hr, hp⟩
    have := List.find?_eq_none.mp hfind r hr
    simp [hp] at this
  | some r =>
    obtain ⟨hr, hp⟩ := (find?_eq_some_iff hs.shelf.pairs).mp hfind
    rw [Prog.wp_bind]
    exact wp_present hs hr fun held s' hh hc => hsome r hr hp held s' hh hc

end statements

/-! ### Draws -/

@[simp] lemma DrawMode.bucket_delta_zero (mode : DrawMode) (b : Bucket) :
    (mode.delta 0).bucket b = 0 := by
  cases mode <;> cases b <;> rfl

lemma DrawMode.bucket_delta_add (mode : DrawMode) (b : Bucket) (q q' : ℤ) :
    (mode.delta (q + q')).bucket b = (mode.delta q).bucket b + (mode.delta q').bucket b := by
  cases mode <;> cases b <;> simp [DrawMode.delta, Delta.bucket]
  ring

/-- What a draw of a SKU has done so far. -/
structure Drawn (mode : DrawMode) (skuId : ℕ) (quantity : ℤ) (s s' : WorkState)
    (taken : List Allocation) (left : ℤ) : Prop where
  ready : Ready s'
  ids : s'.session.ids = s.session.ids
  marks : s'.marks = s.marks
  moved : Moved s.data s'.data fun b t w =>
    if t = skuId then (mode.delta (allocatedAt taken w)).bucket b else 0
  positive : Positive taken
  left_nonneg : 0 ≤ left
  sum : allocated taken + left = quantity
  stocks : ∀ a ∈ taken, Stocks s.data skuId a.warehouseId

/-- The session knows a balance of the SKU. -/
def Knows (d : Db) (skuId : ℕ) (held : Inventory) : Prop :=
  ∃ r ∈ d.inventories, held.AsOf r ∧ r.skuId = skuId

lemma Knows.logged {d : Db} {skuId : ℕ} {held : Inventory} (h : Knows d skuId held)
    (r : Inventory) (δ : Delta) (line : InventoryFlow) :
    Knows (d.logged r δ line) skuId held := by
  obtain ⟨t, ht, hh, hsku⟩ := h
  by_cases hid : t.id = r.id
  · exact ⟨t.shift δ, mem_alter.mpr ⟨t, ht, by simp [hid]⟩, hh.shift δ, hsku⟩
  · exact ⟨t, mem_alter_of_ne ht hid, hh, hsku⟩

section draws

variable {s : WorkState} {E : ServiceError → WorkState → Prop} {mode : DrawMode} {skuId : ℕ}
  {quantity : ℤ} {refType : String} {refId : ℕ}

lemma Drawn.continues {s₁ s₂ : WorkState} {taken : List Allocation} {left : ℤ}
    (h : Drawn mode skuId quantity s s₁ taken left) (hc : Continues s₁ s₂ s₁.data) :
    Drawn mode skuId quantity s s₂ taken left :=
  { h with
    ready := hc.ready
    ids := hc.ids.trans h.ids
    marks := hc.marks.trans h.marks
    moved := hc.data ▸ h.moved }

/-- One more allocation. -/
lemma Drawn.take {s₁ s₂ : WorkState} {taken : List Allocation} {left : ℤ}
    (h : Drawn mode skuId quantity s s₁ taken left) {alloc : Allocation} (hpos : 0 < alloc.quantity)
    (hle : alloc.quantity ≤ left) {r : Inventory} (hr : r ∈ s₁.data.inventories)
    (hp : r.pair = (skuId, alloc.warehouseId)) (line : InventoryFlow)
    (hc : Continues s₁ s₂ (s₁.data.logged r (mode.delta alloc.quantity) line)) :
    Drawn mode skuId quantity s s₂ (taken ++ [alloc]) (left - alloc.quantity) where
  ready := hc.ready
  ids := hc.ids.trans h.ids
  marks := hc.marks.trans h.marks
  moved := by
    rw [hc.data]
    refine (h.moved.trans (.logged h.ready.shelf hr _ line)).congr fun b t w => ?_
    rw [hp, allocatedAt_append, DrawMode.bucket_delta_add]
    by_cases ht : t = skuId
    · by_cases hw : w = alloc.warehouseId
      · simp [ht, hw]
      · simp [ht, Ne.symm hw]
    · simp [ht, Ne.symm ht]
  positive := h.positive.append (by simpa [Positive] using hpos)
  left_nonneg := by omega
  sum := by
    have := h.sum
    rw [allocated_append, allocated_singleton]
    omega
  stocks := by
    intro a ha
    rcases List.mem_append.mp ha with ha | ha
    · exact h.stocks a ha
    · obtain rfl : a = alloc := by simpa using ha
      exact (h.moved.stocks _ _).mp ⟨r, hr, hp⟩

/-- The balances listed for a SKU are known ones. -/
lemma wp_listForSku {Q : List (Inventory × Warehouse) → WorkState → Prop} (hs : Ready s)
    (h : ∀ pairs s', (∀ p ∈ pairs, Knows s.data skuId p.1) → Continues s s' s.data → Q pairs s') :
    (listForSku skuId).wp Q E s := by
  have hall : ∀ (rows : List (Inventory × Warehouse)) (s₁ : WorkState)
      (Q : List (Inventory × Warehouse) → WorkState → Prop), Continues s s₁ s.data →
      (∀ p ∈ rows, p.1 ∈ s.data.inventories ∧ p.1.skuId = skuId) →
      (∀ pairs s', (∀ p ∈ pairs, Knows s.data skuId p.1) → Continues s s' s.data → Q pairs s') →
      (listForSku.presentAll rows).wp Q E s₁ := by
    intro rows
    induction rows with
    | nil =>
      intro s₁ Q hc _ hQ
      exact hQ [] s₁ (by simp) hc
    | cons p rest ih =>
      intro s₁ Q hc hrows hQ
      obtain ⟨hp, hsku⟩ := hrows p (by simp)
      simp only [listForSku.presentAll, Prog.bind_eq, Prog.wp_bind]
      refine wp_present hc.ready (hc.data ▸ hp) fun held s₂ hh hc₂ => ?_
      refine ih s₂ _ (hc.trans (hc.data ▸ hc₂)) (fun q hq => hrows q (by simp [hq])) ?_
      intro pairs s₃ hpairs hc₃
      refine hQ _ s₃ ?_ hc₃
      intro q hq
      rcases List.mem_cons.mp hq with rfl | hq
      · exact ⟨p.1, hp, hh, hsku⟩
      · exact hpairs q hq
  simp only [listForSku, Prog.bind_eq, Prog.wp_bind, Prog.wp_select]
  refine hall _ s Q ⟨hs, rfl, rfl, rfl⟩ ?_ h
  intro p hp
  rw [(List.perm_insertionSort _ _).mem_iff] at hp
  obtain ⟨r, hr, hrp⟩ := List.mem_filterMap.mp hp
  obtain ⟨w, -, rfl⟩ := Option.map_eq_some_iff.mp hrp
  simpa using hr

/-- Taking what was planned keeps account of what was taken. -/
lemma wp_takePlanned {Q : DrawState → WorkState → Prop} {pairs : List (Inventory × Warehouse)}
    (planned : List Allocation) (state : DrawState) {s₁ : WorkState}
    (hd : Drawn mode skuId quantity s s₁ state.taken state.left)
    (hknow : ∀ p ∈ pairs, Knows s₁.data skuId p.1) (hpos : Positive planned)
    (hle : allocated planned ≤ state.left)
    (hmem : ∀ a ∈ planned, ∃ p ∈ pairs, p.1.warehouseId = a.warehouseId)
    (h : ∀ state' s', Drawn mode skuId quantity s s' state'.taken state'.left → Q state' s') :
    (takePlanned mode refType refId pairs planned state).wp Q E s₁ := by
  induction planned generalizing state s₁ with
  | nil => exact h state s₁ hd
  | cons alloc rest ih =>
    have hrestpos : Positive rest := fun a ha => hpos a (List.mem_cons_of_mem alloc ha)
    have hq : 0 < alloc.quantity := hpos alloc (by simp)
    have hrest : 0 ≤ allocated rest := total_nonneg fun a ha => (hrestpos a ha).le
    have hsum : allocated (alloc :: rest) = alloc.quantity + allocated rest := total_cons _ _ _
    obtain ⟨p, hp, hpw⟩ := hmem alloc (by simp)
    cases hfind : pairs.find? fun p => p.1.warehouseId = alloc.warehouseId with
    | none =>
      have := List.find?_eq_none.mp hfind p hp
      simp [hpw] at this
    | some q =>
      have hqw : q.1.warehouseId = alloc.warehouseId := by simpa using List.find?_some hfind
      obtain ⟨r, hr, hasof, hsku⟩ := hknow q (List.mem_of_find?_eq_some hfind)
      have hpair : r.pair = (skuId, alloc.warehouseId) := by
        rw [← hasof.pair]
        have := hasof.pair
        simp only [Inventory.pair, Prod.mk.injEq] at this ⊢
        exact ⟨this.1.trans hsku, hqw⟩
      simp only [takePlanned, hfind, orRaise, Prog.pure_eq, Prog.bind_eq, Prog.wp_bind,
        Prog.wp_ret]
      refine wp_applyOnce hd.ready hr hasof.id (fun _ hfit s₂ hc => ?_)
        (fun _ s₂ hc => h _ s₂ (hd.continues hc)) fun _ _ s₂ hc => h _ s₂ (hd.continues hc)
      simp only [Prog.wp_bind, appendFlow, Prog.wp_insert, hc.data]
      refine ih
        { state with taken := state.taken ++ [alloc], left := state.left - alloc.quantity }
        (hd.take hq (by omega) hr hpair _ ⟨⟨?_, ?_⟩, rfl, hc.ids, hc.marks⟩) ?_ hrestpos
        (by simp only; omega) fun a ha => hmem a (by simp [ha])
      · exact hc.data ▸ hc.ready.shelf
      · exact hc.data ▸ hc.ready.coherent
      · exact fun p hp => (hknow p hp).logged r _ _

/-- The rounds of a draw. -/
lemma wp_drawLoop {Q : DrawState → WorkState → Prop} (rounds : ℕ) (state : DrawState)
    {s₁ : WorkState} (hd : Drawn mode skuId quantity s s₁ state.taken state.left)
    (h : ∀ state' s', Drawn mode skuId quantity s s' state'.taken state'.left → Q state' s') :
    (drawLoop skuId mode refType refId rounds state).wp Q E s₁ := by
  induction rounds generalizing state s₁ with
  | zero => exact h state s₁ hd
  | succ rounds ih =>
    rw [drawLoop]
    split
    · exact h state s₁ hd
    · simp only [Prog.bind_eq, Prog.wp_bind]
      refine wp_listForSku hd.ready fun pairs s₂ hknow hc => ?_
      obtain ⟨planned, short, hplan, hpos, hnn, hsum, hmem⟩ :=
        planAllocations_spec (pairs.map binView) hd.left_nonneg
      rw [hplan]
      dsimp only
      split
      · exact h state s₂ (hd.continues hc)
      · simp only [Prog.wp_bind]
        refine wp_takePlanned planned { state with conflict := false } (hd.continues hc) (hc.data ▸ hknow) hpos (by simp only; omega) ?_ fun state' s' h' => ?_
        · intro a ha
          obtain ⟨b, hb, hw⟩ := hmem a ha
          obtain ⟨p, hp, rfl⟩ := List.mem_map.mp hb
          exact ⟨p, hp, hw⟩
        · split
          · exact ih state' h'
          · exact h state' s' h'

/-- A draw never raises. What it takes is positive, comes from balances of the SKU, and makes up
the quantity together with what is left. -/
theorem wp_draw {Q : List Allocation × ℤ → WorkState → Prop} (hs : Ready s) (hq : 0 ≤ quantity)
    (h : ∀ taken left s', Drawn mode skuId quantity s s' taken left → Q (taken, left) s') :
    (draw skuId quantity mode refType refId).wp Q E s := by
  simp only [draw, Prog.bind_eq, Prog.wp_bind]
  refine wp_drawLoop (s := s) versionRetries { taken := [], left := quantity } ?_
    fun state' s' h' => h _ _ s' h'
  refine ⟨hs, rfl, rfl, (Moved.refl s.data).congr fun b t w => ?_, by simp [Positive], hq, by simp,
    by simp⟩
  simp

end draws

end CrossPilot
