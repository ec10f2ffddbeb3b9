import CrossPilot.Inventory.Rules

/-!
# Transfers between warehouses

Where the goods of a transfer are follows from its status: taken out of the source and on the way to
the destination once it is shipped, on hand at the destination once it is received, and nowhere but
where they were before that and after it is cancelled. `Db.transferred` adds this up over all
transfers. Whatever requests work on a transfer at once, the balances move as this sum does
(`TransferRun.conserves`): the stock of a SKU stays the same, and a transfer that was shipped and
then cancelled leaves every quantity as it found it.

A request changes nothing before the update that moves the transfer on. That update takes the row of
the transfer, so the requests on one transfer run one after the other from there on.
-/

namespace CrossPilot

open Transaction Table Prog

/-! ### Where the goods of a transfer are -/

namespace StockTransferLine

/-- What a line takes out of the source of its transfer. -/
def outOf (line : StockTransferLine) : TransferStatus → Delta
  | .draft | .cancelled => {}
  | .inTransit | .received => { available := -line.quantity }

/-- What it brings to the destination. -/
def into (line : StockTransferLine) : TransferStatus → Delta
  | .draft | .cancelled => {}
  | .inTransit => { inTransit := line.quantity }
  | .received => { available := line.quantity }

/-- What a line of the transfer `x` has brought to a bucket of a SKU in a warehouse. -/
def moved (line : StockTransferLine) (x : StockTransfer) (b : Bucket) (t w : ℕ) : ℤ :=
  (if (line.skuId, x.fromWarehouseId) = (t, w) then (line.outOf x.status).bucket b else 0) +
    if (line.skuId, x.toWarehouseId) = (t, w) then (line.into x.status).bucket b else 0

end StockTransferLine

/-- What the lines of a transfer have brought to a bucket of a SKU in a warehouse. -/
def StockTransfer.moved (x : StockTransfer) (lines : List StockTransferLine) (b : Bucket)
    (t w : ℕ) : ℤ :=
  total (fun line => line.moved x b t w) (lines.filter fun line => line.transferId = x.id)

/-- What all transfers have brought there. -/
def Db.transferred (d : Db) (b : Bucket) (t w : ℕ) : ℤ :=
  total (fun x => x.moved d.transferLines b t w) d.transfers

/-- The stock of a SKU in all warehouses, on hand and on the way. -/
def stockOf (d : Db) (skuId : ℕ) : ℤ :=
  total (fun r => if r.skuId = skuId then r.available + r.inTransit else 0) d.inventories

/-- Nothing has left the source. -/
def TransferStatus.idle : TransferStatus → Bool
  | .draft | .cancelled => true
  | .inTransit | .received => false

lemma StockTransfer.moved_of_idle {x : StockTransfer} (h : x.status.idle)
    (lines : List StockTransferLine) (b : Bucket) (t w : ℕ) : x.moved lines b t w = 0 := by
  apply total_eq_zero
  intro line _
  cases hstatus : x.status with
  | draft => cases b <;> simp [StockTransferLine.moved, StockTransferLine.outOf,
      StockTransferLine.into, hstatus, Delta.bucket]
  | cancelled => cases b <;> simp [StockTransferLine.moved, StockTransferLine.outOf,
      StockTransferLine.into, hstatus, Delta.bucket]
  | inTransit =>
    rw [hstatus] at h
    cases h
  | received =>
    rw [hstatus] at h
    cases h

/-- What a line takes out of one warehouse it brings to another. -/
lemma StockTransferLine.outOf_add_into (line : StockTransferLine) (status : TransferStatus) :
    (line.outOf status).available + (line.outOf status).inTransit +
      ((line.into status).available + (line.into status).inTransit) = 0 := by
  cases status <;> simp [outOf, into]

section sums

/-- The stock of a SKU, warehouse by warehouse. -/
lemma stockOf_eq_sum {d : Db} {skuId : ℕ} {W : Finset ℕ}
    (hW : ∀ r ∈ d.inventories, r.warehouseId ∈ W) :
    stockOf d skuId =
      ∑ w ∈ W, (balanceAt d .available skuId w + balanceAt d .inTransit skuId w) := by
  unfold stockOf balanceAt
  generalize d.inventories = rows at hW ⊢
  induction rows with
  | nil => simp
  | cons r rest ih =>
    have hrest := ih fun r' hr' => hW r' (List.mem_cons_of_mem r hr')
    simp only [total_cons, hrest]
    have hone : ∑ w ∈ W, ((if r.pair = (skuId, w) then r.available else 0) +
        if r.pair = (skuId, w) then r.inTransit else 0) =
        if r.skuId = skuId then r.available + r.inTransit else 0 := by
      by_cases hsku : r.skuId = skuId
      · rw [Finset.sum_eq_single r.warehouseId]
        · simp [Inventory.pair, hsku]
        · intro w _ hw
          simp [Inventory.pair, Ne.symm hw]
        · intro hnot
          exact absurd (hW r List.mem_cons_self) hnot
      · simp [Inventory.pair, hsku]
    rw [← hone, ← Finset.sum_add_distrib]
    apply Finset.sum_congr rfl
    intro w _
    simp only [Inventory.bucket]
    ring

/-- A line moves goods, and neither makes nor loses any. -/
lemma StockTransferLine.sum_moved (line : StockTransferLine) (x : StockTransfer) (skuId : ℕ)
    {W : Finset ℕ} (hfrom : x.fromWarehouseId ∈ W) (hto : x.toWarehouseId ∈ W) :
    ∑ w ∈ W, (line.moved x .available skuId w + line.moved x .inTransit skuId w) = 0 := by
  have hpick : ∀ (w₀ : ℕ) (q : ℤ), w₀ ∈ W →
      ∑ w ∈ W, (if (line.skuId, w₀) = (skuId, w) then q else 0) =
        if line.skuId = skuId then q else 0 := by
    intro w₀ q hw₀
    by_cases hsku : line.skuId = skuId <;> simp [hsku, hw₀]
  simp only [moved, Finset.sum_add_distrib, hpick _ _ hfrom, hpick _ _ hto, Delta.bucket]
  have hsum := line.outOf_add_into x.status
  split <;> omega

end sums

/-! ### Moving goods -/

/-- The ids that a worker will draw are none of the ids of the balances and the transfers. -/
structure Spare (l : Session) (d : Db) : Prop where
  injective : Function.Injective l.ids
  balances : ∀ n, ∀ r ∈ d.inventories, r.id ≠ l.ids n
  transfers : ∀ n, ∀ x ∈ d.transfers, x.id ≠ l.ids n

/-- `held` is the balance of the SKU in the warehouse as it was at some time. -/
def Recalls (d : Db) (held : Inventory) (skuId warehouseId : ℕ) : Prop :=
  ∃ r ∈ d.inventories, r.pair = (skuId, warehouseId) ∧ held.AsOf r

/-- `gain b t w` has gone to bucket `b` of SKU `t` in warehouse `w`. Empty balances may have been
added. -/
structure Hauled (s s' : WorkState) (gain : Bucket → ℕ → ℕ → ℤ) : Prop where
  ready : Ready s'
  spare : Spare s'.session s'.data
  drawn : s.session.Drawn s'.session
  frame : s'.data = { s.data with inventories := s'.data.inventories, flows := s'.data.flows }
  balance : ∀ b t w, balanceAt s'.data b t w = balanceAt s.data b t w + gain b t w
  added : ∀ r ∈ s'.data.inventories,
    (∃ r₀ ∈ s.data.inventories, r₀.id = r.id) ∨ ∃ n, r.id = s.session.ids n
  recalls : ∀ held t w, Recalls s.data held t w → Recalls s'.data held t w

section hauled

variable {s s' s'' : WorkState} {gain gain' : Bucket → ℕ → ℕ → ℤ}
  {E : ServiceError → WorkState → Prop}

lemma Hauled.refl (hready : Ready s) (hspare : Spare s.session s.data) :
    Hauled s s fun _ _ _ => 0 :=
  ⟨hready, hspare, .refl _, rfl, by simp, fun r hr => .inl ⟨r, hr, rfl⟩, fun _ _ _ => id⟩

lemma Hauled.trans (h : Hauled s s' gain) (h' : Hauled s' s'' gain') :
    Hauled s s'' fun b t w => gain b t w + gain' b t w := by
  refine ⟨h'.ready, h'.spare, h.drawn.trans h'.drawn, ?_, fun b t w => ?_, fun r hr => ?_,
    fun held t w hheld => h'.recalls held t w (h.recalls held t w hheld)⟩
  · rw [h'.frame, h.frame]
  · rw [h'.balance, h.balance]
    ring
  · rcases h'.added r hr with ⟨r₁, hr₁, hid₁⟩ | ⟨n, hn⟩
    · rcases h.added r₁ hr₁ with ⟨r₀, hr₀, hid₀⟩ | ⟨n, hn⟩
      · exact .inl ⟨r₀, hr₀, hid₀.trans hid₁⟩
      · exact .inr ⟨n, hid₁ ▸ hn⟩
    · obtain ⟨m, hm⟩ := h.drawn
      exact .inr ⟨n + m, hn.trans (hm n)⟩

lemma Hauled.congr (h : Hauled s s' gain) (heq : ∀ b t w, gain b t w = gain' b t w) :
    Hauled s s' gain' :=
  ⟨h.ready, h.spare, h.drawn, h.frame, fun b t w => by rw [h.balance, heq], h.added, h.recalls⟩

/-- Balances have moved, and none was added. -/
lemma Hauled.of_moved (hspare : Spare s.session s.data) (hready : Ready s')
    (hids : s'.session.ids = s.session.ids) (hm : Moved s.data s'.data gain)
    (hrecalls : ∀ held t w, Recalls s.data held t w → Recalls s'.data held t w) :
    Hauled s s' gain := by
  have htransfers : s'.data.transfers = s.data.transfers := by rw [hm.frame]
  have hold : ∀ r ∈ s'.data.inventories, ∃ r₀ ∈ s.data.inventories, r₀.id = r.id :=
    fun r hr => (hm.mem_ids r.id).mp ⟨r, hr, rfl⟩
  refine ⟨hready, ⟨?_, fun n r hr heq => ?_, ?_⟩, ⟨0, fun k => by rw [hids]; rfl⟩, hm.frame,
    hm.balance, fun r hr => .inl (hold r hr), hrecalls⟩
  · rw [hids]
    exact hspare.injective
  · obtain ⟨r₀, hr₀, hid⟩ := hold r hr
    rw [hids] at heq
    exact hspare.balances n r₀ hr₀ (hid.trans heq)
  · rw [hids, htransfers]
    exact hspare.transfers

/-- `ensure` answers with the balance of the SKU in the warehouse, and moves nothing. -/
lemma wp_ensure_hauled {skuId warehouseId : ℕ} {Q : Inventory → WorkState → Prop} (hs : Ready s)
    (hspare : Spare s.session s.data)
    (h : ∀ held s', Hauled s s' (fun _ _ _ => 0) → Recalls s'.data held skuId warehouseId →
      Q held s')
    (he : ∀ e, E e s) : (ensure skuId warehouseId).wp Q E s := by
  refine wp_ensure_of_ready hs (fun r hr hp held s₁ hheld hc => ?_)
    (fun hnone row s₁ hrow hsession hdata => ?_) he
  · have hm : Moved s.data s₁.data fun _ _ _ => 0 := hc.data ▸ .refl _
    refine h held s₁ (.of_moved hspare hc.ready hc.ids hm fun _ _ _ => ?_) ?_
    · rw [hc.data]
      exact id
    · exact ⟨r, hc.data ▸ hr, hp, hheld⟩
  have hunused : ∀ r ∈ s.data.inventories, r.id ≠ s.session.ids 0 := hspare.balances 0
  have hready : Ready s₁ := hs.add_balance hunused hnone row hrow (by rw [hsession]) (by rw [hdata])
  have hinventories : s₁.data.inventories = s.data.inventories ++ [row] := by rw [hdata]
  have hids : ∀ n, s₁.session.ids n = s.session.ids (n + 1) := by simp [hsession]
  have hid : row.id = s.session.ids 0 := by rw [hrow]
  have hmem : row ∈ s₁.data.inventories :=
    hinventories ▸ List.mem_append_right _ (List.mem_singleton_self row)
  refine h row s₁ ⟨hready, ⟨fun m n hmn => ?_, fun n r hr heq => ?_, fun n x hx => ?_⟩, ⟨1, hids⟩,
    by rw [hdata], fun b t w => ?_, fun r hr => ?_, ?_⟩ ⟨row, hmem, by rw [hrow]; rfl, .refl row⟩
  · rw [hids, hids] at hmn
    exact Nat.succ_injective (hspare.injective hmn)
  · rw [hids] at heq
    rw [hinventories] at hr
    rcases List.mem_append.mp hr with hr | hr
    · exact hspare.balances (n + 1) r hr heq
    · rw [List.mem_singleton.mp hr, hid] at heq
      cases hspare.injective heq
  · rw [hids]
    have htransfers : s₁.data.transfers = s.data.transfers := by rw [hdata]
    exact hspare.transfers (n + 1) x (htransfers ▸ hx)
  · unfold balanceAt
    rw [hinventories]
    cases b <;> simp [hrow, Inventory.bucket]
  · rw [hinventories] at hr
    rcases List.mem_append.mp hr with hr | hr
    · exact .inl ⟨r, hr, rfl⟩
    · rw [List.mem_singleton.mp hr]
      exact .inr ⟨0, hid⟩
  · rintro held t w ⟨r, hr, hp, hheld⟩
    exact ⟨r, hinventories ▸ List.mem_append_left _ hr, hp, hheld⟩

/-- One leg of a transfer moves one balance. -/
lemma wp_moveLeg {row : Inventory} {move : StockMove} {quantity : ℤ} {transferId skuId : ℕ}
    {warehouseId : ℕ} {Q : Unit → WorkState → Prop} (hs : Ready s)
    (hspare : Spare s.session s.data) (hrow : Recalls s.data row skuId warehouseId)
    (h : ∀ s', Hauled s s' (fun b t w => if (skuId, warehouseId) = (t, w) then
      ({ available := move.availableDelta, inTransit := move.inTransitDelta } : Delta).bucket b
      else 0) → Q () s')
    (he : ∀ e s', E e s') : (moveLeg row move quantity transferId).wp Q E s := by
  obtain ⟨r, hr, hp, hheld⟩ := hrow
  simp only [moveLeg, bind_eq, wp_bind, pure_eq, wp_ret]
  refine wp_commitChange hs hr hheld (fun _ s' hc => ?_) fun _ s' _ => he _ s'
  refine h s' (.of_moved hspare hc.ready hc.ids
    (hc.data ▸ (Moved.logged hs.shelf hr _ _).congr fun b t w => by rw [hp]) ?_)
  rintro held t w ⟨r', hr', hp', hheld'⟩
  by_cases hid : r'.id = r.id
  · obtain rfl := hs.shelf.ids.eq_of_key_eq hr' hr hid
    exact ⟨r'.shift { available := move.availableDelta, inTransit := move.inTransitDelta },
      hc.data ▸ mem_alter_self hr', hp', hheld'.shift _⟩
  · exact ⟨r', hc.data ▸ mem_alter_of_ne hr' hid, hp', hheld'⟩

end hauled

/-! ### The lines of a request -/

section legs

variable {s s₁ : WorkState} {gain : Bucket → ℕ → ℕ → ℤ} {E : ServiceError → WorkState → Prop}

/-- A line that fails leaves nothing, one that does not moves its goods from where they are in one
status of the transfer to where they are in another. -/
def Shifts (x : StockTransfer) (status : TransferStatus)
    (leg : StockTransferLine → Work Unit) : Prop :=
  ∀ line s, Ready s → Spare s.session s.data → ∀ E : ServiceError → WorkState → Prop,
    (∀ e s', E e s') → (leg line).wp (fun _ s' => Hauled s s' fun b t w =>
      line.moved { x with status } b t w - line.moved x b t w) E s

/-- The lines of a transfer, one after the other. -/
lemma Shifts.forEach {x : StockTransfer} {status : TransferStatus}
    {leg : StockTransferLine → Work Unit} (h : Shifts x status leg)
    (lines : List StockTransferLine) {s : WorkState} (hs : Ready s)
    (hspare : Spare s.session s.data) (he : ∀ e s', E e s') :
    (Prog.forEach lines leg).wp (fun _ s' => Hauled s s' fun b t w =>
      total (fun line => line.moved { x with status } b t w) lines -
        total (fun line => line.moved x b t w) lines) E s := by
  induction lines generalizing s with
  | nil => exact .refl hs hspare
  | cons line rest ih =>
    rw [Prog.forEach, wp_bind]
    refine wp_mono (h line s hs hspare E he) (fun _ s₁ h₁ => ?_) fun _ _ h => h
    refine wp_mono (ih h₁.ready h₁.spare) (fun _ s₂ h₂ => ?_) fun _ _ h => h
    refine (h₁.trans h₂).congr fun b t w => ?_
    simp only [total_cons]
    ring

lemma wp_positive {quantity : ℤ} {Q : Unit → WorkState → Prop} (h : Q () s)
    (he : ∀ e s', E e s') : (positive quantity).wp Q E s := by
  unfold positive
  split
  · exact he _ s
  · exact h

/-- Two legs between two balances. -/
lemma wp_twoLegs {skuId here there : ℕ} {hereMove thereMove : StockMove} {quantity : ℤ}
    {transferId : ℕ} (hs : Ready s) (hspare : Spare s.session s.data) (he : ∀ e s', E e s') :
    (((ensure skuId here).bind fun first => (ensure skuId there).bind fun second =>
      (moveLeg first hereMove quantity transferId).bind fun _ =>
        moveLeg second thereMove quantity transferId) : Work Unit).wp
      (fun _ s' => Hauled s s' fun b t w =>
        (if (skuId, here) = (t, w) then
          ({ available := hereMove.availableDelta, inTransit := hereMove.inTransitDelta } :
            Delta).bucket b else 0) +
        if (skuId, there) = (t, w) then
          ({ available := thereMove.availableDelta, inTransit := thereMove.inTransitDelta } :
            Delta).bucket b else 0) E s := by
  rw [wp_bind]
  refine wp_ensure_hauled hs hspare (fun first s₁ h₁ hfirst => ?_) fun e => he e s
  rw [wp_bind]
  refine wp_ensure_hauled h₁.ready h₁.spare (fun second s₂ h₂ hsecond => ?_) fun e => he e s₁
  rw [wp_bind]
  refine wp_moveLeg h₂.ready h₂.spare (h₂.recalls _ _ _ hfirst) (fun s₃ h₃ => ?_) he
  refine wp_moveLeg h₃.ready h₃.spare (h₃.recalls _ _ _ hsecond) (fun s₄ h₄ => ?_) he
  refine (((h₁.trans h₂).trans h₃).trans h₄).congr fun b t w => ?_
  ring

lemma shifts_ship {x : StockTransfer} (hx : x.status = .draft) :
    Shifts x .inTransit (fun line => do
      positive line.quantity
      let (sourceMove, destMove) := shipMoves line.quantity
      let source ← ensure line.skuId x.fromWarehouseId
      let dest ← ensure line.skuId x.toWarehouseId
      moveLeg source sourceMove line.quantity x.id
      moveLeg dest destMove line.quantity x.id) := by
  intro line s hs hspare E he
  beta_reduce
  rw [bind_eq, wp_bind]
  refine wp_positive (wp_mono (wp_twoLegs hs hspare he) (fun _ s' h => ?_) fun _ _ h => h) he
  refine h.congr fun b t w => ?_
  cases b <;> simp [StockTransferLine.moved, StockTransferLine.outOf, StockTransferLine.into, hx,
    Delta.bucket]

lemma shifts_receive {x : StockTransfer} (hx : x.status = .inTransit) :
    Shifts x .received (fun line => do
      let dest ← ensure line.skuId x.toWarehouseId
      positive line.quantity
      moveLeg dest (receiveMove line.quantity) line.quantity x.id) := by
  intro line s hs hspare E he
  beta_reduce
  rw [bind_eq, wp_bind]
  refine wp_ensure_hauled hs hspare (fun dest s₁ h₁ hdest => ?_) fun e => he e s
  rw [bind_eq, wp_bind]
  refine wp_positive (wp_moveLeg h₁.ready h₁.spare hdest (fun s₂ h₂ => ?_) he) he
  refine (h₁.trans h₂).congr fun b t w => ?_
  cases b <;> simp [StockTransferLine.moved, StockTransferLine.outOf, StockTransferLine.into, hx,
    receiveMove, Delta.bucket]
  split <;> ring

lemma shifts_cancel {x : StockTransfer} (hx : x.status = .inTransit) :
    Shifts x .cancelled (fun line => do
      positive line.quantity
      let (destMove, sourceMove) := cancelTransitMoves line.quantity
      let dest ← ensure line.skuId x.toWarehouseId
      let source ← ensure line.skuId x.fromWarehouseId
      moveLeg dest destMove line.quantity x.id
      moveLeg source sourceMove line.quantity x.id) := by
  intro line s hs hspare E he
  beta_reduce
  rw [bind_eq, wp_bind]
  refine wp_positive (wp_mono (wp_twoLegs hs hspare he) (fun _ s' h => ?_) fun _ _ h => h) he
  refine h.congr fun b t w => ?_
  cases b <;> simp [StockTransferLine.moved, StockTransferLine.outOf, StockTransferLine.into, hx,
    Delta.bucket]
  all_goals split <;> simp

end legs

/-! ### Requests -/

/-- A request to work on a transfer. -/
inductive TransferCall
  | ship | receive | cancel
  deriving DecidableEq

def TransferCall.work (transferId : ℕ) :
    TransferCall → Work (StockTransfer × List StockTransferLine)
  | ship => shipTransfer transferId
  | receive => receiveTransfer transferId
  | cancel => cancelTransfer transferId

/-- The statuses that may follow. -/
def TransferStatus.next : TransferStatus → List TransferStatus
  | .draft => [.inTransit, .cancelled]
  | .inTransit => [.received, .cancelled]
  | .received | .cancelled => []

/-- The tables that transfers work on, as their constraints allow them. -/
structure Depot (d : Db) : Prop where
  shelf : Shelf d.inventories
  transfers : Keyed StockTransfer.id d.transfers

/-- What a request on a transfer leaves. -/
structure Handled (transferId : ℕ) (l : Session) (d d' : Db) : Prop where
  depot : Depot d'
  lines : d'.transferLines = d.transferLines
  transfers : d'.transfers = d.transfers ∨ ∃ x ∈ d.transfers, x.id = transferId ∧
    ∃ status ∈ x.status.next,
      d'.transfers = alter StockTransfer.id x.id (fun x => { x with status }) d.transfers
  balance : ∀ b t w, balanceAt d' b t w - balanceAt d b t w =
    d'.transferred b t w - d.transferred b t w
  added : ∀ r ∈ d'.inventories, (∃ r₀ ∈ d.inventories, r₀.id = r.id) ∨ ∃ n, r.id = l.ids n

/-- What a request relies on until it moves the transfer on: nobody changes the lines and the
warehouses of a transfer, and nobody else has its ids. -/
structure Awaits (transferId source dest : ℕ) (lines : List StockTransferLine) (l l' : Session)
    (d : Db) : Prop where
  session : l' = l
  depot : Depot d
  spare : Spare l d
  lines : d.transferLines = lines
  row : ∀ x ∈ d.transfers, x.id = transferId → x.fromWarehouseId = source ∧ x.toWarehouseId = dest

section requests

variable {transferId source dest : ℕ} {lines : List StockTransferLine} {l : Session} {d d' : Db}

lemma Handled.refl (hd : Depot d) : Handled transferId l d d :=
  ⟨hd, rfl, .inl rfl, by simp, fun r hr => .inl ⟨r, hr, rfl⟩⟩

/-- A transfer that is moved on moves what its lines do. -/
lemma transferred_alter (hd : Depot d) {x : StockTransfer} (hx : x ∈ d.transfers)
    (status : TransferStatus) (hlines : d'.transferLines = d.transferLines)
    (htransfers : d'.transfers =
      alter StockTransfer.id x.id (fun x => { x with status }) d.transfers) (b : Bucket)
    (t w : ℕ) : d'.transferred b t w - d.transferred b t w =
      ({ x with status } : StockTransfer).moved d.transferLines b t w -
        x.moved d.transferLines b t w := by
  unfold Db.transferred
  rw [hlines, htransfers, total_alter hd.transfers hx]
  ring

/-- The data with a transfer moved on. -/
def Db.movedOn (d : Db) (x : StockTransfer) (status : TransferStatus) : Db :=
  { d with transfers := alter StockTransfer.id x.id (fun x => { x with status }) d.transfers }

/-- The transfer has been moved on, and then its goods. -/
lemma Handled.of_hauled (hd : Awaits transferId source dest lines l l d) {x : StockTransfer}
    (hx : x ∈ d.transfers) (hid : x.id = transferId) {status : TransferStatus}
    (hnext : status ∈ x.status.next) {s' : WorkState} (h : Hauled ⟨l, d.movedOn x status, []⟩ s'
      fun b t w => ({ x with status } : StockTransfer).moved lines b t w - x.moved lines b t w) :
    Handled transferId l d s'.data := by
  have hlines : s'.data.transferLines = d.transferLines := by
    rw [h.frame]
    rfl
  have htransfers : s'.data.transfers =
      alter StockTransfer.id x.id (fun x => { x with status }) d.transfers := by
    rw [h.frame]
    rfl
  refine ⟨⟨h.ready.shelf, ?_⟩, hlines, .inr ⟨x, hx, hid, status, hnext, htransfers⟩,
    fun b t w => ?_, h.added⟩
  · rw [htransfers]
    exact hd.depot.transfers.alter fun _ => rfl
  · rw [transferred_alter hd.depot hx status hlines htransfers, h.balance, hd.lines]
    exact add_sub_cancel_left _ _

/-- A transfer that is as it was found is the one row that `transitionTransfer` hits. -/
lemma hits_of_mem (hd : Depot d) {x : StockTransfer} (hx : x ∈ d.transfers)
    (status : TransferStatus) :
    (d.transfers.filter fun t => t.id = x.id && t.status = x.status) = [x] ∧
      (d.transfers.map fun t => if (decide (t.id = x.id) && decide (t.status = x.status)) = true
        then { t with status } else t) = (d.movedOn x status).transfers := by
  constructor
  · refine hd.transfers.filter_eq_singleton hx (by simp) fun t _ ht => ?_
    simp only [Bool.and_eq_true, decide_eq_true_eq] at ht
    exact ht.1
  · refine List.map_congr_left fun t ht => ?_
    by_cases htid : t.id = x.id
    · rw [hd.transfers.eq_of_key_eq ht hx htid]
      simp
    · simp [htid]

/-- Moving a transfer on is the first change of a request, and its lock. What it does from there on
is what the lines move. -/
lemma opens_transition (hseen : l.seen = []) {row : StockTransfer} (hid : row.id = transferId)
    (hfrom : row.fromWarehouseId = source) (hto : row.toWarehouseId = dest)
    {status : TransferStatus} (hnext : status ∈ row.status.next)
    {k : Work (StockTransfer × List StockTransferLine)} (hplain : k.Plain Session.Drawn)
    (hk : ∀ s, Ready s → Spare s.session s.data → ∀ E : ServiceError → WorkState → Prop,
      (∀ e s', E e s') → k.wp (fun _ s' => Hauled s s' fun b t w =>
        ({ row with status } : StockTransfer).moved lines b t w - row.moved lines b t w) E s) :
    Opens (.transfer transferId) (Awaits transferId source dest lines l)
      (Handled transferId l) l
      ((transitionTransfer row.id row.status status).bind fun moved =>
        if !moved then raise .transferState else k) := by
  unfold transitionTransfer
  refine Opens.update (fun d₁ _ hlock d hd => ?_) fun d₁ _ hnone => ?_
  swap
  -- nothing is found, and nothing will be changed
  · have hempty : (d₁.transfers.filter fun x => x.id = row.id && x.status = row.status) = [] := by
      rw [List.filter_eq_nil_iff]
      intro x hx hhit
      refine hnone (List.mem_map.mpr ⟨x, List.mem_filter.mpr ⟨hx, hhit⟩, ?_⟩)
      simp only [Bool.and_eq_true, decide_eq_true_eq] at hhit
      rw [hhit.1, hid]
    refine ⟨fun d => ?_, fun d _ => ?_⟩
    · simp [hempty]
    · simp only [hempty, List.map_nil, List.not_mem_nil, decide_false, Bool.false_and]
      rw [if_pos (by simp)]
      trivial
  generalize (d₁.transfers.filter fun x => x.id = row.id && x.status = row.status).map
    (fun x => RowKey.transfer x.id) = ts at hlock
  have hlocked : ∀ x : StockTransfer, (decide (RowKey.transfer x.id ∈ ts) &&
      (decide (x.id = row.id) && decide (x.status = row.status))) =
        (decide (x.id = row.id) && decide (x.status = row.status)) := by
    intro x
    by_cases hx : x.id = row.id
    · simp [hx, hid, hlock]
    · simp [hx]
  simp only [hlocked]
  by_cases hhit : ∃ x ∈ d.transfers, x.id = row.id ∧ x.status = row.status
  · obtain ⟨x, hx, hxid, hxstatus⟩ := hhit
    obtain ⟨hxfrom, hxto⟩ := hd.row x hx (hxid.trans hid)
    obtain rfl : x = row := by
      obtain ⟨_, _, _, _⟩ := x
      obtain ⟨_, _, _, _⟩ := row
      simp_all
    obtain ⟨hrows, hafter⟩ := hits_of_mem hd.depot hx status
    rw [hrows, hafter]
    have hspare : Spare l (d.movedOn x status) := by
      refine ⟨hd.spare.injective, hd.spare.balances, fun n y hy => ?_⟩
      obtain ⟨z, hz, rfl⟩ := mem_alter.mp hy
      split
      · exact hd.spare.transfers n z hz
      · exact hd.spare.transfers n z hz
    refine ⟨hplain.mono fun _ _ _ => trivial, Tx.settle_of_wp (wp_mono
      (hk ⟨l, d.movedOn x status, []⟩ ⟨hd.depot.shelf, by simp [hseen]⟩ hspare (fun _ _ => True)
        fun _ _ => trivial) (fun _ s' h => .of_hauled hd hx hid hnext h) fun _ _ _ => .refl hd.depot)⟩
  -- the transfer is no longer as it was found
  · have hrows : (d.transfers.filter fun t => t.id = row.id && t.status = row.status) = [] := by
      refine List.filter_eq_nil_iff.mpr fun t ht hhit' => hhit ⟨t, ht, ?_⟩
      simpa using hhit'
    rw [hrows, if_pos (by simp)]
    exact ⟨trivial, .refl hd.depot⟩

lemma opens_getTransfer {R : Db → Db → Prop}
    {k : StockTransfer → Work (StockTransfer × List StockTransferLine)}
    (h : ∀ row, row.id = transferId → row.fromWarehouseId = source → row.toWarehouseId = dest →
      Opens (.transfer transferId) (Awaits transferId source dest lines l) R l (k row)) :
    Opens (.transfer transferId) (Awaits transferId source dest lines l) R l
      ((getTransfer transferId).bind k) := by
  unfold getTransfer
  rw [bind_eq, bind_assoc]
  refine Opens.select fun d hd => ?_
  cases hfind : d.transfers.find? fun t => t.id = transferId with
  | none => trivial
  | some row =>
    have hid : row.id = transferId := by simpa using List.find?_some hfind
    obtain ⟨hfrom, hto⟩ := hd.row row (List.mem_of_find?_eq_some hfind) hid
    exact h row hid hfrom hto

/-- The lines of a transfer, in their order, and then its view. -/
lemma wp_lines {row : StockTransfer} {status : TransferStatus}
    {leg : StockTransferLine → Work Unit} (hleg : Shifts row status leg) {s : WorkState}
    (hs : Ready s) (hspare : Spare s.session s.data) {E : ServiceError → WorkState → Prop}
    (he : ∀ e s', E e s') :
    ((Prog.forEach ((lines.filter fun line => line.transferId = row.id).insertionSort
      fun a b => a.id ≤ b.id) leg).bind fun _ => transferView { row with status }).wp
      (fun _ s' => Hauled s s' fun b t w =>
        ({ row with status } : StockTransfer).moved lines b t w - row.moved lines b t w) E s := by
  rw [wp_bind]
  refine wp_mono (hleg.forEach _ hs hspare he) (fun _ s₁ h₁ => ?_) fun _ _ h => h
  refine wp_mono (maintains_transferView (I := (· = s₁)) _ s₁ rfl) (fun _ s₂ h₂ => ?_)
    fun e s₂ _ => he e s₂
  rw [h₂]
  refine h₁.congr fun b t w => ?_
  unfold StockTransfer.moved
  rw [total_perm (List.perm_insertionSort _ _), total_perm (List.perm_insertionSort _ _)]

lemma plain_positive (quantity : ℤ) : (positive quantity).Plain Session.Drawn :=
  plainRules.positive (K := []) quantity

lemma plain_moveLeg (row : Inventory) (move : StockMove) (quantity : ℤ) (transferId : ℕ) :
    (moveLeg row move quantity transferId).Plain Session.Drawn :=
  (plain_commitLoop _ _ _ _).bind fun _ => .ret ()

/-- The lines of a transfer set no savepoints, and nor does its view. -/
lemma plain_lines {leg : StockTransferLine → Work Unit} (hleg : ∀ line, (leg line).Plain Session.Drawn)
    (lines : List StockTransferLine) (row : StockTransfer) :
    ((Prog.forEach lines leg).bind fun _ => transferView row).Plain Session.Drawn :=
  (plainRules.forEach (K := []) fun line _ => hleg line).bind fun _ =>
    plainRules.transferView (K := []) row

/-- A request changes nothing before it has the row of the transfer. -/
theorem opens_work (hseen : l.seen = []) (call : TransferCall) :
    Opens (.transfer transferId) (Awaits transferId source dest lines l)
      (Handled transferId l) l (call.work transferId) := by
  cases call with
  | ship =>
    refine opens_getTransfer fun row hid hfrom hto => ?_
    split
    · trivial
    rename_i hdraft
    rw [not_not] at hdraft
    refine Opens.select fun d hd => ?_
    rw [hd.lines, ← hdraft]
    refine opens_transition hseen hid hfrom hto (by rw [hdraft]; decide)
      (plain_lines (fun line => ?_) _ _) fun s hs hspare E he =>
        wp_lines (shifts_ship hdraft) hs hspare he
    exact (plain_positive _).bind fun _ => (plain_ensure _ _).bind fun _ =>
      (plain_ensure _ _).bind fun _ => (plain_moveLeg _ _ _ _).bind fun _ => plain_moveLeg _ _ _ _
  | receive =>
    refine opens_getTransfer fun row hid hfrom hto => ?_
    split
    · trivial
    rename_i htransit
    rw [not_not] at htransit
    refine Opens.select fun d hd => ?_
    rw [hd.lines, ← htransit]
    refine opens_transition hseen hid hfrom hto (by rw [htransit]; decide)
      (plain_lines (fun line => ?_) _ _) fun s hs hspare E he =>
        wp_lines (shifts_receive htransit) hs hspare he
    exact (plain_ensure _ _).bind fun _ => (plain_positive _).bind fun _ => plain_moveLeg _ _ _ _
  | cancel =>
    refine opens_getTransfer fun row hid hfrom hto => Opens.select fun d hd => ?_
    rw [hd.lines]
    split
    · rename_i hdraft
      rw [← hdraft]
      refine opens_transition hseen hid hfrom hto (by rw [hdraft]; decide)
        (plainRules.transferView (K := []) _) fun s hs hspare E he => ?_
      -- nothing has left the source
      refine wp_mono (maintains_transferView (I := (· = s)) _ s rfl) (fun _ s₁ h₁ => ?_)
        fun e s₁ _ => he e s₁
      rw [h₁]
      refine (Hauled.refl hs hspare).congr fun b t w => ?_
      rw [StockTransfer.moved_of_idle rfl, StockTransfer.moved_of_idle (by rw [hdraft]; rfl),
        sub_zero]
    · split
      · trivial
      rename_i htransit
      rw [not_not] at htransit
      rw [← htransit]
      refine opens_transition hseen hid hfrom hto (by rw [htransit]; decide)
        (plain_lines (fun line => ?_) _ _) fun s hs hspare E he =>
          wp_lines (shifts_cancel htransit) hs hspare he
      exact (plain_positive _).bind fun _ => (plain_ensure _ _).bind fun _ =>
        (plain_ensure _ _).bind fun _ => (plain_moveLeg _ _ _ _).bind fun _ => plain_moveLeg _ _ _ _

end requests

/-! ### Runs -/

/-- A worker with a new session, whose ids nobody has yet. -/
structure Clerk (l : Session) (d : Db) : Prop where
  seen : l.seen = []
  spare : Spare l d

/-- A run of the transfers that begins with `d₀`, with the data before and after each step of a
transfer. The requests that work on one transfer at once take turns in any order, and none of them
need come to its end. The rest of the system leaves the transfers alone. -/
inductive TransferRun (d₀ : Db) : List (Db × Db) → Db → Prop
  | start : Depot d₀ → TransferRun d₀ [] d₀
  | create {steps : List (Db × Db)} {d : Db} (source dest : ℕ) (lines : List (ℕ × ℤ)) (l : Session) :
    TransferRun d₀ steps d → Clerk l d →
    TransferRun d₀ (steps ++ [(d, (createTransfer source dest lines).commit l d)])
      ((createTransfer source dest lines).commit l d)
  | requests {steps : List (Db × Db)} {d d' : Db} (transferId n : ℕ) (call : Fin n → TransferCall)
    (l : Fin n → Session) (turns : List (Fin n)) :
    TransferRun d₀ steps d → (∀ i, Clerk (l i) d) →
    (∀ i j, i ≠ j → ∀ m m', (l i).ids m ≠ (l j).ids m') →
    d' = ((World.mk d fun i => Tx.start ((call i).work transferId) (l i)).run turns).committed →
    TransferRun d₀ (steps ++ [(d, d')]) d'
  | elsewhere {steps : List (Db × Db)} {d d' : Db} : TransferRun d₀ steps d → Shelf d'.inventories →
    d'.transfers = d.transfers → d'.transferLines = d.transferLines → TransferRun d₀ steps d'

/-- The goods of a transfer arrive in the stock on hand of its destination. -/
def receives (transferId : ℕ) (step : Db × Db) : Bool :=
  (step.1.transfers.any fun x => x.id = transferId && x.status ≠ .received) &&
    step.2.transfers.any fun x => x.id = transferId && x.status = .received

/-- The lines of a transfer. -/
def linesOf (d : Db) (x : StockTransfer) : List StockTransferLine :=
  d.transferLines.filter fun line => line.transferId = x.id

/-- What a step of the transfers keeps. -/
structure TransferStep (d d' : Db) : Prop where
  depot : Depot d'
  balance : ∀ b t w, balanceAt d' b t w - balanceAt d b t w =
    d'.transferred b t w - d.transferred b t w
  lines : ∀ x ∈ d.transfers, linesOf d' x = linesOf d x
  goes : ∀ x ∈ d.transfers, ∃ x' ∈ d'.transfers, x'.id = x.id ∧
    (x.status = .received → x'.status = .received)

section runs

variable {d d' d'' d₀ : Db} {steps : List (Db × Db)}

lemma TransferStep.refl (hd : Depot d) : TransferStep d d :=
  ⟨hd, by simp, fun _ _ => rfl, fun x hx => ⟨x, hx, rfl, id⟩⟩

lemma TransferStep.trans (h : TransferStep d d') (h' : TransferStep d' d'') :
    TransferStep d d'' := by
  refine ⟨h'.depot, fun b t w => ?_, fun x hx => ?_, fun x hx => ?_⟩
  · have := h.balance b t w
    have := h'.balance b t w
    omega
  · obtain ⟨x', hx', hid, -⟩ := h.goes x hx
    have hlines := h'.lines x' hx'
    unfold linesOf at hlines
    rw [hid] at hlines
    exact hlines.trans (h.lines x hx)
  · obtain ⟨x', hx', hid, hgo⟩ := h.goes x hx
    obtain ⟨x'', hx'', hid', hgo'⟩ := h'.goes x' hx'
    exact ⟨x'', hx'', hid'.trans hid, fun hrec => hgo' (hgo hrec)⟩

/-- A request on a transfer is a step. -/
lemma Handled.step {transferId : ℕ} {l : Session} (hd : Depot d)
    (h : Handled transferId l d d') : TransferStep d d' := by
  refine ⟨h.depot, h.balance, fun x _ => ?_, fun x hx => ?_⟩
  · unfold linesOf
    rw [h.lines]
  · rcases h.transfers with hsame | ⟨y, hy, -, status, hnext, halter⟩
    · exact ⟨x, hsame ▸ hx, rfl, id⟩
    · by_cases hid : x.id = y.id
      · obtain rfl := hd.transfers.eq_of_key_eq hx hy hid
        refine ⟨{ x with status }, halter ▸ mem_alter_self hx, rfl, fun hrec => ?_⟩
        rw [hrec] at hnext
        cases hnext
      · exact ⟨x, halter ▸ mem_alter_of_ne hx hid, rfl, id⟩

/-- A request leaves to the others what they rely on. -/
lemma Awaits.requested {transferId source dest : ℕ} {lines : List StockTransferLine}
    {l l₁ l₂ : Session} (h : Awaits transferId source dest lines l₁ l₂ d)
    (hstep : Handled transferId l d d') (hids : ∀ m m', l.ids m ≠ l₁.ids m') :
    Awaits transferId source dest lines l₁ l₂ d' := by
  have hfrom : ∀ x' ∈ d'.transfers, ∃ x ∈ d.transfers, x.id = x'.id ∧
      x.fromWarehouseId = x'.fromWarehouseId ∧ x.toWarehouseId = x'.toWarehouseId := by
    intro x' hx'
    rcases hstep.transfers with hsame | ⟨y, hy, -, status, -, halter⟩
    · exact ⟨x', hsame ▸ hx', rfl, rfl, rfl⟩
    · rw [halter] at hx'
      obtain ⟨z, hz, rfl⟩ := mem_alter.mp hx'
      refine ⟨z, hz, ?_⟩
      split <;> exact ⟨rfl, rfl, rfl⟩
  refine ⟨h.session, hstep.depot, ⟨h.spare.injective, fun n r hr heq => ?_, fun n x' hx' heq => ?_⟩,
    hstep.lines.trans h.lines, fun x' hx' hid => ?_⟩
  · rcases hstep.added r hr with ⟨r₀, hr₀, hid⟩ | ⟨m, hm⟩
    · exact h.spare.balances n r₀ hr₀ (hid.trans heq)
    · exact hids m n (hm.symm.trans heq)
  · obtain ⟨x, hx, hid, -⟩ := hfrom x' hx'
    exact h.spare.transfers n x hx (hid.trans heq)
  · obtain ⟨x, hx, hid', hsource, hdest⟩ := hfrom x' hx'
    rw [← hsource, ← hdest]
    exact h.row x hx (hid'.trans hid)

/-- Any number of requests on one transfer at once, in any order of their turns. -/
theorem step_requests (hd : Depot d) {transferId n : ℕ} (call : Fin n → TransferCall)
    {l : Fin n → Session} (hl : ∀ i, Clerk (l i) d)
    (hids : ∀ i j, i ≠ j → ∀ m m', (l i).ids m ≠ (l j).ids m') (turns : List (Fin n)) :
    TransferStep d ((World.mk d fun i =>
      Tx.start ((call i).work transferId) (l i)).run turns).committed := by
  obtain ⟨source, dest, hrow⟩ : ∃ source dest, ∀ x ∈ d.transfers, x.id = transferId →
      x.fromWarehouseId = source ∧ x.toWarehouseId = dest := by
    by_cases hex : ∃ x ∈ d.transfers, x.id = transferId
    · obtain ⟨x, hx, hid⟩ := hex
      refine ⟨x.fromWarehouseId, x.toWarehouseId, fun y hy hyid => ?_⟩
      rw [hd.transfers.eq_of_key_eq hy hx (hyid.trans hid.symm)]
      exact ⟨rfl, rfl⟩
    · exact ⟨0, 0, fun x hx hid => absurd ⟨x, hx, hid⟩ hex⟩
  have hstart : ∀ i, Awaits transferId source dest d.transferLines (l i) (l i) d := fun i =>
    ⟨rfl, hd, (hl i).spare, rfl, hrow⟩
  have hopens : ∀ i, Opens (.transfer transferId)
      (Awaits transferId source dest d.transferLines (l i)) (Handled transferId (l i)) (l i)
      ((call i).work transferId) := fun i => opens_work (hl i).seen (call i)
  have hqueued := World.queued (fun i j _ _ hij hstep _ h => h.requested hstep (hids i j hij))
    hstart hopens turns
  generalize ((World.mk d fun i => Tx.start ((call i).work transferId) (l i)).run turns).committed
    = d' at hqueued ⊢
  induction hqueued with
  | refl => exact .refl hd
  | tail _ hstep ih =>
    obtain ⟨i, hstep⟩ := hstep
    exact ih.trans (hstep.step ih.depot)

/-- A new transfer moves nothing. -/
theorem step_create (hd : Depot d) {source dest : ℕ} {lines : List (ℕ × ℤ)} {l : Session}
    (hl : Clerk l d) : TransferStep d ((createTransfer source dest lines).commit l d) := by
  let row : StockTransfer := ⟨l.ids 0, source, dest, .draft⟩
  have hnew : ∀ x ∈ d.transfers, x.id ≠ row.id := hl.spare.transfers 0
  -- the lines are those of before, and then some of the new transfer
  let I (s : WorkState) : Prop := s.data.inventories = d.inventories ∧
    s.data.transfers = d.transfers ++ [row] ∧
    ∃ more, s.data.transferLines = d.transferLines ++ more ∧ ∀ line ∈ more, line.transferId = row.id
  have hstep : ∀ s, I s → TransferStep d s.data := by
    rintro s ⟨hinventories, htransfers, more, hlines, hmore⟩
    have hof : ∀ x ∈ d.transfers, linesOf s.data x = linesOf d x := by
      intro x hx
      unfold linesOf
      rw [hlines, List.filter_append, List.append_right_eq_self, List.filter_eq_nil_iff]
      intro line hline
      simpa [hmore line hline] using Ne.symm (hnew x hx)
    have hsum : ∀ b t w, s.data.transferred b t w = d.transferred b t w := by
      intro b t w
      unfold Db.transferred
      rw [htransfers, total_append, total_cons, total_nil, StockTransfer.moved_of_idle rfl,
        add_zero, add_zero]
      refine total_congr fun x hx => ?_
      have := hof x hx
      unfold linesOf at this
      unfold StockTransfer.moved
      rw [this]
    refine ⟨⟨hinventories ▸ hd.shelf, htransfers ▸ hd.transfers.append_singleton hnew⟩,
      fun b t w => ?_, hof, fun x hx => ⟨x, htransfers ▸ List.mem_append_left _ hx, rfl, id⟩⟩
    unfold balanceAt
    rw [hinventories, hsum, sub_self, sub_self]
  refine commit_of_wp ?_
  have hread : ∀ {α β : Type} {p : Work β} {k : β → Work α} {R : Db → Prop} {s : WorkState},
      Maintains (· = s) p → R d → (∀ b, (k b).wp (fun _ s' => R s'.data) (fun _ _ => R d) s) →
      (p.bind k).wp (fun _ s' => R s'.data) (fun _ _ => R d) s := by
    intro α β p k R s hp hR hk
    rw [wp_bind]
    refine wp_mono (hp s rfl) (fun b s' h => ?_) fun _ _ _ => hR
    rw [h]
    exact hk b
  have hself := TransferStep.refl hd
  unfold createTransfer
  split
  · exact hself
  refine hread (maintains_getWarehouse _) hself fun _ => hread (maintains_getWarehouse _) hself
    fun _ => hread (.forEach fun _ _ => (maintains_getSku _).bind fun _ => .ret ()) hself fun _ => ?_
  rw [bind_eq, wp_bind, wp_nextSnowflakeId, bind_eq, wp_bind, wp_insert]
  refine wp_mono (Maintains.bind (I := I) (.forEach fun line _ => ?_)
    (fun _ => maintains_transferView row) _ ⟨rfl, rfl, [], by simp, by simp⟩)
    (fun _ s' h => hstep s' h) fun _ _ _ => hself
  rintro s ⟨hinventories, htransfers, more, hlines, hmore⟩
  rw [bind_eq, wp_bind, wp_nextSnowflakeId, wp_insert]
  refine ⟨hinventories, htransfers, more ++ [⟨s.session.ids 0, row.id, line.1, line.2⟩], ?_, ?_⟩
  · rw [← List.append_assoc, ← hlines]
  · intro new hnew'
    rcases List.mem_append.mp hnew' with hold | hlast
    · exact hmore new hold
    · rw [List.mem_singleton.mp hlast]

lemma sum_transferred (skuId : ℕ) {W : Finset ℕ}
    (hW : ∀ x ∈ d.transfers, x.fromWarehouseId ∈ W ∧ x.toWarehouseId ∈ W) :
    ∑ w ∈ W, (d.transferred .available skuId w + d.transferred .inTransit skuId w) = 0 := by
  have hadd : ∀ {ρ : Type} (g g' : ρ → ℤ) (rows : List ρ),
      total g rows + total g' rows = total (fun r => g r + g' r) rows := by
    intro ρ g g' rows
    exact List.sum_map_add.symm
  have hsum : ∀ {ρ : Type} (g : ℕ → ρ → ℤ) (rows : List ρ), (∀ r ∈ rows, ∑ w ∈ W, g w r = 0) →
      ∑ w ∈ W, total (g w) rows = 0 := by
    intro ρ g rows h
    induction rows with
    | nil => simp
    | cons r rest ih =>
      simp only [total_cons, Finset.sum_add_distrib]
      rw [h r List.mem_cons_self, ih fun r' hr' => h r' (List.mem_cons_of_mem r hr'), add_zero]
  unfold Db.transferred
  simp only [hadd]
  refine hsum _ _ fun x hx => ?_
  unfold StockTransfer.moved
  simp only [hadd]
  exact hsum _ _ fun line _ => line.sum_moved x skuId (hW x hx).1 (hW x hx).2

/-- A step of the transfers neither makes goods nor loses any. -/
lemma TransferStep.stock (h : TransferStep d d') (skuId : ℕ) : stockOf d' skuId = stockOf d skuId := by
  let W : Finset ℕ := (d.inventories.map Inventory.warehouseId ++
    d'.inventories.map Inventory.warehouseId ++
    (d.transfers ++ d'.transfers).flatMap fun x => [x.fromWarehouseId, x.toWarehouseId]).toFinset
  have hrows : ∀ r ∈ d.inventories, r.warehouseId ∈ W := fun r hr => by
    simp only [W, List.mem_toFinset, List.mem_append, List.mem_map]
    exact .inl (.inl ⟨r, hr, rfl⟩)
  have hrows' : ∀ r ∈ d'.inventories, r.warehouseId ∈ W := fun r hr => by
    simp only [W, List.mem_toFinset, List.mem_append, List.mem_map]
    exact .inl (.inr ⟨r, hr, rfl⟩)
  have hends : ∀ x ∈ d.transfers ++ d'.transfers,
      x.fromWarehouseId ∈ W ∧ x.toWarehouseId ∈ W := fun x hx => by
    simp only [W, List.mem_toFinset, List.mem_append, List.mem_flatMap]
    exact ⟨.inr ⟨x, List.mem_append.mp hx, by simp⟩, .inr ⟨x, List.mem_append.mp hx, by simp⟩⟩
  have hbefore := sum_transferred skuId fun x hx => hends x (List.mem_append_left _ hx)
  have hafter := sum_transferred skuId fun x hx => hends x (List.mem_append_right _ hx)
  have hbalance : ∀ b w, balanceAt d' b skuId w =
      balanceAt d b skuId w + d'.transferred b skuId w - d.transferred b skuId w := fun b w => by
    have := h.balance b skuId w
    omega
  rw [stockOf_eq_sum hrows', stockOf_eq_sum hrows]
  simp only [hbalance, Finset.sum_add_distrib, Finset.sum_sub_distrib] at hbefore hafter ⊢
  omega

/-- What a run keeps. -/
structure TransferRun.Kept (d₀ : Db) (steps : List (Db × Db)) (d : Db) : Prop where
  depot : Depot d
  start : Depot d₀
  each : ∀ step ∈ steps, TransferStep step.1 step.2
  changed : ∀ b t w, total (fun step => balanceAt step.2 b t w - balanceAt step.1 b t w) steps =
    d.transferred b t w - d₀.transferred b t w
  lines : ∀ x ∈ d₀.transfers, linesOf d x = linesOf d₀ x
  stays : ∀ x ∈ d₀.transfers, ∃ x' ∈ d.transfers, x'.id = x.id
  arrived : ∀ transferId, steps.countP (receives transferId) = 0 ∨
    steps.countP (receives transferId) = 1 ∧
      ∃ x ∈ d.transfers, x.id = transferId ∧ x.status = .received

lemma TransferRun.Kept.step (h : TransferRun.Kept d₀ steps d) (hstep : TransferStep d d') :
    TransferRun.Kept d₀ (steps ++ [(d, d')]) d' := by
  refine ⟨hstep.depot, h.start, fun step hmem => ?_, fun b t w => ?_, fun x hx => ?_, fun x hx => ?_,
    fun transferId => ?_⟩
  · rcases List.mem_append.mp hmem with hold | hlast
    · exact h.each step hold
    · rw [List.mem_singleton.mp hlast]
      exact hstep
  · have := h.changed b t w
    have := hstep.balance b t w
    rw [total_append, total_cons, total_nil]
    dsimp only
    omega
  · obtain ⟨x', hx', hid⟩ := h.stays x hx
    have hlines := hstep.lines x' hx'
    unfold linesOf at hlines
    rw [hid] at hlines
    exact hlines.trans (h.lines x hx)
  · obtain ⟨x', hx', hid⟩ := h.stays x hx
    obtain ⟨x'', hx'', hid', -⟩ := hstep.goes x' hx'
    exact ⟨x'', hx'', hid'.trans hid⟩
  · rw [List.countP_append, List.countP_singleton]
    rcases h.arrived transferId with hzero | ⟨hone, x, hx, hid, hrec⟩
    · rw [hzero]
      split
      · rename_i harrives
        simp only [receives, Bool.and_eq_true, List.any_eq_true, decide_eq_true_eq] at harrives
        obtain ⟨-, x', hx', hid', hrec'⟩ := harrives
        exact .inr ⟨rfl, x', hx', hid', hrec'⟩
      · exact .inl rfl
    · have hnot : receives transferId (d, d') = false := by
        rw [Bool.eq_false_iff]
        intro harrives
        simp only [receives, Bool.and_eq_true, List.any_eq_true, decide_eq_true_eq] at harrives
        obtain ⟨⟨y, hy, hyid, hyrec⟩, -⟩ := harrives
        rw [h.depot.transfers.eq_of_key_eq hy hx (hyid.trans hid.symm)] at hyrec
        exact hyrec hrec
      obtain ⟨x', hx', hid', hgo⟩ := hstep.goes x hx
      rw [hone, hnot]
      exact .inr ⟨rfl, x', hx', hid'.trans hid, hgo hrec⟩

lemma TransferRun.kept (h : TransferRun d₀ steps d) : TransferRun.Kept d₀ steps d := by
  induction h with
  | start hd =>
    exact ⟨hd, hd, by simp, by simp, fun _ _ => rfl, fun x hx => ⟨x, hx, rfl⟩, fun _ => .inl rfl⟩
  | create source dest lines l _ hl ih => exact ih.step (step_create ih.depot hl)
  | requests transferId n call l turns _ hl hids heq ih =>
    rw [heq]
    exact ih.step (step_requests ih.depot call hl hids turns)
  | elsewhere _ hshelf htransfers hlines ih =>
    obtain ⟨hdepot, hstart, hsteps, htotal, hof, hstays, harrived⟩ := ih
    refine ⟨⟨hshelf, htransfers ▸ hdepot.transfers⟩, hstart, hsteps, fun b t w => ?_,
      fun x hx => ?_, htransfers ▸ hstays, htransfers ▸ harrived⟩
    · rw [htotal]
      unfold Db.transferred
      rw [htransfers, hlines]
    · rw [← hof x hx]
      unfold linesOf
      rw [hlines]

/-- If the transfers under way and those received are the same, so is what they have brought. -/
lemma transferred_eq (hd : Depot d) (hd₀ : Depot d₀)
    (hlines : ∀ x ∈ d₀.transfers, linesOf d x = linesOf d₀ x)
    (hsame : ∀ x, x.status.idle = false → (x ∈ d.transfers ↔ x ∈ d₀.transfers)) (b : Bucket)
    (t w : ℕ) : d.transferred b t w = d₀.transferred b t w := by
  have hbusy : ∀ {d : Db}, d.transferred b t w = total (fun x => x.moved d.transferLines b t w)
      (d.transfers.filter fun x => !x.status.idle) := by
    intro d
    have hidle : total (fun x => x.moved d.transferLines b t w)
        (d.transfers.filter fun x => x.status.idle) = 0 := total_eq_zero fun x hx =>
      StockTransfer.moved_of_idle (List.mem_filter.mp hx).2 _ b t w
    have := total_filter_add (g := fun x => x.moved d.transferLines b t w)
      (fun x => x.status.idle) d.transfers
    unfold Db.transferred
    omega
  have hnodup : ∀ {d : Db}, Depot d → (d.transfers.filter fun x => !x.status.idle).Nodup :=
    fun hd => (hd.transfers.of_map _).filter _
  have hperm : (d.transfers.filter fun x => !x.status.idle).Perm
      (d₀.transfers.filter fun x => !x.status.idle) := by
    rw [List.perm_ext_iff_of_nodup (hnodup hd) (hnodup hd₀)]
    intro x
    simp only [List.mem_filter, Bool.not_eq_true']
    constructor
    · rintro ⟨hx, hidle⟩
      exact ⟨(hsame x hidle).mp hx, hidle⟩
    · rintro ⟨hx, hidle⟩
      exact ⟨(hsame x hidle).mpr hx, hidle⟩
  rw [hbusy, hbusy, total_perm hperm]
  refine total_congr fun x hx => ?_
  have := hlines x (List.mem_filter.mp hx).1
  unfold linesOf at this
  unfold StockTransfer.moved
  rw [this]

/-- The stock of a SKU in all warehouses is the same before and after each step of the transfers,
and each balance has moved as far as the statuses of the transfers say. If the transfers that have
taken goods are the same as in the beginning, all quantities are back. The goods of a transfer
arrive once at most. -/
theorem TransferRun.conserves (h : TransferRun d₀ steps d) :
    (∀ step ∈ steps, ∀ skuId, stockOf step.2 skuId = stockOf step.1 skuId) ∧
    (∀ step ∈ steps, ∀ b t w, balanceAt step.2 b t w - balanceAt step.1 b t w =
      step.2.transferred b t w - step.1.transferred b t w) ∧
    ((∀ x, x.status.idle = false → (x ∈ d.transfers ↔ x ∈ d₀.transfers)) → ∀ b t w,
      total (fun step => balanceAt step.2 b t w - balanceAt step.1 b t w) steps = 0) ∧
    ∀ transferId, steps.countP (receives transferId) ≤ 1 := by
  have hkept := h.kept
  refine ⟨fun step hstep => (hkept.each step hstep).stock,
    fun step hstep => (hkept.each step hstep).balance, fun hsame b t w => ?_,
    fun transferId => ?_⟩
  · rw [hkept.changed, transferred_eq hkept.depot hkept.start hkept.lines hsame, sub_self]
  · rcases hkept.arrived transferId with hzero | ⟨hone, -⟩
    · omega
    · omega

end runs

/-- A transfer of five pieces that has not been shipped. -/
def draftTransfer : Db where
  warehouses := [{ id := 1 }, { id := 2 }]
  inventories := [{ id := 3, skuId := 5, warehouseId := 1, available := 10 },
    { id := 4, skuId := 5, warehouseId := 2 }]
  transfers := [⟨6, 1, 2, .draft⟩]
  transferLines := [⟨7, 6, 5, 5⟩]
  skus := [{ id := 5 }]

/-- The worker of one of two requests. -/
def newClerk (i : Fin 2) : Session := { ids := fun n => 100 + 2 * n + i }

lemma clerk_of_lt {d : Db} (hrows : ∀ r ∈ d.inventories, r.id < 100)
    (htransfers : ∀ x ∈ d.transfers, x.id < 100) (i : Fin 2) : Clerk (newClerk i) d := by
  refine ⟨rfl, fun m n hmn => ?_, fun n r hr heq => ?_, fun n x hx heq => ?_⟩
  · simp only [newClerk] at hmn
    omega
  · have := hrows r hr
    simp only [newClerk] at heq
    omega
  · have := htransfers x hx
    simp only [newClerk] at heq
    omega

/-- Two requests find the draft. The one that ships it is faster than the one that cancels it. -/
def afterShipping : Db := ((World.mk draftTransfer fun i : Fin 2 =>
  Tx.start ((if i = 0 then TransferCall.ship else .cancel).work 6) (newClerk i)).run
    ([0, 1, 0, 1, 0, 1] ++ List.replicate 60 0 ++ List.replicate 10 1)).committed

/-- Then it is cancelled, and somebody still tries to receive it. -/
def afterCancelling : Db := ((World.mk afterShipping fun i : Fin 2 =>
  Tx.start ((if i = 0 then TransferCall.cancel else .receive).work 6) (newClerk i)).run
    ([0, 1, 0, 1, 0, 1] ++ List.replicate 60 0 ++ List.replicate 10 1)).committed

theorem conserves_draftTransfer :
    total (fun step => balanceAt step.2 .available 5 1 - balanceAt step.1 .available 5 1)
      [(draftTransfer, afterShipping), (afterShipping, afterCancelling)] = 0 := by
  have hids : ∀ i j : Fin 2, i ≠ j → ∀ m m', (newClerk i).ids m ≠ (newClerk j).ids m' := by
    intro i j hij m m' heq
    simp only [newClerk] at heq
    omega
  have hstart : TransferRun draftTransfer [] draftTransfer := by
    refine .start ⟨⟨?_, ?_, ?_, ?_, ?_, ?_⟩, ?_⟩
    all_goals decide
  have hship : TransferRun draftTransfer [(draftTransfer, afterShipping)] afterShipping :=
    hstart.requests 6 2 _ newClerk _ (clerk_of_lt (by decide) (by decide)) hids rfl
  have hcancel : TransferRun draftTransfer
      [(draftTransfer, afterShipping), (afterShipping, afterCancelling)] afterCancelling :=
    hship.requests 6 2 _ newClerk _ (clerk_of_lt (by decide +kernel) (by decide +kernel)) hids rfl
  refine hcancel.conserves.2.2.1 (fun x hx => ?_) .available 5 1
  have htransfers : afterCancelling.transfers = [⟨6, 1, 2, .cancelled⟩] := by decide +kernel
  rw [htransfers, draftTransfer]
  constructor
  · intro hmem
    rw [List.mem_singleton.mp hmem] at hx
    cases hx
  · intro hmem
    rw [List.mem_singleton.mp hmem] at hx
    cases hx

/-- The quantities are back, but the rows have had two changes. -/
theorem not_restored_draftTransfer :
    afterShipping.transfers = [⟨6, 1, 2, .inTransit⟩] ∧
      afterCancelling.transfers = [⟨6, 1, 2, .cancelled⟩] ∧
      afterCancelling.inventories ≠ draftTransfer.inventories := by
  decide +kernel

end CrossPilot
