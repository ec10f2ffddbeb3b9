import CrossPilot.Inventory.HoldOps

/-!
# Runs of the stock service

Every operation of the stock service keeps the books of reserved stock in agreement, also when it
fails half way and the caller commits what was done so far. Only an error of the database may leave
them in disagreement, and then nothing can be committed. It follows that in a run from empty
balances, whatever the workers remember of the balances, the occupied quantity is what the open
holds say (`reachable_books`).
-/

namespace CrossPilot

open Transaction Table Prog

/-! ### Steps that concern no reservation -/

section maintains

variable {c : ℕ → ℕ → ℤ} {s s' : WorkState}

/-- The other tables are not part of the books. -/
lemma Books.of_frame (hb : Books c s) (hsession : s'.session = s.session)
    (hinventories : s'.data.inventories = s.data.inventories)
    (hholds : s'.data.holds = s.data.holds) (hitems : s'.data.items = s.data.items)
    (horders : s'.data.orders = s.data.orders) : Books c s' := by
  obtain ⟨⟨hshelf, hcoherent⟩, ⟨hinj, hunused⟩, hwf, hslack, hocc⟩ := hb
  refine ⟨⟨hinventories ▸ hshelf, ?_⟩, ⟨hsession ▸ hinj, fun n huses => hunused n ?_⟩, ?_, hslack, ?_⟩
  · rw [hsession, hinventories]
    exact hcoherent
  · rw [hsession] at huses
    rcases huses with ⟨hm, hid⟩ | ⟨hm, hid⟩ | ⟨hm, hid⟩ | ⟨hm, hid⟩
    · exact .hold (hholds ▸ hm) hid
    · exact .item (hitems ▸ hm) hid
    · exact .order (horders ▸ hm) hid
    · exact .balance (hinventories ▸ hm) hid
  · exact ⟨hholds ▸ hwf.ids, hholds ▸ hwf.items, hitems ▸ hwf.lines, hholds ▸ hwf.positive,
      hholds ▸ hwf.quantity, hholds ▸ hwf.short, hholds ▸ hitems ▸ hwf.linked⟩
  · intro t w
    have := hocc t w
    unfold balanceAt heldIn at this ⊢
    rw [hinventories, hholds]
    exact this

/-- Balances may move as long as the occupied quantities stay. -/
lemma Books.of_moved (hb : Books c s) (hready : Ready s') (hids : s'.session.ids = s.session.ids)
    {gain : Bucket → ℕ → ℕ → ℤ} (hm : Moved s.data s'.data gain)
    (hgain : ∀ t w, gain .occupied t w = 0) : Books c s' := by
  have hholds : s'.data.holds = s.data.holds := by rw [hm.frame]
  have hitems : s'.data.items = s.data.items := by rw [hm.frame]
  have hwf := hb.wf
  refine ⟨hready, hb.fresh.of_moved hids hm, ?_, hb.slack, fun t w => ?_⟩
  · exact ⟨hholds ▸ hwf.ids, hholds ▸ hwf.items, hitems ▸ hwf.lines, hholds ▸ hwf.positive,
      hholds ▸ hwf.quantity, hholds ▸ hwf.short, hholds ▸ hitems ▸ hwf.linked⟩
  · rw [hm.balance, hgain, add_zero, hb.occupied]
    unfold heldIn
    rw [hholds]

lemma Books.of_continues (hb : Books c s) (h : Continues s s' s.data) : Books c s' := by
  have hm : Moved s.data s'.data fun _ _ _ => 0 := h.data ▸ .refl _
  exact hb.of_moved h.ready h.ids hm fun _ _ => rfl

/-- An id is drawn. -/
lemma Books.draw (hb : Books c s) : Books c
    { s with session := { s.session with ids := fun n => s.session.ids (n + 1) } } := by
  obtain ⟨⟨hshelf, hcoherent⟩, ⟨hinj, hunused⟩, hwf, hslack, hocc⟩ := hb
  refine ⟨⟨hshelf, hcoherent⟩, ⟨fun m n hmn => ?_, fun n => hunused (n + 1)⟩, hwf, hslack, hocc⟩
  exact Nat.succ_injective (hinj hmn)

lemma maintains_nextSnowflakeId : Maintains (Books c) nextSnowflakeId := fun _ hb => hb.draw

lemma maintains_orRaise {α : Type} {I : WorkState → Prop} (e : ServiceError) (o : Option α) :
    Maintains I (orRaise e o) := by
  cases o with
  | none => exact .fail e
  | some a => exact .ret a

lemma maintains_ite {α : Type} {I : WorkState → Prop} {p : Prop} [Decidable p] {a b : Work α}
    (ha : Maintains I a) (hb : Maintains I b) : Maintains I (if p then a else b) := by
  split
  · exact ha
  · exact hb

lemma maintains_getSku {I : WorkState → Prop} (skuId : ℕ) : Maintains I (getSku skuId) :=
  (Maintains.select _).bind fun _ => maintains_orRaise _ _

lemma maintains_getWarehouse {I : WorkState → Prop} (warehouseId : ℕ) :
    Maintains I (getWarehouse warehouseId) :=
  (Maintains.select _).bind fun _ => maintains_orRaise _ _

/-- A change of a balance that is not there. -/
lemma wp_applyOnce_of_forall_ne {Q : ChangeStatus × Option Inventory → WorkState → Prop}
    {E : ServiceError → WorkState → Prop} {row : Inventory} {δ : Delta}
    (hne : ∀ r ∈ s.data.inventories, r.id ≠ row.id) (h : Q (.missing, none) s) :
    (applyOnce row δ).wp Q E s := by
  have hhit : ∀ r ∈ s.data.inventories, r.hit row.id row.version δ = false := fun r hr => by
    simp [Inventory.hit, hne r hr]
  have htargets : s.data.inventories.filter (·.hit row.id row.version δ) = [] :=
    List.filter_eq_nil_iff.mpr fun r hr => by simp [hhit r hr]
  have hrows : s.data.inventories.filter (·.locked [] row.id row.version δ) = [] :=
    List.filter_eq_nil_iff.mpr fun r _ => by simp [Inventory.locked]
  have hafter : s.data.inventories.map (·.applied [] row.id row.version δ) = s.data.inventories := by
    conv_rhs => rw [← List.map_id s.data.inventories]
    apply List.map_congr_left
    intro r _
    simp [Inventory.applied, Inventory.locked]
  have hfind : s.data.inventories.find? (fun r => r.id = row.id) = none :=
    List.find?_eq_none.mpr fun r hr => by simpa using hne r hr
  simp only [applyOnce, applyChange, refresh, bind_eq, wp_bind, wp_update, htargets, List.map_nil,
    hrows, hafter, List.length_nil]
  rw [if_neg (by decide), wp_bind, wp_bind, wp_select, hfind]
  exact h

/-- A change that leaves the occupied quantity alone keeps the books, whatever row the caller
believes to be there. -/
theorem maintains_commitLoop {note : FlowNote} {δ : Delta} (hδ : δ.occupied = 0) (tries : ℕ)
    (row : Inventory) : Maintains (Books c) (commitLoop note δ tries row) := by
  induction tries generalizing row with
  | zero => exact .fail _
  | succ tries ih =>
    intro s hb
    rw [commitLoop]
    simp only [bind_eq, wp_bind]
    by_cases hex : ∃ r ∈ s.data.inventories, r.id = row.id
    swap
    · have hne : ∀ r ∈ s.data.inventories, r.id ≠ row.id := fun r hr heq => hex ⟨r, hr, heq⟩
      exact wp_applyOnce_of_forall_ne hne hb
    obtain ⟨r, hr, hid⟩ := hex
    refine wp_applyOnce hb.ready hr hid.symm (fun _ _ s₁ hc => ?_) (fun _ s₁ hc => ?_)
      fun _ _ s₁ hc => hb.of_continues hc
    · have hm := Moved.shifted hb.ready.shelf hr δ
      have hb₁ : Books c s₁ := by
        refine hb.of_moved hc.ready hc.ids (hc.data ▸ hm) fun t w => ?_
        simp [Delta.bucket, hδ]
      exact hb₁.of_frame rfl rfl rfl rfl rfl
    · exact ih r s₁ (hb.of_continues hc)

lemma maintains_commitChange {row : Inventory} {note : FlowNote} {δ : Delta}
    (hδ : δ.occupied = 0) : Maintains (Books c) (commitChange row note δ) :=
  maintains_commitLoop hδ _ row

/-- A new balance joins the others and is remembered. -/
lemma Ready.add_balance (hs : Ready s) {id skuId warehouseId : ℕ}
    (hunused : ∀ r ∈ s.data.inventories, r.id ≠ id) (hnone : ¬ Stocks s.data skuId warehouseId)
    (row : Inventory) (hrow : row = { id, skuId, warehouseId })
    (hseen : s'.session.seen = (s.session.put row).seen)
    (hinventories : s'.data.inventories = s.data.inventories ++ [row]) : Ready s' := by
  have hshelf := hs.shelf
  have hid : ∀ r ∈ s.data.inventories, r.id ≠ row.id := by
    rw [hrow]
    exact hunused
  have hpair : ∀ r ∈ s.data.inventories, r.pair ≠ row.pair := by
    intro r hr heq
    rw [hrow] at heq
    exact hnone ⟨r, hr, heq⟩
  have each : ∀ {p : Inventory → Prop}, (∀ r ∈ s.data.inventories, p r) → p row →
      ∀ r ∈ s.data.inventories ++ [row], p r := by
    intro p hold hnew r hr
    rcases List.mem_append.mp hr with hr | hr
    · exact hold r hr
    · obtain rfl : r = row := by simpa using hr
      exact hnew
  refine ⟨?_, ?_⟩
  · rw [hinventories]
    exact ⟨hshelf.ids.append_singleton hid, hshelf.pairs.append_singleton hpair,
      each hshelf.occupied_nonneg (by simp [hrow]), each hshelf.occupied_le (by simp [hrow]),
      each hshelf.inTransit_nonneg (by simp [hrow]), each hshelf.defective_nonneg (by simp [hrow])⟩
  · intro held hh r hr heq
    rw [hseen] at hh
    rw [hinventories] at hr
    simp only [Session.put, List.mem_cons, List.mem_filter, decide_eq_true_eq] at hh
    rcases List.mem_append.mp hr with hold | hnew
    · rcases hh with hheld | ⟨hh, -⟩
      · rw [hheld] at heq
        exact absurd heq.symm (hid r hold)
      · exact hs.coherent held hh r hold heq
    · rw [List.mem_singleton.mp hnew] at heq ⊢
      rcases hh with hheld | ⟨-, hne⟩
      · rw [hheld]
        exact .refl row
      · exact absurd heq hne

/-- A new balance is empty. -/
lemma Books.add_balance (hb : Books c s) {skuId warehouseId : ℕ}
    (hnone : ¬ Stocks s.data skuId warehouseId) (row : Inventory)
    (hrow : row = { id := s.session.ids 0, skuId, warehouseId })
    (hsession : s'.session = { s.session.put row with ids := fun n => s.session.ids (n + 1) })
    (hdata : s'.data = { s.data with inventories := s.data.inventories ++ [row] }) : Books c s' := by
  have hunused : ∀ r ∈ s.data.inventories, r.id ≠ s.session.ids 0 := fun r hr heq =>
    hb.fresh.unused 0 (.balance hr heq.symm)
  refine ⟨?_, ⟨?_, ?_⟩, ?_, hb.slack, ?_⟩
  · exact hb.ready.add_balance hunused hnone row hrow (by rw [hsession]) (by rw [hdata])
  · rw [hsession]
    intro m n hmn
    exact Nat.succ_injective (hb.fresh.injective hmn)
  · rw [hsession, hdata]
    intro n huses
    refine hb.fresh.unused (n + 1) ?_
    rcases huses with ⟨hm, heq⟩ | ⟨hm, heq⟩ | ⟨hm, heq⟩ | ⟨hm, heq⟩
    · exact .hold hm heq
    · exact .item hm heq
    · exact .order hm heq
    · rcases List.mem_append.mp hm with hm | hm
      · exact .balance hm heq
      · obtain rfl := List.mem_singleton.mp hm
        rw [hrow] at heq
        cases hb.fresh.injective heq
  · rw [hdata]
    obtain ⟨hids, hitems, hlines, hpos, hqty, hshort, hlinked⟩ := hb.wf
    exact ⟨hids, hitems, hlines, hpos, hqty, hshort, hlinked⟩
  · intro t w
    have hzero : balanceAt s'.data .occupied t w = balanceAt s.data .occupied t w := by
      unfold balanceAt
      rw [hdata]
      simp [hrow, Inventory.bucket]
    have hheld : heldIn .opened s'.data t w = heldIn .opened s.data t w := by
      unfold heldIn
      rw [hdata]
    rw [hzero, hheld, hb.occupied]

/-- `ensure` finds the balance, or adds an empty one. -/
theorem wp_ensure_of_ready {skuId warehouseId : ℕ} {Q : Inventory → WorkState → Prop}
    {E : ServiceError → WorkState → Prop} (hs : Ready s)
    (hfound : ∀ r ∈ s.data.inventories, r.pair = (skuId, warehouseId) → ∀ held s', held.AsOf r →
      Continues s s' s.data → Q held s')
    (hadded : ¬ Stocks s.data skuId warehouseId → ∀ row s',
      row = { id := s.session.ids 0, skuId, warehouseId } →
      s'.session = { s.session.put row with ids := fun n => s.session.ids (n + 1) } →
      s'.data = { s.data with inventories := s.data.inventories ++ [row] } → Q row s')
    (he : ∀ e, E e s) : (ensure skuId warehouseId).wp Q E s := by
  have hraise : ∀ {α : Type} (e : ServiceError) (o : Option α) {Q : α → WorkState → Prop},
      (∀ a, Q a s) → (orRaise e o).wp Q E s := by
    intro α e o Q hQ
    cases o with
    | none => exact he e
    | some a => exact hQ a
  simp only [ensure, getSku, getWarehouse, bind_eq, wp_bind, wp_select]
  refine hraise _ _ fun _ => hraise _ _ fun _ => ?_
  refine wp_getPair hs (fun r hr hp held s₁ hheld hc => hfound r hr hp held s₁ hheld hc)
    fun hnone => ?_
  have hany : ¬ ∃ r ∈ s.data.inventories, r.pair = (skuId, warehouseId) := hnone
  have hpair : (Inventory.mk (s.session.ids 0) skuId warehouseId 0 0 0 0 2 0).pair =
      (skuId, warehouseId) := rfl
  simp only [nextSnowflakeId, pure_eq, bind_eq, wp_bind, wp_query, wp_remember, wp_ret, wp_update,
    hpair]
  rw [if_neg (by simpa using hany), if_neg (by simpa using hany)]
  simp only [wp_bind, wp_remember, wp_ret]
  exact hadded hnone _ _ rfl rfl rfl

/-- `ensure` answers with the balance of the SKU in the warehouse as it was at some time. No balance
moves, and the row is there afterwards. -/
theorem wp_ensure {skuId warehouseId : ℕ} {Q : Inventory → WorkState → Prop}
    {E : ServiceError → WorkState → Prop} (hb : Books c s)
    (h : ∀ held s' r, Books c s' → r ∈ s'.data.inventories → r.pair = (skuId, warehouseId) →
      held.AsOf r → s'.data = { s.data with inventories := s'.data.inventories } →
      (∀ b t w, balanceAt s'.data b t w = balanceAt s.data b t w) → Q held s')
    (he : ∀ e, E e s) : (ensure skuId warehouseId).wp Q E s := by
  refine wp_ensure_of_ready hb.ready (fun r hr hp held s₁ hheld hc => ?_)
    (fun hnone row s' hrow hsession hdata => ?_) he
  · have hb₁ := hb.of_continues hc
    refine h held s₁ r hb₁ (hc.data ▸ hr) hp hheld ?_ fun b t w => ?_
    · rw [hc.data]
    · rw [hc.data]
  · refine h row s' row (hb.add_balance hnone row hrow hsession hdata) ?_ ?_ (.refl row) ?_
      fun b t w => ?_
    · rw [hdata]
      exact List.mem_append_right _ (List.mem_singleton_self _)
    · rw [hrow]
      rfl
    · rw [hdata]
    · unfold balanceAt
      rw [hdata]
      cases b <;> simp [hrow, Inventory.bucket]

lemma maintains_ensure (skuId warehouseId : ℕ) :
    Maintains (Books c) (ensure skuId warehouseId) := fun _ hb =>
  wp_ensure hb (fun _ _ _ hb' _ _ _ _ _ => hb') fun _ => hb

/-! ### The operations -/

lemma adjustDeltas_occupied (kind : AdjustKind) (quantity : ℤ) :
    (adjustDeltas kind quantity).1.occupied = 0 := by
  cases kind <;> rfl

lemma maintains_adjust (payload : InventoryAdjust) : Maintains (Books c) (adjust payload) :=
  maintains_ite (.fail _) <| maintains_ite (.fail _) <|
    (maintains_ensure _ _).bind fun _ => maintains_commitChange (adjustDeltas_occupied _ _)

lemma maintains_postStock (skuId warehouseId : ℕ) (availableDelta inTransitDelta : ℤ)
    (refType : String) (refId : Option ℕ) :
    Maintains (Books c) (postStock skuId warehouseId availableDelta inTransitDelta refType refId) := by
  refine maintains_ite (.ret ()) <| (maintains_ensure _ _).bind fun row => ?_
  have hway : ∀ (row : Inventory) (note : FlowNote), Maintains (Books c)
      (if inTransitDelta = 0 then return ()
        else do let _ ← commitChange row note { inTransit := inTransitDelta }) := fun row note =>
    maintains_ite (.ret ()) <| (maintains_commitChange rfl).bind fun _ => .ret ()
  exact maintains_ite (hway row _) <| (maintains_commitChange rfl).bind fun row => hway row _

/-- Balances do not care for the safety stock. -/
lemma Ready.setSafeStock (hs : Ready s) (inventoryId : ℕ) (safeStock : ℤ) :
    Ready { s with data := { s.data with
      inventories := alter Inventory.id inventoryId (fun r => { r with safeStock })
        s.data.inventories } } := by
  obtain ⟨⟨hids, hpairs, hocc, hle, htr, hdf⟩, hcoherent⟩ := hs
  have each : ∀ {p : Inventory → Prop}, (∀ r, p r → p { r with safeStock }) →
      (∀ r ∈ s.data.inventories, p r) →
      ∀ r ∈ alter Inventory.id inventoryId (fun r => { r with safeStock }) s.data.inventories,
        p r := by
    intro p hp hall r hr
    obtain ⟨t, ht, rfl⟩ := mem_alter.mp hr
    split
    · exact hp t (hall t ht)
    · exact hall t ht
  refine ⟨⟨hids.alter fun _ => rfl, hpairs.alter fun _ => rfl, each (fun _ h => h) hocc,
    each (fun _ h => h) hle, each (fun _ h => h) htr, each (fun _ h => h) hdf⟩, ?_⟩
  intro held hh
  exact each (fun r h hid => ⟨(h hid).id, (h hid).pair, (h hid).version, (h hid).bucket⟩)
    (hcoherent held hh)

/-- The safety stock is not part of the books. -/
lemma maintains_setSafeStock (inventoryId : ℕ) (safeStock : ℤ) :
    Maintains (Books c) (setSafeStock inventoryId safeStock) := by
  refine (Maintains.select _).bind fun _ => (maintains_orRaise _ _).bind fun row => .update ?_
  intro s hb
  have hmap : ∀ {β : Type} (g : Inventory → β), (∀ r : Inventory, g { r with safeStock } = g r) →
      (alter Inventory.id row.id (fun r => { r with safeStock }) s.data.inventories).map g =
        s.data.inventories.map g := fun g hg => map_alter hg _
  let rows := alter Inventory.id row.id (fun r => { r with safeStock }) s.data.inventories
  have hm : Moved s.data { s.data with inventories := rows } fun _ _ _ => 0 := by
    refine ⟨rfl, hmap _ fun _ => rfl, fun b t w => ?_⟩
    rw [add_zero]
    exact congrArg List.sum (hmap _ fun _ => rfl)
  exact hb.of_moved (hb.ready.setSafeStock row.id safeStock) rfl hm fun _ _ => rfl

lemma maintains_moveLeg (row : Inventory) (move : StockMove) (quantity : ℤ) (transferId : ℕ) :
    Maintains (Books c) (moveLeg row move quantity transferId) :=
  (maintains_commitChange rfl).bind fun _ => .ret ()

lemma maintains_positive (quantity : ℤ) : Maintains (Books c) (positive quantity) :=
  maintains_ite (.fail _) (.ret ())

lemma maintains_transitionTransfer (transferId : ℕ) (fromStatus toStatus : TransferStatus) :
    Maintains (Books c) (transitionTransfer transferId fromStatus toStatus) :=
  Maintains.update fun _ hb => hb.of_frame rfl rfl rfl rfl rfl

lemma maintains_transferView {I : WorkState → Prop} (row : StockTransfer) :
    Maintains I (transferView row) :=
  (maintains_getWarehouse _).bind fun _ => (maintains_getWarehouse _).bind fun _ =>
    (Maintains.select _).bind fun _ => (Maintains.forEach fun _ _ =>
      (maintains_getSku _).bind fun _ => .ret ()).bind fun _ => .ret _

lemma maintains_createTransfer (fromWarehouseId toWarehouseId : ℕ) (lines : List (ℕ × ℤ)) :
    Maintains (Books c) (createTransfer fromWarehouseId toWarehouseId lines) := by
  refine maintains_ite (.fail _) <| (maintains_getWarehouse _).bind fun _ =>
    (maintains_getWarehouse _).bind fun _ => ?_
  refine (Maintains.forEach fun _ _ => (maintains_getSku _).bind fun _ => .ret ()).bind fun _ => ?_
  refine maintains_nextSnowflakeId.bind fun _ => ?_
  refine (Maintains.insert fun _ hb => hb.of_frame rfl rfl rfl rfl rfl).bind fun _ => ?_
  refine (Maintains.forEach fun _ _ => maintains_nextSnowflakeId.bind fun _ => ?_).bind fun _ => ?_
  · exact .insert fun _ hb => hb.of_frame rfl rfl rfl rfl rfl
  · exact maintains_transferView _

/-- What the steps of a transfer have in common: find it, move it on, move the goods. -/
lemma maintains_transferStep {row : StockTransfer} {lines : List StockTransferLine}
    {fromStatus toStatus : TransferStatus} {body : StockTransferLine → Work Unit}
    {after : StockTransfer} (hbody : ∀ line, Maintains (Books c) (body line)) :
    Maintains (Books c) (do
      if !(← transitionTransfer row.id fromStatus toStatus) then raise .transferState
      else
        .forEach lines body
        transferView after) :=
  (maintains_transitionTransfer _ _ _).bind fun _ => maintains_ite (.fail _) <|
    (Maintains.forEach fun line _ => hbody line).bind fun _ => maintains_transferView _

lemma maintains_getTransfer {I : WorkState → Prop} (transferId : ℕ) :
    Maintains I (getTransfer transferId) :=
  (Maintains.select _).bind fun _ => maintains_orRaise _ _

lemma maintains_shipTransfer (transferId : ℕ) : Maintains (Books c) (shipTransfer transferId) := by
  refine (maintains_getTransfer _).bind fun _ => maintains_ite (.fail _) <|
    (Maintains.select _).bind fun _ => maintains_transferStep fun line => ?_
  exact (maintains_positive _).bind fun _ => (maintains_ensure _ _).bind fun _ =>
    (maintains_ensure _ _).bind fun _ => (maintains_moveLeg _ _ _ _).bind fun _ =>
      maintains_moveLeg _ _ _ _

lemma maintains_receiveTransfer (transferId : ℕ) :
    Maintains (Books c) (receiveTransfer transferId) := by
  refine (maintains_getTransfer _).bind fun _ => maintains_ite (.fail _) <|
    (Maintains.select _).bind fun _ => maintains_transferStep fun line => ?_
  exact (maintains_ensure _ _).bind fun _ => (maintains_positive _).bind fun _ =>
    maintains_moveLeg _ _ _ _

lemma maintains_cancelTransfer (transferId : ℕ) :
    Maintains (Books c) (cancelTransfer transferId) := by
  refine (maintains_getTransfer _).bind fun _ => (Maintains.select _).bind fun _ => ?_
  refine maintains_ite ?_ <| maintains_ite (.fail _) <| maintains_transferStep fun line => ?_
  · exact (maintains_transitionTransfer _ _ _).bind fun _ =>
      maintains_ite (.fail _) (maintains_transferView _)
  · exact (maintains_positive _).bind fun _ => (maintains_ensure _ _).bind fun _ =>
      (maintains_ensure _ _).bind fun _ => (maintains_moveLeg _ _ _ _).bind fun _ =>
        maintains_moveLeg _ _ _ _

lemma maintains_transitionTaking (takingId : ℕ) (fromStatus toStatus : TakingStatus) :
    Maintains (Books c) (transitionTaking takingId fromStatus toStatus) :=
  Maintains.update fun _ hb => hb.of_frame rfl rfl rfl rfl rfl

lemma maintains_getTaking (takingId : ℕ) : Maintains (Books c) (getTaking takingId) :=
  (Maintains.select _).bind fun _ => maintains_orRaise _ _

lemma maintains_takingView (row : StockTaking) : Maintains (Books c) (takingView row) :=
  (maintains_getWarehouse _).bind fun _ => (Maintains.select _).bind fun _ =>
    (Maintains.forEach fun _ _ => (maintains_getSku _).bind fun _ => .ret ()).bind fun _ => .ret _

lemma maintains_createTaking (warehouseId : ℕ) :
    Maintains (Books c) (createTaking warehouseId) := by
  refine (maintains_getWarehouse _).bind fun _ => ?_
  intro s hb
  rw [bind_eq, wp_bind, wp_select]
  split
  · exact hb
  -- no balance moves while the lines are written
  let I (s' : WorkState) : Prop := Books c s' ∧ s'.data.inventories = s.data.inventories
  have hlines : ∀ id, Maintains I (.forEach
      (s.data.inventories.filter fun r => r.warehouseId = warehouseId) fun balance => do
        let held ← present balance
        let lineId ← nextSnowflakeId
        let line : StockTakingLine := ⟨lineId, id, held.skuId, held.available, none⟩
        .insert fun d => { d with takingLines := d.takingLines ++ [line] }) := by
    intro id
    refine Maintains.forEach fun balance hbalance s₁ ⟨hb₁, hinv⟩ => ?_
    rw [bind_eq, wp_bind]
    refine wp_present hb₁.ready (hinv ▸ (List.mem_filter.mp hbalance).1) fun held s₂ _ hc => ?_
    rw [bind_eq, wp_bind, wp_nextSnowflakeId]
    refine ⟨(hb₁.of_continues hc).draw.of_frame rfl rfl rfl rfl rfl, ?_⟩
    rw [← hinv, ← hc.data]
  simp only [bind_eq, wp_bind, wp_nextSnowflakeId, wp_insert]
  refine wp_mono (hlines _ _ ⟨hb.draw.of_frame rfl rfl rfl rfl rfl, rfl⟩) ?_ fun _ _ h => h.1
  exact fun _ s' h => maintains_takingView _ s' h.1

lemma maintains_recordCounts (takingId : ℕ) (counts : List (ℕ × ℤ)) :
    Maintains (Books c) (recordCounts takingId counts) := by
  refine (maintains_getTaking _).bind fun _ => maintains_ite (.fail _) ?_
  refine (Maintains.forEach fun _ _ => (Maintains.select _).bind fun _ =>
    (maintains_orRaise _ _).bind fun _ => ?_).bind fun _ => maintains_takingView _
  exact .update fun _ hb => hb.of_frame rfl rfl rfl rfl rfl

lemma maintains_getPair (skuId warehouseId : ℕ) :
    Maintains (Books c) (getPair skuId warehouseId) := fun _ hb =>
  wp_getPair hb.ready (fun _ _ _ _ _ _ hc => hb.of_continues hc) fun _ => hb

lemma maintains_planTaking (warehouseId : ℕ) (lines : List StockTakingLine) :
    Maintains (Books c) (planTaking warehouseId lines) := by
  induction lines with
  | nil => exact .ret _
  | cons line rest ih =>
    refine (maintains_orRaise _ _).bind fun _ => (maintains_getPair _ _).bind fun _ => ?_
    refine (maintains_orRaise _ _).bind fun _ => maintains_ite (.fail _) ?_
    exact ih.bind fun _ => .ret _

lemma maintains_postTaking (takingId : ℕ) : Maintains (Books c) (postTaking takingId) := by
  refine (maintains_getTaking _).bind fun _ => maintains_ite (.fail _) <|
    (Maintains.select _).bind fun _ => maintains_ite (.fail _) <|
    (maintains_planTaking _ _).bind fun _ => (maintains_transitionTaking _ _ _).bind fun _ =>
    maintains_ite (.fail _) ?_
  refine (Maintains.forEach fun _ _ => maintains_ite (.ret ()) <|
    (maintains_adjust _).bind fun _ => .ret ()).bind fun _ => ?_
  refine (Maintains.update fun _ hb => ?_).bind fun _ => maintains_takingView _
  exact hb.of_frame rfl rfl rfl rfl rfl

lemma maintains_cancelTaking (takingId : ℕ) : Maintains (Books c) (cancelTaking takingId) :=
  (maintains_getTaking _).bind fun _ => maintains_ite (.fail _) <|
    (maintains_transitionTaking _ _ _).bind fun _ =>
      maintains_ite (.fail _) (maintains_takingView _)

lemma maintains_returnTargets {I : WorkState → Prop} (item : OrderItem) :
    Maintains I (returnTargets item) := by
  refine (Maintains.select _).bind fun _ => maintains_ite (.ret _) ?_
  refine Maintains.bind ?_ fun warehouse => ?_
  · refine Maintains.bind (.select _) fun found => ?_
    cases found with
    | none => exact .select _
    | some w => exact .ret _
  · cases warehouse with
    | none => exact .fail _
    | some w => exact .ret _

/-- Goods that come back go through `ensure` and a change that occupies nothing. -/
theorem maintains_receiveReturn_of {I : WorkState → Prop}
    (hensure : ∀ skuId warehouseId, Maintains I (ensure skuId warehouseId))
    (hchange : ∀ row note (δ : Delta), δ.occupied = 0 → Maintains I (commitChange row note δ))
    (row : ReturnOrder) (hreturns : ∀ (s : WorkState) (after : RestockStatus), I s →
      let mark (r : ReturnOrder) := { r with restockStatus := after }
      I { s with data := { s.data with
        returns := alter ReturnOrder.id row.id mark s.data.returns } }) :
    Maintains I (receiveReturn row) := by
  refine maintains_ite (.ret _) ?_
  refine (Maintains.select _).bind fun _ => (Maintains.forEach fun item _ => ?_).bind fun _ => ?_
  · unfold receiveItem
    split
    · refine (maintains_returnTargets _).bind fun _ => Maintains.forEach fun alloc _ => ?_
      refine (hensure _ _).bind fun _ => (hchange _ _ _ ?_).bind fun _ => .ret ()
      cases row.restockSellable <;> rfl
    · exact .ret ()
  · exact (Maintains.update fun s hs => hreturns s _ hs).bind fun _ => .ret _

lemma maintains_receiveReturn (row : ReturnOrder) : Maintains (Books c) (receiveReturn row) :=
  maintains_receiveReturn_of maintains_ensure (fun _ _ _ => maintains_commitChange) row
    fun _ _ hb => hb.of_frame rfl rfl rfl rfl rfl

end maintains

/-! ### Runs -/

/-- A call of the stock service. -/
inductive StockCall
  | reserveOrder (orderId : ℕ)
  | releaseOrder (orderId : ℕ)
  | shipOrder (orderId : ℕ)
  | receiveReturn (row : ReturnOrder)
  | adjust (payload : InventoryAdjust)
  | setSafeStock (inventoryId : ℕ) (safeStock : ℤ)
  | postStock (skuId warehouseId : ℕ) (availableDelta inTransitDelta : ℤ) (refType : String)
    (refId : Option ℕ)
  | createTransfer (fromWarehouseId toWarehouseId : ℕ) (lines : List (ℕ × ℤ))
  | shipTransfer (transferId : ℕ)
  | receiveTransfer (transferId : ℕ)
  | cancelTransfer (transferId : ℕ)
  | createTaking (warehouseId : ℕ)
  | recordCounts (takingId : ℕ) (counts : List (ℕ × ℤ))
  | postTaking (takingId : ℕ)
  | cancelTaking (takingId : ℕ)

namespace StockCall

def work : StockCall → Work Unit
  | reserveOrder orderId => CrossPilot.reserveOrder orderId
  | releaseOrder orderId => CrossPilot.releaseOrder orderId
  | shipOrder orderId => CrossPilot.shipOrder orderId
  | receiveReturn row => do let _ ← CrossPilot.receiveReturn row
  | adjust payload => do let _ ← CrossPilot.adjust payload
  | setSafeStock inventoryId safeStock => CrossPilot.setSafeStock inventoryId safeStock
  | postStock skuId warehouseId availableDelta inTransitDelta refType refId =>
    CrossPilot.postStock skuId warehouseId availableDelta inTransitDelta refType refId
  | createTransfer fromWarehouseId toWarehouseId lines => do
    let _ ← CrossPilot.createTransfer fromWarehouseId toWarehouseId lines
  | shipTransfer transferId => do let _ ← CrossPilot.shipTransfer transferId
  | receiveTransfer transferId => do let _ ← CrossPilot.receiveTransfer transferId
  | cancelTransfer transferId => do let _ ← CrossPilot.cancelTransfer transferId
  | createTaking warehouseId => do let _ ← CrossPilot.createTaking warehouseId
  | recordCounts takingId counts => do let _ ← CrossPilot.recordCounts takingId counts
  | postTaking takingId => do let _ ← CrossPilot.postTaking takingId
  | cancelTaking takingId => do let _ ← CrossPilot.cancelTaking takingId

/-- A call keeps the books, unless the database refuses a statement. -/
theorem keeps_books {c : ℕ → ℕ → ℤ} {s : WorkState} (call : StockCall) (hb : Books c s) :
    call.work.wp (fun _ => Books c) (fun e s' => e.isDatabase = false → Books c s') s := by
  have hmaintains : ∀ {α : Type} {p : Work α}, Maintains (Books c) p →
      wp (p.bind fun _ => .ret ()) (fun _ => Books c)
        (fun e s' => e.isDatabase = false → Books c s') s := fun hp =>
    wp_mono (hp.bind (fun _ => .ret ()) s hb) (fun _ _ h => h) fun _ _ h _ => h
  cases call with
  | reserveOrder orderId => exact wp_reserveOrder hb fun s' hs _ => hs.books hb
  | releaseOrder orderId => exact wp_releaseOrder hb fun s' hs _ => hs.books hb
  | shipOrder orderId =>
    refine wp_shipOrder hb (fun s' hs _ => hs.books hb) fun _ s' constraint _ hno => ?_
    cases hno
  | receiveReturn row => exact hmaintains (maintains_receiveReturn row)
  | adjust payload => exact hmaintains (maintains_adjust payload)
  | setSafeStock inventoryId safeStock =>
    exact wp_mono (maintains_setSafeStock _ _ s hb) (fun _ _ h => h) fun _ _ h _ => h
  | postStock _ _ _ _ _ _ =>
    exact wp_mono (maintains_postStock _ _ _ _ _ _ s hb) (fun _ _ h => h) fun _ _ h _ => h
  | createTransfer _ _ _ => exact hmaintains (maintains_createTransfer _ _ _)
  | shipTransfer _ => exact hmaintains (maintains_shipTransfer _)
  | receiveTransfer _ => exact hmaintains (maintains_receiveTransfer _)
  | cancelTransfer _ => exact hmaintains (maintains_cancelTransfer _)
  | createTaking _ => exact hmaintains (maintains_createTaking _)
  | recordCounts _ _ => exact hmaintains (maintains_recordCounts _ _)
  | postTaking _ => exact hmaintains (maintains_postTaking _)
  | cancelTaking _ => exact hmaintains (maintains_cancelTaking _)

end StockCall

/-- A worker may remember balances as they were at some time, and draws ids that are not in use. -/
structure Worker (d : Db) (l : Session) : Prop where
  coherent : ∀ held ∈ l.seen, ∀ row ∈ d.inventories, held.id = row.id → held.AsOf row
  fresh : Fresh ⟨l, d, []⟩

/-- What may be in the database after a transaction on `d`: what it did, if it succeeds. After an
error nothing of it, or what it did until then, if its caller catches the error and the database
was not the one to raise it. -/
def Committed (d : Db) : Except ServiceError Unit × WorkState → Db → Prop
  | (.ok _, s), d' => d' = s.data
  | (.error e, s), d' => d' = d ∨ e.isDatabase = false ∧ d' = s.data

/-- The rest of the system works on the other tables. An order item is never given the id of one
that has had stock reserved. -/
structure Elsewhere (d d' : Db) : Prop where
  inventories : d'.inventories = d.inventories
  holds : d'.holds = d.holds
  lines : Keyed OrderItem.id d'.items
  items : ∀ i ∈ d'.items, i ∈ d.items ∨ ∀ h ∈ d.holds, h.orderItemId ≠ i.id

/-- The states of the database in a run of the stock service that begins with nothing reserved. -/
inductive Reachable : Db → Prop
  | start {d : Db} : Shelf d.inventories → (∀ r ∈ d.inventories, r.occupied = 0) →
    Keyed OrderItem.id d.items → d.holds = [] → Reachable d
  | call {d d' : Db} (call : StockCall) (l : Session) : Reachable d → Worker d l →
    Committed d (call.work.exec ⟨l, d, []⟩) d' → Reachable d'
  | elsewhere {d d' : Db} : Reachable d → Elsewhere d d' → Reachable d'

/-- The two books of the database agree up to a slack. -/
structure InBooks (c : ℕ → ℕ → ℤ) (d : Db) : Prop where
  shelf : Shelf d.inventories
  wf : HoldsWf d
  slack : ∀ t w, 0 ≤ c t w
  occupied : ∀ t w, balanceAt d .occupied t w = heldIn .opened d t w + c t w

lemma InBooks.books {c : ℕ → ℕ → ℤ} {d : Db} (h : InBooks c d) {l : Session} (hl : Worker d l) :
    Books c ⟨l, d, []⟩ :=
  ⟨⟨h.shelf, hl.coherent⟩, hl.fresh, h.wf, h.slack, h.occupied⟩

lemma Books.inBooks {c : ℕ → ℕ → ℤ} {s : WorkState} (h : Books c s) : InBooks c s.data :=
  ⟨h.ready.shelf, h.wf, h.slack, h.occupied⟩

lemma InBooks.committed {c : ℕ → ℕ → ℤ} {d d' : Db} (h : InBooks c d) {l : Session} (hl : Worker d l)
    {call : StockCall} (hc : Committed d (call.work.exec ⟨l, d, []⟩) d') : InBooks c d' := by
  have hkeep := call.keeps_books (h.books hl)
  unfold Prog.wp at hkeep
  cases hexec : call.work.exec ⟨l, d, []⟩ with
  | mk r s =>
    rw [hexec] at hkeep hc
    cases r with
    | ok _ =>
      rw [show d' = s.data from hc]
      exact hkeep.inBooks
    | error e =>
      rcases hc with rfl | ⟨hno, rfl⟩
      · exact h
      · exact (hkeep hno).inBooks

lemma InBooks.elsewhere {c : ℕ → ℕ → ℤ} {d d' : Db} (h : InBooks c d) (he : Elsewhere d d') :
    InBooks c d' := by
  obtain ⟨hshelf, hwf, hslack, hocc⟩ := h
  refine ⟨he.inventories ▸ hshelf, ⟨he.holds ▸ hwf.ids, he.holds ▸ hwf.items, he.lines,
    he.holds ▸ hwf.positive, he.holds ▸ hwf.quantity, he.holds ▸ hwf.short, ?_⟩, hslack, fun t w => ?_⟩
  · intro hold hh i hi heq
    rw [he.holds] at hh
    rcases he.items i hi with hold' | hnew
    · exact hwf.linked hold hh i hold' heq
    · exact absurd heq (hnew hold hh)
  · have := hocc t w
    unfold balanceAt heldIn at this ⊢
    rw [he.inventories, he.holds]
    exact this

/-- The books agree in every state of a run. -/
lemma Reachable.inBooks {d : Db} (h : Reachable d) : InBooks (fun _ _ => 0) d := by
  induction h with
  | start hshelf hzero hlines hholds =>
    refine ⟨hshelf, ⟨?_, ?_, hlines, ?_, ?_, ?_, ?_⟩, fun _ _ => le_rfl, fun t w => ?_⟩
    iterate 2 rw [hholds]; exact List.nodup_nil
    iterate 4 simp [hholds]
    · unfold heldIn
      rw [hholds, total_nil, add_zero]
      apply total_eq_zero
      intro r hr
      split
      · exact hzero r hr
      · rfl
  | call call l _ hl hc ih => exact ih.committed hl hc
  | elsewhere _ he ih => exact ih.elsewhere he

/-- In every state of a run, the occupied quantity of a SKU in a warehouse is what the open holds
of the SKU take from there, and the quantity of a hold is what its allocations add up to. -/
theorem reachable_books {d : Db} (h : Reachable d) :
    (∀ skuId warehouseId, balanceAt d .occupied skuId warehouseId =
      heldIn .opened d skuId warehouseId) ∧
    ∀ hold ∈ d.holds, hold.quantity = allocated hold.allocations :=
  ⟨fun t w => (h.inBooks.occupied t w).trans (add_zero _), h.inBooks.wf.quantity⟩

/-- Ten pieces on hand, and an order for three of them. -/
def oneOrder : Db where
  warehouses := [{ id := 1 }]
  inventories := [{ id := 2, skuId := 3, warehouseId := 1, available := 10 }]
  skus := [{ id := 3 }]
  items := [⟨5, 4, some 3, "S", "P", "", 3, 1, "USD"⟩]

/-- A worker that remembers nothing and draws the ids from `base` on. -/
def newWorker (base : ℕ := 100) : Session := { ids := fun n => base + n }

/-- The ids in the tables are below a bound. -/
def Below (bound : ℕ) (d : Db) : Prop :=
  (∀ h ∈ d.holds, h.id < bound ∧ h.orderItemId < bound ∧ h.orderId < bound) ∧
  (∀ i ∈ d.items, i.id < bound ∧ i.orderId < bound) ∧ (∀ o ∈ d.orders, o.id < bound) ∧
  ∀ r ∈ d.inventories, r.id < bound

instance (bound : ℕ) (d : Db) : Decidable (Below bound d) :=
  inferInstanceAs (Decidable (_ ∧ _ ∧ _ ∧ _))

lemma worker_newWorker {base : ℕ} {d : Db} (h : Below base d) : Worker d (newWorker base) := by
  obtain ⟨hholds, hitems, horders, hrows⟩ := h
  refine ⟨by simp [newWorker], fun m n hmn => by simpa [newWorker] using hmn, fun n huses => ?_⟩
  rcases huses with ⟨hm, hid⟩ | ⟨hm, hid⟩ | ⟨hm, hid⟩ | ⟨hm, hid⟩
  · have := hholds _ hm
    simp only [newWorker] at hid
    omega
  · have := hitems _ hm
    simp only [newWorker] at hid
    omega
  · have := horders _ hm
    simp only [newWorker] at hid
    omega
  · have := hrows _ hm
    simp only [newWorker] at hid
    omega

theorem reachable_books_oneOrder :
    ∃ d, heldIn .opened d 3 1 = 3 ∧ balanceAt d .occupied 3 1 = heldIn .opened d 3 1 := by
  have hstart : Reachable oneOrder := by
    refine .start ⟨?_, ?_, ?_, ?_, ?_, ?_⟩ ?_ ?_ rfl
    iterate 8 decide
  have hcall : Reachable _ := .call (.reserveOrder 4) newWorker hstart
    (worker_newWorker (by decide)) rfl
  exact ⟨_, by decide, (reachable_books hcall).1 3 1⟩

end CrossPilot
