import CrossPilot.Inventory.Runs

/-!
# Rules for the work of the stock service

The calls of the stock service are put together from a few statements: lookups, statements on other
tables, `ensure`, the change of a balance that is noted in the ledger, and the steps of a draw. What
holds of these and goes through sequencing holds of every call (`StockRules.work`).

A predicate may depend on the balances that the work has seen before: only such a balance is ever
changed.
-/

namespace CrossPilot

open Transaction

/-! ### What the ledger says of a change -/

/-- The direction of a flow, where its type fixes it. An adjustment goes either way, and so do the
two legs of a transfer, since cancelling undoes them under the same types. -/
def FlowType.sign : FlowType → Option ℤ
  | inbound | returnIn | reserve => some 1
  | outbound | release | ship => some (-1)
  | adjust | transferIn | transferOut => none

/-- A line of the ledger tells a change. It speaks of one bucket only, and never leaves the stock on
hand out. -/
structure Tells (flowType : FlowType) (quantity : ℤ) (bucket : Bucket) (δ : Delta) : Prop where
  committed : flowType ≠ .reserve
  sign : ∀ sign, flowType.sign = some sign → δ.bucket bucket = sign * quantity
  size : |δ.bucket bucket| = |quantity|
  available : bucket ≠ .available → δ.available = 0

namespace Tells

variable {flowType : FlowType} {quantity : ℤ} {bucket : Bucket} {δ : Delta}

/-- A flow into the bucket. -/
lemma into (h : flowType = .inbound ∨ flowType = .returnIn) (hδ : δ.bucket bucket = quantity)
    (ha : bucket ≠ .available → δ.available = 0) : Tells flowType quantity bucket δ := by
  have hsign : flowType.sign = some 1 := by rcases h with rfl | rfl <;> rfl
  refine ⟨?_, fun sign hs => ?_, by rw [hδ], ha⟩
  · rcases h with rfl | rfl <;> decide
  · obtain rfl := Option.some.inj (hsign.symm.trans hs)
    rw [one_mul, hδ]

/-- A flow out of the bucket. -/
lemma outOf (h : flowType = .outbound ∨ flowType = .release ∨ flowType = .ship)
    (hδ : δ.bucket bucket = -quantity) (ha : bucket ≠ .available → δ.available = 0) :
    Tells flowType quantity bucket δ := by
  have hsign : flowType.sign = some (-1) := by rcases h with rfl | rfl | rfl <;> rfl
  refine ⟨?_, fun sign hs => ?_, by rw [hδ, abs_neg], ha⟩
  · rcases h with rfl | rfl | rfl <;> decide
  · obtain rfl := Option.some.inj (hsign.symm.trans hs)
    rw [hδ, neg_one_mul]

/-- A flow that may go either way. -/
lemma either (h : flowType.sign = none) (hδ : |δ.bucket bucket| = |quantity|)
    (ha : bucket ≠ .available → δ.available = 0) : Tells flowType quantity bucket δ := by
  refine ⟨?_, fun sign hs => ?_, hδ, ha⟩
  · rintro rfl
    cases h
  · rw [h] at hs
    cases hs

end Tells

/-! ### The rules -/

/-- A predicate on work that holds of the statements of the stock service and goes through
sequencing. The list is of the balances seen before. -/
structure StockRules (P : List Inventory → (α : Type) → Work α → Prop) : Prop where
  ret {K : List Inventory} {α : Type} (a : α) : P K α (.ret a)
  fail {K : List Inventory} {α : Type} (e : ServiceError) : P K α (.fail e)
  bind {K : List Inventory} {α β : Type} {p : Work β} {k : β → Work α} : P K β p →
    (∀ b, P K α (k b)) → P K α (p.bind k)
  /-- A query on any tables. -/
  select {K : List Inventory} {α : Type} (f : Db → α) : P K α (.select f)
  /-- A query whose answer has balances in it. -/
  rows {K : List Inventory} {α β : Type} (f : Db → β) (seen : β → List Inventory) {k : β → Work α} :
    (∀ d, ∀ r ∈ seen (f d), r ∈ d.inventories) → (∀ b, P (seen b ++ K) α (k b)) →
      P K α ((Prog.select f).bind k)
  present {K : List Inventory} {α : Type} {row : Inventory} {k : Inventory → Work α} : row ∈ K →
    (∀ held, P (held :: K) α (k held)) → P K α ((present row).bind k)
  nextSnowflakeId {K : List Inventory} : P K ℕ nextSnowflakeId
  /-- A statement on other tables. -/
  aside {K : List Inventory} {α : Type} {t : Db → List RowKey} {eff : List RowKey → Db → Db}
    {r : List RowKey → Db → α} :
    (∀ ts d, (eff ts d).inventories = d.inventories ∧ (eff ts d).flows = d.flows) →
      P K α (.update t eff r)
  ensure {K : List Inventory} {α : Type} {skuId warehouseId : ℕ} {k : Inventory → Work α} :
    (∀ row, P (row :: K) α (k row)) → P K α ((ensure skuId warehouseId).bind k)
  change {K : List Inventory} {α : Type} {row : Inventory} {note : FlowNote} {δ : Delta}
    {k : Inventory → Work α} : row ∈ K → Tells note.flowType note.quantity note.bucket δ →
    (∀ fresh, P (fresh :: K) α (k fresh)) → P K α ((commitChange row note δ).bind k)
  /-- One step of a draw. -/
  take {K : List Inventory} {α : Type} {row : Inventory} {mode : DrawMode} {quantity : ℤ}
    (refType : String) (refId : ℕ) {k : ChangeStatus × Option Inventory → Work α} : row ∈ K →
    (∀ fresh, ∃ k' : Unit → Work α, k (.applied, some fresh) =
      (appendFlow fresh ⟨mode.flowType, quantity, mode.bucket, refType, some refId⟩
        (fresh.bucket mode.bucket) (fresh.bucket mode.bucket)).bind k' ∧
      ∀ u, P (fresh :: K) α (k' u)) →
    (∀ status o, (status = .applied → o = none) → P K α (k (status, o))) →
      P K α ((applyOnce row (mode.delta quantity)).bind k)

namespace StockRules

variable {P : List Inventory → (α : Type) → Work α → Prop} {K : List Inventory} {α β : Type}
  (L : StockRules P)

include L

omit L in
lemma branch {c : Prop} [Decidable c] {p q : Work α} (hp : c → P K α p) (hq : ¬c → P K α q) :
    P K α (if c then p else q) := by
  split
  · exact hp ‹_›
  · exact hq ‹_›

lemma orRaise (e : ServiceError) (o : Option α) : P K α (orRaise e o) := by
  cases o with
  | none => exact L.fail e
  | some a => exact L.ret a

lemma forEach {xs : List β} {f : β → Work Unit} (hf : ∀ x ∈ xs, P K Unit (f x)) :
    P K Unit (.forEach xs f) := by
  induction xs with
  | nil => exact L.ret ()
  | cons x rest ih =>
    exact L.bind (hf x List.mem_cons_self) fun _ => ih fun y hy => hf y (List.mem_cons_of_mem x hy)

lemma insert {eff : Db → Db}
    (h : ∀ d, (eff d).inventories = d.inventories ∧ (eff d).flows = d.flows) :
    P K Unit (.insert eff) := L.aside fun _ d => h d

/-! ### Looking things up -/

lemma getSku (skuId : ℕ) : P K Sku (getSku skuId) :=
  L.bind (L.select _) fun _ => L.orRaise _ _

lemma getWarehouse (warehouseId : ℕ) : P K Warehouse (getWarehouse warehouseId) :=
  L.bind (L.select _) fun _ => L.orRaise _ _

lemma getPair {skuId warehouseId : ℕ} {k : Option Inventory → Work α} (hnone : P K α (k none))
    (hsome : ∀ K' row, K ⊆ K' → row ∈ K' → P K' α (k (some row))) :
    P K α ((getPair skuId warehouseId).bind k) := by
  unfold CrossPilot.getPair
  rw [Prog.bind_eq, Prog.bind_assoc]
  refine L.rows _ Option.toList (fun d r hr => ?_) fun o => ?_
  · exact List.mem_of_find?_eq_some (Option.mem_toList.mp hr)
  · cases o with
    | none => exact hnone
    | some row =>
      change P _ α (((CrossPilot.present row).bind fun held => .ret (some held)).bind k)
      rw [Prog.bind_assoc]
      refine L.present (List.mem_append_left _ (by simp)) fun held => ?_
      exact hsome _ held (fun r hr => by simp [hr]) List.mem_cons_self

lemma commitChange {row : Inventory} {note : FlowNote} {δ : Delta} (hrow : row ∈ K)
    (hnote : Tells note.flowType note.quantity note.bucket δ) :
    P K Inventory (commitChange row note δ) := by
  rw [← Prog.bind_ret (CrossPilot.commitChange row note δ)]
  exact L.change hrow hnote fun fresh => L.ret fresh

/-! ### Draws -/

lemma listForSku {skuId : ℕ} {k : List (Inventory × Warehouse) → Work α}
    (h : ∀ K' pairs, K ⊆ K' → (∀ p ∈ pairs, p.1 ∈ K') → P K' α (k pairs)) :
    P K α ((listForSku skuId).bind k) := by
  have hall : ∀ (pairs : List (Inventory × Warehouse)) (K' : List Inventory)
      (k : List (Inventory × Warehouse) → Work α), K ⊆ K' → (∀ p ∈ pairs, p.1 ∈ K') →
      (∀ K'' held, K' ⊆ K'' → (∀ p ∈ held, p.1 ∈ K'') → P K'' α (k held)) →
      P K' α ((listForSku.presentAll pairs).bind k) := by
    intro pairs
    induction pairs with
    | nil =>
      intro K' k _ _ hk
      exact hk K' [] (List.Subset.refl K') fun _ hp => absurd hp List.not_mem_nil
    | cons p rest ih =>
      intro K' k hsub hp hk
      obtain ⟨row, warehouse⟩ := p
      change P K' α (((CrossPilot.present row).bind fun held =>
        (listForSku.presentAll rest).bind fun others => .ret ((held, warehouse) :: others)).bind k)
      rw [Prog.bind_assoc]
      refine L.present (hp _ List.mem_cons_self) fun held => ?_
      rw [Prog.bind_assoc]
      refine ih (held :: K') _ (fun r hr => List.mem_cons_of_mem held (hsub hr))
        (fun q hq => List.mem_cons_of_mem held (hp q (List.mem_cons_of_mem _ hq))) ?_
      intro K'' others hsub' hothers
      refine hk K'' _ (fun r hr => hsub' (List.mem_cons_of_mem held hr)) fun q hq => ?_
      rcases List.mem_cons.mp hq with rfl | hq
      · exact hsub' List.mem_cons_self
      · exact hothers q hq
  unfold CrossPilot.listForSku
  rw [Prog.bind_eq, Prog.bind_assoc]
  refine L.rows _ (fun pairs => pairs.map Prod.fst) (fun d r hr => ?_) fun pairs => ?_
  · obtain ⟨p, hp, rfl⟩ := List.mem_map.mp hr
    rw [(List.perm_insertionSort _ _).mem_iff] at hp
    obtain ⟨row, hrow, hrp⟩ := List.mem_filterMap.mp hp
    obtain ⟨w, -, rfl⟩ := Option.map_eq_some_iff.mp hrp
    exact (List.mem_filter.mp hrow).1
  · refine hall pairs _ k (List.subset_append_right _ _) (fun p hp => ?_) fun K'' held hsub hheld => ?_
    · exact List.mem_append_left _ (List.mem_map_of_mem hp)
    · exact h K'' held (fun r hr => hsub (List.mem_append_right _ hr)) hheld

lemma takePlanned (mode : DrawMode) (refType : String) (refId : ℕ)
    (pairs : List (Inventory × Warehouse)) (planned : List Allocation) (state : DrawState)
    (hpairs : ∀ p ∈ pairs, p.1 ∈ K) :
    P K DrawState (takePlanned mode refType refId pairs planned state) := by
  induction planned generalizing K state with
  | nil => exact L.ret state
  | cons alloc rest ih =>
    cases hfind : pairs.find? fun p => p.1.warehouseId = alloc.warehouseId with
    | none =>
      simp only [CrossPilot.takePlanned, hfind]
      exact L.fail _
    | some p =>
      simp only [CrossPilot.takePlanned, hfind]
      refine L.take refType refId (hpairs p (List.mem_of_find?_eq_some hfind)) (fun fresh => ?_) ?_
      · exact ⟨_, rfl, fun _ => ih _ fun q hq => List.mem_cons_of_mem fresh (hpairs q hq)⟩
      · intro status o hnone
        cases status with
        | applied =>
          rw [hnone rfl]
          exact L.ret _
        | _ => exact L.ret _

lemma drawLoop (skuId : ℕ) (mode : DrawMode) (refType : String) (refId rounds : ℕ)
    (state : DrawState) : P K DrawState (drawLoop skuId mode refType refId rounds state) := by
  induction rounds generalizing K state with
  | zero => exact L.ret state
  | succ rounds ih =>
    refine branch (fun _ => L.ret _) fun _ => L.listForSku fun K' pairs _ hpairs => ?_
    split
    · exact L.fail _
    · refine branch (fun _ => L.ret _) fun _ =>
        L.bind (L.takePlanned _ _ _ _ _ _ hpairs) fun state' => ?_
      exact branch (fun _ => ih state') fun _ => L.ret _

lemma draw (skuId : ℕ) (quantity : ℤ) (mode : DrawMode) (refType : String) (refId : ℕ) :
    P K (List Allocation × ℤ) (draw skuId quantity mode refType refId) :=
  L.bind (L.drawLoop _ _ _ _ _ _) fun _ => L.ret _

/-! ### Orders -/

lemma addHold (orderId orderItemId skuId : ℕ) (quantity shortQty : ℤ)
    (allocations : List Allocation) (status : HoldStatus) :
    P K Unit (addHold orderId orderItemId skuId quantity shortQty allocations status) := by
  refine L.bind L.nextSnowflakeId fun id => L.bind (L.aside fun _ d => ?_) fun _ =>
    branch (fun _ => L.fail _) fun _ => L.ret _
  split <;> exact ⟨rfl, rfl⟩

lemma updateHold (holdId : ℕ) (f : InventoryHold → InventoryHold) :
    P K Unit (updateHold holdId f) := L.aside fun _ _ => ⟨rfl, rfl⟩

lemma reserveItem (item : OrderItem) : P K Unit (reserveItem item) := by
  unfold CrossPilot.reserveItem
  split
  · refine L.bind (L.select _) fun existing => branch (fun _ => L.ret ()) fun _ =>
      L.bind (L.draw _ _ _ _ _) fun r => ?_
    cases existing with
    | none => exact L.addHold _ _ _ _ _ _ _
    | some hold => exact L.updateHold _ _
  · exact L.ret ()

/-- Settling gives a reservation up, or takes the goods out. -/
lemma settleAlloc (way : Settlement) (orderId skuId : ℕ) (alloc : Allocation) :
    P K Unit (settleAlloc way orderId skuId alloc) := by
  refine L.getPair ?_ fun K' row _ hrow => ?_
  · cases way with
    | release => exact L.ret ()
    | ship => exact L.fail _
  · refine L.change hrow ?_ fun _ => L.ret ()
    cases way with
    | release => exact .outOf (.inr (.inl rfl)) rfl fun _ => rfl
    | ship => exact .outOf (.inr (.inr rfl)) rfl fun h => absurd rfl h

lemma releaseHold (hold : InventoryHold) : P K Unit (releaseHold hold) :=
  branch (fun _ => L.ret ()) fun _ => L.bind (L.forEach fun _ _ => L.settleAlloc _ _ _ _) fun _ =>
    L.updateHold _ _

lemma shipFree (item : OrderItem) (skuId : ℕ) : P K Unit (shipFree item skuId) :=
  L.bind (L.draw _ _ _ _ _) fun _ => L.addHold _ _ _ _ _ _ _

lemma shipItem (item : OrderItem) : P K Unit (shipItem item) := by
  unfold CrossPilot.shipItem
  split
  · refine L.bind (L.select _) fun o => ?_
    cases o with
    | none => exact L.shipFree _ _
    | some hold =>
      dsimp only
      split
      · exact L.ret ()
      · exact L.bind (L.forEach fun _ _ => L.settleAlloc _ _ _ _) fun _ => L.updateHold _ _
      · exact L.updateHold _ _
      · exact L.shipFree _ _
  · exact L.ret ()

lemma returnTargets (item : OrderItem) : P K (List Allocation) (returnTargets item) := by
  refine L.bind (L.select _) fun _ => branch (fun _ => L.ret _) fun _ => ?_
  refine L.bind ?_ fun warehouse => ?_
  · refine L.bind (L.select _) fun found => ?_
    cases found with
    | none => exact L.select _
    | some w => exact L.ret _
  · cases warehouse with
    | none => exact L.fail _
    | some w => exact L.ret _

lemma receiveItem (row : ReturnOrder) (item : OrderItem) : P K Unit (receiveItem row item) := by
  unfold CrossPilot.receiveItem
  split
  · refine L.bind (L.returnTargets _) fun _ => L.forEach fun alloc _ => L.ensure fun balance => ?_
    refine L.change List.mem_cons_self ?_ fun _ => L.ret ()
    cases row.restockSellable with
    | true => exact .into (.inr rfl) rfl fun h => absurd rfl h
    | false => exact .into (.inr rfl) rfl fun _ => rfl
  · exact L.ret ()

lemma receiveReturn (row : ReturnOrder) : P K RestockStatus (receiveReturn row) := by
  refine branch (fun _ => L.ret _) fun _ => L.bind (L.select _) fun _ =>
    L.bind (L.forEach fun _ _ => L.receiveItem _ _) fun _ => ?_
  exact L.bind (L.aside fun _ _ => ⟨rfl, rfl⟩) fun _ => L.ret _

/-! ### Adjustments, transfers and stock taking -/

lemma adjust (payload : InventoryAdjust) : P K Inventory (adjust payload) := by
  refine branch (fun _ => L.fail _) fun hpos => branch (fun _ => L.fail _) fun _ =>
    L.ensure fun row => L.commitChange List.mem_cons_self ?_
  obtain ⟨skuId, warehouseId, kind, quantity, refType, refId⟩ := payload
  have hq : kind ≠ .adjust → |quantity| = quantity := fun h =>
    abs_of_pos (not_le.mp fun hle => hpos ⟨h, hle⟩)
  cases kind with
  | inbound => exact .into (.inl rfl) (hq (by decide)).symm fun h => absurd rfl h
  | outbound => exact .outOf (.inl rfl) (congrArg Neg.neg (hq (by decide)).symm) fun h => absurd rfl h
  | toDefective => exact .either rfl (by simp [Delta.bucket]) fun h => absurd rfl h
  | adjust => exact .either rfl (by simp [Delta.bucket]) fun h => absurd rfl h

lemma postStock (skuId warehouseId : ℕ) (availableDelta inTransitDelta : ℤ)
    (refType : String) (refId : Option ℕ) :
    P K Unit (postStock skuId warehouseId availableDelta inTransitDelta refType refId) := by
  have hway : ∀ (K' : List Inventory) (row : Inventory), row ∈ K' → P K' Unit
      (if inTransitDelta = 0 then return ()
        else do
          let _ ← CrossPilot.commitChange row
            ⟨.adjust, |inTransitDelta|, .inTransit, refType, refId⟩ { inTransit := inTransitDelta }) :=
    fun K' row hrow => branch (fun _ => L.ret ()) fun _ =>
      L.change hrow (.either rfl (by simp [Delta.bucket]) fun _ => rfl) fun _ => L.ret ()
  refine branch (fun _ => L.ret ()) fun _ => L.ensure fun row => ?_
  by_cases hzero : availableDelta = 0
  · simp only [hzero, if_true]
    exact hway _ row List.mem_cons_self
  · simp only [if_neg hzero]
    refine L.change List.mem_cons_self ?_ fun fresh => hway _ fresh List.mem_cons_self
    by_cases hpos : 0 < availableDelta
    · simp only [if_pos hpos]
      exact .into (.inl rfl) (abs_of_pos hpos).symm fun h => absurd rfl h
    · simp only [if_neg hpos]
      refine .outOf (.inl rfl) ?_ fun h => absurd rfl h
      rw [abs_of_nonpos (not_lt.mp hpos), neg_neg]
      rfl

lemma positive (quantity : ℤ) : P K Unit (positive quantity) :=
  branch (fun _ => L.fail _) fun _ => L.ret ()

lemma moveLeg {row : Inventory} {move : StockMove} {quantity : ℤ} (transferId : ℕ) (hrow : row ∈ K)
    (h : Tells move.flowType quantity move.bucket
      { available := move.availableDelta, inTransit := move.inTransitDelta }) :
    P K Unit (moveLeg row move quantity transferId) :=
  L.change hrow h fun _ => L.ret ()

lemma transferView (row : StockTransfer) :
    P K (StockTransfer × List StockTransferLine) (transferView row) :=
  L.bind (L.getWarehouse _) fun _ => L.bind (L.getWarehouse _) fun _ => L.bind (L.select _) fun _ =>
    L.bind (L.forEach fun _ _ => L.bind (L.getSku _) fun _ => L.ret ()) fun _ => L.ret _

lemma createTransfer (fromWarehouseId toWarehouseId : ℕ) (lines : List (ℕ × ℤ)) :
    P K (StockTransfer × List StockTransferLine)
      (createTransfer fromWarehouseId toWarehouseId lines) := by
  refine branch (fun _ => L.fail _) fun _ => L.bind (L.getWarehouse _) fun _ =>
    L.bind (L.getWarehouse _) fun _ => ?_
  refine L.bind (L.forEach fun _ _ => L.bind (L.getSku _) fun _ => L.ret ()) fun _ => ?_
  refine L.bind L.nextSnowflakeId fun _ => L.bind (L.insert fun _ => ⟨rfl, rfl⟩) fun _ => ?_
  refine L.bind (L.forEach fun _ _ => L.bind L.nextSnowflakeId fun _ => ?_) fun _ => ?_
  · exact L.insert fun _ => ⟨rfl, rfl⟩
  · exact L.transferView _

lemma transitionTransfer (transferId : ℕ) (fromStatus toStatus : TransferStatus) :
    P K Bool (transitionTransfer transferId fromStatus toStatus) := L.aside fun _ _ => ⟨rfl, rfl⟩

lemma getTransfer (transferId : ℕ) : P K StockTransfer (getTransfer transferId) :=
  L.bind (L.select _) fun _ => L.orRaise _ _

lemma shipTransfer (transferId : ℕ) :
    P K (StockTransfer × List StockTransferLine) (shipTransfer transferId) := by
  refine L.bind (L.getTransfer _) fun _ => branch (fun _ => L.fail _) fun _ =>
    L.bind (L.select _) fun _ => L.bind (L.transitionTransfer _ _ _) fun _ =>
      branch (fun _ => L.fail _) fun _ => ?_
  refine L.bind (L.forEach fun line _ => ?_) fun _ => L.transferView _
  refine L.bind (L.positive _) fun _ => L.ensure fun source => L.ensure fun dest => ?_
  refine L.bind (L.moveLeg _ (List.mem_cons_of_mem _ List.mem_cons_self) ?_) fun _ =>
    L.moveLeg _ List.mem_cons_self ?_
  · exact .either rfl (abs_neg _) fun h => absurd rfl h
  · exact .either rfl rfl fun _ => rfl

lemma receiveTransfer (transferId : ℕ) :
    P K (StockTransfer × List StockTransferLine) (receiveTransfer transferId) := by
  refine L.bind (L.getTransfer _) fun _ => branch (fun _ => L.fail _) fun _ =>
    L.bind (L.select _) fun _ => L.bind (L.transitionTransfer _ _ _) fun _ =>
      branch (fun _ => L.fail _) fun _ => ?_
  refine L.bind (L.forEach fun line _ => ?_) fun _ => L.transferView _
  refine L.ensure fun dest => L.bind (L.positive _) fun _ => L.moveLeg _ List.mem_cons_self ?_
  exact .either rfl rfl fun h => absurd rfl h

lemma cancelTransfer (transferId : ℕ) :
    P K (StockTransfer × List StockTransferLine) (cancelTransfer transferId) := by
  refine L.bind (L.getTransfer _) fun _ => L.bind (L.select _) fun _ =>
    branch (fun _ => ?_) fun _ => branch (fun _ => L.fail _) fun _ =>
      L.bind (L.transitionTransfer _ _ _) fun _ => branch (fun _ => L.fail _) fun _ => ?_
  · exact L.bind (L.transitionTransfer _ _ _) fun _ =>
      branch (fun _ => L.fail _) fun _ => L.transferView _
  · refine L.bind (L.forEach fun line _ => ?_) fun _ => L.transferView _
    refine L.bind (L.positive _) fun _ => L.ensure fun dest => L.ensure fun source => ?_
    refine L.bind (L.moveLeg _ (List.mem_cons_of_mem _ List.mem_cons_self) ?_) fun _ =>
      L.moveLeg _ List.mem_cons_self ?_
    · exact .either rfl (abs_neg _) fun _ => rfl
    · exact .either rfl rfl fun h => absurd rfl h

lemma getTaking (takingId : ℕ) : P K StockTaking (getTaking takingId) :=
  L.bind (L.select _) fun _ => L.orRaise _ _

lemma transitionTaking (takingId : ℕ) (fromStatus toStatus : TakingStatus) :
    P K Bool (transitionTaking takingId fromStatus toStatus) := L.aside fun _ _ => ⟨rfl, rfl⟩

lemma takingView (row : StockTaking) :
    P K (StockTaking × List StockTakingLine) (takingView row) :=
  L.bind (L.getWarehouse _) fun _ => L.bind (L.select _) fun _ =>
    L.bind (L.forEach fun _ _ => L.bind (L.getSku _) fun _ => L.ret ()) fun _ => L.ret _

lemma createTaking (warehouseId : ℕ) :
    P K (StockTaking × List StockTakingLine) (createTaking warehouseId) := by
  refine L.bind (L.getWarehouse _) fun _ => ?_
  refine L.rows _ id (fun d r hr => (List.mem_filter.mp hr).1) fun balances => ?_
  refine branch (fun _ => L.fail _) fun _ => L.bind L.nextSnowflakeId fun _ =>
    L.bind (L.insert fun _ => ⟨rfl, rfl⟩) fun _ => ?_
  refine L.bind (L.forEach fun balance hb => ?_) fun _ => L.takingView _
  exact L.present (List.mem_append_left _ hb) fun _ => L.bind L.nextSnowflakeId fun _ =>
    L.insert fun _ => ⟨rfl, rfl⟩

lemma recordCounts (takingId : ℕ) (counts : List (ℕ × ℤ)) :
    P K (StockTaking × List StockTakingLine) (recordCounts takingId counts) := by
  refine L.bind (L.getTaking _) fun _ => branch (fun _ => L.fail _) fun _ => ?_
  refine L.bind (L.forEach fun item _ => ?_) fun _ => L.takingView _
  exact L.bind (L.select _) fun _ => L.bind (L.orRaise _ _) fun _ => L.aside fun _ _ => ⟨rfl, rfl⟩

lemma planTaking (warehouseId : ℕ) (lines : List StockTakingLine) :
    P K (List (ℕ × ℤ)) (planTaking warehouseId lines) := by
  induction lines generalizing K with
  | nil => exact L.ret _
  | cons line rest ih =>
    refine L.bind (L.orRaise _ _) fun _ => L.getPair (L.bind (L.orRaise _ _) fun _ => ?_)
      fun _ _ _ _ => L.bind (L.orRaise _ _) fun _ => ?_
    · exact branch (fun _ => L.fail _) fun _ => L.bind ih fun _ => L.ret _
    · exact branch (fun _ => L.fail _) fun _ => L.bind ih fun _ => L.ret _

lemma postTaking (takingId : ℕ) :
    P K (StockTaking × List StockTakingLine) (postTaking takingId) := by
  refine L.bind (L.getTaking _) fun _ => branch (fun _ => L.fail _) fun _ =>
    L.bind (L.select _) fun _ => branch (fun _ => L.fail _) fun _ =>
      L.bind (L.planTaking _ _) fun _ => L.bind (L.transitionTaking _ _ _) fun _ =>
        branch (fun _ => L.fail _) fun _ => ?_
  refine L.bind (L.forEach fun p _ => ?_) fun _ => ?_
  · exact branch (fun _ => L.ret ()) fun _ => L.bind (L.adjust _) fun _ => L.ret ()
  · exact L.bind (L.aside fun _ _ => ⟨rfl, rfl⟩) fun _ => L.takingView _

lemma cancelTaking (takingId : ℕ) :
    P K (StockTaking × List StockTakingLine) (cancelTaking takingId) :=
  L.bind (L.getTaking _) fun _ => branch (fun _ => L.fail _) fun _ =>
    L.bind (L.transitionTaking _ _ _) fun _ =>
      branch (fun _ => L.fail _) fun _ => L.takingView _

/-- What keeps to the rules holds of every call of the stock service but the one that sets the
safety stock. -/
theorem work (call : StockCall)
    (h : ∀ inventoryId safeStock, call ≠ .setSafeStock inventoryId safeStock) :
    P K Unit call.work := by
  cases call with
  | reserveOrder _ => exact L.bind (L.select _) fun _ => L.forEach fun _ _ => L.reserveItem _
  | releaseOrder _ => exact L.bind (L.select _) fun _ => L.forEach fun _ _ => L.releaseHold _
  | shipOrder _ => exact L.bind (L.select _) fun _ => L.forEach fun _ _ => L.shipItem _
  | receiveReturn row => exact L.bind (L.receiveReturn row) fun _ => L.ret ()
  | adjust payload => exact L.bind (L.adjust payload) fun _ => L.ret ()
  | setSafeStock inventoryId safeStock => exact absurd rfl (h inventoryId safeStock)
  | postStock _ _ _ _ _ _ => exact L.postStock _ _ _ _ _ _
  | createTransfer _ _ _ => exact L.bind (L.createTransfer _ _ _) fun _ => L.ret ()
  | shipTransfer _ => exact L.bind (L.shipTransfer _) fun _ => L.ret ()
  | receiveTransfer _ => exact L.bind (L.receiveTransfer _) fun _ => L.ret ()
  | cancelTransfer _ => exact L.bind (L.cancelTransfer _) fun _ => L.ret ()
  | createTaking _ => exact L.bind (L.createTaking _) fun _ => L.ret ()
  | recordCounts _ _ => exact L.bind (L.recordCounts _ _) fun _ => L.ret ()
  | postTaking _ => exact L.bind (L.postTaking _) fun _ => L.ret ()
  | cancelTaking _ => exact L.bind (L.cancelTaking _) fun _ => L.ret ()

end StockRules

/-! ### Work without savepoints -/

/-- Some ids have been drawn. -/
def Session.Drawn (l l' : Session) : Prop := ∃ n, ∀ k, l'.ids k = l.ids (k + n)

lemma Session.Drawn.refl (l : Session) : l.Drawn l := ⟨0, fun _ => rfl⟩

lemma Session.Drawn.trans {l l' l'' : Session} (h : l.Drawn l') (h' : l'.Drawn l'') :
    l.Drawn l'' := by
  obtain ⟨n, hn⟩ := h
  obtain ⟨m, hm⟩ := h'
  exact ⟨m + n, fun k => by rw [hm, hn, Nat.add_assoc]⟩

section plain

lemma plain_orRaise {α : Type} (e : ServiceError) (o : Option α) :
    (orRaise e o).Plain Session.Drawn := by
  cases o with
  | none => exact .fail e
  | some a => exact .ret a

lemma plain_present (row : Inventory) : (present row).Plain Session.Drawn := by
  refine (Prog.Plain.query _).bind fun held => ?_
  cases held with
  | some held => exact .ret held
  | none => exact (Prog.Plain.remember fun l => .refl l).bind fun _ => .ret row

lemma plain_refresh (inventoryId : ℕ) : (refresh inventoryId).Plain Session.Drawn := by
  refine (Prog.Plain.select _).bind fun found => ?_
  cases found with
  | none => exact .ret none
  | some row => exact (Prog.Plain.remember fun l => .refl l).bind fun _ => .ret _

lemma plain_nextSnowflakeId : nextSnowflakeId.Plain Session.Drawn :=
  (Prog.Plain.query _).bind fun _ =>
    (Prog.Plain.remember fun _ => ⟨1, fun _ => rfl⟩).bind fun _ => .ret _

lemma plain_getPair (skuId warehouseId : ℕ) : (getPair skuId warehouseId).Plain Session.Drawn := by
  refine (Prog.Plain.select _).bind fun found => ?_
  cases found with
  | none => exact .ret none
  | some row => exact (plain_present row).bind fun _ => .ret _

lemma plain_applyOnce (row : Inventory) (δ : Delta) : (applyOnce row δ).Plain Session.Drawn := by
  have hchange : (applyChange row.id row.version δ).Plain Session.Drawn := by
    refine (Prog.Plain.update _ _ _).bind fun rowcount =>
      StockRules.branch (K := []) (P := fun _ _ p => p.Plain Session.Drawn) (fun _ => .ret _)
        fun _ => (plain_refresh _).bind fun found => ?_
    cases found with
    | none => exact .ret _
    | some current => exact .ret _
  refine hchange.bind fun status => ?_
  cases status with
  | applied => exact (plain_refresh _).bind fun _ => .ret _
  | conflict => exact (plain_refresh _).bind fun _ => .ret _
  | _ => exact .ret _

lemma plain_commitLoop (note : FlowNote) (δ : Delta) (tries : ℕ) (row : Inventory) :
    (commitLoop note δ tries row).Plain Session.Drawn := by
  induction tries generalizing row with
  | zero => exact .fail _
  | succ tries ih =>
    refine (plain_applyOnce row δ).bind fun r => ?_
    obtain ⟨status, fresh⟩ := r
    cases status <;> cases fresh
    case applied.some fresh => exact (Prog.Plain.update _ _ _).bind fun _ => .ret _
    case conflict.some fresh => exact ih fresh
    all_goals exact .fail _

lemma plain_ensure (skuId warehouseId : ℕ) : (ensure skuId warehouseId).Plain Session.Drawn := by
  refine ((Prog.Plain.select _).bind fun _ => plain_orRaise _ _).bind fun _ =>
    ((Prog.Plain.select _).bind fun _ => plain_orRaise _ _).bind fun _ =>
    (plain_getPair _ _).bind fun found => ?_
  cases found with
  | some row => exact .ret row
  | none =>
    refine plain_nextSnowflakeId.bind fun id => (Prog.Plain.update _ _ _).bind fun violated => ?_
    cases violated with
    | true => exact (plain_getPair _ _).bind fun _ => plain_orRaise _ _
    | false => exact (Prog.Plain.remember fun l => .refl l).bind fun _ => .ret _

/-- The stock service sets no savepoints that outlast a statement. -/
theorem plainRules : StockRules fun _ _ p => p.Plain Session.Drawn where
  ret := .ret
  fail := .fail
  bind := .bind
  select := .select
  rows f _ _ _ hk := (Prog.Plain.select f).bind hk
  present _ hk := (plain_present _).bind hk
  nextSnowflakeId := plain_nextSnowflakeId
  aside _ := .update _ _ _
  ensure hk := (plain_ensure _ _).bind hk
  change _ _ hk := (plain_commitLoop _ _ _ _).bind hk
  take := by
    intro K α row mode quantity refType refId k _ happlied hother
    refine (plain_applyOnce row _).bind fun r => ?_
    obtain ⟨status, fresh⟩ := r
    by_cases hdone : status = .applied ∧ ∃ row, fresh = some row
    · obtain ⟨rfl, row', rfl⟩ := hdone
      obtain ⟨k', hk', hgo⟩ := happlied row'
      rw [hk']
      exact (Prog.Plain.update _ _ _).bind hgo
    · refine hother status fresh fun happ => ?_
      cases fresh with
      | none => rfl
      | some row' => exact absurd ⟨happ, row', rfl⟩ hdone

end plain

end CrossPilot
