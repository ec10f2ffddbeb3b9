import CrossPilot.Inventory.Service

/-!
# Telling the shops

A transaction that has changed stock asks for a push of its SKUs before it commits. The task that is
asked for reads the committed balances, and then tells the linked shops one after the other how much
they may sell. The queue takes no part in the transaction: a task may run before the transaction
that has asked for it commits, and tasks may overtake each other.

As long as every commit that changes what may be sold leaves a task behind it that has not read yet,
and nobody tells a shop something out of date while no other task is going to correct it, the shops
are told what the balances say (`SafePushes.lastSent_eq`).
-/

namespace CrossPilot

open Transaction

/-! ### What a task does -/

/-- The stock of a SKU that is not held, over its warehouses. -/
def freeStock (d : Db) (skuId : ℕ) : ℤ :=
  Table.total (fun r => r.available - r.occupied) <|
    (d.inventories.filter fun r => r.skuId = skuId).filter fun r =>
      d.warehouses.any fun w => w.id = r.warehouseId ∧ w.deleted = false

/-- The listings a push of the SKU is for. -/
def listLinkedForSku (d : Db) (skuId : ℕ) : List Listing :=
  (d.listings.filter fun l => l.skuId = skuId ∧ l.status = .linked ∧ l.platformSkuId.isSome ∧
    l.deleted = false).insertionSort fun a b => a.id ≤ b.id

/-- A shop, and what it calls the SKU. -/
abbrev PushTarget := ℕ × String

/-- The targets of a push, in the order of the listings. -/
def pushTargets (d : Db) (skuId : ℕ) : List PushTarget :=
  (listLinkedForSku d skuId).filterMap fun l =>
    (l.platformSkuId.filter (· ≠ "")).map (l.shopId, ·)

/-- One more entry in a dictionary of lists. -/
def addToGroup (t : PushTarget) : List (ℕ × List String) → List (ℕ × List String)
  | [] => [(t.1, [t.2])]
  | g :: rest => if g.1 = t.1 then (g.1, g.2 ++ [t.2]) :: rest else g :: addToGroup t rest

/-- The targets by shop. -/
def groupByShop (ts : List PushTarget) : List (ℕ × List String) :=
  ts.foldl (fun groups t => addToGroup t groups) []

def platformPushQuantity (onHandFree platformSafety : ℤ) : Except ServiceError ℤ :=
  if onHandFree < 0 ∨ platformSafety < 0 then .error (.value "回传数量不能为负")
  else .ok (max (onHandFree - platformSafety) 0)

def defaultSafeStock : ℤ := 2

def chunkUpdates (items : List String) (batchLimit : ℕ) : List (List String) :=
  (List.range ((items.length + batchLimit - 1) / batchLimit)).map fun i =>
    (items.drop (i * batchLimit)).take batchLimit

/-- The settings of the platforms: the safety stock of a SKU on a platform, and how many updates a
call may carry. The tables check both. -/
structure PushSettings where
  safety : ℕ → String → Option ℕ
  batchLimit : String → ℕ
  batchLimit_pos : ∀ platform, 0 < batchLimit platform

def PushSettings.safetyQty (S : PushSettings) (skuId : ℕ) (platform : String) : ℤ :=
  ((S.safety skuId platform).map fun q => (q : ℤ)).getD defaultSafeStock

/-- What a shop was told. -/
structure Sent where
  skuId : ℕ
  shopId : ℕ
  items : List String
  quantity : ℤ
  deriving DecidableEq

/-- How far a task has come. A task keeps what it has read of the balances. -/
inductive PushStage
  | queued
  | pushing (free : ℤ) (groups : List (ℕ × List String))
  | sending (free quantity : ℤ) (shopId : ℕ) (chunks : List (List String))
      (groups : List (ℕ × List String))
  | ended
  deriving DecidableEq

/-- `push_sku` of one SKU, on the way. -/
structure PushTask where
  skuId : ℕ
  stage : PushStage := .queued
  deriving DecidableEq

/-- A task comes to its next statement or call. Every call succeeds. -/
def PushTask.next (S : PushSettings) (d : Db) (t : PushTask) : PushTask × Option Sent :=
  match t.stage with
  | .queued =>
    if d.skus.any fun s => s.id = t.skuId ∧ s.deleted = false then
      (⟨t.skuId, .pushing (freeStock d t.skuId) (groupByShop (pushTargets d t.skuId))⟩, none)
    else (⟨t.skuId, .ended⟩, none)
  | .pushing _ [] => (⟨t.skuId, .ended⟩, none)
  | .pushing free ((shopId, group) :: rest) =>
    match d.shops.find? fun s => s.id = shopId with
    | none => (⟨t.skuId, .pushing free rest⟩, none)
    | some shop =>
      match platformPushQuantity free (S.safetyQty t.skuId shop.platformCode) with
      | .error _ => (⟨t.skuId, .ended⟩, none)
      | .ok quantity => (⟨t.skuId, .sending free quantity shopId
          (chunkUpdates group (S.batchLimit shop.platformCode)) rest⟩, none)
  | .sending free _ _ [] rest => (⟨t.skuId, .pushing free rest⟩, none)
  | .sending free quantity shopId (chunk :: chunks) rest =>
    (⟨t.skuId, .sending free quantity shopId chunks rest⟩,
      some ⟨t.skuId, shopId, chunk, quantity⟩)
  | .ended => (t, none)

/-! ### Transactions and tasks at once -/

variable {ι α : Type} [Fintype ι] [DecidableEq ι]

/-- The transactions, the tasks they have asked for, and what the shops were told. -/
structure PushWorld (ι α : Type) where
  world : World ι Session Db RowKey ServiceError α
  tasks : List PushTask := []
  sent : List Sent := []

/-- What can happen next. -/
inductive PushEvent (ι : Type)
  | work (i : ι)
  | enqueue (i : ι) (skuId : ℕ)
  | push (k : ℕ)

namespace PushWorld

/-- A transaction takes a step, or asks for a push, which it does before it ends; or a worker takes
a task further. -/
def step (S : PushSettings) (w : PushWorld ι α) : PushEvent ι → PushWorld ι α
  | .work i => { w with world := w.world.step i }
  | .enqueue i skuId =>
    if (w.world.tx i).finished then w else { w with tasks := w.tasks ++ [{ skuId }] }
  | .push k =>
    match w.tasks[k]? with
    | none => w
    | some t =>
      { w with
        tasks := w.tasks.set k (t.next S w.world.committed).1
        sent := w.sent ++ (t.next S w.world.committed).2.toList }

/-- The events in the order of the schedule. -/
def run (S : PushSettings) (w : PushWorld ι α) (sched : List (PushEvent ι)) : PushWorld ι α :=
  sched.foldl (step S) w

end PushWorld

/-- The last quantity a target was told of the SKU. -/
def lastSent (skuId : ℕ) (t : PushTarget) (sent : List Sent) : Option ℤ :=
  (sent.reverse.find? fun m => m.skuId = skuId ∧ m.shopId = t.1 ∧ t.2 ∈ m.items).map (·.quantity)

/-- What a target ought to be told of a SKU, as far as there is a shop and a SKU. -/
def quantityFor (S : PushSettings) (d : Db) (skuId : ℕ) (t : PushTarget) : Option ℤ := do
  guard (d.skus.any fun s => s.id = skuId ∧ s.deleted = false)
  let shop ← d.shops.find? fun s => s.id = t.1
  (platformPushQuantity (freeStock d skuId) (S.safetyQty skuId shop.platformCode)).toOption

/-! ### Groups and chunks -/

/-- The target is in the groups. -/
def InGroups (t : PushTarget) (groups : List (ℕ × List String)) : Prop :=
  ∃ g ∈ groups, g.1 = t.1 ∧ t.2 ∈ g.2

instance (t : PushTarget) (groups : List (ℕ × List String)) : Decidable (InGroups t groups) :=
  inferInstanceAs (Decidable (∃ g ∈ groups, g.1 = t.1 ∧ t.2 ∈ g.2))

@[simp] lemma inGroups_nil (t : PushTarget) : ¬InGroups t [] := by simp [InGroups]

@[simp] lemma inGroups_cons {t : PushTarget} {g : ℕ × List String}
    {rest : List (ℕ × List String)} :
    InGroups t (g :: rest) ↔ (g.1 = t.1 ∧ t.2 ∈ g.2) ∨ InGroups t rest := by
  simp [InGroups]

lemma inGroups_addToGroup {t u : PushTarget} (groups : List (ℕ × List String)) :
    InGroups t (addToGroup u groups) ↔ t = u ∨ InGroups t groups := by
  induction groups with
  | nil =>
    simp only [addToGroup, inGroups_cons, inGroups_nil, or_false, List.mem_singleton, Prod.ext_iff]
    rw [eq_comm]
  | cons g rest ih =>
    rw [addToGroup]
    split
    · rename_i hg
      simp only [inGroups_cons, List.mem_append, List.mem_singleton, hg, Prod.ext_iff]
      constructor
      · rintro (⟨h, h' | h'⟩ | h)
        · exact .inr (.inl ⟨h, h'⟩)
        · exact .inl ⟨h.symm, h'⟩
        · exact .inr (.inr h)
      · rintro (⟨h, h'⟩ | ⟨h, h'⟩ | h)
        · exact .inl ⟨h.symm, .inr h'⟩
        · exact .inl ⟨h, .inl h'⟩
        · exact .inr h
    · simp only [inGroups_cons, ih]
      tauto

/-- Grouping loses no target. -/
lemma inGroups_groupByShop {t : PushTarget} {ts : List PushTarget} :
    InGroups t (groupByShop ts) ↔ t ∈ ts := by
  have hfold : ∀ groups, InGroups t (ts.foldl (fun groups t => addToGroup t groups) groups) ↔
      t ∈ ts ∨ InGroups t groups := by
    induction ts with
    | nil => simp
    | cons u rest ih =>
      intro groups
      rw [List.foldl_cons, ih, inGroups_addToGroup, List.mem_cons]
      tauto
  rw [groupByShop, hfold]
  simp

/-- Cutting into chunks loses no item. -/
lemma mem_chunkUpdates {x : String} {items : List String} {batchLimit : ℕ} (hb : 0 < batchLimit)
    (hx : x ∈ items) : ∃ chunk ∈ chunkUpdates items batchLimit, x ∈ chunk := by
  obtain ⟨j, hj, rfl⟩ := List.mem_iff_getElem.mp hx
  have hfirst : j / batchLimit * batchLimit ≤ j := Nat.div_mul_le_self j batchLimit
  have hlast : j < j / batchLimit * batchLimit + batchLimit := by
    rw [← Nat.succ_mul, Nat.mul_comm]
    exact Nat.lt_mul_div_succ j hb
  refine ⟨(items.drop (j / batchLimit * batchLimit)).take batchLimit, ?_, ?_⟩
  · refine List.mem_map.mpr ⟨j / batchLimit, List.mem_range.mpr ?_, rfl⟩
    calc j / batchLimit < j / batchLimit + 1 := Nat.lt_succ_self _
      _ = (j + batchLimit) / batchLimit := (Nat.add_div_right j hb).symm
      _ ≤ (items.length + batchLimit - 1) / batchLimit := Nat.div_le_div_right (by omega)
  · refine List.mem_iff_getElem.mpr ⟨j - j / batchLimit * batchLimit, ?_, ?_⟩
    · rw [List.length_take, List.length_drop]
      omega
    · simp [Nat.add_sub_cancel' hfirst]

/-! ### What is due, and what was told -/

lemma lastSent_append_singleton (skuId : ℕ) (t : PushTarget) (sent : List Sent) (m : Sent) :
    lastSent skuId t (sent ++ [m]) =
      if m.skuId = skuId ∧ m.shopId = t.1 ∧ t.2 ∈ m.items then some m.quantity
      else lastSent skuId t sent := by
  simp only [lastSent, List.reverse_append, List.reverse_singleton, List.singleton_append,
    List.find?_cons]
  by_cases hm : m.skuId = skuId ∧ m.shopId = t.1 ∧ t.2 ∈ m.items
  · simp [hm]
  · simp [hm]

namespace PushStage

/-- The task is still going to tell the target what the balances say. -/
def WillTell (d : Db) (skuId : ℕ) (t : PushTarget) : PushStage → Prop
  | queued => True
  | pushing free groups => free = freeStock d skuId ∧ InGroups t groups
  | sending free _ shopId chunks groups => free = freeStock d skuId ∧
      ((shopId = t.1 ∧ ∃ chunk ∈ chunks, t.2 ∈ chunk) ∨ InGroups t groups)
  | ended => False

instance (d : Db) (skuId : ℕ) (t : PushTarget) : ∀ stage : PushStage,
    Decidable (stage.WillTell d skuId t)
  | queued => .isTrue trivial
  | pushing free groups => inferInstanceAs (Decidable (free = freeStock d skuId ∧ InGroups t groups))
  | sending free _ shopId chunks groups => inferInstanceAs (Decidable (free = freeStock d skuId ∧
      ((shopId = t.1 ∧ ∃ chunk ∈ chunks, t.2 ∈ chunk) ∨ InGroups t groups)))
  | ended => .isFalse id

/-- The quantity a task is telling a shop is the one for what it has read. -/
def Faithful (S : PushSettings) (d : Db) (skuId : ℕ) : PushStage → Prop
  | sending free quantity shopId _ _ => ∃ shop, d.shops.find? (fun s => s.id = shopId) = some shop ∧
      platformPushQuantity free (S.safetyQty skuId shop.platformCode) = .ok quantity
  | _ => True

end PushStage

namespace PushWorld

/-- Some task is still going to tell the target what the balances say. -/
def Due (skuId : ℕ) (t : PushTarget) (w : PushWorld ι α) : Prop :=
  ∃ k ∈ w.tasks, k.skuId = skuId ∧ k.stage.WillTell w.world.committed skuId t

instance (skuId : ℕ) (t : PushTarget) (w : PushWorld ι α) : Decidable (w.Due skuId t) :=
  inferInstanceAs (Decidable (∃ k ∈ w.tasks, k.skuId = skuId ∧
    k.stage.WillTell w.world.committed skuId t))

/-- The target was last told what the balances say. -/
def Told (S : PushSettings) (skuId : ℕ) (t : PushTarget) (w : PushWorld ι α) : Prop :=
  ∀ quantity, quantityFor S w.world.committed skuId t = some quantity →
    lastSent skuId t w.sent = some quantity

end PushWorld

/-- The same SKUs, listings and shops. -/
structure SameGoods (d d' : Db) : Prop where
  skus : d'.skus = d.skus
  listings : d'.listings = d.listings
  shops : d'.shops = d.shops

instance (d d' : Db) : Decidable (SameGoods d d') :=
  decidable_of_iff (d'.skus = d.skus ∧ d'.listings = d.listings ∧ d'.shops = d.shops)
    ⟨fun ⟨h₁, h₂, h₃⟩ => ⟨h₁, h₂, h₃⟩, fun ⟨h₁, h₂, h₃⟩ => ⟨h₁, h₂, h₃⟩⟩

/-- A task that has read something else than what is free by now tells it to no target but those
that another task is going to correct. -/
def SafeTask (skuId : ℕ) (w : PushWorld ι α) : PushTask → Prop
  | ⟨s, .sending free _ shopId (chunk :: _) _⟩ => s = skuId →
      free ≠ freeStock w.world.committed skuId → ∀ x ∈ chunk, w.Due skuId (shopId, x)
  | _ => True

instance (skuId : ℕ) (w : PushWorld ι α) : ∀ k, Decidable (SafeTask skuId w k)
  | ⟨s, .sending free _ shopId (chunk :: _) _⟩ => inferInstanceAs (Decidable (s = skuId →
      free ≠ freeStock w.world.committed skuId → ∀ x ∈ chunk, w.Due skuId (shopId, x)))
  | ⟨_, .sending _ _ _ [] _⟩ => .isTrue trivial
  | ⟨_, .queued⟩ => .isTrue trivial
  | ⟨_, .pushing _ _⟩ => .isTrue trivial
  | ⟨_, .ended⟩ => .isTrue trivial

/-- What the pushes of one SKU need of the next event. A transaction changes stock only, and if it
changes how much of the SKU is free, some push of the SKU has not begun. -/
def SafePush (skuId : ℕ) (w : PushWorld ι α) : PushEvent ι → Prop
  | .work i => SameGoods w.world.committed (w.world.step i).committed ∧
      (freeStock (w.world.step i).committed skuId ≠ freeStock w.world.committed skuId →
        ∃ k ∈ w.tasks, k.skuId = skuId ∧ k.stage = .queued)
  | .enqueue _ _ => True
  | .push n => ∀ k ∈ w.tasks[n]?, SafeTask skuId w k

instance (skuId : ℕ) (w : PushWorld ι α) : ∀ e, Decidable (SafePush skuId w e)
  | .work i => inferInstanceAs (Decidable (SameGoods w.world.committed (w.world.step i).committed ∧
      (freeStock (w.world.step i).committed skuId ≠ freeStock w.world.committed skuId →
        ∃ k ∈ w.tasks, k.skuId = skuId ∧ k.stage = .queued)))
  | .enqueue _ _ => .isTrue trivial
  | .push n => inferInstanceAs (Decidable (∀ k ∈ w.tasks[n]?, SafeTask skuId w k))

/-- Every event of the schedule is safe for the pushes of the SKU. -/
def SafePushes (S : PushSettings) (skuId : ℕ) : PushWorld ι α → List (PushEvent ι) → Prop
  | _, [] => True
  | w, e :: sched => SafePush skuId w e ∧ SafePushes S skuId (w.step S e) sched

/-- Safety of a schedule can be computed. -/
def decideSafePushes (S : PushSettings) (skuId : ℕ) : ∀ (sched : List (PushEvent ι))
    (w : PushWorld ι α), Decidable (SafePushes S skuId w sched)
  | [], _ => .isTrue trivial
  | e :: sched, w =>
    have := decideSafePushes S skuId sched (w.step S e)
    inferInstanceAs (Decidable (SafePush skuId w e ∧ SafePushes S skuId (w.step S e) sched))

instance (S : PushSettings) (skuId : ℕ) (w : PushWorld ι α) (sched : List (PushEvent ι)) :
    Decidable (SafePushes S skuId w sched) := decideSafePushes S skuId sched w

/-- Whoever has not been told what the balances say is going to be. -/
structure Following (S : PushSettings) (skuId : ℕ) (w : PushWorld ι α) : Prop where
  due : (∃ k ∈ w.tasks, k.skuId = skuId) → ∀ t ∈ pushTargets w.world.committed skuId,
    w.Due skuId t ∨ w.Told S skuId t
  faithful : ∀ k ∈ w.tasks, k.skuId = skuId → k.stage.Faithful S w.world.committed skuId

section step

variable {S : PushSettings} {skuId : ℕ} {w : PushWorld ι α}

lemma SameGoods.pushTargets {d d' : Db} (h : SameGoods d d') :
    pushTargets d' skuId = pushTargets d skuId := by
  simp only [CrossPilot.pushTargets, listLinkedForSku, h.listings]

lemma SameGoods.quantityFor {d d' : Db} (h : SameGoods d d')
    (hfree : freeStock d' skuId = freeStock d skuId) (t : PushTarget) :
    quantityFor S d' skuId t = quantityFor S d skuId t := by
  simp only [CrossPilot.quantityFor, h.skus, h.shops, hfree]

lemma PushStage.willTell_congr {d d' : Db} (h : freeStock d' skuId = freeStock d skuId)
    (t : PushTarget) (stage : PushStage) :
    stage.WillTell d' skuId t ↔ stage.WillTell d skuId t := by
  cases stage <;> simp [WillTell, h]

lemma PushStage.faithful_congr {d d' : Db} (h : d'.shops = d.shops) (stage : PushStage) :
    stage.Faithful S d' skuId ↔ stage.Faithful S d skuId := by
  cases stage <;> simp [Faithful, h]

/-- A task stays with its SKU. -/
lemma PushTask.skuId_next (S : PushSettings) (d : Db) (t : PushTask) :
    (t.next S d).1.skuId = t.skuId ∧ ∀ m ∈ (t.next S d).2, m.skuId = t.skuId := by
  unfold next
  split <;> try (split <;> try split)
  all_goals simp

/-- A target that can be told a quantity has a shop, and enough is free. -/
lemma quantityFor_eq_some {d : Db} {t : PushTarget} {quantity : ℤ} :
    quantityFor S d skuId t = some quantity ↔
      (d.skus.any fun s => s.id = skuId ∧ s.deleted = false) ∧
        ∃ shop, d.shops.find? (fun s => s.id = t.1) = some shop ∧
          platformPushQuantity (freeStock d skuId) (S.safetyQty skuId shop.platformCode) =
            .ok quantity := by
  unfold quantityFor
  generalize (d.skus.any fun s => s.id = skuId ∧ s.deleted = false) = known
  cases known with
  | false => simp [guard]
  | true =>
    cases d.shops.find? fun s => s.id = t.1 with
    | none => simp
    | some shop =>
      cases hq : platformPushQuantity (freeStock d skuId) (S.safetyQty skuId shop.platformCode) with
      | error e => simp [hq, Except.toOption]
      | ok q => simp [hq, guard, Except.toOption]

lemma nonneg_of_platformPushQuantity {free safety quantity : ℤ}
    (h : platformPushQuantity free safety = .ok quantity) : 0 ≤ free := by
  unfold platformPushQuantity at h
  split at h
  · cases h
  · rename_i hneg
    omega

lemma platformPushQuantity_of_nonneg {free safety : ℤ} (hf : 0 ≤ free) (hs : 0 ≤ safety) :
    platformPushQuantity free safety = .ok (max (free - safety) 0) :=
  if_neg (by omega)

lemma PushSettings.safetyQty_nonneg (S : PushSettings) (skuId : ℕ) (platform : String) :
    0 ≤ S.safetyQty skuId platform := by
  unfold safetyQty
  cases S.safety skuId platform with
  | none => decide
  | some q => exact Int.natCast_nonneg q

/-- A task that is going to tell a target tells it now, or is still going to. -/
lemma PushTask.willTell_next {d : Db} {t : PushTarget} {quantity : ℤ} {stage : PushStage}
    (ht : t ∈ pushTargets d skuId) (hq : quantityFor S d skuId t = some quantity)
    (hfaith : stage.Faithful S d skuId) (hwill : stage.WillTell d skuId t) :
    ((PushTask.mk skuId stage).next S d).1.stage.WillTell d skuId t ∨
      ∃ m, ((PushTask.mk skuId stage).next S d).2 = some m ∧ m.shopId = t.1 ∧ t.2 ∈ m.items ∧
        m.quantity = quantity := by
  obtain ⟨hsku, shop, hshop, hquantity⟩ := quantityFor_eq_some.mp hq
  cases stage with
  | queued =>
    left
    simp only [next, if_pos hsku]
    exact ⟨rfl, inGroups_groupByShop.mpr ht⟩
  | pushing free groups =>
    obtain ⟨hfree, hin⟩ := hwill
    left
    cases groups with
    | nil => exact absurd hin (inGroups_nil t)
    | cons g rest =>
      obtain ⟨shopId, group⟩ := g
      rw [inGroups_cons] at hin
      by_cases hid : shopId = t.1
      · subst hid
        have hsend := platformPushQuantity_of_nonneg (nonneg_of_platformPushQuantity hquantity)
          (S.safetyQty_nonneg skuId shop.platformCode)
        simp only [next, hshop, hfree, hsend]
        refine ⟨rfl, hin.imp (fun h => ⟨rfl, ?_⟩) id⟩
        exact mem_chunkUpdates (S.batchLimit_pos _) h.2
      · have hrest : InGroups t rest := hin.resolve_left fun h => hid h.1
        have hnonneg : 0 ≤ free := hfree ▸ nonneg_of_platformPushQuantity hquantity
        simp only [next]
        cases d.shops.find? fun s => s.id = shopId with
        | none => exact ⟨hfree, hrest⟩
        | some other =>
          simp only [platformPushQuantity_of_nonneg hnonneg
            (S.safetyQty_nonneg skuId other.platformCode)]
          exact ⟨hfree, .inr hrest⟩
  | sending free q shopId chunks groups =>
    obtain ⟨hfree, hin⟩ := hwill
    cases chunks with
    | nil =>
      left
      refine ⟨hfree, hin.resolve_left ?_⟩
      rintro ⟨-, chunk, hchunk, -⟩
      cases hchunk
    | cons chunk chunks =>
      simp only [next]
      by_cases hnow : shopId = t.1 ∧ t.2 ∈ chunk
      · right
        obtain ⟨other, hother, hq'⟩ := hfaith
        rw [hnow.1, hshop, Option.some.injEq] at hother
        rw [hfree, ← hother, hquantity, Except.ok.injEq] at hq'
        exact ⟨_, rfl, hnow.1, hnow.2, hq'.symm⟩
      · left
        refine ⟨hfree, hin.imp (fun ⟨hid, c, hc, hmem⟩ => ⟨hid, c, ?_, hmem⟩) id⟩
        exact (List.mem_cons.mp hc).resolve_left fun h => hnow ⟨hid, h ▸ hmem⟩
  | ended => exact absurd hwill id

/-- What a task is about to tell a shop goes on to be faithful to what it has read. -/
lemma PushTask.faithful_next {d : Db} {stage : PushStage} (hfaith : stage.Faithful S d skuId) :
    ((PushTask.mk skuId stage).next S d).1.stage.Faithful S d skuId := by
  cases stage with
  | queued =>
    simp only [next]
    split <;> trivial
  | pushing free groups =>
    cases groups with
    | nil => trivial
    | cons g rest =>
      simp only [next]
      cases hshop : d.shops.find? fun s => s.id = g.1 with
      | none => trivial
      | some shop =>
        cases hq : platformPushQuantity free (S.safetyQty skuId shop.platformCode) with
        | error e => simp only [hq]; trivial
        | ok q =>
          simp only [hq]
          exact ⟨shop, hshop, hq⟩
  | sending free q shopId chunks groups =>
    cases chunks with
    | nil => trivial
    | cons chunk chunks => exact hfaith
  | ended => trivial

/-- Only a task in the middle of a shop tells anything. -/
lemma PushTask.eq_sending_of_mem_next {d : Db} {stage : PushStage} {m : Sent}
    (h : ((PushTask.mk skuId stage).next S d).2 = some m) :
    ∃ free quantity shopId chunk chunks groups,
      stage = .sending free quantity shopId (chunk :: chunks) groups ∧
        m = ⟨skuId, shopId, chunk, quantity⟩ := by
  cases stage with
  | queued =>
    simp only [next] at h
    split at h <;> cases h
  | pushing free groups =>
    cases groups with
    | nil => cases h
    | cons g rest =>
      simp only [next] at h
      split at h
      · cases h
      · split at h <;> cases h
  | sending free q shopId chunks groups =>
    cases chunks with
    | nil => cases h
    | cons chunk chunks =>
      simp only [next, Option.some.injEq] at h
      subst h
      exact ⟨free, q, shopId, chunk, chunks, groups, rfl, rfl⟩
  | ended => cases h

lemma Following.work {i : ι} (h : Following S skuId w) (hsafe : SafePush skuId w (.work i)) :
    Following S skuId (w.step S (.work i)) := by
  obtain ⟨hgoods, hqueued⟩ := hsafe
  constructor
  · intro hsome t ht
    by_cases hfree : freeStock (w.world.step i).committed skuId = freeStock w.world.committed skuId
    · refine (h.due hsome t (hgoods.pushTargets ▸ ht)).imp ?_ ?_
      · rintro ⟨k, hk, hku, hwill⟩
        exact ⟨k, hk, hku, (PushStage.willTell_congr hfree t k.stage).mpr hwill⟩
      · intro htold quantity hq
        exact htold quantity (hgoods.quantityFor hfree t ▸ hq)
    · left
      obtain ⟨k, hk, hku, hstage⟩ := hqueued hfree
      refine ⟨k, hk, hku, ?_⟩
      rw [hstage]
      trivial
  · intro k hk hku
    exact (PushStage.faithful_congr hgoods.shops k.stage).mpr (h.faithful k hk hku)

lemma Following.enqueue {i : ι} {s : ℕ} (h : Following S skuId w) :
    Following S skuId (w.step S (.enqueue i s)) := by
  simp only [PushWorld.step]
  split
  · exact h
  · constructor
    · rintro ⟨k, hk, hku⟩ t ht
      rcases List.mem_append.mp hk with hk | hk
      · refine (h.due ⟨k, hk, hku⟩ t ht).imp ?_ id
        rintro ⟨k', hk', hwill⟩
        exact ⟨k', List.mem_append_left _ hk', hwill⟩
      · rw [List.mem_singleton] at hk
        subst hk
        exact .inl ⟨_, List.mem_append_right _ (List.mem_singleton_self _), hku, trivial⟩
    · intro k hk hku
      rcases List.mem_append.mp hk with hk | hk
      · exact h.faithful k hk hku
      · rw [List.mem_singleton] at hk
        subst hk
        trivial

lemma mem_set_of_ne {l : List PushTask} {n : ℕ} {t t' k : PushTask} (hn : l[n]? = some t)
    (hk : k ∈ l) (hne : k ≠ t) : k ∈ l.set n t' := by
  obtain ⟨j, hj⟩ := List.mem_iff_getElem?.mp hk
  have hjn : n ≠ j := by
    rintro rfl
    exact hne (Option.some.inj (hj.symm.trans hn))
  exact List.mem_iff_getElem?.mpr ⟨j, (List.getElem?_set_ne hjn).trans hj⟩

/-- A task tells a target what the balances say, or another one is going to. -/
lemma SafePush.due {n : ℕ} (h : Following S skuId w) (hsafe : SafePush skuId w (.push n))
    {stage : PushStage} (hn : w.tasks[n]? = some ⟨skuId, stage⟩) {m : Sent}
    (hm : ((PushTask.mk skuId stage).next S w.world.committed).2 = some m) {t : PushTarget}
    (hid : m.shopId = t.1) (hx : t.2 ∈ m.items) :
    (∀ quantity, quantityFor S w.world.committed skuId t = some quantity → m.quantity = quantity) ∨
      ∃ k ∈ w.tasks, k ≠ ⟨skuId, stage⟩ ∧ k.skuId = skuId ∧
        k.stage.WillTell w.world.committed skuId t := by
  obtain ⟨free, quantity, shopId, chunk, chunks, groups, rfl, rfl⟩ :=
    PushTask.eq_sending_of_mem_next hm
  obtain rfl : shopId = t.1 := hid
  by_cases hfree : free = freeStock w.world.committed skuId
  · left
    intro q hq
    obtain ⟨-, shop, hshop, hq⟩ := quantityFor_eq_some.mp hq
    obtain ⟨shop', hshop', hq'⟩ := h.faithful _ (List.mem_of_getElem? hn) rfl
    obtain rfl : shop = shop' := Option.some.inj (hshop.symm.trans hshop')
    rw [hfree, hq, Except.ok.injEq] at hq'
    exact hq'.symm
  · right
    obtain ⟨k, hk, hku, hwill⟩ := hsafe _ hn rfl hfree _ hx
    refine ⟨k, hk, ?_, hku, hwill⟩
    rintro rfl
    exact hfree hwill.1

lemma PushWorld.step_push {n : ℕ} {task : PushTask} (hn : w.tasks[n]? = some task) :
    w.step S (.push n) =
      { w with
        tasks := w.tasks.set n (task.next S w.world.committed).1
        sent := w.sent ++ (task.next S w.world.committed).2.toList } := by
  simp only [step, hn]

/-- The other tasks are where they were. -/
lemma PushWorld.due_push {n : ℕ} {task : PushTask} (hn : w.tasks[n]? = some task) {t : PushTarget}
    (h : ∃ k ∈ w.tasks, k ≠ task ∧ k.skuId = skuId ∧ k.stage.WillTell w.world.committed skuId t) :
    (w.step S (.push n)).Due skuId t := by
  obtain ⟨k, hk, hne, hwill⟩ := h
  rw [step_push hn]
  exact ⟨k, mem_set_of_ne hn hk hne, hwill⟩

lemma Following.due_push {n : ℕ} {task : PushTask} (h : Following S skuId w)
    (hn : w.tasks[n]? = some task) {t : PushTarget} (ht : t ∈ pushTargets w.world.committed skuId)
    (hdue : w.Due skuId t) :
    (w.step S (.push n)).Due skuId t ∨ (w.step S (.push n)).Told S skuId t := by
  obtain ⟨k, hk, hku, hwill⟩ := hdue
  by_cases hkt : k = task
  · subst hkt
    obtain ⟨s, stage⟩ := k
    obtain rfl : s = skuId := hku
    obtain ⟨hsame, hsent⟩ := PushTask.skuId_next S w.world.committed ⟨s, stage⟩
    rw [PushWorld.step_push hn]
    cases hq : quantityFor S w.world.committed s t with
    | none => exact .inr fun q hq' => absurd (hq.symm.trans hq') (by simp)
    | some q =>
      rcases PushTask.willTell_next ht hq (h.faithful _ hk rfl) hwill with
        hwill' | ⟨m, hm, hid, hx, rfl⟩
      · exact .inl ⟨_, List.mem_set (List.getElem?_eq_some_iff.mp hn).1 _, hsame, hwill'⟩
      · right
        intro q hq'
        obtain rfl := Option.some.inj (hq.symm.trans hq')
        simp only [hm, Option.toList_some, lastSent_append_singleton]
        exact if_pos ⟨hsent m hm, hid, hx⟩
  · exact .inl (PushWorld.due_push hn ⟨k, hk, hkt, hku, hwill⟩)

lemma Following.told_push {n : ℕ} {task : PushTask} (h : Following S skuId w)
    (hsafe : SafePush skuId w (.push n)) (hn : w.tasks[n]? = some task) {t : PushTarget}
    (htold : w.Told S skuId t) :
    (w.step S (.push n)).Due skuId t ∨ (w.step S (.push n)).Told S skuId t := by
  cases hm : (task.next S w.world.committed).2 with
  | none =>
    right
    intro q hq
    rw [PushWorld.step_push hn] at hq ⊢
    simpa only [hm, Option.toList_none, List.append_nil] using htold q hq
  | some m =>
    by_cases hr : m.skuId = skuId ∧ m.shopId = t.1 ∧ t.2 ∈ m.items
    · obtain ⟨s, stage⟩ := task
      have hsent := (PushTask.skuId_next S w.world.committed ⟨s, stage⟩).2 m hm
      obtain rfl : s = skuId := hsent.symm.trans hr.1
      rcases hsafe.due h hn hm hr.2.1 hr.2.2 with hright | hother
      · right
        intro q hq
        rw [PushWorld.step_push hn] at hq ⊢
        simp only [hm, Option.toList_some, lastSent_append_singleton, if_pos hr]
        exact congrArg some (hright q hq)
      · exact .inl (PushWorld.due_push hn hother)
    · right
      intro q hq
      rw [PushWorld.step_push hn] at hq ⊢
      simp only [hm, Option.toList_some, lastSent_append_singleton, if_neg hr]
      exact htold q hq

lemma Following.push {n : ℕ} (h : Following S skuId w) (hsafe : SafePush skuId w (.push n)) :
    Following S skuId (w.step S (.push n)) := by
  cases hn : w.tasks[n]? with
  | none =>
    simp only [PushWorld.step, hn]
    exact h
  | some task =>
    have hsame := (PushTask.skuId_next S w.world.committed task).1
    have hmem : task ∈ w.tasks := List.mem_of_getElem? hn
    have htasks : (w.step S (.push n)).tasks = w.tasks.set n (task.next S w.world.committed).1 := by
      rw [PushWorld.step_push hn]
    have hdata : (w.step S (.push n)).world = w.world := by rw [PushWorld.step_push hn]
    constructor
    · rintro ⟨k, hk, hku⟩ t ht
      rw [htasks] at hk
      rw [hdata] at ht
      have hold : ∃ k ∈ w.tasks, k.skuId = skuId := by
        rcases List.mem_or_eq_of_mem_set hk with hk | rfl
        · exact ⟨k, hk, hku⟩
        · exact ⟨task, hmem, hsame.symm.trans hku⟩
      rcases h.due hold t ht with hdue | htold
      · exact h.due_push hn ht hdue
      · exact h.told_push hsafe hn htold
    · intro k hk hku
      rw [htasks] at hk
      rw [hdata]
      rcases List.mem_or_eq_of_mem_set hk with hk | rfl
      · exact h.faithful k hk hku
      · obtain ⟨s, stage⟩ := task
        obtain rfl : s = skuId := hsame.symm.trans hku
        exact PushTask.faithful_next (h.faithful _ hmem rfl)

lemma Following.step {e : PushEvent ι} (h : Following S skuId w) (hsafe : SafePush skuId w e) :
    Following S skuId (w.step S e) := by
  cases e with
  | work i => exact h.work hsafe
  | enqueue i s => exact h.enqueue
  | push n => exact h.push hsafe

theorem Following.run {sched : List (PushEvent ι)} (h : Following S skuId w)
    (hsafe : SafePushes S skuId w sched) : Following S skuId (w.run S sched) := by
  induction sched generalizing w with
  | nil => exact h
  | cons e rest ih => exact ih (h.step hsafe.1) hsafe.2

/-- Once every task has ended, all the targets of the SKU were last told what the balances say. -/
theorem SafePushes.lastSent_eq {w : World ι Session Db RowKey ServiceError α}
    {sched : List (PushEvent ι)} (hsafe : SafePushes S skuId ⟨w, [], []⟩ sched)
    (hdone : ∀ k ∈ (PushWorld.run S ⟨w, [], []⟩ sched).tasks, k.stage = .ended)
    (hsome : ∃ k ∈ (PushWorld.run S ⟨w, [], []⟩ sched).tasks, k.skuId = skuId) :
    ∀ t ∈ pushTargets (PushWorld.run S ⟨w, [], []⟩ sched).world.committed skuId, ∀ quantity,
      quantityFor S (PushWorld.run S ⟨w, [], []⟩ sched).world.committed skuId t = some quantity →
        lastSent skuId t (PushWorld.run S ⟨w, [], []⟩ sched).sent = some quantity := by
  intro t ht
  have hstart : Following S skuId (⟨w, [], []⟩ : PushWorld ι α) :=
    ⟨fun ⟨_, hk, _⟩ => absurd hk List.not_mem_nil, fun _ hk => absurd hk List.not_mem_nil⟩
  rcases (hstart.run hsafe).due hsome t ht with ⟨k, hk, -, hwill⟩ | htold
  · rw [hdone k hk] at hwill
    exact hwill.elim
  · exact htold

end step

/-! ### Two runs -/

/-- Five pieces of a SKU that a shop sells. -/
def shopFive : Db where
  warehouses := [{ id := 3, isDefault := true }]
  inventories := [{ id := 1, skuId := 2, warehouseId := 3, available := 5 }]
  skus := [{ id := 2 }]
  listings := [{ id := 7, skuId := 2, shopId := 9, platformSkuId := some "A", status := .linked }]
  shops := [{ id := 9, platformCode := "SHOPEE" }]

/-- No safety stock has been set. -/
def noSafety : PushSettings := ⟨fun _ _ => none, fun _ => 50, fun _ => by decide⟩

/-- A transaction takes three pieces out. -/
def sellThree : PushWorld Unit Inventory where
  world := ⟨shopFive, fun _ =>
    Tx.start (adjust { skuId := 2, warehouseId := 3, kind := .outbound, quantity := 3 }) { ids := fun n => 100 + n }⟩

/-- The task has run before the transaction that asked for it commits. -/
def pushEarly : List (PushEvent Unit) :=
  List.replicate 11 (.work ()) ++ [.enqueue () 2] ++ List.replicate 5 (.push 0) ++ [.work ()]

/-- The task begins after the commit. -/
def pushLate : List (PushEvent Unit) :=
  List.replicate 11 (.work ()) ++ [.enqueue () 2, .work ()] ++ List.replicate 5 (.push 0)

/-- The shop is told three pieces, the balance leaves it none. -/
theorem stale_pushEarly :
    let w := sellThree.run noSafety pushEarly
    (w.world.tx ()).finished ∧ (∀ k ∈ w.tasks, k.stage = .ended) ∧
      (9, "A") ∈ pushTargets w.world.committed 2 ∧
      quantityFor noSafety w.world.committed 2 (9, "A") = some 0 ∧
      lastSent 2 (9, "A") w.sent = some 3 := by
  decide +kernel

/-- The shop is told that none is left. -/
theorem lastSent_pushLate :
    lastSent 2 (9, "A") (sellThree.run noSafety pushLate).sent = some 0 := by
  have hsafe : SafePushes noSafety 2 sellThree pushLate := by decide +kernel
  exact hsafe.lastSent_eq (by decide +kernel) (by decide +kernel) (9, "A") (by decide +kernel) 0
    (by decide +kernel)

end CrossPilot
