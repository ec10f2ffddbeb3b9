import CrossPilot.Inventory.Balance
import CrossPilot.Lib.Ledger

/-!
# Transactions on one balance

A transaction of the stock service reads and writes what it likes, but it changes balances only by
the conditional update of `applyChange`, on its own or in the retries of `commitChange`
(`StockTask`). Told with the changes it has applied, its program keeps the books of every balance.
So whatever transactions run at once, the balance is the one at the start and the changes that the
committed ones have applied (`StockTask.balance_run`).
-/

namespace CrossPilot

open Transaction

/-- A change that was applied to a balance. -/
abbrev Applied := ℕ × Delta

/-- The balance that `ensure` adds, unless the unique index knows its SKU and warehouse already. -/
def insertBalance (row : Inventory) : Work Bool :=
  .update (fun _ => [.pair row.skuId row.warehouseId])
    (fun _ d => if d.inventories.any (·.pair = row.pair) then d
      else { d with inventories := d.inventories ++ [row] })
    fun _ d => d.inventories.any (·.pair = row.pair)

/-- Work that changes balances only by `applyChange`. A refused change is an error that the work may
pass on or go on from. -/
inductive StockTask (α : Type) : Type
  | ret (a : α)
  | fail (e : ServiceError)
  | look (k : Session → Db → StockTask α)
  | learn (f : List Inventory → List Inventory) (k : StockTask α)
  | drawId (k : ℕ → StockTask α)
  | write (targets : Db → List RowKey) (eff : List RowKey → Db → Db)
      (aside : ∀ ts d, (eff ts d).inventories = d.inventories)
      (k : List RowKey → Db → StockTask α)
  | create (skuId warehouseId : ℕ) (k : Inventory → Bool → StockTask α)
  | once (row : Inventory) (δ : Delta) (k : ChangeStatus × Option Inventory → StockTask α)
  | change (row : Inventory) (note : FlowNote) (δ : Delta)
      (k : Except ServiceError Inventory → StockTask α)

namespace StockTask

variable {α β : Type}

/-- The program of a task. -/
def run : StockTask α → Work α
  | ret a => .ret a
  | fail e => .fail e
  | look k => .read fun l d => (k l d).run
  | learn f k => .keep (fun l => { l with seen := f l.seen }) k.run
  | drawId k => nextSnowflakeId.bind fun id => (k id).run
  | write t eff _ k => .write t eff fun ts d => (k ts d).run
  | create skuId warehouseId k => nextSnowflakeId.bind fun id =>
      (insertBalance { id, skuId, warehouseId }).bind fun v =>
        (k { id, skuId, warehouseId } v).run
  | once row δ k => (applyOnce row δ).bind fun r => (k r).run
  | change row note δ k => (commitChange row note δ).tried.bind fun r => (k r).run

/-- One try at a change adds to the balance if it is applied. -/
def onceLog (row : Inventory) (δ : Delta) (r : ChangeStatus × Option Inventory) : List Applied :=
  if r.1 = .applied then [(row.id, δ)] else []

/-- A change adds to the balance unless it is refused. -/
def changeLog (row : Inventory) (δ : Delta) : Except ServiceError Inventory → List Applied
  | .ok _ => [(row.id, δ)]
  | .error _ => []

/-- The program of a task that tells which changes it has applied, after those in the log. -/
def told : StockTask α → List Applied → Work (α × List Applied)
  | ret a, log => .ret (a, log)
  | fail e, _ => .fail e
  | look k, log => .read fun l d => (k l d).told log
  | learn f k, log => .keep (fun l => { l with seen := f l.seen }) (k.told log)
  | drawId k, log => nextSnowflakeId.bind fun id => (k id).told log
  | write t eff _ k, log => .write t eff fun ts d => (k ts d).told log
  | create skuId warehouseId k, log => nextSnowflakeId.bind fun id =>
      (insertBalance { id, skuId, warehouseId }).bind fun v =>
        (k { id, skuId, warehouseId } v).told log
  | once row δ k, log => (applyOnce row δ).bind fun r => (k r).told (log ++ onceLog row δ r)
  | change row note δ k, log =>
      (commitChange row note δ).tried.bind fun r => (k r).told (log ++ changeLog row δ r)

/-- Telling changes nothing. -/
lemma map_told (t : StockTask α) (log : List Applied) : (t.told log).map Prod.fst = t.run := by
  unfold Prog.map
  induction t generalizing log with
  | ret a => rfl
  | fail e => rfl
  | look k ih => exact congrArg Prog.read (funext fun l => funext fun d => ih l d log)
  | learn f k ih => exact congrArg (Prog.keep _) (ih log)
  | drawId k ih =>
    rw [told, run, Prog.bind_assoc]
    exact congrArg _ (funext fun id => ih id log)
  | write t eff h k ih =>
    exact congrArg (Prog.write t eff) (funext fun ts => funext fun d => ih ts d log)
  | create s w k ih =>
    rw [told, run, Prog.bind_assoc]
    refine congrArg _ (funext fun id => ?_)
    rw [Prog.bind_assoc]
    exact congrArg _ (funext fun v => ih _ v log)
  | once row δ k ih =>
    rw [told, run, Prog.bind_assoc]
    exact congrArg _ (funext fun r => ih r _)
  | change row note δ k ih =>
    rw [told, run, Prog.bind_assoc]
    exact congrArg _ (funext fun r => ih r _)

end StockTask

/-! ### The books of one balance -/

/-- What the log says about the balance `id`. -/
def shareOf (id : ℕ) (log : List Applied) : List Delta :=
  log.filterMap fun a => if a.1 = id then some a.2 else none

@[simp] lemma shareOf_nil (id : ℕ) : shareOf id [] = [] := rfl

@[simp] lemma shareOf_append (id : ℕ) (log log' : List Applied) :
    shareOf id (log ++ log') = shareOf id log ++ shareOf id log' := by
  simp [shareOf]

@[simp] lemma shareOf_self (id : ℕ) (δ : Delta) : shareOf id [(id, δ)] = [δ] := by
  simp [shareOf]

lemma shareOf_of_ne {id id' : ℕ} (h : id' ≠ id) (δ : Delta) : shareOf id [(id', δ)] = [] := by
  simp [shareOf, h]

/-- The balance `id` as a row that transactions add to. Ids that are yet to be drawn are others. -/
def balanceLedger (id : ℕ) : Ledger Session Db RowKey (List Inventory) Delta where
  view d := d.inventories.filter fun r => r.id = id
  key := .inventory id
  add rows δ := rows.map (·.shift δ)
  fits rows δ := ∀ r ∈ rows, r.fits δ
  wf d := (d.inventories.filter fun r => r.id = id).length = 1
  known l := ∀ n, l.ids n ≠ id

section keeps

variable {α : Type} {id : ℕ} {moved : List Delta} {F : List Delta → ServiceError → Prop}

lemma keeps_nextSnowflakeId {Q : List Delta → ℕ → Prop} (h : ∀ n, n ≠ id → Q moved n) :
    (balanceLedger id).Keeps Q F moved nextSnowflakeId :=
  fun _ _ hl _ => ⟨fun _ hl' n => hl' (n + 1), h _ (hl 0)⟩

lemma keeps_insertBalance {row : Inventory} (hrow : row.id ≠ id) {Q : List Delta → Bool → Prop}
    (h : ∀ v, Q moved v) : (balanceLedger id).Keeps Q F moved (insertBalance row) := by
  have hsame : ∀ (ts : List RowKey) (d : Db), (balanceLedger id).view
      (if d.inventories.any (·.pair = row.pair) then d
        else { d with inventories := d.inventories ++ [row] }) = (balanceLedger id).view d := by
    intro ts d
    split
    · rfl
    · simp [balanceLedger, hrow]
  refine Ledger.Keeps.write_of_same (fun ts d hd => ?_) hsame fun ts d _ => h _
  have := congrArg List.length (hsame ts d)
  exact this.trans hd

lemma keeps_appendFlow {row : Inventory} {note : FlowNote} {b a : ℤ} {Q : List Delta → Unit → Prop}
    (h : Q moved ()) : (balanceLedger id).Keeps Q F moved (appendFlow row note b a) :=
  Ledger.Keeps.write_of_same (fun _ _ hd => hd) (fun _ _ => rfl) fun _ _ _ => h

/-- What a look for the balance `inventoryId` can find. The one that is watched is there. -/
structure Found (id inventoryId : ℕ) (o : Option Inventory) : Prop where
  of_mem : ∀ r ∈ o, r.id = inventoryId
  isSome : inventoryId = id → o.isSome

lemma keeps_refresh {inventoryId : ℕ} {Q : List Delta → Option Inventory → Prop}
    (h : ∀ o, Found id inventoryId o → Q moved o) :
    (balanceLedger id).Keeps Q F moved (refresh inventoryId) := by
  refine Ledger.Keeps.bind (Ledger.Keeps.select fun d hd => ?_)
  have hfound : Found id inventoryId (d.inventories.find? fun r => r.id = inventoryId) := by
    constructor
    · intro r hr
      simpa using List.find?_some hr
    · rintro rfl
      obtain ⟨r, hr⟩ := List.length_eq_one_iff.mp hd
      have hmem : r ∈ d.inventories.filter fun r => r.id = inventoryId :=
        hr ▸ List.mem_singleton_self r
      rw [List.find?_isSome]
      exact ⟨r, List.mem_filter.mp hmem⟩
  cases ho : d.inventories.find? fun r => r.id = inventoryId with
  | none => exact h none (ho ▸ hfound)
  | some row => exact ⟨fun _ hl => hl, h _ (ho ▸ hfound)⟩

/-- What the conditional update makes of the balance. -/
lemma view_applied (id inventoryId version : ℕ) (δ : Delta) (ts : List RowKey) (d : Db) :
    (balanceLedger id).view
        { d with inventories := d.inventories.map (·.applied ts inventoryId version δ) } =
      ((balanceLedger id).view d).map (·.applied ts inventoryId version δ) := by
  have hid : ∀ r : Inventory, (r.applied ts inventoryId version δ).id = r.id := by
    intro r
    unfold Inventory.applied
    split <;> rfl
  simp only [balanceLedger]
  rw [List.filter_map]
  simp only [Function.comp_def, hid]

/-- The conditional update sees to the row by itself. -/
lemma guarded_applied (inventoryId version : ℕ) (δ : Delta) : (balanceLedger id).Guarded
    fun ts d => { d with inventories := d.inventories.map (·.applied ts inventoryId version δ) } := by
  refine ⟨fun ts d hd => ?_, fun ts d d' heq => ?_, fun ts d hkey => ?_⟩
  · have hlen := congrArg List.length (view_applied id inventoryId version δ ts d)
    rw [List.length_map] at hlen
    exact hlen.trans hd
  · rw [view_applied, view_applied, heq]
  · refine (view_applied id inventoryId version δ ts d).trans ?_
    conv_rhs => rw [← List.map_id ((balanceLedger id).view d)]
    apply List.map_congr_left
    intro r hr
    have hr : r.id = id := by simpa [balanceLedger] using (List.mem_filter.mp hr).2
    have hkey : RowKey.inventory id ∉ ts := hkey
    simp [Inventory.applied, Inventory.locked, hr, hkey]

/-- The rows that the conditional update changes are among those with its id. -/
lemma filter_locked (ts : List RowKey) (version : ℕ) (δ : Delta) (d : Db) :
    d.inventories.filter (·.locked ts id version δ) =
      ((balanceLedger id).view d).filter (·.locked ts id version δ) := by
  simp only [balanceLedger, List.filter_filter]
  apply List.filter_congr
  intro r _
  by_cases hid : r.id = id
  · simp [hid]
  · simp [Inventory.locked, Inventory.hit, hid]

/-- The answer of `applyChange` when the update has found no row. -/
lemma keeps_refused {inventoryId version : ℕ} {Q : List Delta → ChangeStatus → Prop}
    (h : ∀ status, status ≠ .applied → Q moved status) :
    (balanceLedger id).Keeps Q F moved ((refresh inventoryId).bind fun o => match o with
      | none => .ret .missing
      | some current => .ret (if current.version ≠ version then .conflict else .insufficient)) := by
  refine Ledger.Keeps.bind (keeps_refresh fun o _ => ?_)
  cases o with
  | none => exact h _ (by simp)
  | some current =>
    refine h _ ?_
    split <;> simp

/-- The update applies the change, or the balance stays and the answer is another. -/
lemma keeps_applyChange {inventoryId version : ℕ} {δ : Delta} {Q : List Delta → ChangeStatus → Prop}
    (happlied : Q (moved ++ shareOf id [(inventoryId, δ)]) .applied)
    (hother : ∀ status, status ≠ .applied → Q moved status) :
    (balanceLedger id).Keeps Q F moved (applyChange inventoryId version δ) := by
  refine ⟨guarded_applied inventoryId version δ, fun ts d hd => ?_⟩
  obtain ⟨r, hr⟩ := List.length_eq_one_iff.mp hd
  have hrid : r.id = id := by
    have : r ∈ d.inventories.filter fun r => r.id = id := hr ▸ List.mem_singleton_self r
    simpa using (List.mem_filter.mp this).2
  have hview := view_applied id inventoryId version δ ts d
  rw [show (balanceLedger id).view d = [r] from hr] at hview
  by_cases hlock : r.locked ts inventoryId version δ
  · -- the one row of the balance is hit
    obtain rfl : inventoryId = id := by
      simp only [Inventory.locked, Inventory.hit, Bool.and_eq_true, decide_eq_true_eq] at hlock
      exact hlock.2.1.1.symm.trans hrid
    have hrows : d.inventories.filter (·.locked ts inventoryId version δ) = [r] := by
      rw [filter_locked, show (balanceLedger inventoryId).view d = [r] from hr]
      simp [hlock]
    have hlock' := hlock
    simp only [Inventory.locked, Inventory.hit, Bool.and_eq_true, decide_eq_true_eq] at hlock'
    refine .inr ⟨δ, hrid ▸ hlock'.1, ?_, ?_, ?_⟩
    · intro r' hr'
      rw [show (balanceLedger inventoryId).view d = [r] from hr, List.mem_singleton] at hr'
      exact hr' ▸ hlock'.2.2
    · rw [hview, show (balanceLedger inventoryId).view d = [r] from hr]
      simp [Inventory.applied, hlock, balanceLedger]
    · rw [shareOf_self] at happlied
      simpa [hrows, Prog.bind] using happlied
  · refine .inl ⟨?_, ?_⟩
    · rw [hview, show (balanceLedger id).view d = [r] from hr]
      simp [Inventory.applied, hlock]
    · by_cases hid : inventoryId = id
      · subst hid
        have hrows : d.inventories.filter (·.locked ts inventoryId version δ) = [] := by
          rw [filter_locked, show (balanceLedger inventoryId).view d = [r] from hr]
          simp [hlock]
        simp only [hrows]
        exact keeps_refused hother
      · rw [shareOf_of_ne hid, List.append_nil] at happlied
        dsimp only [Prog.bind]
        split
        · exact happlied
        · exact keeps_refused hother

lemma keeps_applyOnce {row : Inventory} {δ : Delta}
    {Q : List Delta → ChangeStatus × Option Inventory → Prop}
    (h : ∀ status o, (status = .applied ∨ status = .conflict → Found id row.id o) →
      Q (moved ++ shareOf id (StockTask.onceLog row δ (status, o))) (status, o)) :
    (balanceLedger id).Keeps Q F moved (applyOnce row δ) := by
  refine Ledger.Keeps.bind (keeps_applyChange ?_ fun status hne => ?_)
  · refine Ledger.Keeps.bind (keeps_refresh fun o ho => ?_)
    exact h .applied o fun _ => ho
  · cases status with
    | applied => exact absurd rfl hne
    | conflict =>
      refine Ledger.Keeps.bind (keeps_refresh fun o ho => ?_)
      simpa [StockTask.onceLog] using h .conflict o fun _ => ho
    | insufficient => simpa [StockTask.onceLog] using h .insufficient none (by simp)
    | missing => simpa [StockTask.onceLog] using h .missing none (by simp)

/-- The retries end with the change applied once, or with an error and nothing applied. -/
lemma keeps_commitLoop {note : FlowNote} {δ : Delta} {Q : List Delta → Inventory → Prop}
    {inventoryId : ℕ} (hok : ∀ r, Q (moved ++ shareOf id [(inventoryId, δ)]) r)
    (herror : ∀ e, F moved e) (tries : ℕ) {row : Inventory} (hrow : row.id = inventoryId) :
    (balanceLedger id).Keeps Q F moved (commitLoop note δ tries row) := by
  induction tries generalizing row with
  | zero => exact herror _
  | succ tries ih =>
    subst hrow
    refine Ledger.Keeps.bind (keeps_applyOnce fun status o hfound => ?_)
    cases status with
    | applied =>
      obtain ⟨-, hsome⟩ := hfound (.inl rfl)
      cases o with
      | some fresh => exact Ledger.Keeps.bind (keeps_appendFlow (hok fresh))
      | none =>
        have hne : row.id ≠ id := fun heq => by simpa using hsome heq
        rw [StockTask.onceLog, if_pos rfl, shareOf_of_ne hne, List.append_nil]
        exact herror _
    | conflict =>
      obtain ⟨hmem, -⟩ := hfound (.inr rfl)
      simp only [StockTask.onceLog, reduceCtorEq, if_false, shareOf_nil, List.append_nil]
      cases o with
      | some fresh => exact ih (hmem fresh rfl)
      | none => exact herror _
    | insufficient => simpa [StockTask.onceLog, raise] using herror _
    | missing => simpa [StockTask.onceLog, raise] using herror _

/-- A task that tells what it has applied keeps the books of every balance. -/
lemma StockTask.keeps_told (t : StockTask α) (log : List Applied) :
    (balanceLedger id).Keeps (fun δs r => δs = shareOf id r.2) (fun _ _ => True) (shareOf id log)
      (t.told log) := by
  induction t generalizing log with
  | ret a => rfl
  | fail e => trivial
  | look k ih => exact fun l d _ _ => ih l d log
  | learn f k ih => exact ⟨fun _ hl => hl, ih log⟩
  | drawId k ih => exact Ledger.Keeps.bind (keeps_nextSnowflakeId fun n _ => ih n log)
  | write t eff aside k ih =>
    refine Ledger.Keeps.write_of_same (fun ts d hd => ?_) (fun ts d => ?_) fun ts d _ => ih ts d log
    · simpa [balanceLedger, aside ts d] using hd
    · simp [balanceLedger, aside ts d]
  | create s w k ih =>
    refine Ledger.Keeps.bind (keeps_nextSnowflakeId fun n hn => ?_)
    exact Ledger.Keeps.bind (keeps_insertBalance hn fun v => ih _ v log)
  | once row δ k ih =>
    refine Ledger.Keeps.bind (keeps_applyOnce fun status o _ => ?_)
    rw [← shareOf_append]
    exact ih _ _
  | change row note δ k ih =>
    refine Ledger.Keeps.bind (Ledger.Keeps.attempt (Ledger.Keeps.bind ?_))
    refine keeps_commitLoop (fun r => ?_) (fun e => ?_) versionRetries rfl
    · simpa [changeLog] using ih (.ok r) (log ++ [(row.id, δ)])
    · simpa [changeLog] using ih (.error e) log

end keeps

/-! ### Runs -/

namespace Inventory

/-- What the checks of the table say of a balance. -/
structure Bounded (r : Inventory) : Prop where
  available : 0 ≤ r.available
  occupied : 0 ≤ r.occupied
  defective : 0 ≤ r.defective
  inTransit : 0 ≤ r.inTransit
  occupied_le : r.occupied ≤ r.available

/-- The balance after several changes. -/
def shiftAll (r : Inventory) (δs : List Delta) : Inventory := δs.foldl (fun r δ => r.shift δ) r

@[simp] lemma shiftAll_nil (r : Inventory) : r.shiftAll [] = r := rfl

@[simp] lemma shiftAll_cons (r : Inventory) (δ : Delta) (δs : List Delta) :
    r.shiftAll (δ :: δs) = (r.shift δ).shiftAll δs := rfl

lemma shiftAll_pair (r : Inventory) (δs : List Delta) : (r.shiftAll δs).pair = r.pair := by
  induction δs generalizing r with
  | nil => rfl
  | cons δ rest ih => exact ih _

lemma shiftAll_version (r : Inventory) (δs : List Delta) :
    (r.shiftAll δs).version = r.version + δs.length := by
  induction δs generalizing r with
  | nil => rfl
  | cons δ rest ih =>
    rw [shiftAll_cons, ih, shift_version, List.length_cons]
    ring

lemma shiftAll_bucket (r : Inventory) (δs : List Delta) (b : Bucket) :
    (r.shiftAll δs).bucket b = r.bucket b + Table.total (·.bucket b) δs := by
  induction δs generalizing r with
  | nil => simp
  | cons δ rest ih =>
    rw [shiftAll_cons, ih, bucket_shift, Table.total_cons]
    ring

lemma Bounded.shift {r : Inventory} {δ : Delta} (h : r.fits δ) : (r.shift δ).Bounded := by
  simp only [fits, Bool.and_eq_true, decide_eq_true_eq] at h
  exact ⟨h.1.1.1.1, h.1.1.1.2, h.1.1.2, h.1.2, h.2⟩

end Inventory

lemma addAll_balance (id : ℕ) (r : Inventory) (δs : List Delta) :
    (balanceLedger id).addAll [r] δs = [r.shiftAll δs] := by
  induction δs generalizing r with
  | nil => rfl
  | cons δ rest ih => exact ih (r.shift δ)

lemma bounded_of_fitsAll {id : ℕ} {r : Inventory} (hr : r.Bounded) {δs : List Delta}
    (h : (balanceLedger id).FitsAll [r] δs) : (r.shiftAll δs).Bounded := by
  induction δs generalizing r with
  | nil => exact hr
  | cons δ rest ih =>
    have hfit : r.fits δ := h.1 r (by simp)
    exact ih (.shift hfit) h.2

/-- What a transaction has done to the balance `id` by now: nothing unless it has committed. -/
def appliedTo {α : Type} (id : ℕ) (x : Tx Session Db RowKey ServiceError (α × List Applied)) :
    List Delta :=
  match x.point with
  | .done (.ok a) => shareOf id a.2
  | _ => []

lemma appliedTo_of_not_succeeded {α : Type} {id : ℕ}
    {x : Tx Session Db RowKey ServiceError (α × List Applied)} (h : ¬ x.Succeeded) :
    appliedTo id x = [] := by
  unfold appliedTo
  split
  · rename_i a ha
    exact absurd ⟨a, ha⟩ h
  · rfl

/-- A sum over the committed transactions, in the order of their commits or not. -/
lemma sum_of_order {ι M : Type} [Fintype ι] [DecidableEq ι] [AddCommMonoid M] {order : List ι}
    (hnodup : order.Nodup) {g : ι → M} (hg : ∀ i ∉ order, g i = 0) :
    (order.map g).sum = ∑ i, g i := by
  rw [← List.sum_toFinset g hnodup]
  apply Finset.sum_subset (Finset.subset_univ _)
  intro i _ hi
  exact hg i (by simpa using hi)

/-- Whatever transactions run at once on a balance and however far they have come: it is the
balance at the start and what the committed ones have applied, it is within its bounds, and its
version counts the changes. A refused change and a transaction that failed have no share in it. -/
theorem balance_of_run {ι α : Type} [Fintype ι] [DecidableEq ι] (task : ι → StockTask α)
    (session : ι → Session) {d₀ : Db} (hd : Shelf d₀.inventories) {r₀ : Inventory}
    (hr : r₀ ∈ d₀.inventories) (hids : ∀ i n, (session i).ids n ≠ r₀.id) (sched : List ι) :
    let w := (World.mk d₀ fun i => Tx.start (task i).run (session i)).run sched
    let told := (World.mk d₀ fun i => Tx.start ((task i).told []) (session i)).run sched
    w = told.map Prod.fst ∧
      ∃ r, w.committed.inventories.filter (fun r => r.id = r₀.id) = [r] ∧ r.pair = r₀.pair ∧
        r.Bounded ∧ r.version = r₀.version + ∑ i, (appliedTo r₀.id (told.tx i)).length ∧
        ∀ b, r.bucket b =
          r₀.bucket b + ∑ i, Table.total (·.bucket b) (appliedTo r₀.id (told.tx i)) := by
  intro w told
  have hw : w = told.map Prod.fst := by
    rw [← World.run_map]
    simp only [w, World.map, Tx.map_start, StockTask.map_told]
  refine ⟨hw, ?_⟩
  have hbounded : r₀.Bounded := by
    have hocc := hd.occupied_nonneg r₀ hr
    have hle := hd.occupied_le r₀ hr
    exact ⟨hocc.trans hle, hocc, hd.defective_nonneg r₀ hr, hd.inTransit_nonneg r₀ hr, hle⟩
  have hview : (balanceLedger r₀.id).view d₀ = [r₀] :=
    hd.ids.filter_eq_singleton hr (by simp) fun t _ ht => by simpa using ht
  have hwf : (balanceLedger r₀.id).wf d₀ := congrArg List.length hview
  obtain ⟨δs, order, hsound⟩ := World.ledger (balanceLedger r₀.id) hwf hids
    (fun i => (task i).keeps_told []) sched
  have hδs : ∀ i ∈ order, δs i = appliedTo r₀.id (told.tx i) := by
    intro i hi
    obtain ⟨a, ha⟩ := (hsound.succeeded i).mp hi
    have hpoint := (hsound.mine i).point
    rw [ha] at hpoint
    simp only [appliedTo, told, ha]
    exact hpoint
  have hnone : ∀ i ∉ order, appliedTo r₀.id (told.tx i) = [] := fun i hi =>
    appliedTo_of_not_succeeded fun hs => hi ((hsound.succeeded i).mpr hs)
  have hflat : order.flatMap δs = order.flatMap fun i => appliedTo r₀.id (told.tx i) :=
    List.flatMap_congr hδs
  have hend := hsound.view
  have hfits := hsound.fits
  rw [hview, hflat] at hfits
  rw [hview, hflat, addAll_balance] at hend
  have hsame : w.committed = told.committed := congrArg World.committed hw
  refine ⟨_, hsame ▸ hend, Inventory.shiftAll_pair _ _, bounded_of_fitsAll hbounded hfits, ?_, fun b => ?_⟩
  · rw [Inventory.shiftAll_version, List.length_flatMap,
      sum_of_order hsound.nodup fun i hi => by rw [hnone i hi, List.length_nil]]
  · rw [Inventory.shiftAll_bucket, ← sum_of_order hsound.nodup
      fun i hi => by rw [hnone i hi, Table.total_nil]]
    rw [Table.total_flatMap]

/-- A balance with five pieces. -/
def fivePieces : Inventory := { id := 1, skuId := 2, warehouseId := 3, available := 5 }

/-- Take three pieces from the balance that is found first. -/
def takeThree : StockTask Unit :=
  .look fun _ d => match d.inventories with
    | [] => .fail .notFound
    | row :: _ => .change row ⟨.outbound, 3, .available, "ADJUST", none⟩ { available := -3 } fun r =>
        match r with
        | .ok _ => .ret ()
        | .error e => .fail e

/-- Two transactions that both read five pieces and want three. -/
theorem balance_of_run_fivePieces :
    ∃ r, ((World.mk { inventories := [fivePieces] } fun _ : Bool =>
        Tx.start takeThree.run { ids := fun n => 100 + n }).run
          (List.replicate 12 [true, false]).flatten).committed.inventories.filter
            (fun r => r.id = 1) = [r] ∧ r.Bounded := by
  have hshelf : Shelf ({ inventories := [fivePieces] } : Db).inventories := by
    refine ⟨?_, ?_, ?_, ?_, ?_, ?_⟩
    iterate 6 decide
  obtain ⟨-, r, hr, -, hbounded, -⟩ := balance_of_run (fun _ : Bool => takeThree)
    (fun _ => { ids := fun n => 100 + n }) hshelf
    (List.mem_singleton_self fivePieces)
    (fun _ n => by simp only [fivePieces]; omega) (List.replicate 12 [true, false]).flatten
  exact ⟨r, hr, hbounded⟩

end CrossPilot
