import CrossPilot.Inventory.Concurrent
import CrossPilot.Inventory.Rules

/-!
# The stock service as tasks

Every call of the stock service that moves goods is a task in the sense of
`Inventory.Concurrent`: it changes balances by `applyChange` only (`StockCall.exists_task`).
-/

namespace CrossPilot

open Transaction

variable {α β : Type}

/-- One task after the other. -/
def StockTask.bind : StockTask α → (α → StockTask β) → StockTask β
  | ret a, f => f a
  | fail e, _ => fail e
  | look k, f => look fun l d => (k l d).bind f
  | learn g k, f => learn g (k.bind f)
  | drawId k, f => drawId fun id => (k id).bind f
  | write t eff aside k, f => write t eff aside fun ts d => (k ts d).bind f
  | create s w k, f => create s w fun row v => (k row v).bind f
  | once row δ k, f => once row δ fun r => (k r).bind f
  | change row note δ k, f => change row note δ fun r => (k r).bind f

lemma StockTask.run_bind (t : StockTask α) (f : α → StockTask β) :
    (t.bind f).run = t.run.bind fun a => (f a).run := by
  induction t with
  | ret a => rfl
  | fail e => rfl
  | look k ih => exact congrArg Prog.read (funext fun l => funext fun d => ih l d)
  | learn g k ih => exact congrArg (Prog.keep _) ih
  | drawId k ih =>
    rw [bind, run, run, Prog.bind_assoc]
    exact congrArg _ (funext fun id => ih id)
  | write t eff aside k ih =>
    exact congrArg (Prog.write t eff) (funext fun ts => funext fun d => ih ts d)
  | create s w k ih =>
    rw [bind, run, run, Prog.bind_assoc]
    refine congrArg _ (funext fun id => ?_)
    rw [Prog.bind_assoc]
    exact congrArg _ (funext fun v => ih _ v)
  | once row δ k ih =>
    rw [bind, run, run, Prog.bind_assoc]
    exact congrArg _ (funext fun r => ih r)
  | change row note δ k ih =>
    rw [bind, run, run, Prog.bind_assoc]
    exact congrArg _ (funext fun r => ih r)

/-- The program is that of a task. -/
def IsTask (p : Work α) : Prop := ∃ t : StockTask α, t.run = p

namespace IsTask

lemma ret (a : α) : IsTask (.ret a : Work α) := ⟨.ret a, rfl⟩

lemma fail (e : ServiceError) : IsTask (.fail e : Work α) := ⟨.fail e, rfl⟩

lemma bind {p : Work α} {f : α → Work β} (hp : IsTask p) (hf : ∀ a, IsTask (f a)) :
    IsTask (p.bind f) := by
  obtain ⟨t, rfl⟩ := hp
  choose g hg using hf
  refine ⟨t.bind g, ?_⟩
  rw [StockTask.run_bind]
  exact congrArg _ (funext hg)

lemma select (f : Db → α) : IsTask (.select f : Work α) := ⟨.look fun _ d => .ret (f d), rfl⟩

lemma query (f : Session → Db → α) : IsTask (.query f : Work α) :=
  ⟨.look fun l d => .ret (f l d), rfl⟩

lemma learn (f : List Inventory → List Inventory) :
    IsTask (.remember fun l => { l with seen := f l.seen } : Work Unit) :=
  ⟨.learn f (.ret ()), rfl⟩

lemma nextSnowflakeId : IsTask nextSnowflakeId := ⟨.drawId .ret, Prog.bind_ret _⟩

/-- A statement on other tables. -/
lemma update {t : Db → List RowKey} {eff : List RowKey → Db → Db} {r : List RowKey → Db → α}
    (h : ∀ ts d, (eff ts d).inventories = d.inventories) : IsTask (.update t eff r : Work α) :=
  ⟨.write t eff h fun ts d => .ret (r ts d), rfl⟩

lemma insert {eff : Db → Db} (h : ∀ d, (eff d).inventories = d.inventories) :
    IsTask (.insert eff : Work Unit) := update fun _ d => h d

lemma applyOnce (row : Inventory) (δ : Delta) : IsTask (applyOnce row δ) :=
  ⟨.once row δ .ret, Prog.bind_ret _⟩

lemma commitChange (row : Inventory) (note : FlowNote) (δ : Delta) :
    IsTask (commitChange row note δ) := by
  refine ⟨.change row note δ fun r => r.casesOn .fail .ret, ?_⟩
  conv_rhs => rw [← Prog.tried_bind (CrossPilot.commitChange row note δ)]
  refine congrArg _ (funext fun r => ?_)
  cases r <;> rfl

lemma ite {c : Prop} [Decidable c] {p q : Work α} (hp : IsTask p) (hq : IsTask q) :
    IsTask (if c then p else q) := by
  split
  · exact hp
  · exact hq

lemma orRaise (e : ServiceError) (o : Option α) : IsTask (orRaise e o) := by
  cases o with
  | none => exact fail e
  | some a => exact ret a

end IsTask

/-! ### Looking things up -/

lemma isTask_getSku (skuId : ℕ) : IsTask (getSku skuId) :=
  (IsTask.select _).bind fun _ => .orRaise _ _

lemma isTask_getWarehouse (warehouseId : ℕ) : IsTask (getWarehouse warehouseId) :=
  (IsTask.select _).bind fun _ => .orRaise _ _

lemma isTask_present (row : Inventory) : IsTask (present row) := by
  refine (IsTask.query _).bind fun o => ?_
  cases o with
  | none => exact (IsTask.learn fun seen => row :: seen).bind fun _ => .ret _
  | some held => exact .ret held

lemma isTask_getPair (skuId warehouseId : ℕ) : IsTask (getPair skuId warehouseId) := by
  refine (IsTask.select _).bind fun o => ?_
  cases o with
  | none => exact .ret _
  | some row => exact (isTask_present row).bind fun _ => .ret _

lemma isTask_ensure (skuId warehouseId : ℕ) : IsTask (ensure skuId warehouseId) := by
  refine (isTask_getSku _).bind fun _ => (isTask_getWarehouse _).bind fun _ =>
    (isTask_getPair _ _).bind fun o => ?_
  cases o with
  | some found => exact .ret found
  | none =>
    have hafter : ∀ (row : Inventory) (violated : Bool), IsTask (if violated then do
        orRaise (.integrity "uq_inventory_sku_warehouse") (← getPair skuId warehouseId)
      else do
        .remember fun l => l.put row
        return row) := by
      intro row violated
      refine .ite ((isTask_getPair _ _).bind fun _ => .orRaise _ _) ?_
      exact (IsTask.learn fun seen => row :: seen.filter fun r => r.id ≠ row.id).bind fun _ => .ret _
    choose t ht using hafter
    refine ⟨.create skuId warehouseId t, ?_⟩
    refine congrArg _ (funext fun id => ?_)
    exact congrArg _ (funext fun v => ht _ v)

/-! ### The calls -/

/-- Tasks keep to the rules of the stock service. -/
theorem stockRules_isTask : StockRules fun _ _ p => IsTask p where
  ret := .ret
  fail := .fail
  bind := .bind
  select := .select
  rows := by
    intro K α β f seen k _ h
    exact (IsTask.select f).bind h
  present _ h := (isTask_present _).bind h
  nextSnowflakeId := .nextSnowflakeId
  aside h := .update fun ts d => (h ts d).1
  ensure h := (isTask_ensure _ _).bind h
  change _ _ h := (IsTask.commitChange _ _ _).bind h
  take := by
    intro K α row mode quantity refType refId k _ happlied hother
    refine (IsTask.applyOnce _ _).bind fun r => ?_
    obtain ⟨status, o⟩ := r
    cases o with
    | none => exact hother status none fun _ => rfl
    | some fresh =>
      by_cases hs : status = .applied
      · subst hs
        obtain ⟨k', hk, h⟩ := happlied fresh
        rw [hk]
        exact (IsTask.insert fun _ => by rfl).bind h
      · exact hother status (some fresh) fun h => absurd h hs

/-- Every call of the stock service but the one that sets the safety stock is a task. -/
theorem StockCall.exists_task (call : StockCall)
    (h : ∀ inventoryId safeStock, call ≠ .setSafeStock inventoryId safeStock) :
    ∃ t : StockTask Unit, t.run = call.work :=
  stockRules_isTask.work (K := []) call h

end CrossPilot
