import CrossPilot.Inventory.Engine

/-!
# Goods on hand in the reports

Turnover and dead stock are reported for the goods on hand, which `physicalRows` takes to be the
available goods and the reserved ones. The reserved ones are among the available ones, so they are
counted twice: a reservation adds to the goods on hand, and a shipment takes from them two times
(`physicalRows_accounted_iff`). Goods that are not reserved are accounted for.
-/

namespace CrossPilot

open Transaction Table

/-- A line of the report. -/
structure PhysicalRow where
  skuId : ℕ
  warehouseId : ℕ
  onHand : ℤ
  purchasePrice : Option ℚ
  currency : Option String
  deriving DecidableEq

/-- The line of a balance, if its SKU and its warehouse are still there. -/
def physicalRow (d : Db) (r : Inventory) : Option PhysicalRow := do
  let sku ← d.skus.find? fun s => s.id = r.skuId ∧ s.deleted = false
  let _ ← d.warehouses.find? fun w => w.id = r.warehouseId ∧ w.deleted = false
  return ⟨r.skuId, r.warehouseId, r.available + r.occupied, sku.purchasePrice, sku.currency⟩

def physicalRows (d : Db) : List PhysicalRow := d.inventories.filterMap (physicalRow d)

/-- An operation on goods, as callers ask for it. -/
structure StockCallFor where
  verb : StockVerb
  quantity : ℕ
  seenVersion : ℤ

namespace StockCallFor

def op (c : StockCallFor) : StockOp := .call c.verb c.quantity c.seenVersion

/-- How many goods come or go with the operation. -/
def goods (c : StockCallFor) : ℤ :=
  match c.verb with
  | .reserve | .release => 0
  | .ship | .outbound => -c.quantity
  | .inbound => c.quantity

end StockCallFor

/-- One operation of a run and the balance it finds. -/
structure StockStep where
  before : Inventory
  call : StockCallFor

namespace StockStep

variable (x : StockStep)

def after : Inventory := balanceAfter x.before (x.call.op.engine x.before)

/-- The goods that have come or gone: none if the operation was refused. -/
def moved : ℤ :=
  if (x.call.op.engine x.before).map Prod.fst = .ok .applied then x.call.goods else 0

/-- The report follows the goods. -/
def Accounted (d : Db) : Prop :=
  (physicalRow d x.after).map PhysicalRow.onHand =
    (physicalRow d x.before).map fun row => row.onHand + x.moved

/-- The reserved quantity is left alone: goods that nobody has reserved come or go, or the quantity is
zero, or the operation is refused. -/
def SparesHolds : Prop :=
  x.call.verb = .inbound ∨ x.call.verb = .outbound ∨ x.call.quantity = 0 ∨
    ¬ (x.call.seenVersion = x.before.version ∧ x.before.fits (x.call.verb.delta x.call.quantity))

end StockStep

/-- The operations of a run, each with the balance it finds. -/
def stockSteps : List StockCallFor → Inventory → List StockStep
  | [], _ => []
  | c :: rest, r => ⟨r, c⟩ :: stockSteps rest (StockStep.after ⟨r, c⟩)

variable {r : Inventory} {d : Db}

lemma StockStep.engine_eq {x : StockStep} (h : x.before.Valid) : x.call.op.engine x.before =
    .ok (x.before.decided x.call.seenVersion (x.call.verb.delta x.call.quantity)) :=
  StockOp.engine_eq h x.call.op

/-- What an operation does to a balance: nothing, or its change. -/
lemma StockStep.cases {x : StockStep} (h : x.before.Valid) :
    ((x.call.seenVersion = x.before.version ∧
        x.before.fits (x.call.verb.delta x.call.quantity)) ∧
      x.after = x.before.shift (x.call.verb.delta x.call.quantity) ∧ x.moved = x.call.goods) ∨
    (¬ (x.call.seenVersion = x.before.version ∧
        x.before.fits (x.call.verb.delta x.call.quantity)) ∧
      x.after = x.before ∧ x.moved = 0) := by
  have hengine := StockStep.engine_eq h
  rw [StockStep.after, StockStep.moved, hengine, Inventory.decided]
  by_cases hseen : x.call.seenVersion = x.before.version
  · by_cases hfits : x.before.fits (x.call.verb.delta x.call.quantity) = true
    · simp [hseen, hfits, balanceAfter, Except.map]
    · simp [hseen, hfits, balanceAfter, Except.map]
  · simp [hseen, balanceAfter, Except.map]

lemma StockStep.after_valid {x : StockStep} (h : x.before.Valid) : x.after.Valid :=
  h.balanceAfter x.call.op

/-- The goods are the available ones: they come and go as the operations say. -/
lemma StockStep.available_after {x : StockStep} (h : x.before.Valid) :
    x.after.available = x.before.available + x.moved := by
  rcases StockStep.cases h with ⟨-, hafter, hmoved⟩ | ⟨-, hafter, hmoved⟩
  · rw [hafter, hmoved]
    simp only [Inventory.shift, StockCallFor.goods]
    cases x.call.verb <;> simp [StockVerb.delta]
  · rw [hafter, hmoved, add_zero]

/-- The reserved quantity changes with reservations, and only with them. -/
lemma StockStep.occupied_after_iff {x : StockStep} (h : x.before.Valid) :
    x.after.occupied = x.before.occupied ↔ x.SparesHolds := by
  unfold StockStep.SparesHolds
  rcases StockStep.cases h with ⟨happlied, hafter, -⟩ | ⟨hrefused, hafter, -⟩
  · rw [hafter]
    simp only [Inventory.shift, happlied]
    cases x.call.verb <;> simp [StockVerb.delta]
  · simp [hafter, hrefused]

lemma StockStep.pair_after {x : StockStep} (h : x.before.Valid) : x.after.pair = x.before.pair := by
  rcases StockStep.cases h with ⟨-, hafter, -⟩ | ⟨-, hafter, -⟩ <;> rw [hafter]
  rfl

/-- The report has a line for a balance whatever its quantities are. -/
lemma physicalRow_map (d : Db) {r r' : Inventory} (hpair : r'.pair = r.pair) :
    (physicalRow d r').map PhysicalRow.onHand =
      (physicalRow d r).map fun _ => r'.available + r'.occupied := by
  obtain ⟨hsku, hwarehouse⟩ := Prod.mk.inj hpair
  unfold physicalRow
  rw [hsku, hwarehouse]
  cases d.skus.find? fun s => s.id = r.skuId ∧ s.deleted = false with
  | none => rfl
  | some sku =>
    cases d.warehouses.find? fun w => w.id = r.warehouseId ∧ w.deleted = false <;> rfl

/-- The line of a balance is the one that the report has for its SKU and warehouse. -/
lemma find?_physicalRows (hs : Shelf d.inventories) (hr : r ∈ d.inventories) :
    (physicalRows d).find? (fun line => (line.skuId, line.warehouseId) = r.pair) =
      physicalRow d r := by
  have hpair : ∀ {s line}, physicalRow d s = some line →
      (line.skuId, line.warehouseId) = s.pair := by
    intro s line hline
    unfold physicalRow at hline
    simp only [Option.bind_eq_bind, Option.bind_eq_some_iff, Option.pure_def,
      Option.some_inj] at hline
    obtain ⟨sku, -, warehouse, -, rfl⟩ := hline
    rfl
  cases hline : physicalRow d r with
  | none =>
    rw [List.find?_eq_none]
    intro line hmem
    obtain ⟨s, hs', hfound⟩ := List.mem_filterMap.1 hmem
    rw [decide_eq_true_eq, hpair hfound]
    intro hsame
    rw [hs.pairs.eq_of_key_eq hs' hr hsame, hline] at hfound
    cases hfound
  | some line =>
    have hmem : line ∈ physicalRows d := List.mem_filterMap.2 ⟨r, hr, hline⟩
    obtain ⟨found, hfind⟩ := Option.isSome_iff_exists.1
      (List.find?_isSome (p := fun line => (line.skuId, line.warehouseId) = r.pair).2
        ⟨line, hmem, by simp [hpair hline]⟩)
    have hkey := List.find?_some hfind
    obtain ⟨s, hs', hfound⟩ := List.mem_filterMap.1 (List.mem_of_find?_eq_some hfind)
    rw [decide_eq_true_eq, hpair hfound] at hkey
    rw [hs.pairs.eq_of_key_eq hs' hr hkey, hline] at hfound
    rw [hfind, hfound]

lemma StockStep.accounted_iff {x : StockStep} (h : x.before.Valid)
    (hreported : (physicalRow d x.before).isSome) : x.Accounted d ↔ x.SparesHolds := by
  obtain ⟨row, hrow⟩ := Option.isSome_iff_exists.1 hreported
  have honHand : row.onHand = x.before.available + x.before.occupied := by
    have hself := physicalRow_map d (rfl : x.before.pair = x.before.pair)
    simpa [hrow] using hself
  rw [StockStep.Accounted, physicalRow_map d (StockStep.pair_after h), hrow, Option.map_some,
    Option.map_some, Option.some_inj, honHand, StockStep.available_after h,
    ← StockStep.occupied_after_iff h]
  omega

/-- In a run on a reported balance, the goods on hand of the report come and go with the goods exactly
as long as no reserved quantity is changed. -/
theorem physicalRows_accounted_iff (d : Db) (r : Inventory) (h : r.Valid)
    (hreported : (physicalRow d r).isSome) (calls : List StockCallFor) :
    (∀ x ∈ stockSteps calls r, x.Accounted d) ↔ ∀ x ∈ stockSteps calls r, x.SparesHolds := by
  induction calls generalizing r with
  | nil => simp [stockSteps]
  | cons c rest ih =>
    have hpair : (StockStep.after ⟨r, c⟩).pair = r.pair := StockStep.pair_after h
    have hnext : (physicalRow d (StockStep.after ⟨r, c⟩)).isSome := by
      have hmap := physicalRow_map d hpair
      rw [← Option.isSome_map, hmap, Option.isSome_map]
      exact hreported
    simp only [stockSteps, List.forall_mem_cons]
    rw [StockStep.accounted_iff h hreported, ih _ (StockStep.after_valid h) hnext]

/-- A SKU with five pieces in a warehouse. -/
private def fiveOnShelf : Inventory := { id := 1, skuId := 1, warehouseId := 1, available := 5 }

private def oneShelf : Db :=
  { warehouses := [{ id := 1 }], inventories := [fiveOnShelf], skus := [{ id := 1 }] }

/-- Three pieces come in, two go out. -/
theorem physicalRows_accounted_inbound :
    (∀ x ∈ stockSteps [⟨.inbound, 3, 0⟩, ⟨.outbound, 2, 1⟩] fiveOnShelf, x.Accounted oneShelf) ↔
      ∀ x ∈ stockSteps [⟨.inbound, 3, 0⟩, ⟨.outbound, 2, 1⟩] fiveOnShelf, x.SparesHolds :=
  physicalRows_accounted_iff oneShelf fiveOnShelf ⟨by decide, by decide, by decide, by decide⟩
    (by decide) _

/-- Two of five pieces are reserved, and the report has seven. -/
theorem reservation_adds_to_report : ¬ ∀ (d : Db) (r : Inventory) (calls : List StockCallFor),
    r.Valid → (physicalRow d r).isSome → ∀ x ∈ stockSteps calls r, x.Accounted d := by
  intro h
  have haccounted := h oneShelf fiveOnShelf [⟨.reserve, 2, 0⟩]
    ⟨by decide, by decide, by decide, by decide⟩ (by decide) ⟨fiveOnShelf, ⟨.reserve, 2, 0⟩⟩
    (by simp [stockSteps])
  have hseven : (some 7 : Option ℤ) = some 5 := haccounted
  exact absurd hseven (by decide)

end CrossPilot
