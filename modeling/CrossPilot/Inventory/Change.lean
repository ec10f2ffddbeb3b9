import CrossPilot.Inventory.Allocation

/-!
# Changing a balance

`applyChange` is the one statement that moves a balance: an update guarded by the version the
caller has seen and by the balance staying within its bounds. `commitChange` repeats it when
somebody else was faster, `draw` plans a quantity over the warehouses of a SKU and takes what it
can get. A caller works with the balances of its session, which may be out of date; for a
transaction that runs alone, one refusal brings the balance up to date and the second try decides.
-/

namespace CrossPilot

open Transaction Table

/-- What a change adds to a balance. -/
structure Delta where
  available : ℤ := 0
  occupied : ℤ := 0
  defective : ℤ := 0
  inTransit : ℤ := 0

/-- The part of a balance that a ledger line speaks of. -/
inductive Bucket
  | available | occupied | defective | inTransit
  deriving DecidableEq

/-- What the caller tells the ledger about a change. -/
structure FlowNote where
  flowType : FlowType
  quantity : ℤ
  bucket : Bucket
  refType : String
  refId : Option ℕ

/-- What became of an optimistic update. -/
inductive ChangeStatus
  | applied | conflict | insufficient | missing
  deriving DecidableEq

namespace Inventory

def bucket (r : Inventory) : Bucket → ℤ
  | .available => r.available
  | .occupied => r.occupied
  | .defective => r.defective
  | .inTransit => r.inTransit

/-- The balance after a change. -/
def shift (δ : Delta) (r : Inventory) : Inventory :=
  { r with
    available := r.available + δ.available
    occupied := r.occupied + δ.occupied
    defective := r.defective + δ.defective
    inTransit := r.inTransit + δ.inTransit
    version := r.version + 1 }

/-- The balance stays within its bounds. -/
def fits (δ : Delta) (r : Inventory) : Bool :=
  0 ≤ r.available + δ.available && 0 ≤ r.occupied + δ.occupied &&
    0 ≤ r.defective + δ.defective && 0 ≤ r.inTransit + δ.inTransit &&
    r.occupied + δ.occupied ≤ r.available + δ.available

/-- The row that the update of `applyChange` is after. -/
def hit (inventoryId version : ℕ) (δ : Delta) (r : Inventory) : Bool :=
  r.id = inventoryId && r.version = version && r.fits δ

/-- The row is a target of the update and still what it is after, once the row is locked. -/
def locked (ts : List RowKey) (inventoryId version : ℕ) (δ : Delta) (r : Inventory) : Bool :=
  RowKey.inventory r.id ∈ ts && r.hit inventoryId version δ

/-- The row after the update. -/
def applied (ts : List RowKey) (inventoryId version : ℕ) (δ : Delta) (r : Inventory) : Inventory :=
  if r.locked ts inventoryId version δ then r.shift δ else r

/-- The SKU and the warehouse of a balance. -/
def pair (r : Inventory) : ℕ × ℕ := (r.skuId, r.warehouseId)

@[simp] lemma shift_id (δ : Delta) (r : Inventory) : (r.shift δ).id = r.id := rfl
@[simp] lemma shift_pair (δ : Delta) (r : Inventory) : (r.shift δ).pair = r.pair := rfl
@[simp] lemma shift_skuId (δ : Delta) (r : Inventory) : (r.shift δ).skuId = r.skuId := rfl
@[simp] lemma shift_warehouseId (δ : Delta) (r : Inventory) :
    (r.shift δ).warehouseId = r.warehouseId := rfl
@[simp] lemma shift_version (δ : Delta) (r : Inventory) : (r.shift δ).version = r.version + 1 := rfl

end Inventory

/-! ### The statements -/

/-- The identity map takes over what was just read. -/
def Session.put (row : Inventory) (l : Session) : Session :=
  { l with seen := row :: l.seen.filter fun r => r.id ≠ row.id }

/-- The object that the session has for a row: the one it holds, or the row itself. -/
def present (row : Inventory) : Work Inventory := do
  match ← .query fun l _ => l.seen.find? fun r => r.id = row.id with
  | some held => return held
  | none =>
    .remember fun l => { l with seen := row :: l.seen }
    return row

/-- Read a balance again. -/
def refresh (inventoryId : ℕ) : Work (Option Inventory) := do
  match ← .select fun d => d.inventories.find? fun r => r.id = inventoryId with
  | none => return none
  | some row =>
    .remember fun l => l.put row
    return some row

/-- The balance of a SKU in a warehouse. -/
def getPair (skuId warehouseId : ℕ) : Work (Option Inventory) := do
  match ← .select fun d => d.inventories.find? fun r => r.pair = (skuId, warehouseId) with
  | none => return none
  | some row => return some (← present row)

/-- The guarded update. -/
def applyChange (inventoryId version : ℕ) (δ : Delta) : Work ChangeStatus := do
  let rowcount ← .update
    (fun d => (d.inventories.filter (·.hit inventoryId version δ)).map (.inventory ·.id))
    (fun ts d => { d with inventories := d.inventories.map (·.applied ts inventoryId version δ) })
    (fun ts d => (d.inventories.filter (·.locked ts inventoryId version δ)).length)
  if rowcount = 1 then
    return .applied
  else
    match ← refresh inventoryId with
    | none => return .missing
    | some current => return if current.version ≠ version then .conflict else .insufficient

/-- `applyChange` with the balance as it is afterwards. -/
def applyOnce (row : Inventory) (δ : Delta) : Work (ChangeStatus × Option Inventory) := do
  match ← applyChange row.id row.version δ with
  | .applied => return (.applied, ← refresh row.id)
  | .conflict => return (.conflict, ← refresh row.id)
  | status => return (status, none)

/-- The ledger line of a change of `row`. -/
def FlowNote.line (note : FlowNote) (row : Inventory) (beforeQty afterQty : ℤ) : InventoryFlow where
  inventoryId := row.id
  skuId := row.skuId
  warehouseId := row.warehouseId
  flowType := note.flowType
  quantity := note.quantity
  refType := note.refType
  refId := note.refId
  beforeQty := beforeQty
  afterQty := afterQty

def appendFlow (row : Inventory) (note : FlowNote) (beforeQty afterQty : ℤ) : Work Unit :=
  .insert fun d => { d with flows := d.flows ++ [note.line row beforeQty afterQty] }

def versionRetries : ℕ := 5

/-- The loop of `commitChange`. -/
def commitLoop (note : FlowNote) (δ : Delta) : ℕ → Inventory → Work Inventory
  | 0, _ => raise .inventoryConflict
  | tries + 1, current => do
    let beforeQty := current.bucket note.bucket
    match ← applyOnce current δ with
    | (.applied, some fresh) =>
      appendFlow fresh note beforeQty (fresh.bucket note.bucket)
      return fresh
    | (.conflict, some fresh) => commitLoop note δ tries fresh
    | (.insufficient, _) => raise .inventoryInsufficient
    | _ => raise (.notFound "库存不存在")

/-- Change a balance and note it in the ledger, or raise. -/
def commitChange (row : Inventory) (note : FlowNote) (δ : Delta) : Work Inventory :=
  commitLoop note δ versionRetries row

/-- Whether a draw reserves goods or takes them out at once. -/
inductive DrawMode
  | reserve | outbound
  deriving DecidableEq

namespace DrawMode

def delta (mode : DrawMode) (quantity : ℤ) : Delta :=
  match mode with
  | reserve => { occupied := quantity }
  | outbound => { available := -quantity }

def flowType : DrawMode → FlowType
  | reserve => .reserve
  | outbound => .ship

def bucket : DrawMode → Bucket
  | reserve => .occupied
  | outbound => .available

end DrawMode

/-- The balances of a SKU with their warehouses. -/
def listForSku (skuId : ℕ) : Work (List (Inventory × Warehouse)) := do
  let pairs ← .select fun d =>
    ((d.inventories.filter fun r => r.skuId = skuId).filterMap fun r =>
      (d.warehouses.find? fun w => w.id = r.warehouseId ∧ w.deleted = false).map (r, ·)).insertionSort
        fun a b => (!b.2.isDefault && a.2.isDefault) ||
          (a.2.isDefault == b.2.isDefault && a.2.id ≤ b.2.id)
  presentAll pairs
where
  presentAll : List (Inventory × Warehouse) → Work (List (Inventory × Warehouse))
    | [] => return []
    | (row, warehouse) :: rest => do
      let held ← present row
      return (held, warehouse) :: (← presentAll rest)

def binView (p : Inventory × Warehouse) : BinView where
  warehouseId := p.1.warehouseId
  available := p.1.available
  occupied := p.1.occupied
  isDefault := p.2.isDefault
  warehouseType := p.2.warehouseType

/-- Where a draw stands: what it has taken, what is left, and whether it met a conflict. -/
structure DrawState where
  taken : List Allocation
  left : ℤ
  conflict : Bool := false

/-- Take what was planned, up to the first refusal. -/
def takePlanned (mode : DrawMode) (refType : String) (refId : ℕ)
    (pairs : List (Inventory × Warehouse)) : List Allocation → DrawState → Work DrawState
  | [], state => return state
  | alloc :: rest, state => do
    let (row, _) ← orRaise (.value "StopIteration")
      (pairs.find? fun p => p.1.warehouseId = alloc.warehouseId)
    match ← applyOnce row (mode.delta alloc.quantity) with
    | (.applied, some fresh) =>
      -- the session has one object for the row, so `row` is refreshed by now as well
      appendFlow fresh ⟨mode.flowType, alloc.quantity, mode.bucket, refType, some refId⟩
        (fresh.bucket mode.bucket) (fresh.bucket mode.bucket)
      takePlanned mode refType refId pairs rest
        { state with taken := state.taken ++ [alloc], left := state.left - alloc.quantity }
    | _ => return { state with conflict := true }

/-- The rounds of `draw`. -/
def drawLoop (skuId : ℕ) (mode : DrawMode) (refType : String) (refId : ℕ) :
    ℕ → DrawState → Work DrawState
  | 0, state => return state
  | rounds + 1, state => do
    if state.left = 0 then return state
    let pairs ← listForSku skuId
    match planAllocations (pairs.map binView) state.left with
    | .error e => raise e
    | .ok (planned, _) =>
      if planned.isEmpty then return state
      let state ← takePlanned mode refType refId pairs planned { state with conflict := false }
      if state.conflict then drawLoop skuId mode refType refId rounds state else return state

/-- Plan a quantity over the warehouses of a SKU and take it. Returns what was taken and what is
left. -/
def draw (skuId : ℕ) (quantity : ℤ) (mode : DrawMode) (refType : String) (refId : ℕ) :
    Work (List Allocation × ℤ) := do
  let state ← drawLoop skuId mode refType refId versionRetries { taken := [], left := quantity }
  return (state.taken, state.left)

end CrossPilot
