import CrossPilot.Inventory.Balance
import CrossPilot.Inventory.Service

/-!
# The stock engine and the guarded update

The engine decides about a balance in memory, one function for each operation with a condition of its
own; the database decides by one update, guarded by the version and by all bounds at once
(`Inventory.Change`). On balances that the table allows they decide alike, as long as the numbers fit
the columns, which have 32 bits.
-/

namespace CrossPilot

open Transaction Table

/-! ### The engine -/

inductive StockOutcome
  | applied | insufficient | conflict
  deriving DecidableEq

/-- Goods on hand, the reserved ones among them, and the version that the lock looks at. -/
structure StockLevel where
  available : ℤ
  occupied : ℤ
  version : ℕ
  deriving DecidableEq

/-- What the five functions have in common: a negative quantity is an error of the caller, a version
that is out of date a conflict, and the quantity may be too large. -/
def tryChange (message : String) (short : Bool) (changed level : StockLevel) (quantity seenVersion : ℤ) :
    Except ServiceError (StockOutcome × StockLevel) :=
  if quantity < 0 then .error (.value message)
  else if level.version ≠ seenVersion then .ok (.conflict, level)
  else if short then .ok (.insufficient, level)
  else .ok (.applied, { changed with version := level.version + 1 })

def tryReserve (level : StockLevel) (quantity : ℤ) :
    ℤ → Except ServiceError (StockOutcome × StockLevel) :=
  tryChange "预占数量不能为负" (freeQty level.available level.occupied < quantity)
    { level with occupied := level.occupied + quantity } level quantity

def tryRelease (level : StockLevel) (quantity : ℤ) :
    ℤ → Except ServiceError (StockOutcome × StockLevel) :=
  tryChange "释放数量不能为负" (level.occupied < quantity)
    { level with occupied := level.occupied - quantity } level quantity

def tryShip (level : StockLevel) (quantity : ℤ) :
    ℤ → Except ServiceError (StockOutcome × StockLevel) :=
  tryChange "出库数量不能为负" (level.occupied < quantity || level.available < quantity)
    { level with available := level.available - quantity, occupied := level.occupied - quantity }
    level quantity

def tryOutbound (level : StockLevel) (quantity : ℤ) :
    ℤ → Except ServiceError (StockOutcome × StockLevel) :=
  tryChange "出库数量不能为负" (freeQty level.available level.occupied < quantity)
    { level with available := level.available - quantity } level quantity

def tryInbound (level : StockLevel) (quantity : ℤ) :
    ℤ → Except ServiceError (StockOutcome × StockLevel) :=
  tryChange "入库数量不能为负" false { level with available := level.available + quantity } level quantity

/-- Apply one leg of a transfer to a bin, or stop at the old numbers. -/
def applyBin (available occupied inTransit : ℤ) (move : StockMove) : StockOutcome × ℤ × ℤ × ℤ :=
  let newAvailable := available + move.availableDelta
  let newTransit := inTransit + move.inTransitDelta
  if newAvailable < 0 ∨ newTransit < 0 ∨ newAvailable < occupied then
    (.insufficient, available, occupied, inTransit)
  else (.applied, newAvailable, occupied, newTransit)

/-! ### Operations on a balance -/

inductive StockVerb
  | reserve | release | ship | outbound | inbound
  deriving DecidableEq

namespace StockVerb

def engine : StockVerb → StockLevel → ℤ → ℤ → Except ServiceError (StockOutcome × StockLevel)
  | reserve => tryReserve
  | release => tryRelease
  | ship => tryShip
  | outbound => tryOutbound
  | inbound => tryInbound

/-- What the services hand to the update for the operation. -/
def delta (quantity : ℤ) : StockVerb → Delta
  | reserve => { occupied := quantity }
  | release => { occupied := -quantity }
  | ship => { available := -quantity, occupied := -quantity }
  | outbound => { available := -quantity }
  | inbound => { available := quantity }

end StockVerb

/-- One of the legs that the engine makes of a transfer of a positive quantity. -/
def StockMove.IsLeg (move : StockMove) (quantity : ℕ) : Prop :=
  move ∈ [(shipMoves quantity).1, (shipMoves quantity).2, receiveMove quantity,
    (cancelTransitMoves quantity).1, (cancelTransitMoves quantity).2]

/-- An operation: a quantity and the version that the caller has seen, or a leg of a transfer, which
is made at the version of the day. -/
inductive StockOp
  | call (verb : StockVerb) (quantity : ℕ) (seenVersion : ℤ)
  | transfer (quantity : ℕ) (positive : 0 < quantity) (move : StockMove) (leg : move.IsLeg quantity)

def StockOutcome.status : StockOutcome → ChangeStatus
  | applied => .applied
  | insufficient => .insufficient
  | conflict => .conflict

namespace Inventory

def level (r : Inventory) : StockLevel := ⟨r.available, r.occupied, r.version⟩

def withLevel (level : StockLevel) (r : Inventory) : Inventory :=
  { r with available := level.available, occupied := level.occupied, version := level.version }

/-- The balance after a leg. The engine leaves the version to the update. -/
def binned (r : Inventory) (move : StockMove) : ChangeStatus × Inventory :=
  match applyBin r.available r.occupied r.inTransit move with
  | (.applied, available, occupied, inTransit) =>
    (.applied, { r with available, occupied, inTransit, version := r.version + 1 })
  | (outcome, _) => (outcome.status, r)

end Inventory

namespace StockOp

/-- The outcome and the balance by the engine. -/
def engine : StockOp → Inventory → Except ServiceError (ChangeStatus × Inventory)
  | call verb quantity seenVersion, r =>
    (verb.engine r.level quantity seenVersion).map fun (outcome, level) =>
      (outcome.status, r.withLevel level)
  | transfer _ _ move _, r => .ok (r.binned move)

def delta : StockOp → Delta
  | call verb quantity _ => verb.delta quantity
  | transfer _ _ move _ => { available := move.availableDelta, inTransit := move.inTransitDelta }

def seenVersion (r : Inventory) : StockOp → ℤ
  | call _ _ seenVersion => seenVersion
  | transfer _ _ _ _ => r.version

end StockOp

/-! ### The update on columns of 32 bits -/

/-- The values of an `integer`. -/
def IsInt4 (n : ℤ) : Prop := -2 ^ 31 ≤ n ∧ n < 2 ^ 31

instance (n : ℤ) : Decidable (IsInt4 n) := inferInstanceAs (Decidable (_ ∧ _))

/-- Raised by the driver for a value that it cannot send, and by the database for a sum that has no
place in the column. -/
def outOfRange : ServiceError := .value "integer out of range"

def int4 (n : ℤ) : Except ServiceError ℤ := if IsInt4 n then .ok n else .error outOfRange

/-- `UPDATE ... WHERE`, for the row with the id: what becomes of it if it is one that the update is
for. The conditions are looked at from left to right. -/
def Inventory.updated (version : ℤ) (δ : Delta) (r : Inventory) :
    Except ServiceError (Option Inventory) := do
  if r.version ≠ version then return none
  let available ← int4 (r.available + δ.available)
  if available < 0 then return none
  let occupied ← int4 (r.occupied + δ.occupied)
  if occupied < 0 then return none
  let defective ← int4 (r.defective + δ.defective)
  if defective < 0 then return none
  let inTransit ← int4 (r.inTransit + δ.inTransit)
  if inTransit < 0 then return none
  if available < occupied then return none
  let _ ← int4 (r.version + 1)
  return some { r with available, occupied, defective, inTransit, version := r.version + 1 }

/-- `apply_change` on a row. -/
def Inventory.compareAndSet (version : ℤ) (δ : Delta) (r : Inventory) :
    Except ServiceError (ChangeStatus × Inventory) := do
  -- the version and what is added are sent as values of the statement
  let version ← int4 version
  let _ ← int4 δ.available
  let _ ← int4 δ.occupied
  let _ ← int4 δ.defective
  let _ ← int4 δ.inTransit
  match ← r.updated version δ with
  | some r' => return (.applied, r')
  | none => return (if r.version ≠ version then .conflict else .insufficient, r)

def StockOp.sql (op : StockOp) (r : Inventory) : Except ServiceError (ChangeStatus × Inventory) :=
  r.compareAndSet (op.seenVersion r) op.delta

/-! ### Runs -/

/-- The balance that the next operation finds. -/
def balanceAfter (r : Inventory) : Except ServiceError (ChangeStatus × Inventory) → Inventory
  | .ok (_, r') => r'
  | .error _ => r

/-- The outcomes of one operation after the other, each with the balance it leaves. -/
def trace (step : StockOp → Inventory → Except ServiceError (ChangeStatus × Inventory)) :
    List StockOp → Inventory → List (Except ServiceError (ChangeStatus × Inventory))
  | [], _ => []
  | op :: rest, r => step op r :: trace step rest (balanceAfter r (step op r))

/-- A row that the constraints of the table allow. -/
structure Inventory.Valid (r : Inventory) : Prop where
  occupied_nonneg : 0 ≤ r.occupied
  occupied_le : r.occupied ≤ r.available
  inTransit_nonneg : 0 ≤ r.inTransit
  defective_nonneg : 0 ≤ r.defective

/-- A row that the columns of the table have a place for. -/
def Inventory.Stored (r : Inventory) : Prop := ∀ b, IsInt4 (r.bucket b)

/-- The numbers of the operation have room in the columns. -/
structure StockOp.HasRoom (op : StockOp) (r : Inventory) : Prop where
  delta : ∀ b, IsInt4 (op.delta.bucket b)
  seenVersion : IsInt4 (op.seenVersion r)
  bucket_lt : op.seenVersion r = r.version → ∀ b, r.bucket b + op.delta.bucket b < 2 ^ 31
  version_lt : op.seenVersion r = r.version → r.fits op.delta → (r.version : ℤ) + 1 < 2 ^ 31

/-- Each operation of the run has room. -/
def HasRoomAlong : List StockOp → Inventory → Prop
  | [], _ => True
  | op :: rest, r => op.HasRoom r ∧ HasRoomAlong rest (balanceAfter r (op.engine r))

/-- What both sides decide. -/
def Inventory.decided (version : ℤ) (δ : Delta) (r : Inventory) : ChangeStatus × Inventory :=
  if version ≠ r.version then (.conflict, r)
  else if r.fits δ then (.applied, r.shift δ)
  else (.insufficient, r)

def StockOp.decided (op : StockOp) (r : Inventory) : ChangeStatus × Inventory :=
  r.decided (op.seenVersion r) op.delta

variable {r : Inventory} {op : StockOp}

lemma Inventory.Valid.available_nonneg (h : r.Valid) : 0 ≤ r.available :=
  h.occupied_nonneg.trans h.occupied_le

lemma Inventory.fits_iff {δ : Delta} : r.fits δ = true ↔ 0 ≤ r.available + δ.available ∧
    0 ≤ r.occupied + δ.occupied ∧ 0 ≤ r.defective + δ.defective ∧ 0 ≤ r.inTransit + δ.inTransit ∧
    r.occupied + δ.occupied ≤ r.available + δ.available := by
  simp [Inventory.fits, and_assoc]

/-- Goods are reserved where nothing else changes, and announced where nothing else changes. -/
lemma StockOp.rising (op : StockOp) : op.delta.defective = 0 ∧
    (0 < op.delta.occupied → op.delta.available = 0) ∧
    (0 < op.delta.inTransit → op.delta.available = 0 ∧ op.delta.occupied = 0) := by
  cases op with
  | call verb quantity seenVersion =>
    cases verb <;> simp [StockOp.delta, StockVerb.delta]
  | transfer quantity positive move leg =>
    simp only [StockMove.IsLeg, shipMoves, receiveMove, cancelTransitMoves, List.mem_cons,
      List.not_mem_nil, or_false] at leg
    rcases leg with rfl | rfl | rfl | rfl | rfl <;> simp [StockOp.delta]

/-- The shape of an operation: it is short if the update would leave the bounds, and makes of the
balance what the update makes of it. -/
lemma map_tryChange {message : String} {short : Bool} {changed : StockLevel} {δ : Delta}
    (quantity : ℕ) (seenVersion : ℤ) (hshort : short = true ↔ ¬ r.fits δ = true)
    (hchanged : r.withLevel { changed with version := r.version + 1 } = r.shift δ) :
    (tryChange message short changed r.level quantity seenVersion).map
        (fun (outcome, level) => (outcome.status, r.withLevel level)) =
      .ok (r.decided seenVersion δ) := by
  have hself : r.withLevel r.level = r := rfl
  have hversion : r.level.version = r.version := rfl
  rw [tryChange, if_neg (by omega), hversion, Inventory.decided]
  by_cases hseen : seenVersion = r.version
  · rw [hseen, if_neg (not_not.2 rfl), if_neg (not_not.2 rfl)]
    by_cases hfits : r.fits δ = true
    · rw [if_neg fun h => hshort.1 h hfits, if_pos hfits]
      simp [Except.map, StockOutcome.status, hchanged]
    · rw [if_pos (hshort.2 hfits), if_neg hfits]
      simp [Except.map, StockOutcome.status, hself]
  · rw [if_pos (Ne.symm hseen), if_pos hseen]
    simp [Except.map, StockOutcome.status, hself]

/-- The engine's own conditions come to the same as the bounds of the table. -/
lemma StockOp.engine_eq (h : r.Valid) (op : StockOp) : op.engine r = .ok (op.decided r) := by
  have hpos := h.available_nonneg
  have hle := h.occupied_le
  have hoccupied := h.occupied_nonneg
  have hdefective := h.defective_nonneg
  have htransit := h.inTransit_nonneg
  cases op with
  | call verb quantity seenVersion =>
    cases verb with
    | reserve =>
      simp only [StockOp.engine, StockVerb.engine, tryReserve]
      refine map_tryChange quantity seenVersion ?_ (by simp [Inventory.withLevel, Inventory.shift,
        Inventory.level, StockVerb.delta, StockOp.delta])
      rw [decide_eq_true_eq, Inventory.fits_iff]
      simp only [Inventory.level, freeQty, StockOp.delta, StockVerb.delta]
      omega
    | release =>
      simp only [StockOp.engine, StockVerb.engine, tryRelease]
      refine map_tryChange quantity seenVersion ?_ (by simp [Inventory.withLevel, Inventory.shift,
        Inventory.level, StockVerb.delta, StockOp.delta, sub_eq_add_neg])
      rw [decide_eq_true_eq, Inventory.fits_iff]
      simp only [Inventory.level, StockOp.delta, StockVerb.delta]
      omega
    | ship =>
      simp only [StockOp.engine, StockVerb.engine, tryShip]
      refine map_tryChange quantity seenVersion ?_ (by simp [Inventory.withLevel, Inventory.shift,
        Inventory.level, StockVerb.delta, StockOp.delta, sub_eq_add_neg])
      rw [Bool.or_eq_true, decide_eq_true_eq, decide_eq_true_eq, Inventory.fits_iff]
      simp only [Inventory.level, StockOp.delta, StockVerb.delta]
      omega
    | outbound =>
      simp only [StockOp.engine, StockVerb.engine, tryOutbound]
      refine map_tryChange quantity seenVersion ?_ (by simp [Inventory.withLevel, Inventory.shift,
        Inventory.level, StockVerb.delta, StockOp.delta, sub_eq_add_neg])
      rw [decide_eq_true_eq, Inventory.fits_iff]
      simp only [Inventory.level, freeQty, StockOp.delta, StockVerb.delta]
      omega
    | inbound =>
      simp only [StockOp.engine, StockVerb.engine, tryInbound]
      refine map_tryChange quantity seenVersion ?_ (by simp [Inventory.withLevel, Inventory.shift,
        Inventory.level, StockVerb.delta, StockOp.delta])
      refine ⟨fun h => absurd h Bool.false_ne_true, fun hnot => absurd (Inventory.fits_iff.2 ?_) hnot⟩
      simp only [StockOp.delta, StockVerb.delta]
      omega
  | transfer quantity positive move leg =>
    have hfits : r.fits (StockOp.transfer quantity positive move leg).delta = true ↔
        ¬ (r.available + move.availableDelta < 0 ∨ r.inTransit + move.inTransitDelta < 0 ∨
          r.available + move.availableDelta < r.occupied) := by
      simp only [Inventory.fits_iff, StockOp.delta]
      omega
    simp only [StockOp.engine, StockOp.decided, Inventory.decided, StockOp.seenVersion, ne_eq,
      not_true_eq_false, if_false, Inventory.binned, applyBin]
    by_cases hshort : r.available + move.availableDelta < 0 ∨
        r.inTransit + move.inTransitDelta < 0 ∨ r.available + move.availableDelta < r.occupied
    · rw [if_pos hshort, if_neg (by rw [hfits]; exact not_not.2 hshort)]
      rfl
    · rw [if_neg hshort, if_pos (hfits.2 hshort)]
      simp [Inventory.shift, StockOp.delta]

/-! ### The update decides alike -/

lemma int4_eq {n : ℤ} (h : IsInt4 n) : int4 n = .ok n := if_pos h

lemma bind_ok {α β : Type} (a : α) (f : α → Except ServiceError β) : (Except.ok a >>= f) = f a := rfl

/-- The change of the row, if all sums have a place. -/
lemma updated_eq {version : ℤ} {δ : Delta}
    (hsums : version = r.version → ∀ b, IsInt4 (r.bucket b + δ.bucket b))
    (hversion : version = r.version → r.fits δ → IsInt4 (r.version + 1)) :
    r.updated version δ =
      .ok (if version ≠ r.version then none else if r.fits δ then some (r.shift δ) else none) := by
  by_cases hseen : version = r.version
  · subst hseen
    have hsum := hsums rfl
    have havailable := int4_eq (hsum .available)
    have hoccupied := int4_eq (hsum .occupied)
    have hdefective := int4_eq (hsum .defective)
    have htransit := int4_eq (hsum .inTransit)
    simp only [Inventory.bucket, Delta.bucket] at havailable hoccupied hdefective htransit
    rw [if_neg (not_not.2 rfl)]
    simp only [Inventory.updated, havailable, hoccupied, hdefective, htransit, bind_ok, ne_eq,
      not_true_eq_false, if_false, pure, Except.pure]
    by_cases hfits : r.fits δ = true
    · obtain ⟨h₁, h₂, h₃, h₄, h₅⟩ := Inventory.fits_iff.1 hfits
      simp only [hfits, int4_eq (hversion rfl hfits), h₁.not_gt, h₂.not_gt, h₃.not_gt, h₄.not_gt,
        h₅.not_gt, bind_ok, if_false, if_true, Inventory.shift]
    · have hnot := mt Inventory.fits_iff.2 hfits
      rw [if_neg hfits]
      by_cases h₁ : r.available + δ.available < 0
      · rw [if_pos h₁]
      by_cases h₂ : r.occupied + δ.occupied < 0
      · rw [if_neg h₁, if_pos h₂]
      by_cases h₃ : r.defective + δ.defective < 0
      · rw [if_neg h₁, if_neg h₂, if_pos h₃]
      by_cases h₄ : r.inTransit + δ.inTransit < 0
      · rw [if_neg h₁, if_neg h₂, if_neg h₃, if_pos h₄]
      have h₅ : r.available + δ.available < r.occupied + δ.occupied := by
        by_contra h₅
        exact hnot ⟨not_lt.1 h₁, not_lt.1 h₂, not_lt.1 h₃, not_lt.1 h₄, not_lt.1 h₅⟩
      rw [if_neg h₁, if_neg h₂, if_neg h₃, if_neg h₄, if_pos h₅]
  · rw [if_pos hseen, Inventory.updated, if_pos (Ne.symm hseen)]
    rfl

lemma int4_bind_eq_error {β : Type} {n : ℤ} {f : ℤ → Except ServiceError β}
    (h : ¬ IsInt4 n) : (int4 n >>= f) = .error outOfRange := by
  rw [int4, if_neg h]
  rfl

lemma Inventory.Valid.bucket_nonneg (h : r.Valid) (b : Bucket) : 0 ≤ r.bucket b := by
  cases b with
  | available => exact h.available_nonneg
  | occupied => exact h.occupied_nonneg
  | defective => exact h.defective_nonneg
  | inTransit => exact h.inTransit_nonneg

/-- On a row of the table the update decides as the engine does, if its numbers have room. -/
lemma StockOp.sql_eq (h : r.Valid) (hroom : op.HasRoom r) : op.sql r = .ok (op.decided r) := by
  have hdelta := hroom.delta
  have hsums : op.seenVersion r = r.version → ∀ b, IsInt4 (r.bucket b + op.delta.bucket b) := by
    intro hseen b
    have hnonneg := h.bucket_nonneg b
    have hlow := (hdelta b).1
    exact ⟨by omega, hroom.bucket_lt hseen b⟩
  have hversion : op.seenVersion r = r.version → r.fits op.delta → IsInt4 (r.version + 1) :=
    fun hseen hfits => ⟨by omega, hroom.version_lt hseen hfits⟩
  have hbound : op.sql r = r.updated (op.seenVersion r) op.delta >>= fun
      | some r' => .ok (.applied, r')
      | none => .ok (if (r.version : ℤ) ≠ op.seenVersion r then .conflict else .insufficient, r) := by
    have havailable : int4 op.delta.available = .ok _ := int4_eq (hdelta .available)
    have hoccupied : int4 op.delta.occupied = .ok _ := int4_eq (hdelta .occupied)
    have hdefective : int4 op.delta.defective = .ok _ := int4_eq (hdelta .defective)
    have htransit : int4 op.delta.inTransit = .ok _ := int4_eq (hdelta .inTransit)
    simp only [StockOp.sql, Inventory.compareAndSet, int4_eq hroom.seenVersion, havailable,
      hoccupied, hdefective, htransit, bind_ok]
    rfl
  rw [hbound, updated_eq hsums hversion, bind_ok, StockOp.decided, Inventory.decided]
  by_cases hseen : op.seenVersion r = r.version
  · rw [if_neg (not_not.2 hseen), if_neg (not_not.2 hseen)]
    cases r.fits op.delta with
    | true => rfl
    | false => simp [hseen]
  · rw [if_pos hseen, if_pos hseen]
    simp [Ne.symm hseen]

/-- A sum without a place is come across before the update gives up. -/
lemma updated_eq_error (h : r.Valid) (hstored : r.Stored) {b : Bucket}
    (hdelta : IsInt4 (op.delta.bucket b)) (hsum : ¬ IsInt4 (r.bucket b + op.delta.bucket b)) :
    r.updated r.version op.delta = .error outOfRange := by
  have hrising : 0 < op.delta.bucket b := by
    have hnonneg := h.bucket_nonneg b
    have hlt := (hstored b).2
    by_contra hfalling
    exact hsum ⟨by have := hdelta.1; omega, by omega⟩
  obtain ⟨hdefective, hoccupied, htransit⟩ := op.rising
  rw [Inventory.updated, if_neg (not_not.2 rfl)]
  cases b with
  | available => exact int4_bind_eq_error hsum
  | occupied =>
    have havailable : op.delta.available = 0 := hoccupied hrising
    have hplace : IsInt4 r.available := hstored .available
    simp only [havailable, add_zero, int4_eq hplace, bind_ok, h.available_nonneg.not_gt, if_false]
    exact int4_bind_eq_error hsum
  | defective => exact absurd hrising (by simp [Delta.bucket, hdefective])
  | inTransit =>
    obtain ⟨havailable, hoccupied⟩ := htransit hrising
    have hplace : IsInt4 r.available := hstored .available
    have hplace' : IsInt4 r.occupied := hstored .occupied
    have hplace'' : IsInt4 r.defective := hstored .defective
    simp only [havailable, hoccupied, hdefective, add_zero, int4_eq hplace, int4_eq hplace',
      int4_eq hplace'', bind_ok, h.available_nonneg.not_gt, h.occupied_nonneg.not_gt,
      h.defective_nonneg.not_gt, if_false]
    exact int4_bind_eq_error hsum

/-- A row that would be changed may have no next version. -/
lemma updated_eq_error_of_version {δ : Delta} (hsums : ∀ b, IsInt4 (r.bucket b + δ.bucket b))
    (hfits : r.fits δ) (hversion : ¬ IsInt4 (r.version + 1)) :
    r.updated r.version δ = .error outOfRange := by
  have havailable : int4 (r.available + δ.available) = .ok _ := int4_eq (hsums .available)
  have hoccupied : int4 (r.occupied + δ.occupied) = .ok _ := int4_eq (hsums .occupied)
  have hdefective : int4 (r.defective + δ.defective) = .ok _ := int4_eq (hsums .defective)
  have htransit : int4 (r.inTransit + δ.inTransit) = .ok _ := int4_eq (hsums .inTransit)
  obtain ⟨h₁, h₂, h₃, h₄, h₅⟩ := Inventory.fits_iff.1 hfits
  simp only [Inventory.updated, havailable, hoccupied, hdefective, htransit, bind_ok, ne_eq,
    not_true_eq_false, if_false, h₁.not_gt, h₂.not_gt, h₃.not_gt, h₄.not_gt, h₅.not_gt]
  exact int4_bind_eq_error hversion

/-- Where a number has no room the statement fails. -/
lemma StockOp.sql_eq_error (h : r.Valid) (hstored : r.Stored) (hroom : ¬ op.HasRoom r) :
    op.sql r = .error outOfRange := by
  rw [StockOp.sql, Inventory.compareAndSet]
  by_cases hseen : IsInt4 (op.seenVersion r)
  swap
  · exact int4_bind_eq_error hseen
  rw [int4_eq hseen, bind_ok]
  by_cases havailable : IsInt4 op.delta.available
  swap
  · exact int4_bind_eq_error havailable
  rw [int4_eq havailable, bind_ok]
  by_cases hoccupied : IsInt4 op.delta.occupied
  swap
  · exact int4_bind_eq_error hoccupied
  rw [int4_eq hoccupied, bind_ok]
  by_cases hdefective : IsInt4 op.delta.defective
  swap
  · exact int4_bind_eq_error hdefective
  rw [int4_eq hdefective, bind_ok]
  by_cases htransit : IsInt4 op.delta.inTransit
  swap
  · exact int4_bind_eq_error htransit
  rw [int4_eq htransit, bind_ok]
  have hdelta : ∀ b, IsInt4 (op.delta.bucket b) := by
    intro b
    cases b <;> assumption
  -- the values can be sent, so a sum has no place
  have hupdated : r.updated (op.seenVersion r) op.delta = .error outOfRange := by
    by_contra hno
    refine hroom ⟨hdelta, hseen, fun hcurrent b => ?_, fun hcurrent hfits => ?_⟩
    · rw [hcurrent] at hno
      by_contra hlarge
      exact hno (updated_eq_error h hstored (hdelta b) fun hplace => hlarge hplace.2)
    · rw [hcurrent] at hno
      by_contra hlarge
      refine hno (updated_eq_error_of_version (fun b => ?_) hfits fun hplace => hlarge hplace.2)
      by_contra hplace
      exact hno (updated_eq_error h hstored (hdelta b) hplace)
  rw [hupdated]
  rfl

/-! ### The same decisions -/

/-- The balance stays one that the table allows. -/
lemma Inventory.Valid.balanceAfter (h : r.Valid) (op : StockOp) :
    (balanceAfter r (op.engine r)).Valid := by
  rw [StockOp.engine_eq h, CrossPilot.balanceAfter, StockOp.decided, Inventory.decided]
  split_ifs with hseen hfits
  · exact h
  · obtain ⟨-, h₂, h₃, h₄, h₅⟩ := Inventory.fits_iff.1 hfits
    exact ⟨h₂, h₅, h₄, h₃⟩
  · exact h

lemma trace_sql_eq {ops : List StockOp} (h : r.Valid) (hroom : HasRoomAlong ops r) :
    trace StockOp.sql ops r = trace StockOp.engine ops r := by
  induction ops generalizing r with
  | nil => rfl
  | cons op rest ih =>
    have hsame : op.sql r = op.engine r := by
      rw [StockOp.sql_eq h hroom.1, StockOp.engine_eq h]
    rw [trace, trace, hsame, ih (h.balanceAfter op) hroom.2]

/-- As long as the numbers have room, one operation after the other is decided by the update as by the
engine, with the same balance after each; where they have none the update fails and leaves the balance
as it is. -/
theorem engine_refined (r : Inventory) (h : r.Valid) (hstored : r.Stored) :
    (∀ ops, HasRoomAlong ops r → trace StockOp.sql ops r = trace StockOp.engine ops r) ∧
    (∀ op : StockOp, ¬ op.HasRoom r →
      op.sql r = .error outOfRange ∧ balanceAfter r (op.sql r) = r) := by
  refine ⟨fun ops hroom => trace_sql_eq h hroom, fun op hroom => ?_⟩
  rw [StockOp.sql_eq_error h hstored hroom]
  exact ⟨rfl, rfl⟩

/-- A row with goods for five. -/
private def fiveInStock : Inventory := { id := 1, skuId := 1, warehouseId := 1, available := 5 }

private lemma fiveInStock_valid : fiveInStock.Valid := ⟨by decide, by decide, by decide, by decide⟩

private lemma fiveInStock_stored : fiveInStock.Stored := fun b => by cases b <;> decide

/-- Two reservations by callers who have both seen the first version. -/
theorem engine_refined_stale :
    trace StockOp.sql [.call .reserve 2 0, .call .reserve 1 0] fiveInStock =
      [.ok (.applied, { fiveInStock with occupied := 2, version := 1 }),
        .ok (.conflict, { fiveInStock with occupied := 2, version := 1 })] := by
  have hroom : HasRoomAlong [.call .reserve 2 0, .call .reserve 1 0] fiveInStock := by
    refine ⟨⟨fun b => ?_, by decide, fun _ b => ?_, fun _ _ => by decide⟩,
      ⟨fun b => ?_, by decide, fun _ b => ?_, fun _ _ => by decide⟩, trivial⟩ <;> cases b <;> decide
  exact ((engine_refined fiveInStock fiveInStock_valid fiveInStock_stored).1 _ hroom).trans rfl

/-- The engine takes in any quantity, a column does not. -/
theorem large_inbound_fails : ¬ ∀ (r : Inventory) (ops : List StockOp), r.Valid → r.Stored →
    trace StockOp.sql ops r = trace StockOp.engine ops r := by
  intro h
  have hsame := h fiveInStock [.call .inbound (2 ^ 31) 0] fiveInStock_valid fiveInStock_stored
  rw [trace, trace, trace, trace, StockOp.engine_eq fiveInStock_valid] at hsame
  have hsql : (StockOp.call .inbound (2 ^ 31) 0).sql fiveInStock = .error outOfRange := by
    refine StockOp.sql_eq_error fiveInStock_valid fiveInStock_stored fun hroom => ?_
    exact absurd (hroom.delta .available).2 (by decide)
  rw [hsql] at hsame
  cases hsame

/-! ### The statement in the database -/

/-- `applyChange` in the database, alone: the outcome, and the row replaced by what becomes of it. -/
theorem wp_applyChange_decided {s : WorkState} {E : ServiceError → WorkState → Prop} (hs : Ready s)
    (hr : r ∈ s.data.inventories) (version : ℕ) (δ : Delta) :
    (applyChange r.id version δ).wp
      (fun status s' => status = (r.decided version δ).1 ∧
        s'.data =
          { s.data with
            inventories := alter Inventory.id r.id (fun _ => (r.decided version δ).2)
              s.data.inventories }) E s := by
  have hself : alter Inventory.id r.id (fun _ => r) s.data.inventories = s.data.inventories :=
    alter_eq_self fun t ht hid => hs.shelf.ids.eq_of_key_eq hr ht hid.symm
  by_cases hversion : r.version = version
  · subst hversion
    by_cases hfits : r.fits δ = true
    · rw [wp_applyChange_of_hit hs hr hfits]
      have hshift : alter Inventory.id r.id (·.shift δ) s.data.inventories =
          alter Inventory.id r.id (fun _ => r.shift δ) s.data.inventories :=
        alter_congr fun t ht hid => by rw [hs.shelf.ids.eq_of_key_eq ht hr hid]
      simp [Inventory.decided, hfits, Db.shifted, hshift]
    · rw [wp_applyChange_of_not_hit hs hr fun h => hfits h.2]
      simp [Inventory.decided, hfits, hself]
  · have hseen : (version : ℤ) ≠ r.version := fun h => hversion (by exact_mod_cast h.symm)
    rw [wp_applyChange_of_not_hit hs hr fun h => hversion h.1]
    simp [Inventory.decided, hversion, hseen, hself]

end CrossPilot
