import Mathlib.Tactic

/-!
# The order state machine

The nine unified statuses, how a platform's own wording is mapped to them, and `decideStatus`,
which says whether a snapshot or an operator may move an order. Polling and webhooks may jump
forward along the main chain, since an intermediate state may never have been pulled; an operator
moves along single edges only.
-/

namespace CrossPilot

/-- The unified status of an order. -/
inductive UnifiedStatus
  | pending | paid | shipped | delivered | completed
  | cancelled | refunding | refunded | returned
  deriving DecidableEq

/-- Who asks for a change of status. -/
inductive StatusChangeSource
  | system | webhook | manual
  deriving DecidableEq

/-- What becomes of a request to change the status. -/
inductive DecisionKind
  | apply | unchanged | reject
  deriving DecidableEq

/-- The decision on a request. `toStatus` is the status the order has afterwards. -/
structure StatusDecision where
  kind : DecisionKind
  fromStatus : Option UnifiedStatus
  toStatus : UnifiedStatus
  unmapped : Bool
  deriving DecidableEq

namespace UnifiedStatus

/-- The text stored for a status. -/
def value : UnifiedStatus → String
  | pending => "PENDING"
  | paid => "PAID"
  | shipped => "SHIPPED"
  | delivered => "DELIVERED"
  | completed => "COMPLETED"
  | cancelled => "CANCELLED"
  | refunding => "REFUNDING"
  | refunded => "REFUNDED"
  | returned => "RETURNED"

/-- All statuses, in the order they are declared. -/
def all : List UnifiedStatus :=
  [pending, paid, shipped, delivered, completed, cancelled, refunding, refunded, returned]

/-- The place of a status on the main chain, if it is on it. -/
def rank : UnifiedStatus → Option ℕ
  | pending => some 0
  | paid => some 1
  | shipped => some 2
  | delivered => some 3
  | completed => some 4
  | _ => none

/-- The statuses an operator may choose from a given one. -/
def manualTargets : UnifiedStatus → List UnifiedStatus
  | pending => [paid, cancelled]
  | paid => [shipped, cancelled, refunding]
  | shipped => [delivered, cancelled, refunding, returned]
  | delivered => [completed, refunding, returned]
  | completed => [refunding, returned]
  | refunding => [refunded, returned]
  | returned => [refunded]
  | refunded => []
  | cancelled => []

/-- The statuses a platform can cancel an order from. -/
def cancelFrom : List UnifiedStatus := [pending, paid, shipped]

/-- The statuses a platform can start a refund from. -/
def refundFrom : List UnifiedStatus := [paid, shipped, delivered, completed]

/-- The statuses a platform can report a return from. -/
def returnFrom : List UnifiedStatus := [shipped, delivered, completed, refunding]

/-- Stock is reserved for an order when it leaves these statuses, or when it is new. -/
def unpaid : List (Option UnifiedStatus) := [none, some pending]

/-- The goods have left the warehouse. -/
def outbound : List UnifiedStatus := [shipped, delivered, completed]

end UnifiedStatus

open UnifiedStatus

/-- The status a text stands for, if it is one of the nine. -/
def parseUnified (value : Option String) : Option UnifiedStatus :=
  match value with
  | none => none
  | some text => UnifiedStatus.all.find? fun status => status.value == text

/-- The unified status of a platform's wording. A wording without a mapping has none. -/
def resolveTarget (platformStatus : String) (table : List (String × String)) :
    Option UnifiedStatus :=
  parseUnified (table.lookup platformStatus)

/-- `target` may follow `current`. -/
def allowed (current target : UnifiedStatus) (source : StatusChangeSource) : Bool :=
  if source = .manual then target ∈ current.manualTargets
  else if current = cancelled then false
  else if current = refunded then target = returned
  else if current = returned then target = refunded
  else
    match current.rank, target.rank with
    | some i, some j => i < j
    | _, _ =>
      if target = cancelled then current ∈ cancelFrom
      else if target = refunding then current ∈ refundFrom
      else if target = refunded then current ∈ refundFrom ∨ current = refunding
      else if target = returned then current ∈ returnFrom
      else false

/-- Whether a status changes. An order without a status takes whatever it is given, and waits in
`pending` if the wording is not mapped. -/
def decideStatus (current target : Option UnifiedStatus) (source : StatusChangeSource) :
    StatusDecision :=
  match target, current with
  | none, none => ⟨.apply, none, pending, true⟩
  | none, some c => ⟨.unchanged, some c, c, true⟩
  | some t, none => ⟨.apply, none, t, false⟩
  | some t, some c =>
    if c = t then ⟨.unchanged, some c, c, false⟩
    else if allowed c t source then ⟨.apply, some c, t, false⟩
    else ⟨.reject, some c, c, false⟩

@[simp] lemma parseUnified_value (status : UnifiedStatus) :
    parseUnified (some status.value) = some status := by
  cases status <;> decide

@[simp] lemma decideStatus_fromStatus (current target : Option UnifiedStatus)
    (source : StatusChangeSource) : (decideStatus current target source).fromStatus = current := by
  unfold decideStatus
  split <;> try rfl
  split_ifs <;> rfl

/-- Only an applied decision moves an order that has a status. -/
lemma decideStatus_toStatus_of_ne {current : UnifiedStatus} {target : Option UnifiedStatus}
    {source : StatusChangeSource} (h : (decideStatus (some current) target source).kind ≠ .apply) :
    (decideStatus (some current) target source).toStatus = current := by
  revert h
  unfold decideStatus
  split
  · intro h; exact absurd rfl h
  · rename_i c hc; intro _; simpa using hc.symm
  · rename_i hc; cases hc
  · rename_i t c hc
    obtain rfl : current = c := by simpa using hc
    split_ifs
    · intro _; rfl
    · intro h; exact absurd rfl h
    · intro _; rfl

/-- An order ends up in the status that is asked for, or stays in the one it has. -/
lemma decideStatus_toStatus_or (current : Option UnifiedStatus) (target : UnifiedStatus)
    (source : StatusChangeSource) : (decideStatus current (some target) source).toStatus = target ∨
      current = some (decideStatus current (some target) source).toStatus := by
  cases current with
  | none => exact .inl rfl
  | some c =>
    simp only [decideStatus]
    split_ifs
    · exact .inr rfl
    · exact .inl rfl
    · exact .inr rfl

/-- A new order takes the mapped status, or waits in `pending`. -/
@[simp] lemma decideStatus_none (target : Option UnifiedStatus) (source : StatusChangeSource) :
    decideStatus none target source =
      ⟨.apply, none, target.getD pending, target.isNone⟩ := by
  cases target <;> rfl

/-- An applied decision on an order with a status follows an allowed edge to the mapped status. -/
theorem decideStatus_apply_iff {current : UnifiedStatus} {target : Option UnifiedStatus}
    {source : StatusChangeSource} :
    (decideStatus (some current) target source).kind = .apply ↔
      ∃ t, target = some t ∧ t ≠ current ∧ allowed current t source ∧
        decideStatus (some current) target source = ⟨.apply, some current, t, false⟩ := by
  cases target with
  | none => simp [decideStatus]
  | some t =>
    by_cases hct : current = t
    · simp [decideStatus, hct]
    · by_cases ha : allowed current t source
      · simp [decideStatus, hct, ha, Ne.symm hct]
      · simp [decideStatus, hct, ha]

/-- A status that is asked for again stays. -/
@[simp] lemma decideStatus_self (status : UnifiedStatus) (source : StatusChangeSource) :
    decideStatus (some status) (some status) source = ⟨.unchanged, some status, status, false⟩ := by
  simp [decideStatus]

/-- A cancelled order stays cancelled. -/
lemma not_allowed_cancelled (target : UnifiedStatus) (source : StatusChangeSource) :
    allowed cancelled target source = false := by
  cases source <;> cases target <;> decide

end CrossPilot
