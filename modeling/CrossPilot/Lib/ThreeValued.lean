import Mathlib.Tactic

/-!
# Three-valued logic

The truth values of a condition over values that may be missing: a comparison with a missing value is
unknown, and a row is taken when its condition holds, not when it is unknown.
-/

inductive Truth
  | holds | fails | unknown
  deriving DecidableEq, Repr

namespace Truth

def ofBool : Bool → Truth
  | true => holds
  | false => fails

def not : Truth → Truth
  | holds => fails
  | fails => holds
  | unknown => unknown

def and : Truth → Truth → Truth
  | fails, _ => fails
  | _, fails => fails
  | holds, holds => holds
  | _, _ => unknown

def or : Truth → Truth → Truth
  | holds, _ => holds
  | _, holds => holds
  | fails, fails => fails
  | _, _ => unknown

variable {a b : Truth} {c : Bool}

@[simp] lemma ofBool_eq_holds : ofBool c = holds ↔ c = true := by cases c <;> simp [ofBool]

@[simp] lemma ofBool_eq_fails : ofBool c = fails ↔ c = false := by cases c <;> simp [ofBool]

@[simp] lemma not_eq_holds : a.not = holds ↔ a = fails := by cases a <;> simp [Truth.not]

@[simp] lemma not_eq_fails : a.not = fails ↔ a = holds := by cases a <;> simp [Truth.not]

@[simp] lemma and_eq_holds : a.and b = holds ↔ a = holds ∧ b = holds := by
  cases a <;> cases b <;> simp [Truth.and]

@[simp] lemma and_eq_fails : a.and b = fails ↔ a = fails ∨ b = fails := by
  cases a <;> cases b <;> simp [Truth.and]

@[simp] lemma or_eq_holds : a.or b = holds ↔ a = holds ∨ b = holds := by
  cases a <;> cases b <;> simp [Truth.or]

@[simp] lemma or_eq_fails : a.or b = fails ↔ a = fails ∧ b = fails := by
  cases a <;> cases b <;> simp [Truth.or]

/-- A conjunction is the negation of the disjunction of the negations, unknown values included. -/
lemma not_and : (a.and b).not = a.not.or b.not := by cases a <;> cases b <;> rfl

end Truth
