import CrossPilot.Lib.Numerals
import CrossPilot.Lib.Significant

/-!
# Sums of decimal numbers

Python adds decimal numbers to a number of digits. The results can be infinite or `NaN`, and some
operations are invalid. A sum of numbers with few decimals is exact as long as it is not too large
(`sum_finite`).
-/

namespace Decimals

/-- A number as decimal arithmetic sees it. -/
inductive Extended
  | finite (x : ℚ)
  | infinite (negative : Bool)
  | nan
  | signaling
  deriving DecidableEq

namespace Extended

/-- Whether a text that spells `NaN` spells a signaling one. -/
def spellsSignaling (text : String) : Bool :=
  let cs := (Decimal.splitSign ((Text.stripChars text.toList).filter (· ≠ '_'))).2
  (cs.map Char.toLower).head? = some 's'

/-- `Decimal(text)`, as a number. -/
def ofText (text : String) : Option Extended :=
  (Numeral.ofText text).map fun n =>
    match n with
    | .number d =>
      match d.value with
      | .inl x => finite x
      | .inr negative => infinite negative
    | .nan => if spellsSignaling text then signaling else nan

/-- The sum of two numbers, with `k` digits behind the first. -/
def add (k : ℕ) : Extended → Extended → Option Extended
  | signaling, _ | _, signaling => none
  | nan, _ | _, nan => some nan
  | infinite a, infinite b => if a = b then some (infinite a) else none
  | infinite a, finite _ | finite _, infinite a => some (infinite a)
  | finite x, finite y => some (finite (significant k (x + y)))

/-- `sum`, from the left. -/
def sum (k : ℕ) (xs : List Extended) : Option Extended := xs.foldlM (add k) (finite 0)

/-- Halves go away from zero, and the result has no more digits than there are. -/
def quantize (k places : ℕ) : Extended → Option Extended
  | finite x =>
    if 10 ^ (k + 1) ≤ |Decimals.quantize places x| * 10 ^ places then none
    else some (finite (Decimals.quantize places x))
  | nan => some nan
  | infinite _ | signaling => none

/-- The number, where there is one. -/
def value : Extended → ℚ
  | finite x => x
  | _ => 0

/-! ### Exact sums -/

variable {k m : ℕ}

/-- Sums of numbers are numbers. -/
lemma exists_sum_finite {xs : List Extended} (h : ∀ x ∈ xs, ∃ y, x = finite y) :
    ∃ total, sum k xs = some (finite total) := by
  have hfold (xs : List Extended) (h : ∀ x ∈ xs, ∃ y, x = finite y) (z : ℚ) :
      ∃ total, xs.foldlM (add k) (finite z) = some (finite total) := by
    induction xs generalizing z with
    | nil => exact ⟨z, rfl⟩
    | cons x rest ih =>
      obtain ⟨⟨y, rfl⟩, hrest⟩ := List.forall_mem_cons.mp h
      exact ih hrest _
  exact hfold xs h 0

/-- Numbers with few decimals that are not too large are short. -/
lemma short_of_fixed {x : ℚ} (hx : Fixed m x) (hbound : |x| * 10 ^ m ≤ 10 ^ (k + 1)) :
    Short k |x| := by
  obtain ⟨n, rfl⟩ := hx
  have hpow : (0 : ℚ) < 10 ^ m := by positivity
  have habs : |(n : ℚ) / 10 ^ m| = (n.natAbs : ℚ) / 10 ^ m := by
    rw [abs_div, abs_of_pos hpow, Nat.cast_natAbs, Int.cast_abs]
  refine ⟨n.natAbs, -(m : ℤ), ?_, ?_⟩
  · rw [habs, div_mul_cancel₀ _ hpow.ne'] at hbound
    exact_mod_cast hbound
  · rw [habs, zpow_neg, zpow_natCast, div_eq_mul_inv]

lemma foldlM_add_finite {xs : List ℚ} {x : ℚ} (hx : Fixed m x) (hfixed : ∀ y ∈ xs, Fixed m y)
    (hbound : (|x| + (xs.map abs).sum) * 10 ^ m ≤ 10 ^ (k + 1)) :
    (xs.map finite).foldlM (add k) (finite x) = some (finite (x + xs.sum)) := by
  induction xs generalizing x with
  | nil => simp
  | cons y rest ih =>
    have hpow : (0 : ℚ) < 10 ^ m := by positivity
    rw [List.forall_mem_cons] at hfixed
    rw [List.map_cons, List.sum_cons] at hbound
    have hrest : 0 ≤ (rest.map abs).sum := List.sum_nonneg (by simp)
    have htriangle := abs_add_le x y
    have hadd : significant k (x + y) = x + y := by
      refine significant_eq_self (short_of_fixed (hx.add hfixed.1) (le_trans ?_ hbound))
      exact mul_le_mul_of_nonneg_right (by linarith) hpow.le
    have hnext : (|x + y| + (rest.map abs).sum) * 10 ^ m ≤ 10 ^ (k + 1) := by
      refine le_trans (mul_le_mul_of_nonneg_right ?_ hpow.le) hbound
      linarith
    rw [List.map_cons, List.foldlM_cons, add, hadd]
    simpa [add_assoc] using ih (hx.add hfixed.1) hfixed.2 hnext

/-- A sum of numbers with few decimals that are not too large is exact. -/
lemma sum_finite {xs : List ℚ} (hfixed : ∀ y ∈ xs, Fixed m y)
    (hbound : (xs.map abs).sum * 10 ^ m ≤ 10 ^ (k + 1)) :
    sum k (xs.map finite) = some (finite xs.sum) := by
  have h := foldlM_add_finite (k := k) Fixed.zero hfixed (by simpa using hbound)
  rwa [zero_add] at h

end Extended

end Decimals
