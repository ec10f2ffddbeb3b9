import Mathlib.Tactic

/-!
# Decimal amounts

Exact amounts are rational numbers. What a column or a text keeps of one is rounded to a number of
decimals, halves away from zero, as Python's `Decimal.quantize` does with `ROUND_HALF_UP`.
-/

namespace Decimals

variable {k : ℕ} {x g : ℚ}

/-- How many units of `10 ^ -k` an amount has, without its sign. -/
def units (k : ℕ) (x : ℚ) : ℤ := ⌊|x| * 10 ^ k + 1 / 2⌋

/-- `quantize` to `k` decimals. -/
def quantize (k : ℕ) (x : ℚ) : ℚ :=
  if x < 0 then -(units k x / 10 ^ k) else units k x / 10 ^ k

/-- The digits of a number, with zeros in front up to a width. -/
def padded (width n : ℕ) : String :=
  let digits := toString n
  String.ofList (List.replicate (width - digits.length) '0') ++ digits

/-- An amount rounded to `k` decimals, as a text. The sign of what was rounded to zero stays. -/
def text (k : ℕ) (x : ℚ) : String :=
  let n := (units k x).toNat
  (if x < 0 then "-" else "") ++ toString (n / 10 ^ k) ++ "." ++ padded k (n % 10 ^ k)

/-- The amount has `k` decimals. -/
def Fixed (k : ℕ) (x : ℚ) : Prop := ∃ n : ℤ, x = n / 10 ^ k

lemma Fixed.zero : Fixed k 0 := ⟨0, by simp⟩

lemma Fixed.add (hx : Fixed k x) (hg : Fixed k g) : Fixed k (x + g) := by
  obtain ⟨m, rfl⟩ := hx
  obtain ⟨n, rfl⟩ := hg
  exact ⟨m + n, by push_cast; ring⟩

lemma Fixed.neg (hx : Fixed k x) : Fixed k (-x) := by
  obtain ⟨m, rfl⟩ := hx
  exact ⟨-m, by push_cast; ring⟩

lemma Fixed.sub (hx : Fixed k x) (hg : Fixed k g) : Fixed k (x - g) := by
  rw [sub_eq_add_neg]
  exact hx.add hg.neg

lemma Fixed.intMul (hx : Fixed k x) (n : ℤ) : Fixed k (n * x) := by
  obtain ⟨m, rfl⟩ := hx
  exact ⟨n * m, by push_cast; ring⟩

lemma Fixed.sum {xs : List ℚ} (h : ∀ x ∈ xs, Fixed k x) : Fixed k xs.sum := by
  induction xs with
  | nil => exact Fixed.zero
  | cons x xs ih =>
    rw [List.sum_cons]
    exact (h x (by simp)).add (ih fun y hy => h y (by simp [hy]))

/-- The part of an amount that rounding to `k` decimals takes away, in units. -/
def rest (k : ℕ) (x : ℚ) : ℚ := Int.fract (x * 10 ^ k)

lemma quantize_of_nonneg (hx : 0 ≤ x) : quantize k x = ⌊x * 10 ^ k + 1 / 2⌋ / 10 ^ k := by
  rw [quantize, if_neg (not_lt.mpr hx), units, abs_of_nonneg hx]

lemma quantize_nonneg (hx : 0 ≤ x) : 0 ≤ quantize k x := by
  rw [quantize_of_nonneg hx]
  have : (0 : ℤ) ≤ ⌊x * 10 ^ k + 1 / 2⌋ := Int.floor_nonneg.mpr (by positivity)
  positivity

lemma fixed_quantize (k : ℕ) (x : ℚ) : Fixed k (quantize k x) := by
  unfold quantize
  split
  · exact ⟨-units k x, by push_cast; ring⟩
  · exact ⟨units k x, rfl⟩

/-- Which amounts are rounded to a given one. -/
lemma quantize_eq_iff (hx : 0 ≤ x) (hg : Fixed k g) :
    quantize k x = g ↔ g * 10 ^ k ≤ x * 10 ^ k + 1 / 2 ∧ x * 10 ^ k + 1 / 2 < g * 10 ^ k + 1 := by
  obtain ⟨n, rfl⟩ := hg
  have hpos : (10 : ℚ) ^ k ≠ 0 := by positivity
  rw [quantize_of_nonneg hx, div_left_inj' hpos, div_mul_cancel₀ _ hpos, Int.cast_inj,
    Int.floor_eq_iff]

lemma quantize_of_fixed (hx : 0 ≤ x) (hfixed : Fixed k x) : quantize k x = x := by
  rw [quantize_eq_iff hx hfixed]
  constructor <;> linarith

/-- A column keeps what has its decimals. -/
lemma quantize_eq_self (hfixed : Fixed k x) : quantize k x = x := by
  obtain hx | hx := le_or_gt 0 x
  · exact quantize_of_fixed hx hfixed
  · obtain ⟨n, hn⟩ := hfixed
    have hopposite := quantize_of_fixed (neg_nonneg.mpr hx.le) ⟨-n, by rw [hn]; push_cast; ring⟩
    rw [quantize, if_neg (by linarith)] at hopposite
    rw [quantize, if_pos hx]
    simp only [units, abs_neg] at hopposite ⊢
    linarith

/-- Rounding moves an amount by half a unit at most. -/
lemma abs_quantize_sub_le (k : ℕ) (x : ℚ) : |quantize k x - x| * 10 ^ k ≤ 1 / 2 := by
  have hpos : (0 : ℚ) < 10 ^ k := by positivity
  have hle := Int.floor_le (|x| * 10 ^ k + 1 / 2)
  have hlt := Int.lt_floor_add_one (|x| * 10 ^ k + 1 / 2)
  rw [← abs_of_pos hpos, ← abs_mul, abs_le, quantize, units]
  split
  · rename_i hx
    rw [abs_of_neg hx] at hle hlt ⊢
    rw [sub_mul, neg_mul, div_mul_cancel₀ _ hpos.ne']
    constructor <;> linarith
  · rename_i hx
    rw [abs_of_nonneg (not_lt.mp hx)] at hle hlt ⊢
    rw [sub_mul, div_mul_cancel₀ _ hpos.ne']
    constructor <;> linarith

/-- What is less than half a unit off is rounded. -/
lemma quantize_eq_of_abs_lt (hg : Fixed k g) (h : |x - g| * 10 ^ k < 1 / 2) : quantize k x = g := by
  have hpos : (0 : ℚ) < 10 ^ k := by positivity
  obtain ⟨n, hn⟩ := (fixed_quantize k x).sub hg
  have hunits : (n : ℚ) = (quantize k x - g) * 10 ^ k := by
    rw [hn, div_mul_cancel₀ _ hpos.ne']
  have hround := abs_quantize_sub_le k x
  rw [← abs_of_pos hpos, ← abs_mul, abs_le] at hround
  rw [← abs_of_pos hpos, ← abs_mul, abs_lt] at h
  have hzero : n = 0 := by
    have hlow : (-1 : ℚ) < n := by linarith [hround.1, h.1]
    have hhigh : (n : ℚ) < 1 := by linarith [hround.2, h.2]
    have hlow : (-1 : ℤ) < n := by exact_mod_cast hlow
    have hhigh : n < 1 := by exact_mod_cast hhigh
    omega
  rw [hzero, Int.cast_zero, zero_div] at hn
  exact sub_eq_zero.mp hn

/-- Rounding takes the rest away, or fills it up to one unit. -/
lemma quantize_eq_sub_rest (hx : 0 ≤ x) :
    quantize k x * 10 ^ k = x * 10 ^ k - rest k x + if 1 / 2 ≤ rest k x then 1 else 0 := by
  have hpos : (10 : ℚ) ^ k ≠ 0 := by positivity
  have hfloor := Int.floor_add_fract (x * 10 ^ k)
  have hlt := Int.fract_lt_one (x * 10 ^ k)
  have hnonneg := Int.fract_nonneg (x * 10 ^ k)
  rw [quantize_of_nonneg hx, div_mul_cancel₀ _ hpos]
  unfold rest
  split
  · have hup : ⌊x * 10 ^ k + 1 / 2⌋ = ⌊x * 10 ^ k⌋ + 1 := by
      rw [Int.floor_eq_iff]
      push_cast
      constructor <;> linarith
    rw [hup]
    push_cast
    linarith
  · have hdown : ⌊x * 10 ^ k + 1 / 2⌋ = ⌊x * 10 ^ k⌋ := by
      rw [Int.floor_eq_iff]
      constructor <;> linarith
    rw [hdown]
    linarith

/-- What rounding to `k` decimals adds to an amount, in units. -/
def carry (k : ℕ) (x : ℚ) : ℚ := if 1 / 2 ≤ rest k x then 1 - rest k x else -rest k x

lemma carry_le (k : ℕ) (x : ℚ) : carry k x ≤ 1 / 2 := by
  have hnonneg : 0 ≤ rest k x := Int.fract_nonneg _
  unfold carry
  split <;> linarith

lemma quantize_eq_add_carry (hx : 0 ≤ x) : quantize k x * 10 ^ k = x * 10 ^ k + carry k x := by
  rw [quantize_eq_sub_rest hx, carry]
  split <;> ring

/-- Which amounts are not rounded below the opposite of a given one. -/
lemma neg_le_quantize_iff (hg : 0 ≤ g) (hfixed : Fixed k g) :
    -g ≤ quantize k x ↔ -(g * 10 ^ k) < x * 10 ^ k + 1 / 2 := by
  have hpos : (0 : ℚ) < 10 ^ k := by positivity
  obtain hx | hx := le_or_gt 0 x
  · have hx' : 0 ≤ x * 10 ^ k := by positivity
    have hg' : 0 ≤ g * 10 ^ k := by positivity
    exact ⟨fun _ => by linarith, fun _ => by linarith [quantize_nonneg (k := k) hx]⟩
  · obtain ⟨n, rfl⟩ := hfixed
    rw [quantize, if_pos hx, neg_le_neg_iff, div_le_div_iff_of_pos_right hpos, Int.cast_le, units,
      ← Int.lt_add_one_iff, Int.floor_lt, abs_of_neg hx, div_mul_cancel₀ _ hpos.ne']
    push_cast
    constructor <;> intro h <;> linarith

example : quantize 6 (2 / 3) = 666667 / 1000000 ∧ text 6 (-1 / 3) = "-0.333333" := by
  decide +kernel

end Decimals
