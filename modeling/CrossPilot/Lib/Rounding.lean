import CrossPilot.Lib.Decimals

/-!
# More on rounding

Python's decimal arithmetic rounds to the nearest, and halves to the even neighbour, where nothing
else is asked for. Whatever the rule for halves is, the rounded difference of two amounts is one
unit at most away from the difference of the rounded ones.
-/

namespace Decimals

variable {k : ℕ} {x y : ℚ}

/-- The nearest integer. A half goes to the even one of its neighbours. -/
def halfEven (x : ℚ) : ℤ :=
  if Int.fract x < 1 / 2 then ⌊x⌋
  else if 1 / 2 < Int.fract x then ⌊x⌋ + 1
  else ⌊x⌋ + ⌊x⌋ % 2

@[simp] lemma halfEven_intCast (n : ℤ) : halfEven n = n := by
  simp [halfEven]

lemma floor_le_halfEven (x : ℚ) : ⌊x⌋ ≤ halfEven x := by
  unfold halfEven
  split_ifs <;> omega

lemma halfEven_le_floor_add_one (x : ℚ) : halfEven x ≤ ⌊x⌋ + 1 := by
  unfold halfEven
  split_ifs <;> omega

lemma abs_halfEven_sub_le (x : ℚ) : |(halfEven x : ℚ) - x| ≤ 1 / 2 := by
  have hfloor := Int.floor_add_fract x
  have hnonneg := Int.fract_nonneg x
  have hlt := Int.fract_lt_one x
  rw [abs_le]
  unfold halfEven
  split_ifs with hdown hup
  · constructor <;> linarith
  · push_cast
    constructor <;> linarith
  · have hhalf : Int.fract x = 1 / 2 := le_antisymm (not_lt.mp hup) (not_lt.mp hdown)
    obtain heven | hodd := Int.emod_two_eq_zero_or_one ⌊x⌋
    · rw [heven]
      push_cast
      constructor <;> linarith
    · rw [hodd]
      push_cast
      constructor <;> linarith

/-- Rounding keeps the order. -/
lemma halfEven_mono (h : x ≤ y) : halfEven x ≤ halfEven y := by
  obtain hlt | heq := (Int.floor_le_floor h).lt_or_eq
  · have := halfEven_le_floor_add_one x
    have := floor_le_halfEven y
    omega
  · have hfract : Int.fract x ≤ Int.fract y := by
      unfold Int.fract
      rw [heq]
      linarith
    unfold halfEven
    rw [heq]
    split_ifs <;> first | omega | linarith

/-- `quantize` to `k` decimals, halves to even. -/
def quantizeEven (k : ℕ) (x : ℚ) : ℚ := halfEven (x * 10 ^ k) / 10 ^ k

/-- What has `k` decimals is not rounded. -/
lemma quantizeEven_eq_self (h : Fixed k x) : quantizeEven k x = x := by
  obtain ⟨n, rfl⟩ := h
  have hpos : (10 : ℚ) ^ k ≠ 0 := by positivity
  rw [quantizeEven, div_mul_cancel₀ _ hpos, halfEven_intCast]

/-- A difference that is rounded, and the difference of what was rounded. -/
lemma abs_quantize_sub_sub_le (k : ℕ) (x y : ℚ) :
    |quantize k (x - y) - (quantize k x - quantize k y)| ≤ 1 / 10 ^ k := by
  have hpos : (0 : ℚ) < 10 ^ k := by positivity
  obtain ⟨n, hn⟩ := (fixed_quantize k (x - y)).sub
    ((fixed_quantize k x).sub (fixed_quantize k y))
  have hunits : (n : ℚ) = (quantize k (x - y) - (x - y)) * 10 ^ k -
      (quantize k x - x) * 10 ^ k + (quantize k y - y) * 10 ^ k := by
    rw [eq_div_iff hpos.ne'] at hn
    rw [← hn]
    ring
  have hbound (z : ℚ) : |(quantize k z - z) * 10 ^ k| ≤ 1 / 2 := by
    rw [abs_mul, abs_of_pos hpos]
    exact abs_quantize_sub_le k z
  have hdiff := abs_le.mp (hbound (x - y))
  have hx := abs_le.mp (hbound x)
  have hy := abs_le.mp (hbound y)
  -- three halves of a unit, but in whole units
  have hlow : (-2 : ℚ) < n := by
    rw [hunits]
    linarith [hdiff.1, hx.2, hy.1]
  have hhigh : (n : ℚ) < 2 := by
    rw [hunits]
    linarith [hdiff.2, hx.1, hy.2]
  have hone : |n| ≤ 1 := by
    have hlow : -2 < n := by exact_mod_cast hlow
    have hhigh : n < 2 := by exact_mod_cast hhigh
    rw [abs_le]
    omega
  rw [hn, abs_div, abs_of_pos hpos, div_le_div_iff_of_pos_right hpos]
  exact_mod_cast hone

end Decimals
