import Mathlib.Data.Int.Log
import CrossPilot.Lib.Rounding

/-!
# A number of digits

Decimal arithmetic keeps a number of digits, wherever the point is: every result is rounded to the
nearest number with `k` digits behind its first, and halves go to the even neighbour. Exponents are
not bounded here. Numbers with so few digits stay as they are, and rounding never jumps over one of
them; what it adds to or takes from another number is known by the unit of the last digit.
-/

namespace Decimals

variable {k : ℕ} {x y g : ℚ}

/-! ### Halves -/

lemma halfEven_add_even {n : ℤ} (hn : Even n) (x : ℚ) : halfEven (n + x) = n + halfEven x := by
  have hmod : (n + ⌊x⌋) % 2 = ⌊x⌋ % 2 := by
    obtain ⟨m, rfl⟩ := hn
    omega
  simp only [halfEven, Int.fract_intCast_add, Int.floor_intCast_add, hmod]
  split_ifs <;> ring

lemma halfEven_nonpos_iff : halfEven x ≤ 0 ↔ x ≤ 1 / 2 := by
  constructor
  · intro h
    have hcast : (halfEven x : ℚ) ≤ 0 := by exact_mod_cast h
    have := (abs_le.mp (abs_halfEven_sub_le x)).1
    linarith
  · intro h
    have hhalf : halfEven (1 / 2) = 0 := by
      have hfloor : ⌊(1 / 2 : ℚ)⌋ = 0 := by norm_num
      have hfract : Int.fract (1 / 2 : ℚ) = 1 / 2 := by
        rw [Int.fract, hfloor]
        norm_num
      rw [halfEven, hfract, hfloor]
      norm_num
    exact hhalf ▸ halfEven_mono h

lemma halfEven_nonneg_iff : 0 ≤ halfEven x ↔ -1 / 2 ≤ x := by
  constructor
  · intro h
    have hcast : (0 : ℚ) ≤ halfEven x := by exact_mod_cast h
    have := (abs_le.mp (abs_halfEven_sub_le x)).2
    linarith
  · intro h
    have hhalf : halfEven (-1 / 2) = 0 := by
      have hfloor : ⌊(-1 / 2 : ℚ)⌋ = -1 := by norm_num
      have hfract : Int.fract (-1 / 2 : ℚ) = 1 / 2 := by
        rw [Int.fract, hfloor]
        norm_num
      rw [halfEven, hfract, hfloor]
      norm_num
    exact hhalf ▸ halfEven_mono h

/-! ### Units of the last digit -/

/-- The unit of the last digit, with `k` digits behind the first. -/
def ulp (k : ℕ) (x : ℚ) : ℚ := 10 ^ (Int.log 10 |x| - k)

/-- The nearest number with `k` digits behind the first. -/
def significant (k : ℕ) (x : ℚ) : ℚ := halfEven (x / ulp k x) * ulp k x

lemma ulp_pos (k : ℕ) (x : ℚ) : 0 < ulp k x := by
  unfold ulp
  positivity

@[simp] lemma significant_zero (k : ℕ) : significant k 0 = 0 := by
  have hzero : halfEven 0 = 0 := by exact_mod_cast halfEven_intCast 0
  simp [significant, hzero]

lemma ulp_mul_pow (k : ℕ) (x : ℚ) : ulp k x * 10 ^ k = 10 ^ Int.log 10 |x| := by
  rw [ulp, ← zpow_natCast, ← zpow_add₀ (by norm_num), sub_add_cancel]

lemma ulp_mul_pow_le (k : ℕ) (hx : 0 < x) : ulp k x * 10 ^ k ≤ x := by
  rw [ulp_mul_pow, abs_of_pos hx]
  exact_mod_cast Int.zpow_log_le_self (b := 10) (by norm_num) hx

lemma lt_ulp_mul_pow (k : ℕ) (hx : 0 < x) : x < ulp k x * 10 ^ k * 10 := by
  rw [ulp_mul_pow, abs_of_pos hx, ← zpow_add_one₀ (by norm_num)]
  exact_mod_cast Int.lt_zpow_succ_log_self (b := 10) (by norm_num) x

lemma abs_significant_sub_le (k : ℕ) (x : ℚ) : |significant k x - x| ≤ ulp k x / 2 := by
  have hpos := ulp_pos k x
  have hscale : significant k x - x = (halfEven (x / ulp k x) - x / ulp k x) * ulp k x := by
    rw [significant, sub_mul, div_mul_cancel₀ _ hpos.ne']
  rw [hscale, abs_mul, abs_of_pos hpos]
  nlinarith [abs_halfEven_sub_le (x / ulp k x)]

/-- The error is small against the number. -/
lemma abs_significant_sub_mul_le (k : ℕ) (hx : 0 ≤ x) :
    |significant k x - x| * (2 * 10 ^ k) ≤ x := by
  rcases hx.eq_or_lt with rfl | hx
  · simp
  · have herror := abs_significant_sub_le k x
    have hpow : (0 : ℚ) < 10 ^ k := by positivity
    have := ulp_mul_pow_le k hx
    nlinarith

lemma significant_nonneg (hx : 0 ≤ x) : 0 ≤ significant k x := by
  have hpos := ulp_pos k x
  refine mul_nonneg ?_ hpos.le
  have h : 0 ≤ halfEven (x / ulp k x) := halfEven_nonneg_iff.mpr (by
    have : 0 ≤ x / ulp k x := by positivity
    linarith)
  exact_mod_cast h

lemma significant_nonpos (hx : x ≤ 0) : significant k x ≤ 0 := by
  have hpos := ulp_pos k x
  refine mul_nonpos_of_nonpos_of_nonneg ?_ hpos.le
  have h : halfEven (x / ulp k x) ≤ 0 := halfEven_nonpos_iff.mpr (by
    have : x / ulp k x ≤ 0 := div_nonpos_of_nonpos_of_nonneg hx hpos.le
    linarith)
  exact_mod_cast h

/-! ### Numbers with few digits -/

/-- A number with `k` digits behind the first. -/
def Short (k : ℕ) (g : ℚ) : Prop := ∃ (n : ℕ) (e : ℤ), n ≤ 10 ^ (k + 1) ∧ g = n * 10 ^ e

/-- A short number is a whole number of units. -/
lemma Short.units (h : Short k g) : ∃ n : ℕ, g = n * ulp k g := by
  obtain ⟨n, e, hn, rfl⟩ := h
  rcases Nat.eq_zero_or_pos n with rfl | hpos
  · exact ⟨0, by simp⟩
  have hg : (0 : ℚ) < n * 10 ^ e := by positivity
  have hcast : (n : ℚ) ≤ 10 ^ (k + 1) := by exact_mod_cast hn
  have hle : (n : ℚ) * 10 ^ e ≤ 10 ^ ((k : ℤ) + 1 + e) := by
    rw [zpow_add₀ (by norm_num)]
    have : (10 : ℚ) ^ ((k : ℤ) + 1) = 10 ^ (k + 1) := by exact_mod_cast zpow_natCast (10 : ℚ) (k + 1)
    rw [this]
    have : (0 : ℚ) < 10 ^ e := by positivity
    nlinarith
  by_cases hlog : Int.log 10 (n * 10 ^ e : ℚ) ≤ k + e
  · -- the unit divides the power of ten that the number is written with
    refine ⟨n * 10 ^ (k + e - Int.log 10 (n * 10 ^ e : ℚ)).toNat, ?_⟩
    rw [ulp, abs_of_pos hg]
    push_cast
    rw [mul_assoc, ← zpow_natCast, ← zpow_add₀ (by norm_num), Int.toNat_of_nonneg (by omega)]
    congr 2
    ring
  · -- the number is the power of ten above
    have hlog' : (k : ℤ) + 1 + e ≤ Int.log 10 (n * 10 ^ e : ℚ) := by omega
    have heq : (n : ℚ) * 10 ^ e = 10 ^ ((k : ℤ) + 1 + e) := by
      refine le_antisymm hle ?_
      exact_mod_cast (Int.zpow_le_iff_le_log (b := 10) (by norm_num) hg).mpr hlog'
    refine ⟨10 ^ k, ?_⟩
    have hten : Int.log 10 ((10 : ℚ) ^ ((k : ℤ) + 1 + e)) = k + 1 + e := by
      exact_mod_cast Int.log_zpow (R := ℚ) (b := 10) (by norm_num) (k + 1 + e)
    rw [heq, ulp, abs_of_pos (by positivity), hten]
    push_cast
    rw [← zpow_natCast, ← zpow_add₀ (by norm_num)]
    congr 1
    ring

lemma Short.nonneg (h : Short k g) : 0 ≤ g := by
  obtain ⟨n, e, -, rfl⟩ := h
  positivity

lemma short_natCast {n : ℕ} (hn : n ≤ 10 ^ (k + 1)) : Short k n := ⟨n, 0, hn, by simp⟩

/-- What has so few digits is not rounded. -/
lemma Short.significant (h : Short k g) : significant k g = g := by
  obtain ⟨n, hn⟩ := h.units
  have hpos := ulp_pos k g
  have hunits : g / ulp k g = (n : ℤ) := by
    rw [div_eq_iff hpos.ne']
    exact_mod_cast hn
  rw [Decimals.significant, hunits, halfEven_intCast]
  exact_mod_cast hn.symm

/-- Neither is what has so few digits behind its sign. -/
lemma significant_eq_self (h : Short k |x|) : significant k x = x := by
  obtain ⟨n, hn⟩ := h.units
  have hpos := ulp_pos k x
  have hulp : ulp k |x| = ulp k x := by rw [ulp, abs_abs, ulp]
  rw [hulp] at hn
  obtain ⟨m, hm⟩ : ∃ m : ℤ, x = m * ulp k x := by
    obtain habs | habs := abs_choice x
    · refine ⟨n, ?_⟩
      push_cast
      rw [← hn, habs]
    · refine ⟨-n, ?_⟩
      push_cast
      linarith
  have hunits : x / ulp k x = m := by rw [div_eq_iff hpos.ne', ← hm]
  rw [significant, hunits, halfEven_intCast, ← hm]

/-- A unit is a power of ten times each smaller one. -/
lemma ulp_mul (hx : 0 < x) (hxy : x ≤ y) : ∃ j : ℕ, ulp k y = 10 ^ j * ulp k x := by
  have hlog := Int.log_mono_right (b := 10) hx hxy
  refine ⟨(Int.log 10 y - Int.log 10 x).toNat, ?_⟩
  unfold ulp
  rw [abs_of_pos hx, abs_of_pos (hx.trans_le hxy), ← zpow_natCast, ← zpow_add₀ (by norm_num),
    Int.toNat_of_nonneg (by omega)]
  congr 1
  ring

/-- Rounding does not rise above a short number. -/
lemma Short.significant_le (h : Short k g) (hx : x ≤ g) : Decimals.significant k x ≤ g := by
  rcases le_or_gt x 0 with hneg | hpos
  · exact (significant_nonpos hneg).trans h.nonneg
  obtain ⟨n, hn⟩ := h.units
  obtain ⟨j, hj⟩ := ulp_mul (k := k) hpos hx
  have hunit := ulp_pos k x
  have hg : g = ((n * 10 ^ j : ℕ) : ℤ) * ulp k x := by
    rw [hn, hj]
    push_cast
    ring
  have hle : halfEven (x / ulp k x) ≤ ((n * 10 ^ j : ℕ) : ℤ) := by
    rw [← halfEven_intCast ((n * 10 ^ j : ℕ) : ℤ)]
    apply halfEven_mono
    rw [div_le_iff₀ hunit, ← hg]
    exact hx
  rw [Decimals.significant, hg]
  exact mul_le_mul_of_nonneg_right (by exact_mod_cast hle) hunit.le

/-- Rounding does not sink below a short number. -/
lemma Short.le_significant (h : Short k g) (hx : g ≤ x) : g ≤ Decimals.significant k x := by
  rcases h.nonneg.eq_or_lt with rfl | hpos
  · exact significant_nonneg hx
  have hunit := ulp_pos k x
  rcases (Int.log_mono_right (b := 10) hpos hx).eq_or_lt with hlog | hlog
  · obtain ⟨n, hn⟩ := h.units
    have hsame : ulp k g = ulp k x := by
      rw [ulp, ulp, abs_of_pos hpos, abs_of_pos (hpos.trans_le hx), hlog]
    rw [hsame] at hn
    have hle : (n : ℤ) ≤ halfEven (x / ulp k x) := by
      rw [← halfEven_intCast (n : ℤ)]
      apply halfEven_mono
      rw [le_div_iff₀ hunit]
      exact_mod_cast hn ▸ hx
    rw [Decimals.significant, hn]
    exact mul_le_mul_of_nonneg_right (by exact_mod_cast hle) hunit.le
  · -- a power of ten lies between them
    have hx' : 0 < x := hpos.trans_le hx
    have hle : ((10 ^ k : ℕ) : ℤ) ≤ halfEven (x / ulp k x) := by
      rw [← halfEven_intCast ((10 ^ k : ℕ) : ℤ)]
      apply halfEven_mono
      rw [le_div_iff₀ hunit]
      push_cast
      linarith [ulp_mul_pow_le k hx']
    have hcast : ((10 : ℚ) ^ k) ≤ halfEven (x / ulp k x) := by exact_mod_cast hle
    have hg : g ≤ 10 ^ Int.log 10 |x| := by
      rw [abs_of_pos hx']
      have hlt : g < 10 ^ (Int.log 10 g + 1) := by
        exact_mod_cast Int.lt_zpow_succ_log_self (b := 10) (by norm_num) g
      exact hlt.le.trans (zpow_le_zpow_right₀ (by norm_num) (by omega))
    rw [← ulp_mul_pow k x] at hg
    refine hg.trans ?_
    rw [Decimals.significant, mul_comm]
    exact mul_le_mul_of_nonneg_right hcast hunit.le

/-! ### Decimals behind the point -/

/-- A short number whose last digit is not in front of the point. -/
def Fine (k : ℕ) (g : ℚ) : Prop := ∃ n d : ℕ, n ≤ 10 ^ (k + 1) ∧ g = n / 10 ^ d

lemma Fine.short (h : Fine k g) : Short k g := by
  obtain ⟨n, d, hn, rfl⟩ := h
  exact ⟨n, -d, hn, by rw [zpow_neg, zpow_natCast, div_eq_mul_inv]⟩

/-- Whole numbers are taken away exactly. -/
lemma Fine.sub_natCast (h : Fine k g) {m : ℕ} (hm : (m : ℚ) ≤ g) : Fine k (g - m) := by
  obtain ⟨n, d, hn, rfl⟩ := h
  have hpow : (0 : ℚ) < 10 ^ d := by positivity
  have hle : m * 10 ^ d ≤ n := by
    rw [le_div_iff₀ hpow] at hm
    exact_mod_cast hm
  refine ⟨n - m * 10 ^ d, d, (Nat.sub_le _ _).trans hn, ?_⟩
  push_cast [hle]
  field_simp

/-- What is rounded is fine, as long as it is not too large. -/
lemma fine_significant (hx : 0 ≤ x) (hlarge : x < 10 ^ (k + 1)) : Fine k (significant k x) := by
  rcases hx.eq_or_lt with rfl | hpos
  · exact ⟨0, 0, by simp, by simp⟩
  have hunit := ulp_pos k x
  have hlog : Int.log 10 x ≤ k := by
    have h := (Int.lt_zpow_iff_log_lt (b := 10) (x := (k : ℤ) + 1) (by norm_num) hpos).mp
      (by exact_mod_cast hlarge)
    omega
  have hnonneg : 0 ≤ halfEven (x / ulp k x) := halfEven_nonneg_iff.mpr (by
    have : 0 ≤ x / ulp k x := by positivity
    linarith)
  have hle : halfEven (x / ulp k x) ≤ ((10 ^ (k + 1) : ℕ) : ℤ) := by
    rw [← halfEven_intCast ((10 ^ (k + 1) : ℕ) : ℤ)]
    apply halfEven_mono
    rw [div_le_iff₀ hunit]
    push_cast
    have := lt_ulp_mul_pow k hpos
    rw [pow_succ]
    linarith
  refine ⟨(halfEven (x / ulp k x)).toNat, (k - Int.log 10 x).toNat, by omega, ?_⟩
  have hcast : (((halfEven (x / ulp k x)).toNat : ℕ) : ℚ) = halfEven (x / ulp k x) := by
    exact_mod_cast congrArg (fun z : ℤ => (z : ℚ)) (Int.toNat_of_nonneg hnonneg)
  have hpow : (10 : ℚ) ^ (k - Int.log 10 x).toNat = 10 ^ ((k : ℤ) - Int.log 10 x) := by
    rw [← zpow_natCast, Int.toNat_of_nonneg (by omega)]
  have hinv : ulp k x = (10 ^ ((k : ℤ) - Int.log 10 x))⁻¹ := by
    rw [ulp, abs_of_pos hpos, ← zpow_neg, neg_sub]
  rw [hcast, hpow, significant, hinv]
  exact (div_eq_mul_inv _ _).symm

lemma fine_of_significant_lt (hx : 0 ≤ x) (h : significant k x < 10 ^ (k + 1)) :
    Fine k (significant k x) := by
  refine fine_significant hx (lt_of_not_ge fun hlarge => ?_)
  have hshort : Short k (10 ^ (k + 1) : ℕ) := short_natCast le_rfl
  have hle := hshort.le_significant (by exact_mod_cast hlarge)
  push_cast at hle
  exact absurd h (not_lt.mpr hle)

/-! ### Near a whole number -/

/-- What rounding adds to a number. -/
def excess (k : ℕ) (x : ℚ) : ℚ :=
  let units := x / ulp k x
  if 1 / 2 < Int.fract units ∨ Int.fract units = 1 / 2 ∧ ⌊units⌋ % 2 = 1 then
    (1 - Int.fract units) * ulp k x
  else 0

lemma excess_nonneg (k : ℕ) (x : ℚ) : 0 ≤ excess k x := by
  have := Int.fract_lt_one (x / ulp k x)
  simp only [excess]
  split_ifs
  · exact mul_nonneg (by linarith) (ulp_pos k x).le
  · exact le_rfl

/-- A number is rounded down, or up by its excess. -/
lemma excess_cases (k : ℕ) (x : ℚ) :
    (significant k x ≤ x ∧ excess k x = 0) ∨ significant k x = x + excess k x := by
  have hpos := ulp_pos k x
  have hx : x = (⌊x / ulp k x⌋ + Int.fract (x / ulp k x)) * ulp k x := by
    rw [Int.floor_add_fract, div_mul_cancel₀ _ hpos.ne']
  have hnonneg := Int.fract_nonneg (x / ulp k x)
  simp only [excess, significant, halfEven]
  generalize x / ulp k x = units at *
  split_ifs with hdown hup hup hup hup
  · exact absurd hup (by rintro (h | ⟨h, -⟩) <;> linarith)
  · refine .inl ⟨?_, rfl⟩
    nlinarith
  · refine .inr ?_
    push_cast
    nlinarith
  · exact absurd (Or.inl ‹_›) hup
  · rcases hup with h | ⟨-, hodd⟩
    · exact absurd h ‹_›
    · refine .inr ?_
      rw [hodd]
      push_cast
      nlinarith
  · have heven : ⌊units⌋ % 2 = 0 := by
      have hhalf : Int.fract units = 1 / 2 := le_antisymm (not_lt.mp ‹_›) (not_lt.mp hdown)
      have hodd : ⌊units⌋ % 2 ≠ 1 := fun h => hup (.inr ⟨hhalf, h⟩)
      omega
    refine .inl ⟨?_, rfl⟩
    rw [heven]
    push_cast
    nlinarith

/-- What is added to an even number of units is rounded by itself. -/
lemma significant_add {u : ℚ} (hu : 0 < u) {n : ℤ} (hn : Even n) (hg : g = n * u)
    (hulp : ulp k (g + x) = u) : significant k (g + x) = g + halfEven (x / u) * u := by
  have hunits : (g + x) / u = n + x / u := by
    rw [hg, add_div, mul_div_cancel_right₀ _ hu.ne']
  rw [significant, hulp, hunits, halfEven_add_even hn, hg]
  push_cast
  ring

/-- A whole number that is not too large is an even number of any smaller unit. -/
lemma even_units {n : ℕ} {j : ℕ} (hj : 0 < j) : ∃ m : ℤ, Even m ∧ (n : ℚ) = m * (10 ^ j)⁻¹ := by
  refine ⟨n * 10 ^ j, ?_, ?_⟩
  · exact Even.mul_left (Even.pow_of_ne_zero (by decide) hj.ne') _
  · push_cast
    rw [mul_assoc, mul_inv_cancel₀ (by positivity), mul_one]

/-- A little above a whole number, the unit is that of the number. -/
lemma ulp_natCast_add {n : ℕ} (hn : 0 < n) (hx : 0 ≤ x) (hx' : x < 1) :
    ulp k (n + x) = ulp k n := by
  have hone : (1 : ℚ) ≤ n := by exact_mod_cast hn
  have hfloor : ⌊(n : ℚ) + x⌋₊ = n := by
    rw [Nat.floor_eq_iff (by linarith)]
    constructor <;> linarith
  rw [ulp, ulp, abs_of_pos (by linarith), abs_of_pos (by linarith),
    Int.log_of_one_le_right 10 (by linarith : (1 : ℚ) ≤ n + x), hfloor, Int.log_natCast]

lemma ulp_natCast (k n : ℕ) : ulp k n = 10 ^ ((Nat.log 10 n : ℤ) - k) := by
  rw [ulp, Nat.abs_cast, Int.log_natCast]

/-- A little below a whole number, the unit may be a smaller one. -/
lemma ulp_natCast_sub {n : ℕ} (hn : 0 < n) (hx : 0 < x) (hx' : x ≤ 1 / 2) :
    ulp k (n - x) = 10 ^ ((Nat.clog 10 n : ℤ) - 1 - k) := by
  have hone : (1 : ℚ) ≤ n := by exact_mod_cast hn
  have hpos : 0 < (n : ℚ) - x := by linarith
  have hupper : (n : ℚ) - x < ((10 : ℕ) : ℚ) ^ (Nat.clog 10 n : ℤ) := by
    have hle : (n : ℚ) ≤ 10 ^ Nat.clog 10 n := by
      exact_mod_cast Nat.le_pow_clog (by norm_num) n
    rw [zpow_natCast]
    push_cast
    linarith
  have hlower : (10 : ℚ) ^ ((Nat.clog 10 n : ℤ) - 1) ≤ n - x := by
    rcases Nat.eq_or_lt_of_le hn with rfl | hlarge
    · norm_num
      linarith
    · have hlt := Nat.pow_pred_clog_lt_self (b := 10) (by norm_num) hlarge
      have hclog : 0 < Nat.clog 10 n := Nat.clog_pos (by norm_num) hlarge
      have hcast : (10 : ℚ) ^ ((Nat.clog 10 n : ℤ) - 1) = 10 ^ (Nat.clog 10 n).pred := by
        rw [← zpow_natCast]
        congr 1
        have := Nat.pred_eq_sub_one (n := Nat.clog 10 n)
        omega
      have hsucc : ((10 : ℚ) ^ (Nat.clog 10 n).pred) + 1 ≤ n := by exact_mod_cast hlt
      rw [hcast]
      linarith
  have hlog : Int.log 10 ((n : ℚ) - x) = (Nat.clog 10 n : ℤ) - 1 := by
    apply le_antisymm
    · have := (Int.lt_zpow_iff_log_lt (by norm_num) hpos).mp hupper
      omega
    · exact (Int.zpow_le_iff_le_log (b := 10) (by norm_num) hpos).mp (by exact_mod_cast hlower)
  rw [ulp, abs_of_pos hpos, hlog]

end Decimals
