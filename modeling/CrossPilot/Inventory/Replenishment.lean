import CrossPilot.Lib.Significant

/-!
# Replenishment

How much of a SKU should be ordered, and when, follows from what was sold in a window of days, what
is at hand or on its way, and a safety stock (`suggestReplenishment`). The sales of a day are a
decimal number of 28 digits, and so is everything that is computed from them.

The suggested quantity is the least one that lasts for the lead time and the days to cover, but for
two kinds of inputs. The quotient may be rounded up; if it is multiplied back to more than a whole
number, one piece more than needed is suggested (`Overshoots`). And stock that lasts beyond the end
of the calendar has no date to order on (`BeyondCalendar`).
-/

namespace CrossPilot

open Decimals

/-! ### The engine -/

/-- `date.max.toordinal()`. -/
def maxOrdinal : ℕ := 3652059

/-- A date, counted from the first day of the year one. -/
def CalendarDate : Type := { n : ℕ // 1 ≤ n ∧ n ≤ maxOrdinal }

/-- What the engine raises. -/
inductive EngineError
  | value (message : String)
  | overflow (message : String)

/-- A date some days later, as `today + timedelta(days=days)`. -/
def CalendarDate.plus (today : CalendarDate) (days : ℤ) : Except EngineError CalendarDate :=
  if 999999999 < |days| then .error (.overflow "days must have magnitude <= 999999999")
  else if h : 1 ≤ today.val + days ∧ today.val + days ≤ maxOrdinal then
    .ok ⟨(today.val + days).toNat, by omega⟩
  else .error (.overflow "date value out of range")

/-- `Replenishment`. -/
structure Replenishment where
  suggestedQty : ℤ
  orderOn : Option CalendarDate
  dailySales : ℚ

/-- The result of an operation on decimals, in the default context of 28 digits. -/
def digits28 (x : ℚ) : ℚ := significant 27 x

/-- `suggest_replenishment`. -/
def suggestReplenishment (sold windowDays leadTimeDays coverDays safety movable inTransit : ℤ)
    (today : CalendarDate) : Except EngineError Replenishment :=
  if windowDays < 1 then .error (.value "统计窗口至少 1 天")
  else if sold < 0 ∨ leadTimeDays < 0 ∨ coverDays < 0 ∨ safety < 0 ∨ movable < 0 ∨ inTransit < 0 then
    .error (.value "补货参数不能为负")
  else
    let daily := digits28 (sold / windowDays)
    let needed := digits28 (digits28 (daily * (leadTimeDays + coverDays : ℤ)) + safety)
    let raw := digits28 (digits28 (needed - movable) - inTransit)
    let suggested := if raw ≤ 0 then 0 else ⌈raw⌉
    if daily = 0 then .ok ⟨suggested, if 0 < suggested then some today else none, daily⟩
    else
      let cover := digits28 (movable / daily)
      if cover < leadTimeDays then .ok ⟨suggested, some today, daily⟩
      else
        match today.plus ⌊digits28 (cover - leadTimeDays)⌋ with
        | .error e => .error e
        | .ok orderOn => .ok ⟨suggested, some orderOn, daily⟩

/-! ### Where it goes wrong -/

/-- The need is a whole number that the stock does not exceed, but the sales of a day are rounded
up, by so much that the need for the days to come is rounded up too; and the safety stock adds no
digit that would swallow it. -/
def Overshoots (sold window days safety stock : ℕ) : Prop :=
  window ∣ sold * days ∧ stock * window ≤ sold * days + safety * window ∧
    ulp 27 (sold * days / window : ℕ) < 2 * excess 27 (sold / window) * days ∧
    Nat.log 10 (sold * days / window + safety) = Nat.log 10 (sold * days / window)

/-- The stock lasts for more days than the calendar has. Where it lasts to the first day beyond, the
daily sales may be rounded up by so much that it does not. -/
def BeyondCalendar (sold window lead movable : ℕ) (today : CalendarDate) : Prop :=
  let days := lead + (maxOrdinal - today.val) + 1
  let daily : ℚ := sold / window
  sold ≠ 0 ∧ (days * sold < movable * window ∨ days * sold = movable * window ∧
    2 * days * excess 27 daily ≤
      10 ^ ((Nat.clog 10 days : ℤ) - 28) * (daily + excess 27 daily))

/-! ### The suggested quantity -/

lemma digits28_pos {y : ℚ} (hy : 0 < y) : 0 < digits28 y := by
  have herror : |digits28 y - y| * (2 * 10 ^ 27) ≤ y := abs_significant_sub_mul_le 27 hy.le
  have := (abs_le.mp (le_refl |digits28 y - y|)).1
  linarith

section quantity

variable {sold window days safety movable inTransit : ℕ}

/-- What is needed for some days, as the engine computes it. -/
def neededFor (sold window days safety : ℕ) : ℚ :=
  digits28 (digits28 (digits28 (sold / window) * days) + safety)

/-- Whole numbers are taken away exactly, as long as something is left. -/
lemma suggested_eq {z : ℚ} (hz : Fine 27 z) (movable inTransit : ℕ) :
    let raw := digits28 (digits28 (z - movable) - inTransit)
    (if raw ≤ 0 then 0 else ⌈raw⌉) = max (⌈z⌉ - movable - inTransit) 0 := by
  intro raw
  rcases le_or_gt (movable : ℚ) z with hm | hm
  · have hfirst : digits28 (z - movable) = z - movable := (hz.sub_natCast hm).short.significant
    rcases le_or_gt (inTransit : ℚ) (z - movable) with ht | ht
    · have hraw : raw = z - movable - inTransit := by
        simp only [raw, hfirst]
        exact ((hz.sub_natCast hm).sub_natCast ht).short.significant
      have hceil : ⌈raw⌉ = ⌈z⌉ - movable - inTransit := by
        rw [hraw, Int.ceil_sub_natCast, Int.ceil_sub_natCast]
      by_cases hpos : raw ≤ 0
      · have hzero : ⌈raw⌉ ≤ 0 := Int.ceil_le.mpr (by exact_mod_cast hpos)
        rw [if_pos hpos, max_eq_right (by omega)]
      · have hceilpos : 0 < ⌈raw⌉ := Int.ceil_pos.mpr (not_le.mp hpos)
        rw [if_neg hpos, hceil, max_eq_left (by omega)]
    · have hraw : raw ≤ 0 := by
        simp only [raw, hfirst]
        exact significant_nonpos (by linarith)
      have hceil : ⌈z⌉ ≤ (movable + inTransit : ℕ) := Int.ceil_le.mpr (by push_cast; linarith)
      rw [if_pos hraw, max_eq_right (by push_cast at hceil; omega)]
  · have hraw : raw ≤ 0 := by
      have hfirst : digits28 (z - movable) ≤ 0 := significant_nonpos (by linarith)
      have hnonneg : (0 : ℚ) ≤ inTransit := by positivity
      exact significant_nonpos (by linarith)
    have hceil : ⌈z⌉ ≤ (movable : ℤ) := Int.ceil_le.mpr (by push_cast; linarith)
    rw [if_pos hraw, max_eq_right (by omega)]

/-- The least quantity that makes up for what is missing. -/
lemma isLeast_quantity {z : ℚ} {movable inTransit : ℕ} {q : ℤ} :
    IsLeast {n : ℤ | 0 ≤ n ∧ z ≤ movable + inTransit + n} q ↔
      q = max (⌈z⌉ - movable - inTransit) 0 := by
  have hmem : {n : ℤ | 0 ≤ n ∧ z ≤ movable + inTransit + n} =
      Set.Ici (max (⌈z⌉ - movable - inTransit) 0) := by
    ext n
    have hceil : z ≤ movable + inTransit + n ↔ ⌈z⌉ ≤ movable + inTransit + n := by
      rw [Int.ceil_le]
      push_cast
      rfl
    simp only [Set.mem_ofPred_eq, Set.mem_Ici, hceil]
    omega
  rw [hmem]
  exact ⟨fun h => h.unique isLeast_Ici, fun h => h ▸ isLeast_Ici⟩

/-- The errors of the three roundings are small. -/
lemma abs_neededFor_sub_lt (hw : 0 < window) (h : sold * days + safety * window ≤ 10 ^ 26) :
    |neededFor sold window days safety - ((sold * days : ℚ) / window + safety)| * window < 1 := by
  have hw' : (0 : ℚ) < window := by exact_mod_cast hw
  set y : ℚ := sold / window
  have hynonneg : 0 ≤ y := by positivity
  set q := digits28 y
  have hq : |q - y| * (2 * 10 ^ 27) ≤ y := abs_significant_sub_mul_le 27 hynonneg
  have hqnonneg : 0 ≤ q := significant_nonneg hynonneg
  set p := digits28 (q * days)
  have hp : |p - q * days| * (2 * 10 ^ 27) ≤ q * days :=
    abs_significant_sub_mul_le 27 (by positivity)
  have hpnonneg : 0 ≤ p := significant_nonneg (by positivity)
  have hz : |neededFor sold window days safety - (p + safety)| * (2 * 10 ^ 27) ≤ p + safety :=
    abs_significant_sub_mul_le 27 (by positivity)
  set z := neededFor sold window days safety
  -- each error is small against what is needed
  have hfirst : |q * days - y * days| * (2 * 10 ^ 27) ≤ y * days := by
    rw [← sub_mul, abs_mul, Nat.abs_cast]
    nlinarith [(Nat.cast_nonneg days : (0 : ℚ) ≤ days)]
  have hsum : |z - (y * days + safety)| ≤ |z - (p + safety)| + |p - q * days| +
      |q * days - y * days| := by
    have hsplit : z - (y * days + safety) =
        (z - (p + safety)) + (p - q * days) + (q * days - y * days) := by ring
    rw [hsplit]
    exact abs_add_three _ _ _
  have hqdays := (abs_le.mp (le_refl |q * days - y * days|)).2
  have hpdays := (abs_le.mp (le_refl |p - q * days|)).2
  have hsafety : (0 : ℚ) ≤ safety := by positivity
  have hdays : (0 : ℚ) ≤ y * days := by positivity
  have htotal : |z - (y * days + safety)| * (2 * 10 ^ 27) ≤ 7 * (y * days + safety) := by
    linarith
  have hneed : (y * days + safety) * window = sold * days + safety * window := by
    simp only [y]
    field_simp
  have hbound : (sold * days + safety * window : ℚ) ≤ 10 ^ 26 := by exact_mod_cast h
  have hy : (sold * days : ℚ) / window = y * days := by
    simp only [y]
    ring
  rw [hy]
  have hscaled : |z - (y * days + safety)| * window * (2 * 10 ^ 27) ≤ 7 * 10 ^ 26 := by
    calc |z - (y * days + safety)| * window * (2 * 10 ^ 27)
        = |z - (y * days + safety)| * (2 * 10 ^ 27) * window := by ring
      _ ≤ 7 * (y * days + safety) * window := mul_le_mul_of_nonneg_right htotal hw'.le
      _ = 7 * (sold * days + safety * window) := by rw [mul_assoc, hneed]
      _ ≤ 7 * 10 ^ 26 := by linarith
  linarith

/-- The unit of a whole number that is not too large goes into it an even number of times. -/
lemma even_ulps {n : ℕ} (hn : n ≤ 10 ^ 26) :
    ulp 27 (n : ℚ) ≤ 1 / 10 ∧ ∃ m : ℤ, Even m ∧ (n : ℚ) = m * ulp 27 (n : ℚ) := by
  have hlog : Nat.log 10 n ≤ 26 := by
    calc Nat.log 10 n ≤ Nat.log 10 (10 ^ 26) := Nat.log_mono_right hn
      _ = 26 := Nat.log_pow (by norm_num) 26
  have hulp : ulp 27 (n : ℚ) = (10 ^ (27 - Nat.log 10 n))⁻¹ := by
    rw [ulp_natCast, ← zpow_natCast, ← zpow_neg]
    congr 1
    omega
  rw [hulp]
  refine ⟨?_, even_units (by omega)⟩
  rw [one_div, inv_le_inv₀ (by positivity) (by norm_num)]
  calc (10 : ℚ) = 10 ^ 1 := (pow_one 10).symm
    _ ≤ 10 ^ (27 - Nat.log 10 n) := pow_le_pow_right₀ (by norm_num) (by omega)

/-- A little is added to a whole number, and the sum is rounded. -/
lemma digits28_natCast_add {n : ℕ} (hn : 0 < n) (hn' : n ≤ 10 ^ 26) {x : ℚ} (hx : 0 ≤ x)
    (hx' : x < 1) :
    digits28 (n + x) = n + halfEven (x / ulp 27 (n : ℚ)) * ulp 27 (n : ℚ) := by
  obtain ⟨-, m, heven, hm⟩ := even_ulps hn'
  exact significant_add (ulp_pos 27 n) heven hm (ulp_natCast_add hn hx hx')

/-- A whole number and a very little more come to a few units more at most. -/
lemma digits28_product {n : ℕ} (hn : 0 < n) (hn' : n ≤ 10 ^ 26) {x : ℚ} (hx : 0 ≤ x)
    (hsmall : x * (2 * 10 ^ 27) ≤ n) :
    ∃ m : ℤ, digits28 (n + x) = n + m * ulp 27 (n : ℚ) ∧ 0 ≤ m ∧ m ≤ 5 ∧
      (0 < m ↔ ulp 27 (n : ℚ) < 2 * x) := by
  have hu := ulp_pos 27 (n : ℚ)
  have hlarge : (n : ℚ) ≤ 10 ^ 26 := by exact_mod_cast hn'
  refine ⟨_, digits28_natCast_add hn hn' hx (by linarith), ?_, ?_, ?_⟩
  · refine halfEven_nonneg_iff.mpr ?_
    have : 0 ≤ x / ulp 27 (n : ℚ) := by positivity
    linarith
  · rw [← halfEven_intCast 5]
    apply halfEven_mono
    rw [div_le_iff₀ hu]
    have := lt_ulp_mul_pow 27 (by exact_mod_cast hn : (0 : ℚ) < n)
    push_cast
    linarith
  · rw [← not_le, halfEven_nonpos_iff, div_le_iff₀ hu, not_le]
    constructor <;> intro <;> linarith

/-- A few units more than a whole number stay when another whole number is added, unless the sum
has a digit more. -/
lemma lt_digits28_sum {n safety : ℕ} (hn : 0 < n) (hsum : n + safety ≤ 10 ^ 26) {m : ℤ}
    (hm : 0 ≤ m) (hm' : m ≤ 5) :
    ((n + safety : ℕ) : ℚ) < digits28 (n + m * ulp 27 (n : ℚ) + safety) ↔
      0 < m ∧ Nat.log 10 (n + safety) = Nat.log 10 n := by
  set u := ulp 27 (n : ℚ)
  have hu : 0 < u := ulp_pos 27 n
  have husmall : u ≤ 1 / 10 := (even_ulps (by omega)).1
  have hmcast : (0 : ℚ) ≤ m ∧ (m : ℚ) ≤ 5 := by exact_mod_cast And.intro hm hm'
  set v := ulp 27 ((n + safety : ℕ) : ℚ) with hv
  have hvpos : 0 < v := ulp_pos _ _
  have hadd : (n : ℚ) + m * u + safety = (n + safety : ℕ) + m * u := by
    push_cast
    ring
  rw [hadd, digits28_natCast_add (by omega) hsum (by nlinarith) (by nlinarith),
    lt_add_iff_pos_right]
  by_cases hlog : Nat.log 10 (n + safety) = Nat.log 10 n
  · have hsame : v = u := by rw [hv, ulp_natCast, hlog, ← ulp_natCast]
    rw [← hv, hsame, mul_div_cancel_right₀ _ hu.ne', halfEven_intCast, and_iff_left hlog,
      mul_pos_iff_of_pos_right hu]
    exact Int.cast_pos
  · -- the further digit swallows what was added
    have hlt : Nat.log 10 n < Nat.log 10 (n + safety) :=
      lt_of_le_of_ne (Nat.log_mono_right (by omega)) (Ne.symm hlog)
    have hten : 10 * u ≤ v := by
      rw [hv, ulp_natCast, show u = _ from ulp_natCast 27 n, ← zpow_one_add₀ (by norm_num)]
      exact zpow_le_zpow_right₀ (by norm_num) (by omega)
    have hnone : halfEven (m * u / v) ≤ 0 := halfEven_nonpos_iff.mpr (by
      rw [div_le_iff₀ hvpos]
      nlinarith)
    have hcast : (halfEven (m * u / v) : ℚ) ≤ 0 := by exact_mod_cast hnone
    constructor
    · intro hpos
      nlinarith
    · rintro ⟨-, hsame⟩
      exact absurd hsame hlog

/-- When the engine needs more than the whole number that is needed. -/
lemma lt_neededFor_iff (hw : 0 < window) (hdvd : window ∣ sold * days)
    (h : sold * days + safety * window ≤ 10 ^ 26) :
    ((sold * days / window + safety : ℕ) : ℚ) < neededFor sold window days safety ↔
      ulp 27 (sold * days / window : ℕ) < 2 * excess 27 (sold / window) * days ∧
        Nat.log 10 (sold * days / window + safety) = Nat.log 10 (sold * days / window) := by
  obtain ⟨n, hn⟩ := hdvd
  have hquot : sold * days / window = n := by
    rw [hn, Nat.mul_div_cancel_left _ hw]
  have hdays : (sold / window : ℚ) * days = n := by
    have hcast : (sold * days : ℚ) = window * n := by exact_mod_cast hn
    have hw' : (window : ℚ) ≠ 0 := by exact_mod_cast hw.ne'
    rw [div_mul_eq_mul_div, hcast, mul_div_cancel_left₀ _ hw']
  have hsum : n + safety ≤ 10 ^ 26 := by
    refine le_trans ?_ h
    rw [hn, mul_comm safety, ← Nat.mul_add]
    exact Nat.le_mul_of_pos_left _ hw
  have hshort : ∀ m : ℕ, m ≤ 10 ^ 26 → Short 27 (m : ℚ) := fun m hm =>
    short_natCast (hm.trans (by norm_num))
  have hdaysnonneg : (0 : ℚ) ≤ days := Nat.cast_nonneg days
  rw [hquot]
  rcases excess_cases 27 (sold / window) with ⟨hle, hzero⟩ | hup
  · -- the quotient is not rounded up
    have hp : digits28 (digits28 (sold / window) * days) ≤ n := by
      refine (hshort n (by omega)).significant_le ?_
      rw [← hdays]
      exact mul_le_mul_of_nonneg_right hle hdaysnonneg
    have hz : neededFor sold window days safety ≤ (n + safety : ℕ) := by
      refine (hshort _ hsum).significant_le ?_
      push_cast
      linarith
    have hpos := ulp_pos 27 (n : ℚ)
    rw [hzero, mul_zero, zero_mul]
    constructor
    · intro hlt
      exact absurd hlt (not_lt.mpr hz)
    · rintro ⟨hlt, -⟩
      exact absurd hlt (not_lt.mpr hpos.le)
  have hnonneg := excess_nonneg 27 (sold / window)
  have hsmall : excess 27 (sold / window) * days * (2 * 10 ^ 27) ≤ n := by
    have herror := abs_significant_sub_mul_le 27 (by positivity : (0 : ℚ) ≤ sold / window)
    rw [hup, add_sub_cancel_left, abs_of_nonneg hnonneg] at herror
    rw [← hdays]
    nlinarith
  have hproduct : digits28 (sold / window) * days = n + excess 27 (sold / window) * days := by
    rw [digits28, hup, add_mul, hdays]
  rw [neededFor, hproduct, mul_assoc 2]
  rcases Nat.eq_zero_or_pos n with rfl | hpos
  · -- nothing is needed for the days to come
    have hxzero : excess 27 (sold / window) * (days : ℚ) = 0 := by
      refine le_antisymm ?_ (mul_nonneg hnonneg hdaysnonneg)
      have : excess 27 (sold / window) * (days : ℚ) * (2 * 10 ^ 27) ≤ 0 := by simpa using hsmall
      linarith
    have hsafety : digits28 (digits28 ((0 : ℕ) + 0) + safety) = safety := by
      simp only [digits28, Nat.cast_zero, add_zero, significant_zero, zero_add]
      exact (hshort safety (by omega)).significant
    have hupos := ulp_pos 27 ((0 : ℕ) : ℚ)
    rw [hxzero, hsafety, zero_add]
    constructor
    · intro hlt
      exact absurd hlt (lt_irrefl _)
    · rintro ⟨hlt, -⟩
      linarith
  · obtain ⟨m, hm, hmnonneg, hmle, hmpos⟩ := digits28_product hpos (by omega)
      (mul_nonneg hnonneg hdaysnonneg) hsmall
    rw [hm, lt_digits28_sum hpos hsum hmnonneg hmle, hmpos]

/-- A fraction that is not whole, and a number close to it, are rounded up to the same. -/
lemma ceil_eq_of_not_dvd {a : ℕ} (hw : 0 < window) (hdvd : ¬ window ∣ a) {z : ℚ}
    (hz : |z - (a : ℚ) / window| * window < 1) : ⌈z⌉ = ⌈(a : ℚ) / window⌉ := by
  have hw' : (0 : ℚ) < window := by exact_mod_cast hw
  set c := ⌈(a : ℚ) / window⌉ with hc
  obtain ⟨hlow, hhigh⟩ := Int.ceil_eq_iff.mp hc.symm
  rw [lt_div_iff₀ hw'] at hlow
  rw [div_le_iff₀ hw'] at hhigh
  -- whole numbers of windows are apart
  have hlow' : (c - 1) * window + 1 ≤ (a : ℤ) := by exact_mod_cast hlow
  have hhigh' : (a : ℤ) + 1 ≤ c * window := by
    have hle : (a : ℤ) ≤ c * window := by exact_mod_cast hhigh
    rcases hle.eq_or_lt with heq | hlt
    · exact absurd (Int.natCast_dvd_natCast.mp ⟨c, by rw [heq, mul_comm]⟩) hdvd
    · exact hlt
  have hlowq : ((c : ℚ) - 1) * window + 1 ≤ a := by exact_mod_cast hlow'
  have hhighq : (a : ℚ) + 1 ≤ c * window := by exact_mod_cast hhigh'
  have hscaled : z * window - a = (z - (a : ℚ) / window) * window := by
    rw [sub_mul, div_mul_cancel₀ _ hw'.ne']
  have hz' : |z * window - a| < 1 := by
    rw [hscaled, abs_mul, abs_of_pos hw']
    exact hz
  obtain ⟨hleft, hright⟩ := abs_lt.mp hz'
  refine Int.ceil_eq_iff.mpr ⟨?_, ?_⟩
  · refine lt_of_mul_lt_mul_right ?_ hw'.le
    linarith
  · refine le_of_mul_le_mul_right ?_ hw'
    linarith

/-- The engine suggests what is missing unless it overshoots. -/
lemma quantity_eq_iff (hw : 0 < window) (h : sold * days + safety * window ≤ 10 ^ 26)
    (movable inTransit : ℕ) :
    max (⌈neededFor sold window days safety⌉ - movable - inTransit) 0 =
        max (⌈(sold * days / window + safety : ℚ)⌉ - movable - inTransit) 0 ↔
      ¬ Overshoots sold window days safety (movable + inTransit) := by
  have hw' : (0 : ℚ) < window := by exact_mod_cast hw
  have hclose := abs_neededFor_sub_lt hw h
  set z := neededFor sold window days safety with hz
  by_cases hdvd : window ∣ sold * days
  · have hlt := lt_neededFor_iff hw hdvd h
    obtain ⟨n, hn⟩ := hdvd
    have hquot : sold * days / window = n := by rw [hn, Nat.mul_div_cancel_left _ hw]
    have hexact : (sold * days / window + safety : ℚ) = ((n + safety : ℕ) : ℤ) := by
      have hcast : (sold * days : ℚ) = window * n := by exact_mod_cast hn
      rw [hcast, mul_div_cancel_left₀ _ hw'.ne']
      push_cast
      rfl
    have hstock : (movable + inTransit) * window ≤ sold * days + safety * window ↔
        movable + inTransit ≤ n + safety := by
      rw [hn, mul_comm window n, ← Nat.add_mul, Nat.mul_le_mul_right_iff hw]
    have hover : Overshoots sold window days safety (movable + inTransit) ↔
        movable + inTransit ≤ n + safety ∧ ((n + safety : ℕ) : ℚ) < z := by
      rw [hquot, ← hz] at hlt
      rw [Overshoots, hstock, hquot, hlt]
      exact and_iff_right ⟨n, hn⟩
    rw [hexact, Int.ceil_intCast, hover]
    rw [hexact] at hclose
    have hone : |z - ((n + safety : ℕ) : ℤ)| < 1 := by
      have hwindow : (1 : ℚ) ≤ window := by exact_mod_cast hw
      refine lt_of_le_of_lt ?_ hclose
      exact le_mul_of_one_le_right (abs_nonneg _) hwindow
    obtain ⟨hlow, hhigh⟩ := abs_lt.mp hone
    by_cases hup : ((n + safety : ℕ) : ℚ) < z
    · have hceil : ⌈z⌉ = ((n + safety : ℕ) : ℤ) + 1 := by
        refine Int.ceil_eq_iff.mpr ⟨?_, ?_⟩
        · push_cast at hup ⊢
          linarith
        · push_cast at hhigh ⊢
          linarith
      rw [hceil, and_iff_left hup]
      omega
    · have hceil : ⌈z⌉ = ((n + safety : ℕ) : ℤ) := by
        refine Int.ceil_eq_iff.mpr ⟨?_, ?_⟩
        · linarith
        · exact_mod_cast not_lt.mp hup
      rw [hceil]
      exact iff_of_true rfl fun hand => hup hand.2
  · have hdvd' : ¬ window ∣ sold * days + safety * window := fun hsum =>
      hdvd ((Nat.dvd_add_left (Dvd.intro_left safety rfl)).mp hsum)
    have hfraction : (sold * days / window + safety : ℚ) =
        ((sold * days + safety * window : ℕ) : ℚ) / window := by
      push_cast
      field_simp
    rw [hfraction] at hclose ⊢
    rw [ceil_eq_of_not_dvd hw hdvd' hclose]
    exact iff_of_true rfl fun hover => hdvd hover.1

end quantity

/-! ### The day to order -/

section day

variable {sold window movable days : ℕ}

/-- When the stock lasts for less than a number of days, as the engine computes it. -/
lemma cover_lt_iff (hsold : 0 < sold) (hw : 0 < window) (hdays : 0 < days)
    (h : days * sold ≤ 10 ^ 26) :
    digits28 (movable / digits28 (sold / window)) < days ↔
      ¬ (days * sold < movable * window ∨ days * sold = movable * window ∧
        2 * days * excess 27 (sold / window) ≤
          10 ^ ((Nat.clog 10 days : ℤ) - 28) * (sold / window + excess 27 (sold / window))) := by
  have hw' : (0 : ℚ) < window := by exact_mod_cast hw
  have hsold' : (0 : ℚ) < sold := by exact_mod_cast hsold
  have hdays' : (0 : ℚ) < days := by exact_mod_cast hdays
  have hbound : (days * sold : ℚ) ≤ 10 ^ 26 := by exact_mod_cast h
  have hlarge : days ≤ 10 ^ 26 := (Nat.le_mul_of_pos_right days hsold).trans h
  have hshort : Short 27 (days : ℚ) := short_natCast (hlarge.trans (by norm_num))
  set y : ℚ := sold / window with hy
  have hypos : 0 < y := by positivity
  have hyw : y * window = sold := by
    rw [hy]
    field_simp
  set q := digits28 y
  have herror : |q - y| * (2 * 10 ^ 27) ≤ y := abs_significant_sub_mul_le 27 hypos.le
  have hq := abs_le.mp (le_refl |q - y|)
  have hqpos : 0 < q := digits28_pos hypos
  -- the error of the quotient over all the days
  have hspread : days * |q - y| * window * (2 * 10 ^ 27) ≤ 10 ^ 26 := by
    calc days * |q - y| * window * (2 * 10 ^ 27)
        = days * window * (|q - y| * (2 * 10 ^ 27)) := by ring
      _ ≤ days * window * y := mul_le_mul_of_nonneg_left herror (by positivity)
      _ = days * sold := by rw [mul_assoc, mul_comm (window : ℚ), hyw]
      _ ≤ 10 ^ 26 := hbound
  rcases lt_trichotomy (days * sold) (movable * window) with hlt | heq | hgt
  · have hle : (days : ℚ) ≤ movable / q := by
      have hone : (days * sold : ℚ) + 1 ≤ movable * window := by exact_mod_cast hlt
      rw [le_div_iff₀ hqpos]
      refine le_of_mul_le_mul_right ?_ hw'
      have hstep : days * q * window ≤ days * sold + days * |q - y| * window := by
        rw [← hyw]
        nlinarith [mul_pos hdays' hw']
      linarith
    exact iff_of_false (not_lt.mpr (hshort.le_significant hle)) fun hnot => hnot (.inl hlt)
  · -- the stock lasts for these days exactly
    have hstock : (movable : ℚ) = days * y := by
      have hcast : (days * sold : ℚ) = movable * window := by exact_mod_cast heq
      refine mul_right_cancel₀ hw'.ne' ?_
      rw [← hcast, mul_assoc, hyw]
    have hright : (days * sold < movable * window ∨ days * sold = movable * window ∧
        2 * days * excess 27 y ≤ 10 ^ ((Nat.clog 10 days : ℤ) - 28) * (y + excess 27 y)) ↔
        2 * days * excess 27 y ≤ 10 ^ ((Nat.clog 10 days : ℤ) - 28) * (y + excess 27 y) := by
      rw [or_iff_right heq.not_lt, and_iff_right heq]
    rw [hright, ← not_le, not_iff_not]
    rcases le_or_gt q y with hle | hlt
    · have hzero : excess 27 y = 0 := by
        rcases excess_cases 27 y with ⟨-, hzero⟩ | hup
        · exact hzero
        · refine le_antisymm ?_ (excess_nonneg 27 y)
          have : q = y + excess 27 y := hup
          linarith
      refine iff_of_true (hshort.le_significant ?_) ?_
      · rw [le_div_iff₀ hqpos, hstock]
        exact mul_le_mul_of_nonneg_left hle hdays'.le
      · rw [hzero]
        have : (0 : ℚ) < 10 ^ ((Nat.clog 10 days : ℤ) - 28) := by positivity
        nlinarith
    · have hup : q = y + excess 27 y := by
        rcases excess_cases 27 y with ⟨hle, -⟩ | hup
        · exact absurd hle (not_le.mpr hlt)
        · exact hup
      rw [← hup]
      have hexcess : excess 27 y = q - y := by linarith
      -- the engine sees a little less than these days
      set t : ℚ := days * (q - y) / q with ht
      have hcover : movable / q = days - t := by
        rw [hstock, ht]
        field_simp
        ring
      have htpos : 0 < t := div_pos (mul_pos hdays' (sub_pos.mpr hlt)) hqpos
      have hthalf : t ≤ 1 / 2 := by
        rw [abs_of_pos (sub_pos.mpr hlt)] at herror
        rw [ht, div_le_iff₀ hqpos]
        have hlargeq : (days : ℚ) ≤ 10 ^ 26 := by exact_mod_cast hlarge
        nlinarith
      have hclog : Nat.clog 10 days ≤ 26 := Nat.clog_le_of_le_pow hlarge
      have hulp := ulp_natCast_sub (k := 27) hdays htpos hthalf
      have hexponent : (Nat.clog 10 days : ℤ) - 1 - 27 = (Nat.clog 10 days : ℤ) - 28 := by ring
      rw [Nat.cast_ofNat, hexponent] at hulp
      set u : ℚ := 10 ^ ((Nat.clog 10 days : ℤ) - 28) with hu
      have hupos : 0 < u := by positivity
      have huinv : u = (10 ^ (28 - Nat.clog 10 days))⁻¹ := by
        rw [hu, ← zpow_natCast, ← zpow_neg]
        congr 1
        omega
      obtain ⟨m, heven, hm⟩ := even_units (n := days) (j := 28 - Nat.clog 10 days) (by omega)
      rw [← huinv] at hm
      have hrounded : digits28 (movable / q) = days + halfEven (-t / u) * u := by
        rw [hcover, sub_eq_add_neg]
        exact significant_add hupos heven hm (by rw [← sub_eq_add_neg, hulp])
      rw [hrounded, le_add_iff_nonneg_right, mul_nonneg_iff_of_pos_right hupos, Int.cast_nonneg_iff,
        halfEven_nonneg_iff, div_le_div_iff₀ (by norm_num) hupos, hexcess]
      have htq : 2 * days * (q - y) = 2 * t * q := by
        rw [ht]
        field_simp
      rw [htq, mul_le_mul_iff_left₀ hqpos]
      constructor <;> intro <;> linarith
  · have hc : 0 ≤ movable / q := by positivity
    have hround := abs_significant_sub_mul_le 27 hc
    have hround' := (abs_le.mp (le_refl |significant 27 (movable / q) - movable / q|)).2
    refine iff_of_true (lt_of_not_ge fun hge => ?_) ?_
    · have hone : (movable * window : ℚ) + 1 ≤ days * sold := by exact_mod_cast hgt
      have hle : (days : ℚ) ≤ significant 27 (movable / q) := hge
      have hmany : days * (2 * 10 ^ 27) ≤ movable / q * (2 * 10 ^ 27 + 1) := by linarith
      have hscaled : (days * (2 * 10 ^ 27) * q * window : ℚ) ≤
          movable * window * (2 * 10 ^ 27 + 1) := by
        calc (days * (2 * 10 ^ 27) * q * window : ℚ)
            ≤ movable / q * (2 * 10 ^ 27 + 1) * q * window := by gcongr
          _ = movable * window * (2 * 10 ^ 27 + 1) := by field_simp
      have hstep : days * sold ≤ days * q * window + days * |q - y| * window := by
        rw [← hyw]
        nlinarith [mul_pos hdays' hw']
      linarith
    · rintro (hlt | ⟨heq, -⟩) <;> omega

/-- The day to order on is in the calendar as long as the stock does not last too long. -/
lemma plus_cover_iff {c : ℚ} (hc : 0 ≤ c) {lead : ℕ} (hlead : (lead : ℚ) ≤ digits28 c)
    (today : CalendarDate) (h : lead + (maxOrdinal - today.val) + 1 ≤ 10 ^ 26) :
    (∃ orderOn, today.plus ⌊digits28 (digits28 c - lead)⌋ = .ok orderOn) ↔
      digits28 c < (lead + (maxOrdinal - today.val) + 1 : ℕ) := by
  obtain ⟨hfirst, hlast⟩ := today.property
  set left := maxOrdinal - today.val with hleft
  have hmax : maxOrdinal < 999999999 := by decide
  constructor
  · rintro ⟨orderOn, hok⟩
    refine lt_of_not_ge fun hge => ?_
    have hextra : ((left + 1 : ℕ) : ℚ) ≤ digits28 (digits28 c - lead) := by
      refine Short.le_significant (short_natCast ((by omega : left + 1 ≤ 10 ^ 26).trans
        (by norm_num))) ?_
      push_cast at hge ⊢
      linarith
    have hfloor : ((left + 1 : ℕ) : ℤ) ≤ ⌊digits28 (digits28 c - lead)⌋ :=
      Int.le_floor.mpr (by exact_mod_cast hextra)
    rw [CalendarDate.plus] at hok
    split at hok
    · cases hok
    · rw [dif_neg (by omega)] at hok
      cases hok
  · intro hlt
    have hfine : Fine 27 (digits28 c) := by
      refine fine_of_significant_lt hc (hlt.trans_le ?_)
      have hcast : ((lead + left + 1 : ℕ) : ℚ) ≤ 10 ^ 26 := by exact_mod_cast h
      exact hcast.trans (by norm_num)
    have hexact : digits28 (digits28 c - lead) = digits28 c - lead :=
      (hfine.sub_natCast hlead).short.significant
    rw [hexact]
    have hnonneg : 0 ≤ ⌊digits28 c - lead⌋ := Int.floor_nonneg.mpr (by linarith)
    have hless : ⌊digits28 c - lead⌋ < left + 1 := Int.floor_lt.mpr (by
      push_cast at hlt ⊢
      linarith)
    have hplus : ¬ 999999999 < |⌊digits28 c - (lead : ℚ)⌋| := by
      rw [abs_of_nonneg hnonneg]
      omega
    rw [CalendarDate.plus, if_neg hplus, dif_pos (by omega)]
    exact ⟨_, rfl⟩

end day

/-! ### The whole -/

section whole

variable {sold window lead cover safety movable inTransit : ℕ}

/-- The suggestion, with what is needed and what is at hand as numbers. -/
lemma suggestReplenishment_eq (hw : 0 < window)
    (h : sold * (lead + cover) + safety * window ≤ 10 ^ 26) (today : CalendarDate) :
    let suggested :=
      max (⌈neededFor sold window (lead + cover) safety⌉ - movable - inTransit) 0
    let daily := digits28 (sold / window)
    suggestReplenishment sold window lead cover safety movable inTransit today =
      if daily = 0 then
        .ok ⟨suggested, if 0 < suggested then some today else none, daily⟩
      else if digits28 (movable / daily) < lead then .ok ⟨suggested, some today, daily⟩
      else
        match today.plus ⌊digits28 (digits28 (movable / daily) - lead)⌋ with
        | .error e => .error e
        | .ok orderOn => .ok ⟨suggested, some orderOn, daily⟩ := by
  intro suggested daily
  have hguard : ¬ (window : ℤ) < 1 := by omega
  have hguard' : ¬ ((sold : ℤ) < 0 ∨ (lead : ℤ) < 0 ∨ (cover : ℤ) < 0 ∨ (safety : ℤ) < 0 ∨
      (movable : ℤ) < 0 ∨ (inTransit : ℤ) < 0) := by omega
  have hfine : Fine 27 (neededFor sold window (lead + cover) safety) := by
    have hp : 0 ≤ digits28 (digits28 (sold / window) * (lead + cover : ℕ)) :=
      significant_nonneg (mul_nonneg (significant_nonneg (by positivity)) (by positivity))
    refine fine_of_significant_lt (by positivity) ?_
    have hw' : (1 : ℚ) ≤ window := by exact_mod_cast hw
    have hclose := abs_neededFor_sub_lt hw h
    have habs := (abs_le.mp (le_refl |neededFor sold window (lead + cover) safety -
      ((sold * (lead + cover : ℕ) : ℚ) / window + safety)|)).2
    have hexact : ((sold * (lead + cover : ℕ) : ℚ) / window + safety) * window ≤ 10 ^ 26 := by
      have hcast : (sold * (lead + cover : ℕ) + safety * window : ℚ) ≤ 10 ^ 26 := by
        exact_mod_cast h
      rw [add_mul, div_mul_cancel₀ _ (by positivity)]
      exact hcast
    have hnonneg : 0 ≤ (sold * (lead + cover : ℕ) : ℚ) / window + safety := by positivity
    change neededFor sold window (lead + cover) safety < 10 ^ 28
    nlinarith
  have hquantity := suggested_eq hfine movable inTransit
  simp only [neededFor, Nat.cast_add] at hquantity
  simp only [suggestReplenishment, if_neg hguard, if_neg hguard', Int.cast_natCast, Int.cast_add,
    hquantity]
  simp only [suggested, daily, neededFor, Nat.cast_add]

/-- The suggested quantity is the least that lasts, exactly if the engine neither overshoots nor
looks for a day beyond the calendar. The numbers of a database are far within the bound. -/
theorem suggestReplenishment_isLeast_iff (hw : 0 < window)
    (h : sold * (lead + cover + maxOrdinal) + safety * window ≤ 10 ^ 26) (today : CalendarDate) :
    (∃ suggestion,
      suggestReplenishment sold window lead cover safety movable inTransit today =
        .ok suggestion ∧
      IsLeast {n : ℤ | 0 ≤ n ∧ (sold * (lead + cover) / window + safety : ℚ) ≤
        movable + inTransit + n} suggestion.suggestedQty) ↔
      ¬ Overshoots sold window (lead + cover) safety (movable + inTransit) ∧
        ¬ BeyondCalendar sold window lead movable today := by
  obtain ⟨hfirst, hlast⟩ := today.property
  have hneed : sold * (lead + cover) + safety * window ≤ 10 ^ 26 := by
    refine le_trans (Nat.add_le_add_right (Nat.mul_le_mul_left sold ?_) _) h
    omega
  have hquantity := quantity_eq_iff hw hneed movable inTransit
  push_cast at hquantity
  have hleast (q : ℤ) : IsLeast {n : ℤ | 0 ≤ n ∧
      (sold * (lead + cover) / window + safety : ℚ) ≤ movable + inTransit + n} q ↔
      q = max (⌈(sold * (lead + cover) / window + safety : ℚ)⌉ - movable - inTransit) 0 :=
    isLeast_quantity
  -- a suggestion that is made is right exactly if the engine does not overshoot
  have hright : ∀ (orderOn : Option CalendarDate) (daily : ℚ), (∃ suggestion,
      (Except.ok ⟨max (⌈neededFor sold window (lead + cover) safety⌉ - movable - inTransit) 0,
        orderOn, daily⟩ : Except EngineError Replenishment) = .ok suggestion ∧
      IsLeast {n : ℤ | 0 ≤ n ∧ (sold * (lead + cover) / window + safety : ℚ) ≤
        movable + inTransit + n} suggestion.suggestedQty) ↔
      ¬ Overshoots sold window (lead + cover) safety (movable + inTransit) := by
    intro orderOn daily
    rw [← hquantity]
    constructor
    · rintro ⟨suggestion, hok, hq⟩
      cases hok
      exact (hleast _).mp hq
    · intro heq
      exact ⟨_, rfl, (hleast _).mpr heq⟩
  rw [suggestReplenishment_eq hw hneed today]
  rcases Nat.eq_zero_or_pos sold with rfl | hsold
  · -- nothing was sold
    have hzero : digits28 ((0 : ℕ) / window) = 0 := by
      rw [Nat.cast_zero, zero_div]
      exact significant_zero 27
    have hcalendar : ¬ BeyondCalendar 0 window lead movable today := fun hbeyond => hbeyond.1 rfl
    rw [if_pos hzero, hright, and_iff_left hcalendar]
  have hdaily : 0 < digits28 (sold / window) := digits28_pos (by positivity)
  rw [if_neg hdaily.ne']
  have hdays : (lead + (maxOrdinal - today.val) + 1) * sold ≤ 10 ^ 26 := by
    refine le_trans ?_ h
    rw [mul_comm]
    exact le_trans (Nat.mul_le_mul_left sold (by omega)) (Nat.le_add_right _ _)
  have hcalendar : ¬ BeyondCalendar sold window lead movable today ↔
      digits28 (movable / digits28 (sold / window)) <
        (lead + (maxOrdinal - today.val) + 1 : ℕ) := by
    rw [cover_lt_iff hsold hw (Nat.succ_pos _) hdays, BeyondCalendar, and_iff_right hsold.ne']
  rw [hcalendar]
  by_cases hlead : digits28 (movable / digits28 (sold / window)) < lead
  · -- the stock does not last for the lead time
    have hlt : digits28 (movable / digits28 (sold / window)) <
        (lead + (maxOrdinal - today.val) + 1 : ℕ) := by
      refine hlead.trans_le ?_
      exact_mod_cast (by omega : lead ≤ lead + (maxOrdinal - today.val) + 1)
    rw [if_pos hlead, hright, and_iff_left hlt]
  · have hplus := plus_cover_iff (by positivity) (not_lt.mp hlead) today
      ((Nat.le_mul_of_pos_right _ hsold).trans hdays)
    rw [if_neg hlead, ← hplus]
    cases today.plus ⌊digits28 (digits28 (movable / digits28 (sold / window)) - lead)⌋ with
    | error e =>
      constructor
      · rintro ⟨suggestion, hok, -⟩
        cases hok
      · rintro ⟨-, orderOn, hok⟩
        cases hok
    | ok orderOn => rw [hright, and_iff_left ⟨orderOn, rfl⟩]

end whole

def newYear : CalendarDate := ⟨739617, by decide⟩

/-- Ten pieces in a week, for eight days: the engine suggests the least quantity that lasts. -/
theorem suggestReplenishment_isLeast_iff_week : ∃ suggestion,
    suggestReplenishment 10 7 3 5 2 1 1 newYear = .ok suggestion ∧
    IsLeast {n : ℤ | 0 ≤ n ∧ ((10 : ℕ) * ((3 : ℕ) + (5 : ℕ)) / (7 : ℕ) + (2 : ℕ) : ℚ) ≤
      (1 : ℕ) + (1 : ℕ) + n} suggestion.suggestedQty := by
  have hover : ¬ Overshoots 10 7 (3 + 5) 2 (1 + 1) := fun h => absurd h.1 (by decide)
  have hbeyond : ¬ BeyondCalendar 10 7 3 1 newYear := by
    have hless : 1 * 7 < (3 + (maxOrdinal - newYear.val) + 1) * 10 := by decide
    rintro ⟨-, hlt | ⟨heq, -⟩⟩
    · exact absurd hlt (not_lt.mpr hless.le)
    · exact absurd heq hless.ne'
  exact (suggestReplenishment_isLeast_iff (by decide) (by decide) newYear).mpr ⟨hover, hbeyond⟩

/-- One piece in six days is a sixth of a piece a day, rounded up. For eighteen days the engine
suggests four pieces, where three are enough. -/
theorem one_piece_too_many :
    (suggestReplenishment 1 6 18 0 0 0 0 newYear).toOption.map (·.suggestedQty) = some 4 ∧
      (1 * (18 + 0) / 6 + 0 : ℚ) ≤ 0 + 0 + 3 := by
  refine ⟨by decide +kernel, by norm_num⟩

end CrossPilot
