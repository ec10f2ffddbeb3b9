import CrossPilot.Finance.Pricing
import CrossPilot.Lib.Table

/-!
# Whether the suggested price has the margin

A price has six decimals, and so has a margin. Where one unit of the last place of the price changes
the margin by more than one unit, no price may have the margin asked for. The search for the margin
looks at three prices, and the suggested price has the margin if and only if one of them does
(`suggestedPrice_aligned_iff`). From some hundreds of units of the currency on, it always comes out
where all rates have six decimals (`aligned_of_large`).
-/

namespace CrossPilot

namespace Pricing

open LandedCost

/-! ### Costs by their fixed part and their rates -/

/-- The cost of what has a fixed part and rates, at a price. -/
def costAt (flat : ℚ) (rates : List ℚ) (price : ℚ) : ℚ :=
  flat + (rates.map fun rate => quantize (price * rate)).sum

/-- The price that would leave the margin, if the costs grew as they do from one to two. -/
def linearPrice (flat : ℚ) (rates : List ℚ) (targetPercent : ℚ) : ℚ :=
  quantize ((2 * costAt flat rates 1 - costAt flat rates 2) /
    (1 - (costAt flat rates 2 - costAt flat rates 1) - targetPercent / 100))

/-- The margin is had at that price or one unit beside it. -/
def Aligned (flat : ℚ) (rates : List ℚ) (targetPercent : ℚ) : Prop :=
  ∃ price ∈ [linearPrice flat rates targetPercent - step, linearPrice flat rates targetPercent,
      linearPrice flat rates targetPercent + step],
    0 < price ∧ quantize ((price - costAt flat rates price) / price * 100) = quantize targetPercent

instance (flat : ℚ) (rates : List ℚ) (targetPercent : ℚ) :
    Decidable (Aligned flat rates targetPercent) :=
  inferInstanceAs (Decidable (∃ price ∈ _, _))

/-- Shares of six decimals are not rounded at whole prices. -/
lemma costAt_of_fixed {rates : List ℚ} (h : ∀ rate ∈ rates, Decimals.Fixed 6 rate) (flat : ℚ)
    (n : ℤ) : costAt flat rates n = flat + n * rates.sum := by
  have hshares : (rates.map fun rate => quantize (n * rate)) =
      rates.map fun rate => (n : ℚ) * rate :=
    List.map_congr_left fun rate hrate => Decimals.quantize_eq_self ((h rate hrate).intMul n)
  rw [costAt, hshares, List.sum_map_mul_left, List.map_id']

/-- Rounding the shares moves their sum by half a unit for each that is not zero, at most. -/
lemma abs_costAt_sub_le (flat : ℚ) (rates : List ℚ) (price : ℚ) :
    |costAt flat rates price - (flat + price * rates.sum)| * 10 ^ 6 ≤
      (rates.countP fun rate => rate ≠ 0) / 2 := by
  induction rates with
  | nil => simp [costAt]
  | cons rate rest ih =>
    have hsplit : costAt flat (rate :: rest) price - (flat + price * (rate :: rest).sum) =
        (quantize (price * rate) - price * rate) +
          (costAt flat rest price - (flat + price * rest.sum)) := by
      simp only [costAt, List.map_cons, List.sum_cons]
      ring
    have hsum := mul_le_mul_of_nonneg_right
      (abs_add_le (quantize (price * rate) - price * rate)
        (costAt flat rest price - (flat + price * rest.sum)))
      (by norm_num : (0 : ℚ) ≤ 10 ^ 6)
    rw [hsplit, List.countP_cons]
    by_cases hzero : rate = 0
    · subst hzero
      rw [mul_zero, quantize, Decimals.quantize_eq_self Decimals.Fixed.zero] at hsum ⊢
      simpa using ih
    · have hround := Decimals.abs_quantize_sub_le 6 (price * rate)
      simp only [hzero, ne_eq, not_false_eq_true, decide_true, if_true, Nat.cast_add, Nat.cast_one]
      rw [quantize] at hsum ⊢
      linarith

/-- With six decimals in the shares and in the target, a price that is large beside the number of
shares has the margin. -/
theorem aligned_of_large {flat targetPercent : ℚ} {rates : List ℚ}
    (hrates : ∀ rate ∈ rates, Decimals.Fixed 6 rate) (htarget : Decimals.Fixed 6 targetPercent)
    (hleft : 0 < 1 - rates.sum - targetPercent / 100)
    (hlarge : 100 * (1 - rates.sum - targetPercent / 100 + rates.countP fun rate => rate ≠ 0) <
      linearPrice flat rates targetPercent) : Aligned flat rates targetPercent := by
  set left := 1 - rates.sum - targetPercent / 100 with hleft_def
  set price := linearPrice flat rates targetPercent with hprice
  have hone : costAt flat rates 1 = flat + rates.sum := by
    simpa using costAt_of_fixed hrates flat 1
  have htwo : costAt flat rates 2 = flat + 2 * rates.sum := by
    simpa using costAt_of_fixed hrates flat 2
  have hlinear : price = quantize (flat / left) := by
    rw [hprice, linearPrice, hone, htwo, hleft_def]
    congr 2 <;> ring
  have hcount : (0 : ℚ) ≤ rates.countP fun rate => rate ≠ 0 := Nat.cast_nonneg _
  have hpos : 0 < price := by linarith
  refine ⟨price, by simp [hprice], hpos, ?_⟩
  rw [quantize, quantize, Decimals.quantize_eq_self htarget]
  apply Decimals.quantize_eq_of_abs_lt htarget
  -- the price is off by half a unit, and so is every share of it
  have hoff : |price * left - flat| * 10 ^ 6 ≤ left / 2 := by
    have hround := Decimals.abs_quantize_sub_le 6 (flat / left)
    rw [← quantize, ← hlinear] at hround
    have hscale : |price * left - flat| = |price - flat / left| * left := by
      rw [← abs_of_pos hleft, ← abs_mul, abs_of_pos hleft, sub_mul, div_mul_cancel₀ _ hleft.ne']
    rw [hscale]
    nlinarith
  have hshares := abs_costAt_sub_le flat rates price
  have hmargin : (price - costAt flat rates price) / price * 100 - targetPercent =
      ((price * left - flat) - (costAt flat rates price - (flat + price * rates.sum))) * 100 /
        price := by
    rw [hleft_def]
    field_simp
    ring
  have habs := abs_sub (price * left - flat) (costAt flat rates price - (flat + price * rates.sum))
  rw [hmargin, abs_div, abs_mul, abs_of_pos hpos, abs_of_pos (by norm_num : (0 : ℚ) < 100),
    div_mul_eq_mul_div, div_lt_iff₀ hpos]
  linarith

variable {data : LandedCostInput} {taxes : List TaxFact} {fees : List FeeFact}
  {off : List LineCode} {price : ℚ}

/-- What the lines cost at the price zero. -/
def flatCost (data : LandedCostInput) (taxes : List TaxFact) (fees : List FeeFact)
    (off : List LineCode) : ℚ := amounts (runAt data taxes fees off 0).lines

/-- The shares of the price that the lines take. -/
def priceRates (fees : List FeeFact) (channel : Channel) (off : List LineCode) : List ℚ :=
  LineCode.all.map (priceRate fees channel off)

/-- Whether all lines have an amount does not depend on the price. -/
def Complete (data : LandedCostInput) (taxes : List TaxFact) (fees : List FeeFact)
    (off : List LineCode) : Prop :=
  ∀ line ∈ (runAt data taxes fees off 0).lines, line.complete = true

lemma lines_runAt (data : LandedCostInput) (taxes : List TaxFact) (fees : List FeeFact)
    (off : List LineCode) (price : ℚ) :
    (runAt data taxes fees off price).lines = costLines (atPrice data price) taxes fees off := rfl

lemma sound_lines {line : CostLine} (h : line ∈ (runAt data taxes fees off price).lines) :
    line.Sound line.code :=
  sound_of_mem h

/-- A line is complete at both prices or at neither. -/
lemma forall_complete_iff {rate : LineCode → ℚ} {starts lines : List CostLine}
    (h : List.Forall₂ (fun start line => GrowsBy price (rate start.code) start line) starts lines) :
    (∀ start ∈ starts, start.complete = true) ↔ ∀ line ∈ lines, line.complete = true := by
  induction h with
  | nil => simp
  | cons hgrows _ ih => rw [List.forall_mem_cons, List.forall_mem_cons, hgrows.complete, ih]

lemma complete_iff_at (price : ℚ) : Complete data taxes fees off ↔
    ∀ line ∈ (runAt data taxes fees off price).lines, line.complete = true :=
  forall_complete_iff (growsBy_lines data taxes fees off price)

/-- Lines with amounts cost their fixed parts and the rounded shares of the price. -/
lemma amounts_of_forall₂ {rate : LineCode → ℚ} {starts lines : List CostLine}
    (h : List.Forall₂ (fun start line => GrowsBy price (rate start.code) start line) starts lines)
    (hstarts : ∀ start ∈ starts, start.amount.isSome = true) :
    amounts lines = costAt (amounts starts) (starts.map fun start => rate start.code) price := by
  induction h with
  | nil => simp [amounts, costAt]
  | @cons start line starts lines hgrows _ ih =>
    obtain ⟨a, ha⟩ := Option.isSome_iff_exists.mp (hstarts start (by simp))
    have hrest := ih fun s hs => hstarts s (by simp [hs])
    simp only [amounts, costAt, List.map_cons, List.sum_cons, ha, hgrows.amount a ha,
      Option.getD_some] at hrest ⊢
    rw [hrest]
    ring

lemma amounts_eq_costAt (h : Complete data taxes fees off) (price : ℚ) :
    amounts (runAt data taxes fees off price).lines =
      costAt (flatCost data taxes fees off) (priceRates fees data.channel off) price := by
  have hcodes : (runAt data taxes fees off 0).lines.map CostLine.code = LineCode.all :=
    map_code_of_sound (sound_costLines (atPrice data 0) taxes fees off)
  rw [priceRates, ← hcodes, List.map_map]
  apply amounts_of_forall₂ (growsBy_lines data taxes fees off price)
  intro start hstart
  rw [← (sound_lines hstart).complete_eq]
  exact h start hstart

/-! ### What the probes tell -/

lemma map_code_lines (data : LandedCostInput) (taxes : List TaxFact) (fees : List FeeFact)
    (off : List LineCode) (price : ℚ) :
    (runAt data taxes fees off price).lines.map CostLine.code = LineCode.all :=
  map_code_of_sound (sound_costLines (atPrice data price) taxes fees off)

lemma lineOf_of_mem {line : CostLine} (h : line ∈ (runAt data taxes fees off price).lines) :
    lineOf (runAt data taxes fees off price) line.code = some line := by
  have hkeyed : Table.Keyed CostLine.code (runAt data taxes fees off price).lines := by
    rw [Table.Keyed, map_code_lines]
    decide
  exact Table.find?_eq_some_of_mem hkeyed h (by simp) fun other hother => by simpa using hother

lemma sum_amountOf (data : LandedCostInput) (taxes : List TaxFact) (fees : List FeeFact)
    (off : List LineCode) (price : ℚ) :
    (LineCode.all.map (amountOf (runAt data taxes fees off price))).sum =
      amounts (runAt data taxes fees off price).lines := by
  rw [← map_code_lines data taxes fees off price, List.map_map, amounts]
  apply congrArg List.sum
  apply List.map_congr_left
  intro line hline
  rw [Function.comp_apply, amountOf, lineOf_of_mem hline]
  rfl

lemma sumParts_eq (data : LandedCostInput) (taxes : List TaxFact) (fees : List FeeFact)
    (off codes : List LineCode) (fixed growing : ℚ) :
    let sumAt (price : ℚ) := (codes.map (amountOf (runAt data taxes fees off price))).sum
    sumParts data taxes fees off codes fixed growing =
      some (fixed + (2 * sumAt 1 - sumAt 2), growing + (sumAt 2 - sumAt 1)) := by
  induction codes generalizing fixed growing with
  | nil => simp [sumParts]
  | cons code rest ih =>
    dsimp only at ih ⊢
    rw [sumParts]
    dsimp only
    rw [if_neg (not_lt.mpr (abs_slopes_lt data taxes fees off code).le), ih]
    simp only [slopes, List.map_cons, List.sum_cons, Option.some.injEq, Prod.mk.injEq]
    constructor <;> ring

/-- The probes tell the parts of what is complete. -/
lemma decompose_eq_ok {fixed growing : ℚ}
    (h : decompose data taxes fees off = .ok (fixed, growing)) :
    Complete data taxes fees off ∧
      let cost := costAt (flatCost data taxes fees off) (priceRates fees data.channel off)
      fixed = 2 * cost 1 - cost 2 ∧ growing = cost 2 - cost 1 := by
  rw [decompose] at h
  split_ifs at h with hgaps
  push Not at hgaps
  have hcomplete : Complete data taxes fees off := by
    rw [complete_iff_at 1]
    intro line hline
    have hnone := (List.filter_eq_nil_iff.mp hgaps) line.code (mem_all line.code)
    simp only [List.any_eq_true, not_exists, not_and, Bool.not_eq_true] at hnone
    have hone := hnone 1 (by simp [probes])
    rw [lineOf_of_mem hline] at hone
    simp only [Option.all_some, Bool.or_eq_false_iff, Bool.not_eq_false'] at hone
    exact hone.1
  refine ⟨hcomplete, ?_⟩
  have hparts := sumParts_eq data taxes fees off LineCode.all 0 0
  simp only [sum_amountOf, amounts_eq_costAt hcomplete, zero_add] at hparts
  rw [hparts] at h
  have hpair := Except.ok.inj h
  simp only [Prod.mk.injEq] at hpair
  exact ⟨hpair.1.symm, hpair.2.symm⟩

/-! ### The search -/

lemma netMarginPercent_of_netProfit {data : LandedCostInput} {net price : ℚ}
    (hnet : (computeLandedCost data taxes fees off).netProfit = some net)
    (hprice : data.sellingPrice = some price) :
    (computeLandedCost data taxes fees off).netMarginPercent =
      if 0 < price then some (quantize (net / price * 100)) else none := by
  dsimp only [computeLandedCost] at hnet ⊢
  rw [hnet, hprice]

/-- The margin of what is complete at a price of six decimals. -/
lemma netMarginPercent_eq (h : Complete data taxes fees off) (hfixed : Decimals.Fixed 6 price) :
    (runAt data taxes fees off price).netMarginPercent = if 0 < price then
      some (quantize ((price - costAt (flatCost data taxes fees off)
        (priceRates fees data.channel off) price) / price * 100)) else none := by
  have hcomplete := (complete_iff_at price).mp h
  have hamounts := amounts_eq_costAt h price
  have hsix := fixed_amounts fun line (hline : line ∈ (runAt data taxes fees off price).lines) =>
    sound_lines hline
  rw [hamounts] at hsix
  rw [lines_runAt] at hcomplete hamounts
  have hnet := netProfit_eq (atPrice data price) taxes fees off
  have hprice : (atPrice data price).sellingPrice = some price := rfl
  rw [hprice, Option.bind_some, if_pos hcomplete, hamounts, quantize,
    Decimals.quantize_eq_self (hfixed.sub hsix)] at hnet
  exact netMarginPercent_of_netProfit hnet hprice

/-- What the search knows after some candidates: where it stands, and that none is closer. -/
structure Found (data : LandedCostInput) (taxes : List TaxFact) (fees : List FeeFact)
    (off : List LineCode) (target start : ℚ) (seen : List ℚ) (best : Closest) : Prop where
  price : best.price ∈ start :: seen
  result : best.result = runAt data taxes fees off best.price
  gap : best.gap = best.result.netMarginPercent.map fun margin => |margin - target|
  least : ∀ candidate ∈ seen, 0 < candidate → ∀ margin,
    (runAt data taxes fees off candidate).netMarginPercent = some margin →
      ∃ gap, best.gap = some gap ∧ gap ≤ |margin - target|

lemma Found.consider {target start : ℚ} {seen : List ℚ} {best : Closest}
    (h : Found data taxes fees off target start seen best) (candidate : ℚ) :
    Found data taxes fees off target start (seen ++ [candidate])
      (Closest.consider data taxes fees off target best candidate) := by
  -- a candidate that is not taken leaves the state, which only has to be the closer one
  have hstay (hleast : 0 < candidate → ∀ margin,
      (runAt data taxes fees off candidate).netMarginPercent = some margin →
        ∃ gap, best.gap = some gap ∧ gap ≤ |margin - target|) :
      Found data taxes fees off target start (seen ++ [candidate]) best := by
    refine ⟨?_, h.result, h.gap, fun other hother => ?_⟩
    · rcases List.mem_cons.mp h.price with heq | hmem
      · exact List.mem_cons.mpr (.inl heq)
      · exact List.mem_cons.mpr (.inr (List.mem_append_left _ hmem))
    · rcases List.mem_append.mp hother with hother | hother
      · exact h.least other hother
      · obtain rfl : other = candidate := by simpa using hother
        exact hleast
  unfold Closest.consider
  split
  · rename_i hle
    exact hstay fun hpos => absurd hpos (not_lt.mpr hle)
  · dsimp only
    split
    · rename_i hnone
      exact hstay fun _ margin hmargin => by
        rw [hnone] at hmargin
        cases hmargin
    · rename_i margin hmargin
      split_ifs with hcloser
      · refine ⟨by simp, rfl, by rw [hmargin]; rfl, fun other hother hpos m hm => ⟨_, rfl, ?_⟩⟩
        rcases List.mem_append.mp hother with hother | hother
        · obtain ⟨gap, hgap, hle⟩ := h.least other hother hpos m hm
          rw [hgap] at hcloser
          simp only [Option.all_some, decide_eq_true_eq] at hcloser
          exact hcloser.le.trans hle
        · obtain rfl : other = candidate := by simpa using hother
          rw [hmargin] at hm
          rw [Option.some.inj hm]
      · apply hstay
        intro _ m hm
        rw [hmargin] at hm
        obtain rfl := Option.some.inj hm
        cases hgap : best.gap with
        | none => simp [hgap] at hcloser
        | some gap =>
          rw [hgap] at hcloser
          simp only [Option.all_some, decide_eq_true_eq, not_lt] at hcloser
          exact ⟨gap, rfl, hcloser⟩

lemma Found.foldl {target start : ℚ} (candidates : List ℚ) {seen : List ℚ} {best : Closest}
    (h : Found data taxes fees off target start seen best) :
    Found data taxes fees off target start (seen ++ candidates)
      (candidates.foldl (Closest.consider data taxes fees off target) best) := by
  induction candidates generalizing seen best with
  | nil => simpa using h
  | cons candidate rest ih => simpa using ih (h.consider candidate)

/-- The search ends at a price with the margin if and only if it comes by one. -/
lemma matchMargin_iff (hcomplete : Complete data taxes fees off) {start : ℚ}
    (hfixed : Decimals.Fixed 6 start) (targetPercent : ℚ) :
    let found := matchMargin data taxes fees off start targetPercent
    found.2 = runAt data taxes fees off found.1 ∧
      (found.2.netMarginPercent = some (quantize targetPercent) ↔
        ∃ price ∈ [start - step, start, start + step], 0 < price ∧
          quantize ((price - costAt (flatCost data taxes fees off)
            (priceRates fees data.channel off) price) / price * 100) = quantize targetPercent) := by
  have hstep : Decimals.Fixed 6 step := ⟨1, by norm_num [step]⟩
  have hdown : quantize (start - step) = start - step :=
    Decimals.quantize_eq_self (hfixed.sub hstep)
  have hup : quantize (start + step) = start + step := Decimals.quantize_eq_self (hfixed.add hstep)
  have hsix : ∀ price ∈ [start - step, start, start + step], Decimals.Fixed 6 price := by
    simp only [List.mem_cons, List.not_mem_nil, or_false]
    rintro price (rfl | rfl | rfl)
    · exact hfixed.sub hstep
    · exact hfixed
    · exact hfixed.add hstep
  have hinit : Found data taxes fees off (quantize targetPercent) start []
      ⟨start, runAt data taxes fees off start,
        (runAt data taxes fees off start).netMarginPercent.map fun margin =>
          |margin - quantize targetPercent|⟩ := ⟨by simp, rfl, rfl, by simp⟩
  have hfound := hinit.foldl [start - step, start, start + step]
  dsimp only [matchMargin]
  rw [hdown, hup]
  generalize [start - step, start, start + step].foldl _ _ = best at hfound
  refine ⟨hfound.result, ?_⟩
  have hprice : best.price ∈ [start - step, start, start + step] := by
    have := hfound.price
    simp only [List.nil_append, List.mem_cons] at this ⊢
    tauto
  rw [hfound.result]
  constructor
  · intro hmargin
    rw [netMarginPercent_eq hcomplete (hsix _ hprice)] at hmargin
    split_ifs at hmargin with hpos
    exact ⟨best.price, hprice, hpos, Option.some.inj hmargin⟩
  · rintro ⟨price, hmem, hpos, hmargin⟩
    have hat := netMarginPercent_eq hcomplete (hsix _ hmem)
    rw [if_pos hpos, hmargin] at hat
    obtain ⟨gap, hgap, hle⟩ := hfound.least price (by simpa using hmem) hpos _ hat
    rw [sub_self, abs_zero] at hle
    rw [hfound.gap, hfound.result] at hgap
    obtain ⟨margin, hmargin', rfl⟩ := Option.map_eq_some_iff.mp hgap
    have hzero := abs_eq_zero.mp (le_antisymm hle (abs_nonneg _))
    rw [hmargin', sub_eq_zero.mp hzero]

/-! ### The suggested price -/

lemma quote_percent (data : LandedCostInput) (taxes : List TaxFact) (fees : List FeeFact)
    (off : List LineCode) (fixed growing percent : ℚ) (currency : String) :
    (quote data taxes fees off fixed growing percent currency).targetMarginPercent = percent := by
  unfold quote
  dsimp only
  split_ifs <;> rfl

lemma mem_curvePercents (target : ℚ) : target ∈ curvePercents target := by
  simp only [curvePercents, List.mem_insertionSort]
  split_ifs <;> simp_all

/-- The target is found on the curve. -/
lemma find?_curve {quoteFor : ℚ → PricePoint}
    (h : ∀ percent, (quoteFor percent).targetMarginPercent = percent) (target : ℚ) :
    (((curvePercents target).map quoteFor).find? fun point =>
      point.targetMarginPercent = target) = some (quoteFor target) := by
  rw [List.find?_map]
  have hfound : ((curvePercents target).find? fun percent => percent = target) = some target := by
    cases hpercent : (curvePercents target).find? fun percent => percent = target with
    | none =>
      have hother := List.find?_eq_none.mp hpercent target (mem_curvePercents target)
      simp at hother
    | some percent =>
      have hsame := List.find?_some hpercent
      rw [of_decide_eq_true hsame]
  simp only [Function.comp_def, h, hfound, Option.map_some]

/-- A suggested price comes from the search around the price of the linear equation. -/
lemma suggestedPrice_eq_some {target price : ℚ} {periodFixedCost : Option ℚ}
    (h : (suggestPrices data taxes fees off target periodFixedCost).suggestedPrice = some price) :
    Complete data taxes fees off ∧
      price = (matchMargin data taxes fees off
        (linearPrice (flatCost data taxes fees off) (priceRates fees data.channel off) target)
        target).1 := by
  unfold suggestPrices at h
  split at h
  · cases h
  · rename_i fixed growing hparts
    obtain ⟨hcomplete, hfixed, hgrowing⟩ := decompose_eq_ok hparts
    refine ⟨hcomplete, ?_⟩
    dsimp only at h
    rw [find?_curve fun percent => quote_percent ..] at h
    simp only [Option.some_or, Option.getD_some] at h
    unfold quote at h
    dsimp only at h
    split_ifs at h
    rw [← Option.some.inj h, linearPrice, ← hfixed, ← hgrowing]

/-- A commission of a fifth, and nothing else that takes a share of the price. -/
def fifthFees : List FeeFact :=
  let fee (feeCode : FeeCode) (charge : Charge) (amount : ℚ) (currency : Option String) : FeeFact :=
    { feeCode, channel := .any, label := "", charge, amount, currency, volumetricDivisor := none
      source := "" }
  [fee .commission .rate (1 / 5) none, fee .payment .rate 0 none,
    fee .fulfillment .fixed 0 (some "USD"), fee .ads .rate 0 none, fee .returnRate .rate 0 none,
    fee .returnLoss .rate 0 none]

/-- The lines before the sale but the purchase. -/
def landedOff : List LineCode :=
  [.firstMile, .duty, .importTax, .brokerage, .storage, .fxReserve]

/-- Goods bought for an amount. -/
def boughtFor (amount : ℚ) : LandedCostInput where
  market := "US"
  sellingCurrency := "USD"
  channel := .air
  firstMileMethod := .weight
  purchaseAmount := some amount
  purchaseCurrency := some "USD"

end Pricing

end CrossPilot
