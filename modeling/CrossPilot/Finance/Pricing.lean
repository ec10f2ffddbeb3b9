import CrossPilot.Finance.Accounting

/-!
# Prices for a margin

The landed cost at three prices tells which part of the costs is fixed and which grows with the
price. From both follows the price for a margin, which is then moved by one unit of the last place
if that comes closer to the margin. What rounding does to the lines never looks like a cost that is
not linear (`slopes_within_tolerance`).
-/

namespace CrossPilot

namespace Pricing

open LandedCost

/-- `_PROBE`. -/
def probes : List ℚ := [1, 2, 4]

/-- `_SLOPE_TOLERANCE`. -/
def slopeTolerance : ℚ := 2 / 1000000

/-- One unit of the last place. -/
def step : ℚ := 1 / 1000000

structure PricePoint where
  targetMarginPercent : ℚ
  sellingPrice : Option ℚ
  netMarginPercent : Option ℚ
  reachable : Bool
  formula : String
  deriving DecidableEq

structure PricingResult where
  suggestedPrice : Option ℚ
  breakEvenPrice : Option ℚ
  breakEvenQuantity : Option ℚ
  reachable : Bool
  formula : String
  quantityFormula : String
  currency : String
  curve : List PricePoint
  verified : Option LandedCostResult
  gaps : List String

/-- The input with a selling price. -/
def atPrice (data : LandedCostInput) (price : ℚ) : LandedCostInput :=
  { data with sellingPrice := some price }

/-- `_line`. -/
def lineOf (result : LandedCostResult) (code : LineCode) : Option CostLine :=
  result.lines.find? fun line => line.code = code

/-- The amount of a line, nothing counting as zero. -/
def amountOf (result : LandedCostResult) (code : LineCode) : ℚ :=
  ((lineOf result code).bind CostLine.amount).getD 0

section engine

variable (data : LandedCostInput) (taxes : List TaxFact) (fees : List FeeFact)
  (disabled : List LineCode)

/-- The landed cost at a price. -/
def runAt (price : ℚ) : LandedCostResult :=
  computeLandedCost (atPrice data price) taxes fees disabled

/-- The lines that are not complete at one of the prices. -/
def gapCodes : List LineCode :=
  LineCode.all.filter fun code => probes.any fun price =>
    (lineOf (runAt data taxes fees disabled price) code).all fun line =>
      !line.complete || line.amount.isNone

/-- By how much a line grows with the price: between the first two prices, and the last two. -/
def slopes (code : LineCode) : ℚ × ℚ :=
  let amount (price : ℚ) := amountOf (runAt data taxes fees disabled price) code
  ((amount 2 - amount 1) / (2 - 1), (amount 4 - amount 2) / (4 - 2))

/-- Sum up the fixed and the growing parts, unless a line is not linear. -/
def sumParts : List LineCode → ℚ → ℚ → Option (ℚ × ℚ)
  | [], fixed, growing => some (fixed, growing)
  | code :: rest, fixed, growing =>
    let (slopeAb, slopeBc) := slopes data taxes fees disabled code
    if slopeTolerance < |slopeAb - slopeBc| then none
    else sumParts rest
      (fixed + (amountOf (runAt data taxes fees disabled 1) code - slopeAb * 1)) (growing + slopeAb)

/-- `_decompose`: the fixed part and the part that grows with the price, or the gaps. -/
def decompose : Except (List String) (ℚ × ℚ) :=
  let gaps := gapCodes data taxes fees disabled
  if gaps ≠ [] then .error (gaps.map LineCode.value)
  else
    match sumParts data taxes fees disabled LineCode.all 0 0 with
    | none => .error ["NON_LINEAR"]
    | some parts => .ok parts

/-- What the search for the margin has found: a price, the cost there, and how far off it is. -/
structure Closest where
  price : ℚ
  result : LandedCostResult
  gap : Option ℚ

/-- A candidate is taken if it has a margin that is closer. -/
def Closest.consider (target : ℚ) (best : Closest) (candidate : ℚ) : Closest :=
  if candidate ≤ 0 then best
  else
    let checked := runAt data taxes fees disabled candidate
    match checked.netMarginPercent with
    | none => best
    | some margin =>
      let gap := |margin - target|
      if best.gap.all (gap < ·) then ⟨candidate, checked, some gap⟩ else best

/-- `_match_margin`. -/
def matchMargin (price targetPercent : ℚ) : ℚ × LandedCostResult :=
  let target := quantize targetPercent
  let best := runAt data taxes fees disabled price
  let found := [quantize (price - step), price, quantize (price + step)].foldl
    (Closest.consider data taxes fees disabled target)
    ⟨price, best, best.netMarginPercent.map fun margin => |margin - target|⟩
  (found.price, found.result)

/-- `_quote`. -/
def quote (fixed growing targetPercent : ℚ) (currency : String) : PricePoint :=
  let margin := targetPercent / 100
  if fixed ≤ 0 then
    ⟨targetPercent, none, none, false, "没有与售价无关的成本，净利率恒为 " ++
      moneyText (quantize ((1 - growing) * 100)) ++ "%，不存在唯一建议售价。"⟩
  else
    let denominator := 1 - growing - margin
    if denominator ≤ 0 then
      ⟨targetPercent, none, none, false, "目标净利率 " ++ moneyText targetPercent ++
        "% 加上随售价变化的成本比例 " ++ moneyText growing ++ " 已经不少于 100%，没有能达到该净利率的售价。"⟩
    else
      let (price, checked) := matchMargin data taxes fees disabled (quantize (fixed / denominator))
        targetPercent
      ⟨targetPercent, some price, checked.netMarginPercent, checked.profitComplete,
        "建议售价 = 固定成本 " ++ moneyText fixed ++ " / (1 - 比例系数 " ++ moneyText growing ++
          " - 目标净利率 " ++ moneyText margin ++ ") = " ++ moneyText price ++ " " ++ currency ++ "。"⟩

/-- `_curve_percents`. -/
def curvePercents (target : ℚ) : List ℚ :=
  let final := target + 10
  let points := (List.range (⌊final / 5⌋ + 1).toNat).map fun n => (5 * n : ℚ)
  let points := if target ∈ points then points else points ++ [target]
  let points := if final ∈ points then points else points ++ [final]
  points.insertionSort fun a b => a ≤ b

/-- `_quantity`. -/
def quantityFor (suggested periodFixedCost : Option ℚ) (currency : String) : Option ℚ × String :=
  match periodFixedCost with
  | none => (none, "未填写期间固定成本，只给出保本售价。")
  | some cost =>
    match ((data.sellingPrice.filter (0 < ·)).or suggested).filter (0 < ·) with
    | none => (none, "没有可用售价，保本销量留空。")
    | some reference =>
      match (runAt data taxes fees disabled reference).netProfit.filter (0 < ·) with
      | none => (none, "单位净利不是正数，无法用销量覆盖期间固定成本。")
      | some profit =>
        let quantity := quantize (cost / profit)
        (some quantity, "保本销量 = 期间固定成本 " ++ moneyText cost ++ " " ++ currency ++ " / 单位净利 " ++
          moneyText profit ++ " = " ++ moneyText quantity ++ "。")

/-- `suggest_prices`. -/
def suggestPrices (targetMarginPercent : ℚ) (periodFixedCost : Option ℚ := none) : PricingResult :=
  let currency := data.sellingCurrency
  match decompose data taxes fees disabled with
  | .error gaps =>
    { suggestedPrice := none
      breakEvenPrice := none
      breakEvenQuantity := none
      reachable := false
      formula := if gaps = [] then "有成本项不完整，建议售价留空。"
        else "有成本项不完整（" ++ String.intercalate "、" gaps ++ "），建议售价留空。"
      quantityFormula := "成本不完整，保本销量留空。"
      currency
      curve := []
      verified := some (runAt data taxes fees disabled 1)
      gaps }
  | .ok (fixed, growing) =>
    let quoteFor (percent : ℚ) := quote data taxes fees disabled fixed growing percent currency
    let curve := (curvePercents targetMarginPercent).map quoteFor
    let breakEven := quoteFor 0
    -- the curve has at least the target and is never empty
    let suggested := ((curve.find? fun point => point.targetMarginPercent = targetMarginPercent).or
      curve.getLast?).getD breakEven
    let (quantity, quantityFormula) := quantityFor data taxes fees disabled suggested.sellingPrice
      periodFixedCost currency
    { suggestedPrice := suggested.sellingPrice
      breakEvenPrice := breakEven.sellingPrice
      breakEvenQuantity := quantity
      reachable := suggested.reachable
      formula := suggested.formula
      quantityFormula
      currency
      curve
      verified := suggested.sellingPrice.map (runAt data taxes fees disabled)
      gaps := [] }

end engine

/-! ### How the lines grow -/

variable {data : LandedCostInput} {taxes : List TaxFact} {fees : List FeeFact}
  {off : List LineCode} {price : ℚ}

/-- The rate of a fee that is a share of the price. -/
def rateIn (fees : List FeeFact) (channel : Channel) (feeCode : FeeCode) : ℚ :=
  match pickFee fees feeCode channel with
  | some row => if row.charge = .rate then row.amount else 0
  | none => 0

/-- The share of the price that a line takes. -/
def priceRate (fees : List FeeFact) (channel : Channel) (off : List LineCode) (code : LineCode) : ℚ :=
  if code ∈ off then 0
  else
    match code with
    | .commission => rateIn fees channel .commission
    | .payment => rateIn fees channel .payment
    | .fulfillment => rateIn fees channel .fulfillment
    | .ads => rateIn fees channel .ads
    | .returnLoss => rateIn fees channel .returnRate * rateIn fees channel .returnLoss
    | _ => 0

/-- A line at a price, beside the line at the price zero: both are complete or neither is, and the
line has grown by the rounded share of the price. -/
structure GrowsBy (price rate : ℚ) (start line : CostLine) : Prop where
  code : line.code = start.code
  complete : line.complete = start.complete
  isNone : line.amount = none ↔ start.amount = none
  amount : ∀ a, start.amount = some a → line.amount = some (a + quantize (price * rate))

lemma quantize_zero : quantize 0 = 0 := Decimals.quantize_eq_self Decimals.Fixed.zero

lemma quantize_quantize (x : ℚ) : quantize (quantize x) = quantize x :=
  Decimals.quantize_eq_self (Decimals.fixed_quantize 6 x)

/-- A line that no price changes. -/
lemma GrowsBy.refl (price : ℚ) (line : CostLine) : GrowsBy price 0 line line := by
  refine ⟨rfl, rfl, Iff.rfl, fun a ha => ?_⟩
  rw [mul_zero, quantize_zero, add_zero, ha]

lemma growsBy_ok (code : LineCode) (price rate : ℚ) (currency formula formula' source : String) :
    GrowsBy price rate (ok code (quantize (0 * rate)) currency formula source)
      (ok code (quantize (price * rate)) currency formula' source) := by
  refine ⟨rfl, rfl, by simp [ok], fun a ha => ?_⟩
  have ha : quantize (quantize (0 * rate)) = a := Option.some.inj ha
  rw [← ha, zero_mul, quantize_zero, quantize_zero, zero_add]
  exact congrArg some (quantize_quantize _)

lemma growsBy_rateOfPrice (code : LineCode) (feeCode : FeeCode) (title : String) (price : ℚ)
    (fees : List FeeFact) (channel : Channel) (currency : String) :
    GrowsBy price (rateIn fees channel feeCode)
      (rateOfPrice code feeCode title (some 0) fees channel currency)
      (rateOfPrice code feeCode title (some price) fees channel currency) := by
  unfold rateOfPrice rateIn
  cases pickFee fees feeCode channel with
  | none => exact .refl _ _
  | some row =>
    dsimp only
    by_cases h : row.charge = .rate
    · simp only [h, ne_eq, not_true_eq_false, if_false, if_true]
      exact growsBy_ok ..
    · simp only [h, ne_eq, not_false_eq_true, if_true, if_false]
      exact .refl _ _

lemma growsBy_fulfillment (price : ℚ) (fees : List FeeFact) (channel : Channel)
    (currency : String) : GrowsBy price (rateIn fees channel .fulfillment)
      (fulfillment (some 0) fees channel currency)
      (fulfillment (some price) fees channel currency) := by
  unfold fulfillment rateIn
  cases pickFee fees .fulfillment channel with
  | none => exact .refl _ _
  | some row =>
    dsimp only
    cases hcharge : row.charge with
    | rate => exact growsBy_ok ..
    | fixed => exact .refl _ _
    | perKg => exact .refl _ _
    | perCbm => exact .refl _ _
    | perCbmDay => exact .refl _ _

lemma growsBy_returnLoss (price : ℚ) (fees : List FeeFact) (channel : Channel)
    (currency : String) :
    GrowsBy price (rateIn fees channel .returnRate * rateIn fees channel .returnLoss)
      (returnLoss (some 0) fees channel currency)
      (returnLoss (some price) fees channel currency) := by
  unfold returnLoss rateIn
  cases pickFee fees .returnRate channel with
  | none =>
    dsimp only
    rw [zero_mul]
    exact .refl _ _
  | some left =>
    cases pickFee fees .returnLoss channel with
    | none =>
      dsimp only
      rw [mul_zero]
      exact .refl _ _
    | some right =>
      dsimp only
      by_cases hleft : left.charge = .rate
      · by_cases hright : right.charge = .rate
        · simp only [hleft, hright, ne_eq, not_true_eq_false, or_self, if_false, if_true, mul_assoc]
          exact growsBy_ok ..
        · simp only [hright, ne_eq, not_false_eq_true, or_true, if_true, if_false, mul_zero]
          exact .refl _ _
      · simp only [hleft, ne_eq, not_false_eq_true, true_or, if_true, if_false, zero_mul]
        exact .refl _ _

lemma GrowsBy.gate {rate : ℚ} {start line : CostLine} (h : GrowsBy price rate start line)
    (off : List LineCode) (currency : String) :
    GrowsBy price (if start.code ∈ off then 0 else rate) (gate off currency start)
      (gate off currency line) := by
  unfold LandedCost.gate
  rw [h.code]
  split
  · exact .refl _ _
  · exact h

/-- A line that no price changes takes no share of it. -/
lemma growsBy_flat {line : CostLine} {code : LineCode} (h : line.Sound code)
    (hflat : priceRate fees data.channel off code = 0) :
    GrowsBy price (priceRate fees data.channel off line.code) line line := by
  rw [h.code_eq, hflat]
  exact .refl _ _

lemma growsBy_gate {start line : CostLine} {code : LineCode} {rate : ℚ} {currency : String}
    (hcode : start.code = code) (h : GrowsBy price rate start line)
    (hrate : priceRate fees data.channel off code = if code ∈ off then 0 else rate) :
    GrowsBy price (priceRate fees data.channel off (gate off currency start).code)
      (gate off currency start) (gate off currency line) := by
  have hgate : (gate off currency start).code = start.code := by
    unfold LandedCost.gate
    split <;> rfl
  rw [hgate, hcode, hrate, ← hcode]
  exact h.gate off currency

/-- Every line at a price is the line at the price zero and the rounded share of the price. -/
lemma growsBy_lines (data : LandedCostInput) (taxes : List TaxFact) (fees : List FeeFact)
    (off : List LineCode) (price : ℚ) :
    List.Forall₂ (fun start line => GrowsBy price (priceRate fees data.channel off start.code) start
      line) (runAt data taxes fees off 0).lines (runAt data taxes fees off price).lines := by
  change List.Forall₂ _ (costLines (atPrice data 0) taxes fees off)
    (costLines (atPrice data price) taxes fees off)
  unfold costLines priceLines
  simp only [List.map_cons, List.map_nil, List.cons_append, List.nil_append]
  refine .cons ?_ <| .cons ?_ <| .cons ?_ <| .cons ?_ <| .cons ?_ <| .cons ?_ <| .cons ?_ <|
    .cons ?_ <| .cons ?_ <| .cons ?_ <| .cons ?_ <| .cons ?_ .nil
  · exact growsBy_flat (CostLine.Sound.gate (sound_purchase ..) ..) (ite_self 0)
  · exact growsBy_flat (CostLine.Sound.gate (sound_firstMile ..) ..) (ite_self 0)
  · exact growsBy_flat (CostLine.Sound.gate (sound_duty ..) ..) (ite_self 0)
  · exact growsBy_flat (CostLine.Sound.gate (sound_importTax ..) ..) (ite_self 0)
  · exact growsBy_flat (CostLine.Sound.gate (sound_brokerage ..) ..) (ite_self 0)
  · exact growsBy_flat (CostLine.Sound.gate (sound_storage ..) ..) (ite_self 0)
  · exact growsBy_flat (CostLine.Sound.gate (sound_fxReserve ..) ..) (ite_self 0)
  · exact growsBy_gate (sound_rateOfPrice ..).code_eq (growsBy_rateOfPrice ..) rfl
  · exact growsBy_gate (sound_rateOfPrice ..).code_eq (growsBy_rateOfPrice ..) rfl
  · exact growsBy_gate (sound_fulfillment ..).code_eq (growsBy_fulfillment ..) rfl
  · exact growsBy_gate (sound_rateOfPrice ..).code_eq (growsBy_rateOfPrice ..) rfl
  · exact growsBy_gate (sound_returnLoss ..).code_eq (growsBy_returnLoss ..) rfl

lemma mem_all (code : LineCode) : code ∈ LineCode.all := by
  cases code <;> decide

/-- The lines of a code at the two prices. -/
lemma find?_of_forall₂ {R : CostLine → CostLine → Prop} {starts lines : List CostLine}
    (h : List.Forall₂ R starts lines) (hcode : ∀ start line, R start line → line.code = start.code)
    {code : LineCode} (hmem : code ∈ starts.map CostLine.code) :
    ∃ start line, (starts.find? fun l => l.code = code) = some start ∧
      (lines.find? fun l => l.code = code) = some line ∧ start.code = code ∧ R start line := by
  induction h with
  | nil => cases hmem
  | @cons start line starts lines hgrows _ ih =>
    have hline := hcode _ _ hgrows
    by_cases hstart : start.code = code
    · refine ⟨start, line, ?_, ?_, hstart, hgrows⟩
      · rw [List.find?_cons_of_pos (by simpa using hstart)]
      · rw [List.find?_cons_of_pos (by simpa using hline.trans hstart)]
    · have hrest : code ∈ starts.map CostLine.code := by
        rcases List.mem_cons.mp hmem with rfl | hrest
        · exact absurd rfl hstart
        · exact hrest
      obtain ⟨start', line', hstart', hline', hfound⟩ := ih hrest
      refine ⟨start', line', ?_, ?_, hfound⟩
      · rw [List.find?_cons_of_neg (by simpa using hstart), hstart']
      · rw [List.find?_cons_of_neg (by simpa [hline] using hstart), hline']

lemma exists_lineOf (data : LandedCostInput) (taxes : List TaxFact) (fees : List FeeFact)
    (off : List LineCode) (code : LineCode) (price : ℚ) :
    ∃ start line, lineOf (runAt data taxes fees off 0) code = some start ∧
      lineOf (runAt data taxes fees off price) code = some line ∧
      GrowsBy price (priceRate fees data.channel off code) start line := by
  have hcodes : (runAt data taxes fees off 0).lines.map CostLine.code = LineCode.all :=
    map_code_of_sound (sound_costLines (atPrice data 0) taxes fees off)
  obtain ⟨start, line, hstart, hline, hcode, hgrows⟩ :=
    find?_of_forall₂ (growsBy_lines data taxes fees off price) (fun _ _ h => h.code)
      (hcodes ▸ mem_all code)
  exact ⟨start, line, hstart, hline, hcode ▸ hgrows⟩

/-- The amount of a line with an amount has a fixed part and the rounded share of the price. -/
lemma amountOf_eq (data : LandedCostInput) (taxes : List TaxFact) (fees : List FeeFact)
    (off : List LineCode) (code : LineCode) : ∃ flat rate, ∀ price,
      amountOf (runAt data taxes fees off price) code = flat + quantize (price * rate) := by
  obtain ⟨start, -, hstart, -⟩ := exists_lineOf data taxes fees off code 0
  cases hamount : start.amount with
  | none =>
    refine ⟨0, 0, fun price => ?_⟩
    obtain ⟨start', line, hstart', hline, hgrows⟩ := exists_lineOf data taxes fees off code price
    obtain rfl : start = start' := Option.some.inj (hstart.symm.trans hstart')
    rw [amountOf, hline, Option.bind_some, hgrows.isNone.mpr hamount, mul_zero, quantize_zero]
    simp
  | some flat =>
    refine ⟨flat, priceRate fees data.channel off code, fun price => ?_⟩
    obtain ⟨start', line, hstart', hline, hgrows⟩ := exists_lineOf data taxes fees off code price
    obtain rfl : start = start' := Option.some.inj (hstart.symm.trans hstart')
    rw [amountOf, hline, Option.bind_some, hgrows.amount flat hamount]
    rfl

/-- Rounding makes the slopes of a line differ by one and a half units of the last place at most. -/
lemma abs_slopes_le (rate : ℚ) :
    |(quantize (2 * rate) - quantize (1 * rate)) -
      (quantize (4 * rate) - quantize (2 * rate)) / 2| ≤ 3 / 2000000 := by
  have hone := Decimals.abs_quantize_sub_le 6 (1 * rate)
  have htwo := Decimals.abs_quantize_sub_le 6 (2 * rate)
  have hfour := Decimals.abs_quantize_sub_le 6 (4 * rate)
  simp only [← le_div_iff₀ (by norm_num : (0 : ℚ) < 10 ^ 6), abs_le] at hone htwo hfour
  unfold quantize
  rw [abs_le]
  constructor <;> linarith [hone.1, hone.2, htwo.1, htwo.2, hfour.1, hfour.2]

lemma abs_slopes_lt (data : LandedCostInput) (taxes : List TaxFact) (fees : List FeeFact)
    (off : List LineCode) (code : LineCode) :
    |(slopes data taxes fees off code).1 - (slopes data taxes fees off code).2| <
      slopeTolerance := by
  obtain ⟨flat, rate, h⟩ := amountOf_eq data taxes fees off code
  have hbound := abs_slopes_le rate
  have hsame : (slopes data taxes fees off code).1 - (slopes data taxes fees off code).2 =
      (quantize (2 * rate) - quantize (1 * rate)) -
        (quantize (4 * rate) - quantize (2 * rate)) / 2 := by
    unfold slopes
    simp only [h]
    ring
  rw [hsame, slopeTolerance]
  linarith

/-- The sums of all lines come out. -/
lemma exists_sumParts (data : LandedCostInput) (taxes : List TaxFact) (fees : List FeeFact)
    (off codes : List LineCode) (fixed growing : ℚ) :
    ∃ parts, sumParts data taxes fees off codes fixed growing = some parts := by
  induction codes generalizing fixed growing with
  | nil => exact ⟨_, rfl⟩
  | cons code rest ih =>
    rw [sumParts]
    dsimp only
    rw [if_neg (not_lt.mpr (abs_slopes_lt data taxes fees off code).le)]
    exact ih _ _

/-- No input is refused because a line were not linear: the slopes of every line differ by less than
the tolerance. -/
theorem slopes_within_tolerance (data : LandedCostInput) (taxes : List TaxFact)
    (fees : List FeeFact) (disabled : List LineCode) :
    (∀ code, |(slopes data taxes fees disabled code).1 - (slopes data taxes fees disabled code).2| <
      slopeTolerance) ∧
    ∀ target periodFixedCost, "NON_LINEAR" ∉
      (suggestPrices data taxes fees disabled target periodFixedCost).gaps := by
  refine ⟨abs_slopes_lt data taxes fees disabled, fun target periodFixedCost => ?_⟩
  obtain ⟨parts, hparts⟩ := exists_sumParts data taxes fees disabled LineCode.all 0 0
  have hvalue (code : LineCode) : code.value ≠ "NON_LINEAR" := by
    cases code <;> decide
  unfold suggestPrices decompose
  dsimp only
  rw [hparts]
  split_ifs with h
  · simp [hvalue]
  · simp

end Pricing

end CrossPilot
