import CrossPilot.Lib.Optional
import CrossPilot.Purchase.Shipments

/-!
# What a unit costs on arrival

Where no price, rate or fee is negative, no line of a landed cost is. What a shipment asks the cost
of always has its first mile, and that is what a unit bears of the shipment; the landed cost is the
sum of its lines as soon as all of them are complete.
-/

namespace CrossPilot

open Table

namespace LandedCost

variable {data : LandedCostInput} {taxes : List TaxFact} {fees : List FeeFact}
  {off : List LineCode} {currency : String} {line : CostLine}

/-! ### Rules that are picked -/

lemma mem_of_pickTax {taxType : TaxType} {hsCode : String} {fact : TaxFact}
    (h : pickTax taxes taxType hsCode = some fact) : fact ∈ taxes := by
  have hrows : ∀ row ∈ taxes.filter fun row => row.taxType = taxType, row ∈ taxes :=
    fun row hrow => (List.mem_filter.mp hrow).1
  unfold pickTax at h
  dsimp only at h
  split at h
  · split at h
    · rename_i row heq
      obtain rfl := Option.some.inj h
      have hmem : row ∈ [row] := by simp
      rw [← heq] at hmem
      exact hrows row (List.mem_filter.mp hmem).1
    · cases h
  · exact hrows fact (List.mem_filter.mp (List.argmax_mem (Option.mem_def.mpr h))).1

lemma mem_of_pickLabel {rows chosen : List FeeFact} {channel : Channel} {label : String}
    (h : pickLabel rows channel label = some chosen) : ∀ row ∈ chosen, row ∈ rows := by
  unfold pickLabel at h
  dsimp only at h
  split at h
  · cases h
    simp
  · rename_i row heq
    cases h
    intro found hfound
    rw [← heq] at hfound
    split_ifs at hfound
    · exact (List.mem_filter.mp hfound).1
    · exact (List.mem_filter.mp hfound).1
  · cases h

lemma mem_of_pickFees {feeCode : FeeCode} {channel : Channel} {chosen : List FeeFact}
    (h : pickFees fees feeCode channel = some chosen) : ∀ row ∈ chosen, row ∈ fees := by
  intro row hrow
  obtain ⟨groups, hgroups, rfl⟩ := Option.map_eq_some_iff.mp h
  obtain ⟨group, hgroup, hmem⟩ := List.mem_flatten.mp hrow
  obtain ⟨label, -, hlabel⟩ := Optional.exists_of_mem hgroups hgroup
  exact (List.mem_filter.mp (mem_of_pickLabel hlabel row hmem)).1

lemma mem_of_pickFee {feeCode : FeeCode} {channel : Channel} {fact : FeeFact}
    (h : pickFee fees feeCode channel = some fact) : fact ∈ fees := by
  unfold pickFee at h
  split at h
  · rename_i row heq
    obtain rfl := Option.some.inj h
    exact mem_of_pickFees heq row (by simp)
  · cases h

/-! ### No line is negative -/

/-- The amount of a line, if it has one, is not negative. -/
def CostLine.Nonneg (line : CostLine) : Prop := ∀ amount, line.amount = some amount → 0 ≤ amount

/-- No amount of the input is negative. -/
structure LandedCostInput.Nonneg (data : LandedCostInput) : Prop where
  purchase : ∀ amount, data.purchaseAmount = some amount → 0 ≤ amount
  weight : ∀ amount, data.weightG = some amount → 0 ≤ amount
  volume : ∀ amount, data.volumeCm3 = some amount → 0 ≤ amount
  declared : ∀ amount, data.declaredValue = some amount → 0 ≤ amount
  shipment : ∀ amount, data.shipmentCost = some amount → 0 ≤ amount

@[simp] lemma nonneg_gap (code : LineCode) (currency formula source : String) :
    (gap code currency formula source).Nonneg := fun _ h => by cases h

lemma nonneg_ok {code : LineCode} {amount : ℚ} {formula source : String} (h : 0 ≤ amount) :
    (ok code amount currency formula source).Nonneg := by
  intro a ha
  rw [← Option.some.inj ha]
  exact Decimals.quantize_nonneg h

lemma CostLine.Nonneg.gate (h : line.Nonneg) : (gate off currency line).Nonneg := by
  unfold LandedCost.gate
  split
  · intro a ha
    exact (Option.some.inj ha).le
  · exact h

lemma nonneg_of_declaredIn (h : data.Nonneg) {declared : ℚ}
    (hdeclared : declaredIn data currency = some declared) : 0 ≤ declared := by
  unfold declaredIn at hdeclared
  split_ifs at hdeclared
  exact h.declared declared hdeclared

lemma nonneg_purchase (h : data.Nonneg) : (purchase data currency).Nonneg := by
  unfold purchase
  split
  · rename_i paid paidIn hpaid _
    have hpaid := h.purchase paid hpaid
    dsimp only
    split
    · exact nonneg_ok (Decimals.quantize_nonneg hpaid)
    · split
      · simp
      · rename_i rate hrate
        have hpos : 0 < rate := by simpa using (Option.filter_eq_some_iff.mp hrate).2
        exact nonneg_ok (Decimals.quantize_nonneg (div_nonneg hpaid hpos.le))
  · simp

section rules

variable (htaxes : ∀ fact ∈ taxes, 0 ≤ fact.rate) (hfees : ∀ fact ∈ fees, 0 ≤ fact.amount)

include htaxes in
lemma nonneg_duty (h : data.Nonneg) : (duty data taxes currency).Nonneg := by
  unfold duty
  split
  · simp
  · rename_i fact hfact
    have hrate := htaxes fact (mem_of_pickTax hfact)
    dsimp only
    split
    · simp
    · rename_i declared hdeclared
      have hdeclared := nonneg_of_declaredIn h hdeclared
      split
      · simp
      · exact nonneg_ok le_rfl
      · exact nonneg_ok (Decimals.quantize_nonneg (mul_nonneg hdeclared hrate))

lemma nonneg_of_importTaxPart {declared dutyAmount : ℚ} {fact : TaxFact}
    {part : ℚ × String × String} (hdeclared : 0 ≤ declared) (hduty : 0 ≤ dutyAmount)
    (hrate : 0 ≤ fact.rate) (h : importTaxPart declared dutyAmount currency fact = .ok part) :
    0 ≤ part.1 := by
  unfold importTaxPart at h
  dsimp only at h
  split at h
  · cases h
  · cases h
    exact le_rfl
  · cases h
    apply Decimals.quantize_nonneg
    positivity

lemma nonneg_of_mapM_error {declared dutyAmount : ℚ} {facts : List TaxFact}
    (h : facts.mapM (importTaxPart declared dutyAmount currency) = .error line) : line.Nonneg := by
  obtain ⟨fact, -, herror⟩ := Fallible.exists_of_error h
  unfold importTaxPart at herror
  dsimp only at herror
  split at herror
  · cases herror
    simp
  · cases herror
  · cases herror

include htaxes in
lemma nonneg_importTax (h : data.Nonneg) {duty : CostLine} (hduty : duty.Nonneg) :
    (importTax data taxes currency duty).Nonneg := by
  unfold importTax
  split
  · simp
  · split
    · rename_i declared dutyAmount hdeclared hamount
      have hdeclared := nonneg_of_declaredIn h hdeclared
      have hamount : 0 ≤ dutyAmount := by
        split_ifs at hamount
        exact hduty dutyAmount hamount
      split
      · rename_i hgap
        exact nonneg_of_mapM_error hgap
      · rename_i parts hparts
        apply nonneg_ok
        apply List.sum_nonneg
        intro part hpart
        obtain ⟨whole, hwhole, rfl⟩ := List.mem_map.mp hpart
        obtain ⟨fact, hfact, heq⟩ := Fallible.exists_of_mem hparts hwhole
        obtain ⟨taxType, -, hpick⟩ := List.mem_filterMap.mp hfact
        exact nonneg_of_importTaxPart hdeclared hamount (htaxes fact (mem_of_pickTax hpick)) heq
    · simp

include hfees in
lemma nonneg_brokerage : (brokerage data fees currency).Nonneg := by
  unfold brokerage
  split
  · simp
  · simp
  · rename_i chosen _ hchosen
    split
    · simp
    · split
      · simp
      · apply nonneg_ok
        apply List.sum_nonneg
        intro amount hamount
        obtain ⟨row, hrow, rfl⟩ := List.mem_map.mp hamount
        exact Decimals.quantize_nonneg (hfees row (mem_of_pickFees hchosen row hrow))

include hfees in
lemma nonneg_storage (h : data.Nonneg) : (storage data fees currency).Nonneg := by
  unfold storage
  split
  · simp
  · exact nonneg_ok le_rfl
  · split
    · simp
    · rename_i row hrow
      have hamount := hfees row (mem_of_pickFee hrow)
      dsimp only
      split
      · simp
      · split
        · simp
        · rename_i volume hvolume
          have hvolume := h.volume volume hvolume
          apply nonneg_ok
          apply Decimals.quantize_nonneg
          positivity

lemma nonneg_allocate (h : data.Nonneg) {purchase : CostLine} (hpurchase : purchase.Nonneg) :
    (allocate data currency purchase).Nonneg := by
  unfold allocate
  split
  · simp
  · rename_i cost hcost
    have hcost : 0 ≤ cost := by
      split_ifs at hcost
      exact h.shipment cost hcost
    split
    · rename_i unit whole unitName hmetrics
      have hunit : 0 ≤ unit := by
        unfold allocationMetrics at hmetrics
        split at hmetrics
        · exact h.weight unit (congrArg Prod.fst hmetrics)
        · exact h.volume unit (congrArg Prod.fst hmetrics)
        · have hvalue := congrArg Prod.fst hmetrics
          dsimp only at hvalue
          split_ifs at hvalue
          · exact hpurchase unit hvalue
          · exact nonneg_of_declaredIn h hvalue
      split
      · simp
      · rename_i hwhole
        exact nonneg_ok (Decimals.quantize_nonneg
          (div_nonneg (mul_nonneg hcost hunit) (not_le.mp hwhole).le))
    · simp

/-- A weight that is charged is one that was given, or follows from the volume. -/
lemma nonneg_of_chargeableWeight (h : data.Nonneg) {row : FeeFact} {weight : ℚ}
    (hweight : [(chargeableWeight data row).1, (chargeableWeight data row).2].reduceOption.max? =
      some weight) : 0 ≤ weight := by
  obtain ⟨given, hgiven, hmem⟩ := List.mem_filterMap.mp (List.max?_mem hweight)
  rw [show given = some weight from hmem] at hgiven
  simp only [List.mem_cons, List.not_mem_nil, or_false] at hgiven
  rcases hgiven with hmem | hmem
  · obtain ⟨grams, hgrams, rfl⟩ := Option.map_eq_some_iff.mp hmem.symm
    have := h.weight grams hgrams
    positivity
  · unfold chargeableWeight at hmem
    dsimp only at hmem
    split at hmem
    · rename_i divisor volume _ hvolume
      split_ifs at hmem
      have := h.volume volume hvolume
      rw [Option.some.inj hmem]
      positivity
    · cases hmem

include hfees in
lemma nonneg_chargeable (h : data.Nonneg) : (chargeable data fees currency).Nonneg := by
  unfold chargeable
  split
  · simp
  · rename_i row hrow
    have hamount := hfees row (mem_of_pickFee hrow)
    dsimp only
    split
    · simp
    · split
      · exact nonneg_ok hamount
      · split
        · simp
        · rename_i volume hvolume
          have hvolume := h.volume volume hvolume
          apply nonneg_ok
          apply Decimals.quantize_nonneg
          positivity
      · split
        · simp
        · rename_i weight hweight
          have hweight := nonneg_of_chargeableWeight h hweight
          exact nonneg_ok (Decimals.quantize_nonneg (mul_nonneg hweight hamount))
      · simp

include hfees in
lemma nonneg_firstMile (h : data.Nonneg) {purchase : CostLine} (hpurchase : purchase.Nonneg) :
    (firstMile data fees currency purchase).Nonneg := by
  unfold firstMile
  split
  · exact nonneg_allocate h hpurchase
  · exact nonneg_allocate h hpurchase
  · exact nonneg_allocate h hpurchase
  · exact nonneg_chargeable hfees h
  · simp

include hfees in
lemma nonneg_fxReserve {channel : Channel} {parts : List CostLine}
    (hparts : ∀ part ∈ parts, part.Nonneg) : (fxReserve fees channel currency parts).Nonneg := by
  unfold fxReserve
  split
  · simp
  · rename_i row hrow
    have hamount := hfees row (mem_of_pickFee hrow)
    dsimp only
    split
    · simp
    · split
      · simp
      · rename_i base hbase
        have hbase : 0 ≤ base := by
          unfold total at hbase
          split_ifs at hbase
          rw [← Option.some.inj hbase]
          apply Decimals.quantize_nonneg
          apply List.sum_nonneg
          intro amount hamount
          obtain ⟨part, hpart, heq⟩ := List.mem_filterMap.mp hamount
          exact hparts part hpart amount heq
        exact nonneg_ok (Decimals.quantize_nonneg (mul_nonneg hbase hamount))

include htaxes hfees in
/-- No line of the landed cost is negative. -/
theorem nonneg_costLines (h : data.Nonneg) :
    ∀ line ∈ costLines data taxes fees off, line.code ∈ landedCodes → line.Nonneg := by
  have hpurchase : (gate off data.sellingCurrency (purchase data data.sellingCurrency)).Nonneg :=
    (nonneg_purchase h).gate
  have hduty : (gate off data.sellingCurrency (duty data taxes data.sellingCurrency)).Nonneg :=
    (nonneg_duty htaxes h).gate
  intro line hline hcode
  simp only [costLines, priceLines, List.map_cons, List.map_nil, List.cons_append,
    List.nil_append, List.mem_cons, List.not_mem_nil, or_false] at hline
  rcases hline with rfl | rfl | rfl | rfl | rfl | rfl | rfl | rfl | rfl | rfl | rfl | rfl
  · exact hpurchase
  · exact (nonneg_firstMile hfees h hpurchase).gate
  · exact hduty
  · exact (nonneg_importTax htaxes h hduty).gate
  · exact (nonneg_brokerage hfees).gate
  · exact (nonneg_storage hfees h).gate
  · refine (nonneg_fxReserve hfees fun part hpart => ?_).gate
    simp only [List.mem_cons, List.not_mem_nil, or_false] at hpart
    rcases hpart with rfl | rfl | rfl | rfl | rfl | rfl
    · exact hpurchase
    · exact (nonneg_firstMile hfees h hpurchase).gate
    · exact hduty
    · exact (nonneg_importTax htaxes h hduty).gate
    · exact (nonneg_brokerage hfees).gate
    · exact (nonneg_storage hfees h).gate
  · rw [((sound_rateOfPrice ..).gate _ _).code_eq] at hcode
    exact absurd hcode (by decide)
  · rw [((sound_rateOfPrice ..).gate _ _).code_eq] at hcode
    exact absurd hcode (by decide)
  · rw [((sound_fulfillment ..).gate _ _).code_eq] at hcode
    exact absurd hcode (by decide)
  · rw [((sound_rateOfPrice ..).gate _ _).code_eq] at hcode
    exact absurd hcode (by decide)
  · rw [((sound_returnLoss ..).gate _ _).code_eq] at hcode
    exact absurd hcode (by decide)

end rules

/-! ### The lines of a code -/

lemma keyed_costLines : Keyed CostLine.code (costLines data taxes fees off) := by
  unfold Keyed
  rw [map_code_of_sound (sound_costLines data taxes fees off)]
  decide

end LandedCost

namespace Purchasing

open FirstMile (AllocOutput)
open LandedCost
open Pricing (amountOf lineOf)
open LandedCostService (taxFacts feeFacts disabled)

section binding

variable {data : LandedCostInput} {taxes : List TaxFact} {fees : List FeeFact}
  {off : List LineCode} {formula source : String}

/-- A line with another formula and another source. -/
def explained (formula source : String) (line : CostLine) : CostLine :=
  if line.code = .firstMile ∧ line.complete = true ∧ line.amount.isSome then
    { line with formula, source }
  else line

@[simp] lemma code_explained (line : CostLine) : (explained formula source line).code = line.code := by
  unfold explained
  split <;> rfl

@[simp] lemma amount_explained (line : CostLine) :
    (explained formula source line).amount = line.amount := by
  unfold explained
  split <;> rfl

@[simp] lemma complete_explained (line : CostLine) :
    (explained formula source line).complete = line.complete := by
  unfold explained
  split <;> rfl

lemma lines_bindFirstMile (result : LandedCostResult) :
    (bindFirstMile result formula source).lines = result.lines.map (explained formula source) := rfl

/-- The explanation of the first mile changes no amount. -/
lemma amountOf_bindFirstMile (result : LandedCostResult) (code : LineCode) :
    amountOf (bindFirstMile result formula source) code = amountOf result code := by
  have hfind : lineOf (bindFirstMile result formula source) code =
      (lineOf result code).map (explained formula source) := by
    unfold lineOf
    rw [lines_bindFirstMile, List.find?_map]
    simp
  unfold amountOf
  rw [hfind]
  cases lineOf result code <;> simp

lemma total_explained (lines : List CostLine) :
    LandedCost.total (lines.map (explained formula source)) = LandedCost.total lines := by
  have hamounts : (lines.map (explained formula source)).filterMap CostLine.amount =
      lines.filterMap CostLine.amount := by
    rw [List.filterMap_map]
    congr 1
    funext line
    simp
  unfold LandedCost.total
  rw [hamounts]
  simp

lemma landedCost_bindFirstMile (result : LandedCostResult) :
    (bindFirstMile result formula source).landedCost =
      LandedCost.total (result.lines.filter fun line => line.code ∈ landedCodes) := by
  have hfilter : (result.lines.map (explained formula source)).filter
      (fun line => line.code ∈ landedCodes) =
        (result.lines.filter fun line => line.code ∈ landedCodes).map (explained formula source) := by
    rw [List.filter_map]
    simp [Function.comp_def]
  unfold bindFirstMile
  change LandedCost.total ((result.lines.map (explained formula source)).filter _) = _
  rw [hfilter, total_explained]

lemma incompleteLanded_bindFirstMile (result : LandedCostResult) :
    incompleteLanded (bindFirstMile result formula source) = [] ↔
      ∀ line ∈ result.lines.filter fun line => line.code ∈ landedCodes, line.complete = true := by
  unfold incompleteLanded
  rw [lines_bindFirstMile]
  simp [List.filter_eq_nil_iff]

/-- The amount of a line is found under its code. -/
lemma amountOf_computeLandedCost {line : CostLine} (h : line ∈ costLines data taxes fees off) :
    amountOf (computeLandedCost data taxes fees off) line.code = line.amount.getD 0 := by
  have hfind : lineOf (computeLandedCost data taxes fees off) line.code = some line :=
    (find?_eq_some_iff keyed_costLines).mpr ⟨h, rfl⟩
  unfold amountOf
  rw [hfind]
  rfl

lemma amounts_landed : amounts ((costLines data taxes fees off).filter fun line =>
    line.code ∈ landedCodes) =
      (landedCodes.map (amountOf (computeLandedCost data taxes fees off))).sum := by
  have hcodes : ((costLines data taxes fees off).filter fun line =>
      line.code ∈ landedCodes).map CostLine.code = landedCodes := by
    have hfilter : ((costLines data taxes fees off).filter fun line =>
        line.code ∈ landedCodes).map CostLine.code =
          ((costLines data taxes fees off).map CostLine.code).filter fun code =>
            code ∈ landedCodes := by
      rw [List.filter_map]
      rfl
    rw [hfilter, map_code_of_sound (sound_costLines data taxes fees off)]
    decide
  unfold amounts
  rw [← hcodes, List.map_map, hcodes]
  apply congrArg List.sum
  apply List.map_congr_left
  intro line hline
  exact (amountOf_computeLandedCost (List.mem_filter.mp hline).1).symm

/-- The landed cost is there as soon as its lines are complete, and is their sum. -/
structure Costed (cost : LandedCostResult) : Prop where
  complete_iff : incompleteLanded cost = [] ↔ cost.landedCost.isSome
  landed : ∀ x, cost.landedCost = some x → x = (landedCodes.map (amountOf cost)).sum
  fixed : ∀ code, Decimals.Fixed 6 (amountOf cost code)

lemma costed_bindFirstMile :
    Costed (bindFirstMile (computeLandedCost data taxes fees off) formula source) := by
  have hsound : ∀ line ∈ (costLines data taxes fees off).filter fun line => line.code ∈ landedCodes,
      line.Sound line.code := fun line hline => sound_of_mem (List.mem_filter.mp hline).1
  have htotal := total_eq hsound
  have hamount (code : LineCode) : amountOf (bindFirstMile (computeLandedCost data taxes fees off)
      formula source) code = amountOf (computeLandedCost data taxes fees off) code :=
    amountOf_bindFirstMile _ code
  refine ⟨?_, fun x hx => ?_, fun code => ?_⟩
  · rw [incompleteLanded_bindFirstMile, landedCost_bindFirstMile]
    change (∀ line ∈ (costLines data taxes fees off).filter _, _) ↔ (LandedCost.total
      ((costLines data taxes fees off).filter _)).isSome = true
    rw [htotal]
    split_ifs with hall
    · exact iff_of_true hall rfl
    · exact iff_of_false hall (by simp)
  · rw [landedCost_bindFirstMile] at hx
    change LandedCost.total ((costLines data taxes fees off).filter _) = _ at hx
    rw [htotal] at hx
    split_ifs at hx
    rw [← Option.some.inj hx, amounts_landed]
    congr 2
    funext code
    exact (hamount code).symm
  · rw [hamount]
    unfold amountOf
    cases hline : lineOf (computeLandedCost data taxes fees off) code with
    | none => exact .zero
    | some line =>
      cases hsome : line.amount with
      | none => simpa [hsome] using Decimals.Fixed.zero
      | some amount =>
        have hmem : line ∈ costLines data taxes fees off := List.mem_of_find?_eq_some hline
        simpa [hsome] using (sound_of_mem hmem).fixed amount hsome

/-- No line of it is negative. -/
lemma nonneg_bindFirstMile (htaxes : ∀ fact ∈ taxes, 0 ≤ fact.rate)
    (hfees : ∀ fact ∈ fees, 0 ≤ fact.amount) (h : data.Nonneg) {code : LineCode}
    (hcode : code ∈ landedCodes) :
    0 ≤ amountOf (bindFirstMile (computeLandedCost data taxes fees off) formula source) code := by
  rw [amountOf_bindFirstMile]
  unfold amountOf
  cases hline : lineOf (computeLandedCost data taxes fees off) code with
  | none => exact le_rfl
  | some line =>
    have hmem : line ∈ costLines data taxes fees off := List.mem_of_find?_eq_some hline
    have hfound : line.code = code := by simpa using List.find?_some hline
    cases hsome : line.amount with
    | none => simp [hsome]
    | some amount =>
      simpa [hsome] using nonneg_costLines htaxes hfees h line hmem (hfound ▸ hcode) amount hsome

end binding

/-! ### What a shipment asks the cost of -/

/-- The prices, rates and fees of the tables, as their columns allow them. -/
structure Priced (d : Db) : Prop where
  volumes : ∀ sku ∈ d.skus, 0 ≤ sku.volume
  prices : ∀ sku ∈ d.skus, ∀ price, sku.purchasePrice = some price → 0 ≤ price
  items : ∀ item ∈ d.purchaseItems, 0 ≤ item.unitPrice
  rates : ∀ row ∈ d.exchangeRates, 0 ≤ row.rate
  taxes : ∀ row ∈ d.taxRules, 0 ≤ row.rate
  fees : ∀ row ∈ d.landedFees, 0 ≤ row.amount

section arrival

variable {d : Db} {shipment : FirstMileShipment} {sku : Sku} {line : AllocOutput} {on : Day}

lemma nonneg_purchasePrice (hd : Priced d) (hsku : sku ∈ d.skus) {price : ℚ}
    (h : (purchasePrice d shipment sku).1 = some price) : 0 ≤ price := by
  unfold purchasePrice at h
  split at h
  · rename_i item hitem
    obtain ⟨orderId, -, hfind⟩ := Option.bind_eq_some_iff.mp hitem
    have hmem := List.mem_of_find?_eq_some hfind
    rw [← Option.some.inj h]
    exact hd.items item (List.mem_filter.mp ((List.mem_insertionSort _).mp hmem)).1
  · split_ifs at h
    exact hd.prices sku hsku price h

lemma nonneg_fx (hd : Priced d) {purchaseCurrency : Option String} {bookCurrency : String}
    {rate : ℚ} (h : (fx d purchaseCurrency bookCurrency on).1 = some rate) : 0 ≤ rate := by
  unfold fx at h
  split at h
  · cases h
  · split_ifs at h
    split at h
    · cases h
    · rename_i row hrow
      rw [← Option.some.inj h]
      have hmem := (List.mem_insertionSort _).mp (List.mem_of_mem_head? hrow)
      exact hd.rates row (List.mem_filter.mp hmem).1

lemma nonneg_declaredValue (hd : Priced d) (hsku : sku ∈ d.skus) {declared : ℚ}
    (h : declaredValue d shipment sku on = some declared) : 0 ≤ declared := by
  unfold declaredValue at h
  dsimp only at h
  split_ifs at h
  · exact nonneg_purchasePrice hd hsku h
  · split at h
    · rename_i rate amount hrate hamount
      rw [← Option.some.inj h]
      exact Decimals.quantize_nonneg
        (div_nonneg (nonneg_purchasePrice hd hsku hamount) (nonneg_fx hd hrate))
    · cases h

lemma nonneg_taxFacts (hd : Priced d) (market : String) :
    ∀ fact ∈ taxFacts d market on, 0 ≤ fact.rate := by
  intro fact hfact
  obtain ⟨row, hrow, rfl⟩ := List.mem_map.mp hfact
  exact hd.taxes row (List.mem_filter.mp (Groups.mem_of_mem_highest hrow)).1

lemma nonneg_feeFacts (hd : Priced d) (market : String) :
    ∀ fact ∈ feeFacts d market on, 0 ≤ fact.amount := by
  intro fact hfact
  obtain ⟨row, hrow, rfl⟩ := List.mem_map.mp hfact
  exact hd.fees row (List.mem_filter.mp (Groups.mem_of_mem_highest hrow)).1

/-- Of what comes with a shipment no line costs less than nothing. -/
lemma nonneg_arrivalCost (hd : Priced d) (hsku : sku ∈ d.skus) (hunit : 0 ≤ line.unitCost)
    {code : LineCode} (hcode : code ∈ landedCodes) :
    0 ≤ amountOf (arrivalCost d shipment sku line on) code := by
  refine nonneg_bindFirstMile (nonneg_taxFacts hd _) (nonneg_feeFacts hd _) ?_ hcode
  refine ⟨fun x hx => ?_, fun x hx => ?_, fun x hx => ?_, fun x hx => ?_, fun x hx => ?_⟩
  · exact nonneg_purchasePrice hd hsku hx
  · rw [← Option.some.inj hx]
    exact zero_le_one
  · rw [← Option.some.inj hx]
    exact hd.volumes sku hsku
  · exact nonneg_declaredValue hd hsku hx
  · rw [← Option.some.inj hx]
    exact hunit

/-- A unit bears its part of the shipment. -/
lemma firstMile_arrivalCost (hfixed : Decimals.Fixed 6 line.unitCost) :
    amountOf (arrivalCost d shipment sku line on) .firstMile = line.unitCost := by
  unfold arrivalCost
  rw [amountOf_bindFirstMile]
  generalize hoff : (disabled d shipment.destinationMarket shipment.channel).filter
    (· ≠ .firstMile) = off
  generalize taxFacts d shipment.destinationMarket on = taxes
  generalize feeFacts d shipment.destinationMarket on = fees
  set data := poolInput d shipment sku line.unitCost on with hdata
  have hon : LineCode.firstMile ∉ off := by simp [← hoff]
  set made := LandedCost.firstMile data fees data.sellingCurrency
    (gate off data.sellingCurrency (purchase data data.sellingCurrency)) with hmade
  have hcode : made.code = .firstMile := (sound_firstMile ..).code_eq
  have hmem : made ∈ costLines data taxes fees off := by
    have hgate : gate off data.sellingCurrency made = made := by rw [gate, hcode, if_neg hon]
    obtain ⟨first, rest, hlines⟩ : ∃ first rest, costLines data taxes fees off =
        first :: gate off data.sellingCurrency made :: rest := ⟨_, _, rfl⟩
    rw [hlines, hgate]
    simp
  have hamount : made.amount = some line.unitCost := by
    have hquantize : quantize line.unitCost = line.unitCost := Decimals.quantize_eq_self hfixed
    have hwhole : ¬ (1 : ℚ) ≤ 0 := by norm_num
    simp [hmade, hdata, poolInput, LandedCost.firstMile, LandedCost.allocate, allocationMetrics,
      LandedCost.ok, hquantize, hwhole]
  have h := amountOf_computeLandedCost hmem
  rw [hcode, hamount] at h
  exact h

end arrival

end Purchasing

end CrossPilot
