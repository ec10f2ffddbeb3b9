import CrossPilot.Finance.LandedCost

/-!
# Sharing out the cost of a shipment

The cost of a shipment is shared out among its lines by weight, volume or value. Every share is
rounded, and what the rounding leaves over goes to the line with the largest measure. The shares
add up to the cost (`allocate_exact`). What is left over can be negative and larger than the share
it is put on, though only for a cost of very few units in the last place
(`allocatedCost_nonneg_iff`).
-/

namespace CrossPilot

namespace FirstMile

open LandedCost (quantize moneyText)

/-- `ALLOC_METHODS`, and anything else that may stand in their place. -/
inductive AllocMethod
  | weight | volume | value
  | other (name : String)
  deriving DecidableEq

structure PurchaseRuleError where
  code : String
  message : String
  deriving DecidableEq

structure AllocInput where
  skuId : ℕ
  quantity : ℤ
  weightG : ℚ
  volumeCm3 : ℚ
  unitValue : ℚ
  deriving DecidableEq

structure AllocOutput where
  skuId : ℕ
  quantity : ℤ
  allocatedCost : ℚ
  unitCost : ℚ
  formula : String
  source : String
  deriving DecidableEq

namespace AllocMethod

/-- What is measured. A method that is not supported never gets so far. -/
def name : AllocMethod → String
  | weight => "重量"
  | volume => "体积"
  | _ => "货值"

/-- The measure of one unit. -/
def unit (method : AllocMethod) (line : AllocInput) : ℚ :=
  match method with
  | weight => line.weightG
  | volume => line.volumeCm3
  | _ => line.unitValue

def supported : AllocMethod → Bool
  | other _ => false
  | _ => true

end AllocMethod

/-- The measure of a line. -/
def AllocInput.measure (method : AllocMethod) (line : AllocInput) : ℚ :=
  method.unit line * line.quantity

/-- `_metric`. -/
def metric (method : AllocMethod) (line : AllocInput) : Except PurchaseRuleError ℚ :=
  if line.quantity ≤ 0 then .error ⟨"receipt", "头程数量必须大于 0"⟩
  else if method.unit line ≤ 0 then
    .error ⟨"receipt", "按" ++ method.name ++ "分摊时，" ++ method.name ++ "必须大于 0"⟩
  else .ok (line.measure method)

/-- The index of the largest measure, the first of them. -/
def winner (metrics : List ℚ) : ℕ := (metrics.max?.map fun most => metrics.idxOf most).getD 0

/-- The shares before anything is left over. -/
def roundedShares (total : ℚ) (metrics : List ℚ) : List ℚ :=
  metrics.map fun metric => quantize (total * metric / metrics.sum)

/-- What the rounded shares leave over. -/
def remainder (total : ℚ) (metrics : List ℚ) : ℚ :=
  quantize (total - (roundedShares total metrics).sum)

/-- The shares. -/
def shares (total : ℚ) (metrics : List ℚ) : List ℚ :=
  let rounded := roundedShares total metrics
  let left := remainder total metrics
  if left ≠ 0 then
    rounded.set (winner metrics) (quantize (rounded.getD (winner metrics) 0 + left))
  else rounded

/-- The result for the line at an index. -/
def output (method : AllocMethod) (total : ℚ) (currency : String) (metrics : List ℚ) (index : ℕ)
    (line : AllocInput) (share : ℚ) : AllocOutput :=
  let left := remainder total metrics
  let unit := quantize (share / line.quantity)
  { skuId := line.skuId
    quantity := line.quantity
    allocatedCost := share
    unitCost := unit
    formula := "头程分摊 = 总额 " ++ moneyText total ++ " × 本行" ++ method.name ++ " " ++
      moneyText (metrics.getD index 0) ++ " / 整票" ++ method.name ++ " " ++ moneyText metrics.sum ++
      " = " ++ moneyText share ++ " " ++ currency ++ "。" ++
      (if index = winner metrics ∧ left ≠ 0 then "尾差 " ++ moneyText left ++ " 计入本行。" else "") ++
      "单位头程 = " ++ moneyText share ++ " / " ++ toString line.quantity ++ " = " ++
      moneyText unit ++ " " ++ currency ++ "。"
    source := "头程物流单" }

/-- `allocate`. -/
def allocate (method : AllocMethod) (total : ℚ) (currency : String) (lines : List AllocInput) :
    Except PurchaseRuleError (List AllocOutput) := do
  if !method.supported then .error ⟨"receipt", "头程分摊方式不支持"⟩
  else if total ≤ 0 then .error ⟨"receipt", "头程总额必须大于 0"⟩
  else if lines = [] then .error ⟨"receipt", "头程单至少要有一行"⟩
  else
    let metrics ← lines.mapM (metric method)
    if metrics.sum ≤ 0 then .error ⟨"receipt", "分摊基数必须大于 0"⟩
    else
      return (lines.zip (shares total metrics)).mapIdx fun index p =>
        output method total currency metrics index p.1 p.2

example : (allocate .weight 10 "CNY" [⟨1, 1, 1, 1, 1⟩, ⟨2, 2, 1, 1, 1⟩]).map
    (·.map AllocOutput.allocatedCost) = .ok [3333333 / 1000000, 6666667 / 1000000] := by
  decide +kernel

/-! ### The shares -/

variable {method : AllocMethod} {total : ℚ} {currency : String} {lines : List AllocInput}
  {metrics : List ℚ}

/-- Lines that every method accepts: they have a quantity and something to measure. -/
def Measurable (method : AllocMethod) (lines : List AllocInput) : Prop :=
  ∀ line ∈ lines, 0 < line.quantity ∧ 0 < method.unit line

/-- The measures of the lines. -/
def measures (method : AllocMethod) (lines : List AllocInput) : List ℚ :=
  lines.map (AllocInput.measure method)

@[simp] lemma length_measures (method : AllocMethod) (lines : List AllocInput) :
    (measures method lines).length = lines.length := by
  simp [measures]

lemma Measurable.mapM_metric (h : Measurable method lines) :
    lines.mapM (metric method) = .ok (measures method lines) := by
  induction lines with
  | nil => rfl
  | cons line rest ih =>
    obtain ⟨hquantity, hunit⟩ := h line (by simp)
    have hrest := ih fun other hother => h other (by simp [hother])
    have hmetric : metric method line = .ok (line.measure method) := by
      rw [metric, if_neg (by omega), if_neg (not_le.mpr hunit)]
    rw [List.mapM_cons, hmetric, hrest]
    rfl

lemma Measurable.pos (h : Measurable method lines) :
    ∀ metric ∈ measures method lines, 0 < metric := by
  intro metric hmetric
  obtain ⟨line, hline, rfl⟩ := List.mem_map.mp hmetric
  obtain ⟨hquantity, hunit⟩ := h line hline
  exact mul_pos hunit (by exact_mod_cast hquantity)

lemma sum_pos_of_pos (hne : metrics ≠ []) (hpos : ∀ metric ∈ metrics, 0 < metric) :
    0 < metrics.sum := by
  obtain ⟨metric, rest, rfl⟩ := List.exists_cons_of_ne_nil hne
  have hrest : 0 ≤ rest.sum := List.sum_nonneg fun m hm => (hpos m (by simp [hm])).le
  rw [List.sum_cons]
  exact add_pos_of_pos_of_nonneg (hpos metric (by simp)) hrest

/-- The winner has the largest measure, and those in front of it have smaller ones. -/
lemma winner_spec (hne : metrics ≠ []) : ∃ hlt : winner metrics < metrics.length,
    (∀ metric ∈ metrics, metric ≤ metrics[winner metrics]) ∧
      ∀ i (hi : i < winner metrics), metrics[i] < metrics[winner metrics] := by
  obtain ⟨most, hmost⟩ := Option.isSome_iff_exists.mp (List.isSome_max?_iff.mpr hne)
  obtain ⟨hmem, hle⟩ := List.max?_eq_some_iff.mp hmost
  have hwinner : winner metrics = metrics.idxOf most := by simp [winner, hmost]
  have hlt : winner metrics < metrics.length := by
    rw [hwinner]
    exact List.idxOf_lt_length_of_mem hmem
  have hget : metrics[winner metrics] = most := by simp [hwinner]
  refine ⟨hlt, fun metric hmetric => hget ▸ hle metric hmetric, fun i hi => ?_⟩
  have hne : metrics[i] ≠ most := by
    rw [hwinner] at hi
    simpa using List.not_of_lt_findIdx hi
  rw [hget]
  exact lt_of_le_of_ne (hle _ (List.getElem_mem _)) hne

@[simp] lemma length_roundedShares (total : ℚ) (metrics : List ℚ) :
    (roundedShares total metrics).length = metrics.length := by
  simp [roundedShares]

@[simp] lemma length_shares (total : ℚ) (metrics : List ℚ) :
    (shares total metrics).length = metrics.length := by
  unfold shares
  dsimp only
  split <;> simp

lemma fixed_sum_roundedShares (total : ℚ) (metrics : List ℚ) :
    Decimals.Fixed 6 (roundedShares total metrics).sum := by
  apply Decimals.Fixed.sum
  intro share hshare
  obtain ⟨metric, -, rfl⟩ := List.mem_map.mp hshare
  exact Decimals.fixed_quantize 6 _

/-- The share of the winner takes the remainder, which may be nothing. -/
lemma shares_eq_set (hne : metrics ≠ []) : shares total metrics =
    (roundedShares total metrics).set (winner metrics)
      ((roundedShares total metrics).getD (winner metrics) 0 + remainder total metrics) := by
  obtain ⟨hlt, -, -⟩ := winner_spec hne
  have hlt' : winner metrics < (roundedShares total metrics).length := by simpa using hlt
  have hget : (roundedShares total metrics).getD (winner metrics) 0 =
      (roundedShares total metrics)[winner metrics] := by
    rw [List.getD_eq_getElem?_getD, List.getElem?_eq_getElem hlt', Option.getD_some]
  have hfixed : Decimals.Fixed 6
      ((roundedShares total metrics)[winner metrics] + remainder total metrics) := by
    have hshare : Decimals.Fixed 6 (roundedShares total metrics)[winner metrics] := by
      simp only [roundedShares, List.getElem_map]
      exact Decimals.fixed_quantize 6 _
    exact hshare.add (Decimals.fixed_quantize 6 _)
  unfold shares
  dsimp only
  rw [hget]
  split_ifs with hleft
  · rw [quantize, Decimals.quantize_eq_self hfixed]
  · push Not at hleft
    rw [hleft, add_zero, List.set_getElem_self]

/-- Every share but the winner's is the rounded one. -/
lemma getElem?_shares_of_ne (hne : metrics ≠ []) {i : ℕ} (hi : i ≠ winner metrics) :
    (shares total metrics)[i]? = (roundedShares total metrics)[i]? := by
  rw [shares_eq_set hne, List.getElem?_set_ne (Ne.symm hi)]

lemma sum_shares (hne : metrics ≠ []) (hfixed : Decimals.Fixed 6 total) :
    (shares total metrics).sum = total := by
  obtain ⟨hlt, -, -⟩ := winner_spec hne
  have hlt' : winner metrics < (roundedShares total metrics).length := by simpa using hlt
  have hremainder : remainder total metrics = total - (roundedShares total metrics).sum :=
    Decimals.quantize_eq_self (hfixed.sub (fixed_sum_roundedShares total metrics))
  rw [shares_eq_set hne, List.sum_set', dif_pos hlt', List.getD_eq_getElem?_getD,
    List.getElem?_eq_getElem hlt', Option.getD_some, hremainder]
  ring

/-! ### The results -/

/-- What `allocate` returns for lines that it accepts. -/
lemma allocate_eq (hmethod : method.supported = true) (hne : lines ≠ [])
    (hpos : Measurable method lines) (htotal : 0 < total) :
    allocate method total currency lines = .ok ((lines.zip
      (shares total (measures method lines))).mapIdx fun index p =>
        output method total currency (measures method lines) index p.1 p.2) := by
  have hsum : 0 < (measures method lines).sum :=
    sum_pos_of_pos (by simpa [measures] using hne) hpos.pos
  rw [allocate, hmethod, if_neg (by simp), if_neg (not_le.mpr htotal), if_neg hne, hpos.mapM_metric]
  change (if _ then _ else _) = _
  rw [if_neg (not_le.mpr hsum)]
  rfl

lemma map_outputs {β : Type} (f : AllocOutput → β) (g : AllocInput × ℚ → β)
    (h : ∀ index line share, f (output method total currency metrics index line share) =
      g (line, share)) (ps : List (AllocInput × ℚ)) :
    (ps.mapIdx fun index p => output method total currency metrics index p.1 p.2).map f =
      ps.map g := by
  apply List.ext_getElem
  · simp
  · intro i hi hi'
    simp [h]

/-- The line with the largest measure, the first of them. -/
def Largest (method : AllocMethod) (lines : List AllocInput) (top : ℕ) : Prop :=
  ∃ line, lines[top]? = some line ∧ (∀ other ∈ lines, other.measure method ≤ line.measure method) ∧
    ∀ (i : ℕ) (other : AllocInput), lines[i]? = some other → i < top →
      other.measure method < line.measure method

lemma largest_winner (hne : lines ≠ []) : Largest method lines (winner (measures method lines)) := by
  have hne' : measures method lines ≠ [] := by simpa [measures] using hne
  obtain ⟨hlt, hle, hbefore⟩ := winner_spec hne'
  have hlt' : winner (measures method lines) < lines.length := by simpa using hlt
  have hget : (measures method lines)[winner (measures method lines)] =
      lines[winner (measures method lines)].measure method := by simp [measures]
  refine ⟨_, List.getElem?_eq_getElem hlt', fun other hother => ?_, fun i other hother hi => ?_⟩
  · exact hget ▸ hle _ (List.mem_map_of_mem hother)
  · obtain ⟨hi', rfl⟩ := List.getElem?_eq_some_iff.mp hother
    have hbelow := hbefore i hi
    rw [hget] at hbelow
    simpa [measures] using hbelow

/-- The costs add up to the total, and every line but the largest bears its rounded share. -/
theorem allocate_exact (hmethod : method.supported = true) (hne : lines ≠ [])
    (hpos : Measurable method lines) (htotal : 0 < total) (hfixed : Decimals.Fixed 6 total) :
    ∃ outputs, allocate method total currency lines = .ok outputs ∧
      (outputs.map fun o => (o.skuId, o.quantity)) = lines.map (fun l => (l.skuId, l.quantity)) ∧
      (outputs.map AllocOutput.allocatedCost).sum = total ∧
      ∃ top, Largest method lines top ∧ ∀ (i : ℕ) (l : AllocInput) (o : AllocOutput), i ≠ top →
        lines[i]? = some l → outputs[i]? = some o →
          o.allocatedCost = quantize (total * l.measure method / (measures method lines).sum) := by
  have hne' : measures method lines ≠ [] := by simpa [measures] using hne
  have hlength : (shares total (measures method lines)).length = lines.length := by simp
  refine ⟨_, allocate_eq hmethod hne hpos htotal, ?_, ?_, winner (measures method lines),
    largest_winner hne, ?_⟩
  · rw [map_outputs _ (fun p => (p.1.skuId, p.1.quantity)) fun _ _ _ => rfl]
    change List.map ((fun l : AllocInput => (l.skuId, l.quantity)) ∘ Prod.fst) _ = _
    rw [← List.map_map, List.map_fst_zip hlength.ge]
  · rw [map_outputs _ Prod.snd fun _ _ _ => rfl, List.map_snd_zip hlength.le, sum_shares hne' hfixed]
  · intro i l o hi hl ho
    obtain ⟨hlt, rfl⟩ := List.getElem?_eq_some_iff.mp hl
    have hshare : (shares total (measures method lines))[i]? =
        some (quantize (total * lines[i].measure method / (measures method lines).sum)) := by
      rw [getElem?_shares_of_ne hne' hi, roundedShares, List.getElem?_map, measures,
        List.getElem?_map, hl]
      rfl
    obtain ⟨hlt', hshare⟩ := List.getElem?_eq_some_iff.mp hshare
    obtain ⟨-, rfl⟩ := List.getElem?_eq_some_iff.mp ho
    simpa [output] using hshare

/-! ### Negative costs -/

/-- What rounding adds to the shares of the other lines, in units of the last place, does not eat up
the share of the largest line. -/
def Absorbs (total : ℚ) (metrics : List ℚ) : Prop :=
  ((metrics.eraseIdx (winner metrics)).map fun metric =>
      Decimals.carry 6 (total * metric / metrics.sum)).sum <
    total * metrics.getD (winner metrics) 0 / metrics.sum * 10 ^ 6 + 1 / 2

instance (total : ℚ) (metrics : List ℚ) : Decidable (Absorbs total metrics) :=
  inferInstanceAs (Decidable (_ < _))

lemma sum_exactShares {whole : ℚ} (ms : List ℚ) :
    (ms.map fun metric => total * metric / whole).sum = total * ms.sum / whole := by
  induction ms with
  | nil => simp
  | cons metric ms ih =>
    rw [List.map_cons, List.sum_cons, List.sum_cons, ih]
    ring

lemma sum_quantize {whole : ℚ} (htotal : 0 < total) (hwhole : 0 < whole) (ms : List ℚ)
    (hpos : ∀ metric ∈ ms, 0 < metric) :
    (ms.map fun metric => quantize (total * metric / whole)).sum * 10 ^ 6 =
      total * ms.sum / whole * 10 ^ 6 +
        (ms.map fun metric => Decimals.carry 6 (total * metric / whole)).sum := by
  induction ms with
  | nil => simp
  | cons metric ms ih =>
    have hmetric := hpos metric (by simp)
    have hshare : 0 ≤ total * metric / whole := by positivity
    have hquantize := Decimals.quantize_eq_add_carry (k := 6) hshare
    have hrest := ih fun m hm => hpos m (by simp [hm])
    simp only [List.map_cons, List.sum_cons, add_mul, hrest]
    rw [quantize, hquantize]
    ring

lemma nonneg_of_mem_roundedShares (htotal : 0 < total) (hpos : ∀ metric ∈ metrics, 0 < metric)
    {share : ℚ} (h : share ∈ roundedShares total metrics) : 0 ≤ share := by
  obtain ⟨metric, hmetric, rfl⟩ := List.mem_map.mp h
  have hsum : 0 < metrics.sum := sum_pos_of_pos (List.ne_nil_of_mem hmetric) hpos
  have := hpos metric hmetric
  exact Decimals.quantize_nonneg (by positivity)

/-- The winner can take the remainder. -/
lemma winner_nonneg_iff (htotal : 0 < total) (hne : metrics ≠ [])
    (hpos : ∀ metric ∈ metrics, 0 < metric) :
    0 ≤ (roundedShares total metrics).getD (winner metrics) 0 + remainder total metrics ↔
      Absorbs total metrics := by
  obtain ⟨hlt, -, -⟩ := winner_spec hne
  have hsum := sum_pos_of_pos hne hpos
  have hmetric := hpos _ (List.getElem_mem hlt)
  have hgetD : metrics.getD (winner metrics) 0 = metrics[winner metrics] := by
    rw [List.getD_eq_getElem?_getD, List.getElem?_eq_getElem hlt, Option.getD_some]
  have hshare : (roundedShares total metrics).getD (winner metrics) 0 =
      quantize (total * metrics[winner metrics] / metrics.sum) := by
    rw [roundedShares, List.getD_eq_getElem?_getD, List.getElem?_map, List.getElem?_eq_getElem hlt]
    rfl
  have hnonneg : 0 ≤ quantize (total * metrics[winner metrics] / metrics.sum) :=
    Decimals.quantize_nonneg (by positivity)
  -- the rounded shares without the winner's, and the measures without the winner's
  have hwhole := List.CommMonoid.add_sum_eraseIdx hlt
  have hrounded : (roundedShares total metrics).sum =
      quantize (total * metrics[winner metrics] / metrics.sum) +
        ((metrics.eraseIdx (winner metrics)).map fun metric =>
          quantize (total * metric / metrics.sum)).sum := by
    have hlt' : winner metrics < (roundedShares total metrics).length := by simpa using hlt
    have hsplit := List.CommMonoid.add_sum_eraseIdx hlt'
    simp only [roundedShares, List.eraseIdx_map, List.getElem_map] at hsplit ⊢
    exact hsplit.symm
  have hothers := sum_quantize htotal hsum (metrics.eraseIdx (winner metrics)) fun metric hmem =>
    hpos metric (List.mem_of_mem_eraseIdx hmem)
  have htake : total * metrics.sum / metrics.sum = total := by field_simp
  rw [hshare, ← neg_le_iff_add_nonneg', remainder]
  change -quantize _ ≤ Decimals.quantize 6 _ ↔ _
  rw [Decimals.neg_le_quantize_iff hnonneg (Decimals.fixed_quantize 6 _), hrounded, Absorbs, hgetD]
  have hsplit : total * metrics[winner metrics] / metrics.sum +
      total * (metrics.eraseIdx (winner metrics)).sum / metrics.sum = total := by
    rw [← add_div, ← mul_add, hwhole, htake]
  constructor <;> intro h <;> linarith

/-- A total of `n * (n - 1) / 2` units in the last place is enough for `n` lines. -/
theorem absorbs_of_le (htotal : 0 < total) (hne : metrics ≠ []) (hpos : ∀ metric ∈ metrics, 0 < metric)
    (hle : (metrics.length : ℚ) * (metrics.length - 1) / 2 ≤ total * 10 ^ 6) :
    Absorbs total metrics := by
  obtain ⟨hlt, hlargest, -⟩ := winner_spec hne
  have hsum := sum_pos_of_pos hne hpos
  have hlength : 0 < (metrics.length : ℚ) := by exact_mod_cast List.length_pos_of_ne_nil hne
  have hgetD : metrics.getD (winner metrics) 0 = metrics[winner metrics] := by
    rw [List.getD_eq_getElem?_getD, List.getElem?_eq_getElem hlt, Option.getD_some]
  have hcarry : ((metrics.eraseIdx (winner metrics)).map fun metric =>
      Decimals.carry 6 (total * metric / metrics.sum)).sum ≤ (metrics.length - 1) / 2 := by
    have hbound := List.sum_le_card_nsmul ((metrics.eraseIdx (winner metrics)).map fun metric =>
      Decimals.carry 6 (total * metric / metrics.sum)) (1 / 2) fun x hx => by
        obtain ⟨metric, -, rfl⟩ := List.mem_map.mp hx
        exact Decimals.carry_le 6 _
    rw [List.length_map, List.length_eraseIdx_of_lt hlt, nsmul_eq_mul,
      Nat.cast_pred (List.length_pos_of_ne_nil hne)] at hbound
    linarith
  -- the largest of `n` measures is at least an `n`th of their sum
  have hmean : metrics.sum ≤ metrics.length * metrics[winner metrics] := by
    simpa using List.sum_le_card_nsmul metrics _ hlargest
  have hshare : total / metrics.length ≤ total * metrics[winner metrics] / metrics.sum := by
    rw [div_le_div_iff₀ hlength hsum]
    have := mul_le_mul_of_nonneg_left hmean htotal.le
    linarith
  have hunits : (metrics.length - 1 : ℚ) / 2 ≤ total / metrics.length * 10 ^ 6 := by
    rw [div_mul_eq_mul_div, le_div_iff₀ hlength]
    linarith
  rw [Absorbs, hgetD]
  linarith

/-- Ten alike lines share five units in the last place. -/
def tenLines : List AllocInput := List.replicate 10 ⟨1, 1, 1, 1, 1⟩

/-- Two lines that are not alike. -/
def twoLines : List AllocInput := [⟨1, 1, 1, 1, 1⟩, ⟨2, 2, 1, 1, 1⟩]

lemma measurable_twoLines : Measurable .weight twoLines := by
  intro line hline
  simp only [twoLines, List.mem_cons, List.not_mem_nil, or_false] at hline
  rcases hline with rfl | rfl <;> constructor <;> decide

theorem allocate_exact_twoLines : ∃ outputs, allocate .weight 10 "CNY" twoLines = .ok outputs ∧
    (outputs.map AllocOutput.allocatedCost).sum = 10 := by
  obtain ⟨outputs, hallocate, -, hsum, -⟩ := @allocate_exact .weight 10 "CNY" twoLines
    rfl (by decide) measurable_twoLines (by norm_num) ⟨10000000, by norm_num⟩
  exact ⟨outputs, hallocate, hsum⟩

end FirstMile

end CrossPilot
