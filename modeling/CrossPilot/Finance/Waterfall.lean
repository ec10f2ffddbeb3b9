import CrossPilot.Finance.Accounting
import CrossPilot.Finance.Materialize
import CrossPilot.Lib.DecimalText
import CrossPilot.Lib.Optional
import CrossPilot.Lib.Rounding
import Mathlib.Data.List.ReduceOption

/-!
# From the revenue to the profit

What a day sold for is the sum of its costs and its profit. The amounts of a row have six decimals,
and so nothing is lost when rows are summed up: the costs lead from the revenue of a range of days
down to its profit, step by step. In the currency of the books each amount is converted on its own.
-/

namespace CrossPilot

open LandedCost
open Decimals (Fixed fixed_quantize quantize_eq_self abs_quantize_sub_sub_le)

namespace Profit

/-! ### A row -/

section Row

variable {units : List ProfitUnit} {code : LineCode}

lemma fixed_quantize_six (x : ℚ) : Fixed 6 (quantize x) := fixed_quantize 6 x

/-- The lines of a day are sound. -/
lemma sound_combineLine (units : List ProfitUnit) (code : LineCode) :
    (combineLine units code).Sound code := by
  simp only [combineLine]
  split
  · exact ⟨rfl, rfl, fun _ h => by cases h⟩
  · refine ⟨rfl, rfl, fun amount h => ?_⟩
    rw [← Option.some.inj h]
    exact fixed_quantize_six _

lemma settled_combineLine (units : List ProfitUnit) (code : LineCode) :
    settled (combineLine units code) = (combineLine units code).amount := by
  rw [settled, (sound_combineLine units code).complete_eq]
  split_ifs with h
  · rfl
  · exact (Option.not_isSome_iff_eq_none.mp h).symm

lemma fixed_revenue (units : List ProfitUnit) (bookRate : Option ℚ) (fx : FxGain) :
    Fixed 6 (rollupDaily units bookRate fx).revenue := by
  rw [rollupDaily_revenue]
  exact fixed_quantize_six _

lemma rollupDaily_lines (units : List ProfitUnit) (bookRate : Option ℚ) (fx : FxGain) :
    (rollupDaily units bookRate fx).lines = combine units := by
  simp only [rollupDaily]
  split <;> rfl

/-- What the units of a day cost on a line, and nothing where that is not known. -/
def lineAmount (units : List ProfitUnit) (code : LineCode) : ℚ :=
  (combineLine units code).amount.getD 0

lemma eq_some_lineAmount (h : (combineLine units code).amount.isSome) :
    (combineLine units code).amount = some (lineAmount units code) := by
  obtain ⟨amount, hamount⟩ := Option.isSome_iff_exists.mp h
  rw [lineAmount, hamount, Option.getD_some]

lemma fixed_lineAmount (units : List ProfitUnit) (code : LineCode) :
    Fixed 6 (lineAmount units code) := by
  unfold lineAmount
  cases h : (combineLine units code).amount with
  | none => exact Fixed.zero
  | some amount => exact (sound_combineLine units code).fixed amount h

/-- The lines of a day are complete. -/
def Settled (units : List ProfitUnit) : Prop :=
  ∀ code, (combineLine units code).amount = some (lineAmount units code)

/-- All costs of a day. -/
def costOf (units : List ProfitUnit) : ℚ := (LineCode.all.map (lineAmount units)).sum

lemma fixed_costOf (units : List ProfitUnit) : Fixed 6 (costOf units) := by
  apply Fixed.sum
  intro amount hamount
  obtain ⟨code, -, rfl⟩ := List.mem_map.mp hamount
  exact fixed_lineAmount units code

lemma mem_all (code : LineCode) : code ∈ LineCode.all := by
  cases code <;> decide

lemma mapM_settled (units : List ProfitUnit) :
    (combine units).mapM settled = LineCode.all.mapM fun code => (combineLine units code).amount := by
  rw [combine, List.mapM_map]
  congr 1
  funext code
  exact settled_combineLine units code

lemma Settled.mapM (h : Settled units) : (LineCode.all.mapM fun code =>
    (combineLine units code).amount) = some (LineCode.all.map (lineAmount units)) := by
  rw [Optional.mapM_eq_some_iff, List.forall₂_map_right_iff, List.forall₂_same]
  exact fun code _ => h code

lemma settled_of_mapM {amounts : List ℚ} (h : (combine units).mapM settled = some amounts) :
    Settled units := by
  rw [mapM_settled] at h
  intro code
  exact eq_some_lineAmount (Optional.isSome_of_mapM h code (mem_all code))

lemma settled_iff_complete : Settled units ↔ ∀ line ∈ combine units, line.complete = true := by
  simp only [combine, List.mem_map, forall_exists_index, and_imp, forall_apply_eq_imp_iff₂,
    (sound_combineLine units _).complete_eq]
  constructor
  · intro h code _
    simp [h code]
  · exact fun h code => eq_some_lineAmount (h code (mem_all code))

/-- What a day with known costs comes to. -/
lemma Settled.rollupDaily (h : Settled units) {rate : ℚ} (hrate : 0 < rate) (fx : FxGain) :
    let out := rollupDaily units (some rate) fx
    out.costTotal = some (costOf units) ∧ out.netProfit = some (out.revenue - costOf units) ∧
      out.bookRevenue = some (quantize (out.revenue * rate)) ∧
      out.bookCostTotal = some (quantize (costOf units * rate)) ∧
      out.bookNetProfit = some (quantize ((out.revenue - costOf units) * rate)) := by
  have hcost : ((combine units).mapM settled).map (fun amounts => quantize amounts.sum) =
      some (costOf units) := by
    rw [mapM_settled, h.mapM, Option.map_some]
    exact congrArg some (quantize_eq_self (fixed_costOf units))
  have hnet : quantize (quantize (units.map fun unit => linePrice unit.price unit.quantity).sum -
      costOf units) = quantize (units.map fun unit => linePrice unit.price unit.quantity).sum -
        costOf units :=
    quantize_eq_self ((fixed_quantize_six _).sub (fixed_costOf units))
  have hpositive : positive (some rate) = some rate := by simp [positive, hrate]
  simp only [Profit.rollupDaily, hcost, hpositive, Option.map_some, hnet, and_self]

/-- A day with a profit has a rate and known costs. -/
lemma settled_of_netProfit {bookRate : Option ℚ} {fx : FxGain}
    (h : (rollupDaily units bookRate fx).netProfit.isSome) :
    Settled units ∧ ∃ rate, bookRate = some rate ∧ 0 < rate := by
  cases hrate : positive bookRate with
  | none => simp [rollupDaily, hrate] at h
  | some rate =>
    obtain ⟨hsome, hpos⟩ := Option.filter_eq_some_iff.mp hrate
    refine ⟨?_, rate, hsome, by simpa using hpos⟩
    simp only [rollupDaily, hrate, Option.isSome_map] at h
    obtain ⟨amounts, hamounts⟩ := Option.isSome_iff_exists.mp h
    exact settled_of_mapM hamounts

end Row

/-! ### The books -/

/-- What the amounts of a day obey. In the currency of the books the profit is one unit of the last
decimal off at most, and exact where the conversion needs no rounding. -/
structure Balanced (out : DailyRollup) (rate : ℚ) : Prop where
  costs : ∃ amounts, out.lines.mapM CostLine.amount = some amounts ∧
    out.costTotal = some amounts.sum
  net : ∃ cost, out.costTotal = some cost ∧ out.netProfit = some (out.revenue - cost)
  book : ∃ cost revenue' cost' net', out.costTotal = some cost ∧ out.bookRevenue = some revenue' ∧
    out.bookCostTotal = some cost' ∧ out.bookNetProfit = some net' ∧
    |net' - (revenue' - cost')| ≤ 1 / 10 ^ 6 ∧
    (Fixed 6 (out.revenue * rate) → Fixed 6 (cost * rate) → net' = revenue' - cost')

theorem rollupDaily_balanced (units : List ProfitUnit) (rate : ℚ) (fx : FxGain) (hrate : 0 < rate)
    (hcomplete : ∀ line ∈ (rollupDaily units (some rate) fx).lines, line.complete = true) :
    Balanced (rollupDaily units (some rate) fx) rate := by
  rw [rollupDaily_lines, ← settled_iff_complete] at hcomplete
  obtain ⟨hcost, hnet, hbookRevenue, hbookCost, hbookNet⟩ := hcomplete.rollupDaily hrate fx
  constructor
  · refine ⟨LineCode.all.map (lineAmount units), ?_, hcost⟩
    rw [rollupDaily_lines, combine, List.mapM_map]
    exact hcomplete.mapM
  · exact ⟨costOf units, hcost, hnet⟩
  · refine ⟨costOf units, _, _, _, hcost, hbookRevenue, hbookCost, hbookNet, ?_, ?_⟩
    · rw [sub_mul]
      exact abs_quantize_sub_sub_le 6 _ _
    · intro hrevenue hcosts
      rw [sub_mul, quantize, quantize, quantize, quantize_eq_self (hrevenue.sub hcosts),
        quantize_eq_self hrevenue, quantize_eq_self hcosts]

/-- What costs a purchase price and nothing else. -/
def purchaseOnly (amount : ℚ) : LandedCostResult where
  lines := LineCode.all.map fun code =>
    ⟨code, code.label, some (if code = .purchase then amount else 0), "USD", "", "", true⟩
  currency := "USD"
  landedCost := some amount
  netProfit := none
  netMarginPercent := none
  roiPercent := none
  complete := true
  profitComplete := false

/-- Sold for 9.95 and bought for 3.33. -/
def onePiece : List ProfitUnit := [⟨1, 995 / 100, purchaseOnly (333 / 100)⟩]

def noGain : FxGain := ⟨none, "CNY", "", "", false⟩

theorem rollupDaily_balanced_onePiece :
    Balanced (rollupDaily onePiece (some 7) noGain) 7 :=
  rollupDaily_balanced onePiece 7 noGain (by norm_num) (by decide +kernel)

/-- The profit in the currency of the books is not what the other two columns leave. -/
theorem book_columns_off_by_one :
    (∀ line ∈ (rollupDaily onePiece (some (138889 / 1000000)) noGain).lines,
      line.complete = true) ∧
    (rollupDaily onePiece (some (138889 / 1000000)) noGain).bookRevenue =
      some (1381946 / 1000000) ∧
    (rollupDaily onePiece (some (138889 / 1000000)) noGain).bookCostTotal =
      some (462500 / 1000000) ∧
    (rollupDaily onePiece (some (138889 / 1000000)) noGain).bookNetProfit =
      some (919445 / 1000000) ∧
    (919445 / 1000000 : ℚ) ≠ 1381946 / 1000000 - 462500 / 1000000 := by
  refine ⟨by decide +kernel, by decide +kernel, by decide +kernel, by decide +kernel, by norm_num⟩

end Profit

/-! ### Steps -/

namespace Waterfall

open Profit

inductive StepCode
  | revenue
  | line (code : LineCode)
  | net
  | fxGain
  deriving DecidableEq

structure WaterfallStep where
  code : StepCode
  label : String
  amount : Option ℚ
  running : Option ℚ
  memo : Bool
  formula : String
  deriving DecidableEq

/-- The entry of `by_code`. Of two lines with a code the later one counts. -/
def lineFor (lines : List CostLine) (code : LineCode) : Option CostLine :=
  lines.reverse.find? fun line => line.code = code

/-- The steps of the costs. After a cost that is not known there is no running amount. -/
def costSteps (lines : List CostLine) : List LineCode → Option ℚ → List WaterfallStep
  | [], _ => []
  | code :: rest, running =>
    match lineFor lines code, running with
    | some line, some running =>
      match line.amount with
      | some amount =>
        let delta := quantize (-amount)
        let next := quantize (running + delta)
        ⟨.line code, line.label, some delta, some next, false, line.formula⟩ ::
          costSteps lines rest (some next)
      | none =>
        ⟨.line code, code.label, none, none, false, "这一项不完整。"⟩ :: costSteps lines rest none
    | _, _ =>
      ⟨.line code, code.label, none, none, false, "这一项不完整。"⟩ :: costSteps lines rest none

def buildWaterfall (revenue : Option ℚ) (lines : List CostLine) (netProfit fxGain : Option ℚ)
    (fxFormula : String) : List WaterfallStep :=
  ⟨.revenue, "销售额", revenue, revenue, false, "销售额来自订单成交额。"⟩ ::
    costSteps lines LineCode.all revenue ++
    [⟨.net, "净利", netProfit, netProfit, false, "净利 = 销售额 − 各项成本。不含汇兑损益。"⟩,
      ⟨.fxGain, "汇兑损益", fxGain, netProfit, true, fxFormula⟩]

/-! ### Rows -/

/-- `quantize_sum`. What is missing is left out, and halves go to the even neighbour. -/
def quantizeSum (values : List (Option ℚ)) : ℚ := Decimals.quantizeEven 6 values.reduceOption.sum

/-- The sum, if nothing is missing. -/
def sumIfAll (values : List (Option ℚ)) : Option ℚ :=
  if values.any Option.isNone then none else some (quantizeSum values)

/-- `Decimal(text)` of an amount. An infinite one cannot be rounded later on. -/
def amountOf (text : String) : Option ℚ :=
  match (Decimals.Decimal.ofText text).map Decimals.Decimal.value with
  | some (.inl amount) => some amount
  | _ => none

/-- The stored line of a row, if it is complete. -/
def storedOf (code : LineCode) (row : SkuProfitDaily) : Option StoredLine :=
  (row.lines.find? fun line => line.code = code).filter fun line =>
    line.complete && line.amount.isSome

/-- One line of `_sum_lines`. The texts are those of the last row. It is `none` where a stored
amount is no number. -/
def sumLine (rows : List SkuProfitDaily) (code : LineCode) : Option CostLine := do
  let stored := rows.map (storedOf code)
  let last := stored.reduceOption.getLast?
  let label := (last.map fun line => orElse line.label code.value).getD code.value
  let currency := (last.map StoredLine.currency).getD ""
  let formula := (last.map StoredLine.formula).getD ""
  let source := (last.map StoredLine.source).getD ""
  let amounts ← (stored.reduceOption.filterMap StoredLine.amount).mapM amountOf
  if stored.any Option.isNone then
    return ⟨code, label, none, currency, "这一项在区间内不完整。", orElse source "未配置", false⟩
  else
    return ⟨code, label, some (quantizeSum (amounts.map some)), currency,
      orElse formula (label ++ "合计。"), orElse source "日利润", true⟩

def sumLines (rows : List SkuProfitDaily) : Option (List CostLine) := LineCode.all.mapM (sumLine rows)

/-- The waterfall of some rows. -/
def stepsOf (rows : List SkuProfitDaily) : Option (List WaterfallStep) := do
  let revenue := quantizeSum (rows.map fun row => some row.revenue)
  let lines ← sumLines rows
  let net := sumIfAll (rows.map SkuProfitDaily.netProfit)
  let fx := sumIfAll (rows.map SkuProfitDaily.fxGain)
  let formula :=
    match rows with
    | [row] => row.fxFormula
    | _ => "区间内汇兑损益为各日合计，不计入净利。"
  return buildWaterfall (some revenue) lines net fx formula

/-- What a waterfall is asked for. -/
structure Query where
  dateFrom : Day
  dateTo : Day
  skuId : Option ℕ
  shopId : Option ℕ
  currency : Option String

/-- `list_between`. -/
def listBetween (d : Db) (query : Query) : List SkuProfitDaily :=
  (d.profits.filter fun row =>
    query.dateFrom ≤ row.statDate && row.statDate ≤ query.dateTo &&
      query.skuId.all (· = row.skuId) && query.shopId.all (· = row.shopId) &&
      query.currency.all (· = row.currency)).insertionSort fun a b =>
        a.statDate < b.statDate ∨ a.statDate = b.statDate ∧ a.skuId ≤ b.skuId

structure WaterfallView where
  currency : String
  bookCurrency : String
  steps : List WaterfallStep

/-- `ProfitService.waterfall`, with the amounts before they are written down. It is `none` where a
stored amount is no number. -/
def waterfall (d : Db) (query : Query) : Option (Except ServiceError WaterfallView) :=
  let rows := listBetween d query
  if rows = [] then some (.ok ⟨query.currency.getD "", "", []⟩)
  else
    match Groups.common (rows.map fun row => Text.strip row.currency) with
    | some currency =>
      let book := (Groups.common (rows.map fun row => Text.strip row.bookCurrency)).getD ""
      (stepsOf rows).map fun steps => .ok ⟨currency, book, steps⟩
    | none => some (.error (.paramInvalid "区间内有多种订单币种，请按币种筛选"))

/-! ### Down to the profit -/

/-- The row is one that a materialization writes. -/
def Produced (row : SkuProfitDaily) : Prop :=
  ∃ id key book quantity units bookRate fx,
    row = ProfitService.dailyRow id key book quantity (rollupDaily units bookRate fx)

/-- Each step leaves what the one before it left, and its own amount. -/
inductive Runs : ℚ → List WaterfallStep → ℚ → Prop
  | nil (x : ℚ) : Runs x [] x
  | cons {x amount y : ℚ} {step : WaterfallStep} {rest : List WaterfallStep}
    (hamount : step.amount = some amount) (hrunning : step.running = some (x + amount))
    (hrest : Runs (x + amount) rest y) : Runs x (step :: rest) y

/-- A waterfall of some rows: the costs lead from the revenue to the profit. -/
structure Descends (rows : List SkuProfitDaily) (first : WaterfallStep)
    (costs : List WaterfallStep) (last memo : WaterfallStep) : Prop where
  first_code : first.code = .revenue
  costs_code : costs.map WaterfallStep.code = LineCode.all.map StepCode.line
  last_code : last.code = .net
  memo_code : memo.code = .fxGain
  runs : ∃ revenue net, first.amount = some revenue ∧ first.running = some revenue ∧
    Runs revenue costs net ∧ last.amount = some net ∧ last.running = some net ∧
    memo.running = some net ∧ net = (rows.map fun row => row.netProfit.getD 0).sum

section Steps

variable {rows : List SkuProfitDaily} {row : SkuProfitDaily}

/-- A row whose costs are known: the amounts of its lines, and what they leave. -/
structure Costs (row : SkuProfitDaily) (amount : LineCode → ℚ) : Prop where
  fixed : ∀ code, Fixed 6 (amount code)
  revenue : Fixed 6 row.revenue
  net : row.netProfit = some (row.revenue - (LineCode.all.map amount).sum)
  stored : ∀ code, ∃ line text, storedOf code row = some line ∧ line.amount = some text ∧
    amountOf text = some (amount code)

lemma amountOf_text {x : ℚ} (h : Fixed 6 x) : amountOf (Decimals.text 6 x) = some x := by
  obtain ⟨d, hd, hvalue⟩ := Decimals.Decimal.ofText_text (by norm_num : 0 < 6) x
  rw [quantize_eq_self h] at hvalue
  simp [amountOf, hd, hvalue]

/-- What is made of each of some codes is found under its code. -/
lemma find_map {α : Type} {f : LineCode → α} {key : α → LineCode} (hkey : ∀ c, key (f c) = c)
    {codes : List LineCode} {code : LineCode} (hcode : code ∈ codes) :
    (codes.map f).find? (fun a => key a = code) = some (f code) := by
  induction codes with
  | nil => simp at hcode
  | cons c rest ih =>
    rw [List.map_cons, List.find?_cons]
    by_cases hc : c = code
    · simp [hkey, hc]
    · simp only [hkey, hc, decide_false]
      exact ih ((List.mem_cons.mp hcode).resolve_left (Ne.symm hc))

/-- The line that a row stores for a code. -/
lemma find_storedLine (units : List ProfitUnit) (code : LineCode) :
    ((combine units).map ProfitService.storedLine).find? (fun line => line.code = code) =
      some (ProfitService.storedLine (combineLine units code)) := by
  rw [combine, List.map_map]
  exact find_map (f := fun c => ProfitService.storedLine (combineLine units c))
    (fun c => (sound_combineLine units c).code_eq) (mem_all code)

/-- What a materialization writes is read again. -/
lemma Produced.costs (h : Produced row) (hnet : row.netProfit.isSome) : ∃ amount, Costs row amount := by
  obtain ⟨id, key, book, quantity, units, bookRate, fx, rfl⟩ := h
  obtain ⟨hsettled, rate, rfl, hrate⟩ := settled_of_netProfit hnet
  obtain ⟨-, hprofit, -⟩ := hsettled.rollupDaily hrate fx
  refine ⟨lineAmount units, fixed_lineAmount units, fixed_revenue units _ fx, hprofit, ?_⟩
  intro code
  refine ⟨ProfitService.storedLine (combineLine units code), Decimals.text 6 (lineAmount units code),
    ?_, ?_, amountOf_text (fixed_lineAmount units code)⟩
  · have hlines : (ProfitService.dailyRow id key book quantity
        (rollupDaily units (some rate) fx)).lines = (combine units).map ProfitService.storedLine := by
      rw [← rollupDaily_lines units (some rate) fx]
      rfl
    have hcomplete := (sound_combineLine units code).complete_eq
    rw [hsettled code] at hcomplete
    rw [storedOf, hlines, find_storedLine, Option.filter_some, if_pos]
    simp [ProfitService.storedLine, hcomplete, hsettled code]
  · simp [ProfitService.storedLine, hsettled code]

lemma sum_eq_quantizeSum {xs : List ℚ} (h : ∀ x ∈ xs, Fixed 6 x) :
    quantizeSum (xs.map some) = xs.sum := by
  have hreduce : (xs.map some).reduceOption = xs := by simp [List.reduceOption]
  rw [quantizeSum, hreduce, Decimals.quantizeEven_eq_self (Fixed.sum h)]

variable {amount : SkuProfitDaily → LineCode → ℚ}

/-- What the rows store for a code is read. -/
lemma mapM_stored (h : ∀ row ∈ rows, Costs row (amount row)) (code : LineCode) :
    (rows.map (storedOf code)).any Option.isNone = false ∧
      ((rows.map (storedOf code)).reduceOption.filterMap StoredLine.amount).mapM amountOf =
        some (rows.map fun row => amount row code) := by
  induction rows with
  | nil => exact ⟨rfl, rfl⟩
  | cons row rest ih =>
    obtain ⟨hall, hread⟩ := ih fun r hr => h r (by simp [hr])
    obtain ⟨line, text, hline, htext, hamount⟩ := (h row (by simp)).stored code
    constructor
    · rw [List.map_cons, List.any_cons, hline, hall]
      rfl
    · rw [List.map_cons, hline, List.reduceOption_cons_of_some, List.filterMap_cons, htext]
      rw [List.mapM_cons, hamount, hread]
      rfl

/-- The line of a code over all rows. -/
lemma exists_sumLine (h : ∀ row ∈ rows, Costs row (amount row)) (code : LineCode) :
    ∃ line, sumLine rows code = some line ∧ line.code = code ∧
      line.amount = some (rows.map fun row => amount row code).sum := by
  obtain ⟨hall, hread⟩ := mapM_stored h code
  have hfixed : ∀ x ∈ rows.map fun row => amount row code, Fixed 6 x := by
    intro x hx
    obtain ⟨row, hrow, rfl⟩ := List.mem_map.mp hx
    exact (h row hrow).fixed code
  simp only [sumLine, hread, hall, Option.bind_eq_bind, Option.bind_some, Bool.false_eq_true,
    if_false, sum_eq_quantizeSum hfixed]
  exact ⟨_, rfl, rfl, rfl⟩

/-- The steps of costs that are known. -/
lemma runs_costSteps {lines : List CostLine} {total : LineCode → ℚ}
    (hfixed : ∀ code, Fixed 6 (total code))
    (hlines : ∀ code, ∃ line, lineFor lines code = some line ∧ line.amount = some (total code))
    (codes : List LineCode) {x : ℚ} (hx : Fixed 6 x) :
    (costSteps lines codes (some x)).map WaterfallStep.code = codes.map StepCode.line ∧
      Runs x (costSteps lines codes (some x)) (x - (codes.map total).sum) := by
  induction codes generalizing x with
  | nil =>
    refine ⟨rfl, ?_⟩
    rw [List.map_nil, List.sum_nil, sub_zero]
    exact .nil x
  | cons code rest ih =>
    obtain ⟨line, hline, hamount⟩ := hlines code
    have hdelta : quantize (-total code) = -total code := quantize_eq_self (hfixed code).neg
    have hnext : quantize (x + -total code) = x + -total code :=
      quantize_eq_self (hx.add (hfixed code).neg)
    obtain ⟨hcodes, hruns⟩ := ih (hx.add (hfixed code).neg)
    simp only [costSteps, hline, hamount, hdelta, hnext, List.map_cons, hcodes, true_and,
      List.sum_cons]
    refine .cons rfl rfl ?_
    rw [show x - (total code + (rest.map total).sum) =
      x + -total code - (rest.map total).sum by ring]
    exact hruns

/-- The amounts of all rows, summed up by code or by row. -/
lemma sum_by_code (codes : List LineCode) :
    (codes.map fun code => (rows.map fun row => amount row code).sum).sum =
      (rows.map fun row => (codes.map (amount row)).sum).sum := by
  induction rows with
  | nil => simp
  | cons row rest ih =>
    simp only [List.map_cons, List.sum_cons, ← ih]
    exact List.sum_map_add

/-- What the rows sold for, less their costs, is what they earned. -/
lemma sum_net (h : ∀ row ∈ rows, Costs row (amount row)) :
    (rows.map SkuProfitDaily.revenue).sum -
        (rows.map fun row => (LineCode.all.map (amount row)).sum).sum =
      (rows.map fun row => row.netProfit.getD 0).sum := by
  induction rows with
  | nil => simp
  | cons row rest ih =>
    have hrest := ih fun r hr => h r (by simp [hr])
    simp only [List.map_cons, List.sum_cons, ← hrest, (h row (by simp)).net, Option.getD_some]
    ring

lemma sumIfAll_of_isSome {values : List (Option ℚ)} (h : ∀ v ∈ values, v.isSome)
    (hfixed : ∀ v ∈ values, Fixed 6 (v.getD 0)) :
    sumIfAll values = some (values.map fun v => v.getD 0).sum := by
  have hvalues : values = (values.map fun v => v.getD 0).map some := by
    rw [List.map_map]
    conv_lhs => rw [← List.map_id values]
    apply List.map_congr_left
    intro v hv
    obtain ⟨x, rfl⟩ := Option.isSome_iff_exists.mp (h v hv)
    rfl
  have hnone : values.any Option.isNone = false := by
    rw [List.any_eq_false]
    intro v hv
    obtain ⟨x, rfl⟩ := Option.isSome_iff_exists.mp (h v hv)
    simp
  rw [sumIfAll, hnone, if_neg Bool.false_ne_true, hvalues, sum_eq_quantizeSum]
  · rw [← hvalues]
  · intro x hx
    obtain ⟨v, hv, rfl⟩ := List.mem_map.mp hx
    exact hfixed v hv

/-- The lines of all rows. -/
lemma exists_sumLines (h : ∀ row ∈ rows, Costs row (amount row)) :
    ∃ lines, sumLines rows = some lines ∧ ∀ code, ∃ line, lineFor lines code = some line ∧
      line.amount = some (rows.map fun row => amount row code).sum := by
  choose line hline hcode hamount using exists_sumLine h
  refine ⟨LineCode.all.map line, ?_, fun code => ⟨line code, ?_, hamount code⟩⟩
  · rw [sumLines, Optional.mapM_eq_some_iff, List.forall₂_map_right_iff, List.forall₂_same]
    exact fun code _ => hline code
  · rw [lineFor, ← List.map_reverse]
    exact find_map hcode (List.mem_reverse.mpr (mem_all code))

end Steps

/-- The costs of rows with profits lead from their revenue to their profit. -/
theorem stepsOf_descends (rows : List SkuProfitDaily) (hrows : ∀ row ∈ rows, Produced row)
    (hnet : ∀ row ∈ rows, row.netProfit.isSome) :
    ∃ first costs last memo, stepsOf rows = some (first :: costs ++ [last, memo]) ∧
      Descends rows first costs last memo := by
  have hcosts : ∀ row ∈ rows, ∃ amount, Costs row amount :=
    fun row hrow => (hrows row hrow).costs (hnet row hrow)
  choose! amount hamount using hcosts
  obtain ⟨lines, hlines, hline⟩ := exists_sumLines hamount
  have hrevenue : ∀ x ∈ rows.map SkuProfitDaily.revenue, Fixed 6 x := by
    intro x hx
    obtain ⟨row, hrow, rfl⟩ := List.mem_map.mp hx
    exact (hamount row hrow).revenue
  have hfixed (code : LineCode) : Fixed 6 (rows.map fun row => amount row code).sum := by
    apply Fixed.sum
    intro x hx
    obtain ⟨row, hrow, rfl⟩ := List.mem_map.mp hx
    exact (hamount row hrow).fixed code
  have hsum : sumIfAll (rows.map SkuProfitDaily.netProfit) =
      some (rows.map fun row => row.netProfit.getD 0).sum := by
    rw [sumIfAll_of_isSome, List.map_map]
    · rfl
    · intro v hv
      obtain ⟨row, hrow, rfl⟩ := List.mem_map.mp hv
      exact hnet row hrow
    · intro v hv
      obtain ⟨row, hrow, rfl⟩ := List.mem_map.mp hv
      have h := hamount row hrow
      rw [h.net, Option.getD_some]
      refine h.revenue.sub (Fixed.sum fun x hx => ?_)
      obtain ⟨code, -, rfl⟩ := List.mem_map.mp hx
      exact h.fixed code
  have htotal : quantizeSum (rows.map fun row => some row.revenue) =
      (rows.map SkuProfitDaily.revenue).sum := by
    rw [← sum_eq_quantizeSum hrevenue, List.map_map]
    rfl
  obtain ⟨hcodes, hruns⟩ := runs_costSteps hfixed hline LineCode.all (Fixed.sum hrevenue)
  rw [sum_by_code, sum_net hamount] at hruns
  simp only [stepsOf, hlines, hsum, htotal, Option.bind_eq_bind, Option.bind_some, buildWaterfall]
  exact ⟨_, _, _, _, rfl, rfl, hcodes, rfl, rfl, _, _, rfl, rfl, hruns, rfl, rfl, rfl, rfl⟩

/-- Two days of a piece a day. -/
def twoDays : List SkuProfitDaily :=
  [1, 2].map fun day => ProfitService.dailyRow day ⟨1, 1, day, "USD"⟩ "CNY" 1
    (rollupDaily onePiece (some 7) noGain)

theorem stepsOf_descends_twoDays :
    ∃ first costs last memo, stepsOf twoDays = some (first :: costs ++ [last, memo]) ∧
      Descends twoDays first costs last memo := by
  apply stepsOf_descends
  · intro row hrow
    obtain ⟨day, -, rfl⟩ := List.mem_map.mp hrow
    exact ⟨_, _, _, _, _, _, _, rfl⟩
  · decide +kernel

/-- The service shows the waterfall of the rows that it selects. -/
lemma stepsOf_of_waterfall {d : Db} {query : Query} {view : WaterfallView}
    (h : waterfall d query = some (.ok view)) (hne : listBetween d query ≠ []) :
    stepsOf (listBetween d query) = some view.steps := by
  rw [waterfall, if_neg hne] at h
  split at h
  · obtain ⟨steps, hsteps, hview⟩ := Option.map_eq_some_iff.mp h
    rw [hsteps, ← Except.ok.inj hview]
  · cases h

end Waterfall

end CrossPilot
