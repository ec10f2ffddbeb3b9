import CrossPilot.Finance.LandedCost

/-!
# Exchange gains and the profit of a day

The order lines of a SKU in a shop on a day, in one currency, become one row. What rates changed
between order and settlement stands beside the profit and is no part of it. Without a rate into
the currency of the books there is a revenue but no cost and no profit.
-/

namespace CrossPilot

open LandedCost

namespace Profit

structure FxGain where
  amount : Option ℚ
  currency : String
  formula : String
  source : String
  complete : Bool
  deriving DecidableEq

structure DailyRollup where
  revenue : ℚ
  costTotal : Option ℚ
  netProfit : Option ℚ
  netMarginPercent : Option ℚ
  bookRevenue : Option ℚ
  bookCostTotal : Option ℚ
  bookNetProfit : Option ℚ
  fxGain : Option ℚ
  fxFormula : String
  fxSource : String
  lines : List CostLine
  complete : Bool
  deriving DecidableEq

/-- An order line with the cost of one unit. -/
structure ProfitUnit where
  quantity : ℤ
  price : ℚ
  cost : LandedCostResult

/-- A rate that can be used. -/
def positive (rate : Option ℚ) : Option ℚ := rate.filter (0 < ·)

def fxGainLoss (foreignAmount : ℚ) (orderRate settlementRate : Option ℚ)
    (orderSource settlementSource bookCurrency : String) (sameCurrency : Bool := false) : FxGain :=
  if sameCurrency then
    ⟨some 0, bookCurrency, "下单币种与记账币种相同，汇兑损益 = 0。不计入商品成本。", "币种相同", true⟩
  else
    match positive orderRate, positive settlementRate with
    | some order, some settlement =>
      let amount := quantize (foreignAmount * (settlement - order))
      ⟨some amount, bookCurrency,
        "汇兑损益 = " ++ moneyText foreignAmount ++ " × (结算汇率 " ++ moneyText settlement ++
          " − 下单汇率 " ++ moneyText order ++ ") = " ++ moneyText amount ++ " " ++ bookCurrency ++
          "。不计入商品成本。",
        "下单：" ++ orderSource ++ "；结算：" ++ settlementSource, true⟩
    | _, _ => ⟨none, bookCurrency, "缺少下单汇率或结算汇率，汇兑损益留空。", "未配置", false⟩

/-- The line of each unit with its quantity. The cost of a unit has every line. -/
def unitLines (code : LineCode) (units : List ProfitUnit) : List (ℤ × CostLine) :=
  units.filterMap fun unit =>
    (unit.cost.lines.find? fun line => line.code = code).map (unit.quantity, ·)

/-- The amount of a line, if it is complete. -/
def settled (line : CostLine) : Option ℚ := if line.complete then line.amount else none

/-- The text, or another one if it is empty. -/
def orElse (text other : String) : String := if text = "" then other else text

/-- One line of `_combine`. -/
def combineLine (units : List ProfitUnit) (code : LineCode) : CostLine :=
  let lines := unitLines code units
  let currency := (lines.getLast?.map fun l => l.2.currency).getD ""
  let sources := String.intercalate "；" (lines.map fun l => l.2.source).eraseDups
  match lines.mapM fun l => (settled l.2).map fun amount => quantize (amount * l.1) with
  | none => ⟨code, code.label, none, currency, code.label ++ "有订单行不完整。",
      orElse sources "未配置", false⟩
  | some amounts =>
    let total := quantize amounts.sum
    ⟨code, code.label, some total, currency,
      code.label ++ "合计 = " ++ moneyText total ++ " " ++ currency ++ "。",
      orElse sources "本次计算", true⟩

/-- `_combine`. -/
def combine (units : List ProfitUnit) : List CostLine := LineCode.all.map (combineLine units)

/-- The price of all units of a line. -/
def linePrice (price : ℚ) (quantity : ℤ) : ℚ := quantize (price * quantity)

def rollupDaily (units : List ProfitUnit) (bookRate : Option ℚ) (fx : FxGain) : DailyRollup :=
  let revenue := quantize (units.map fun unit => linePrice unit.price unit.quantity).sum
  let lines := combine units
  let cost := (lines.mapM settled).map fun amounts => quantize amounts.sum
  let net := cost.map fun cost => quantize (revenue - cost)
  let margin := if 0 < revenue then net.map fun net => quantize (net / revenue * 100) else none
  match positive bookRate with
  | none =>
    { revenue, costTotal := none, netProfit := none, netMarginPercent := none, bookRevenue := none
      bookCostTotal := none, bookNetProfit := none, fxGain := fx.amount, fxFormula := fx.formula
      fxSource := fx.source, lines, complete := false }
  | some rate =>
    { revenue, costTotal := cost, netProfit := net, netMarginPercent := margin
      bookRevenue := some (quantize (revenue * rate))
      bookCostTotal := cost.map fun cost => quantize (cost * rate)
      bookNetProfit := net.map fun net => quantize (net * rate)
      fxGain := fx.amount, fxFormula := fx.formula, fxSource := fx.source, lines
      complete := cost.isSome }

/-- The revenue of a day is what its lines were sold for. -/
lemma rollupDaily_revenue (units : List ProfitUnit) (bookRate : Option ℚ) (fx : FxGain) :
    (rollupDaily units bookRate fx).revenue =
      quantize (units.map fun unit => linePrice unit.price unit.quantity).sum := by
  simp only [rollupDaily]
  split <;> rfl

end Profit

end CrossPilot
