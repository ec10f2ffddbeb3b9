import CrossPilot.Finance.LandedCost
import CrossPilot.Lib.Groups
import CrossPilot.Lib.Optional

/-!
# Settlements beside orders

The lines of a settlement are matched with the orders of the shop, and for each order number its
lines are added up and held against what the order says. Nothing is converted: amounts in another
currency than that of the order are listed, not compared.
-/

namespace CrossPilot

open LandedCost Decimals Groups

namespace Reconcile

inductive MatchStatus
  | matched
  | unmatched
  deriving DecidableEq

def noteUnmatched : String := "未匹配到订单"
def noteCurrency : String := "币种不一致，未折算"
def noteCompared : String := "同币种差额 = 结算合计 − 订单总额"

/-- An order, with its total as the column keeps it. -/
structure OrderRef where
  orderId : ℕ
  totalAmount : ℚ
  currency : String
  total_fixed : Fixed 6 totalAmount

/-- A line of a settlement. The import and the column both ask for a currency of three letters. -/
structure SettlementLine where
  platformOrderId : String
  feeType : String
  amount : ℚ
  currency : String
  currency_length : currency.length = 3

structure MatchedLine where
  platformOrderId : String
  feeType : String
  amount : ℚ
  currency : String
  orderId : Option ℕ
  status : MatchStatus
  deriving DecidableEq

structure OrderGap where
  platformOrderId : String
  orderId : Option ℕ
  orderAmount : Option ℚ
  orderCurrency : Option String
  settlementAmount : Option ℚ
  settlementCurrency : Option String
  deviation : Option ℚ
  note : String
  deriving DecidableEq

/-- The currency of the lines, if all have the same. -/
def settlementCurrency (lines : List SettlementLine) : Option String :=
  common (lines.map SettlementLine.currency)

/-- The amounts of some lines. -/
def sumOf (lines : List SettlementLine) : ℚ := (lines.map SettlementLine.amount).sum

/-- `_gap`. It is `none` where the assertion fails. -/
def gap (platformOrderId : String) (lines : List SettlementLine) (order : Option OrderRef) :
    Option OrderGap :=
  let currency := settlementCurrency lines
  -- an empty currency counts as none here
  let amount := (currency.filter (· ≠ "")).map fun _ => quantize (sumOf lines)
  match order with
  | none => some ⟨platformOrderId, none, none, none, amount, currency, none, noteUnmatched⟩
  | some order =>
    if currency ≠ some order.currency then
      some ⟨platformOrderId, some order.orderId, some (quantize order.totalAmount),
        some order.currency, amount, currency, none, noteCurrency⟩
    else
      amount.map fun amount =>
        ⟨platformOrderId, some order.orderId, some (quantize order.totalAmount),
          some order.currency, some amount, currency, some (quantize (amount - order.totalAmount)),
          noteCompared⟩

/-- A line with its order, if there is one. -/
def matchedLine (orders : String → Option OrderRef) (line : SettlementLine) : MatchedLine where
  platformOrderId := line.platformOrderId
  feeType := line.feeType
  amount := quantize line.amount
  currency := line.currency
  orderId := (orders line.platformOrderId).map OrderRef.orderId
  status := if (orders line.platformOrderId).isSome then .matched else .unmatched

/-- What the loop over the lines has gathered. -/
structure Gathered where
  matched : List MatchedLine
  grouped : List (String × List SettlementLine)
  hits : ℕ

/-- One round of the loop. -/
def gather (orders : String → Option OrderRef) (seen : Gathered) (line : SettlementLine) :
    Gathered where
  matched := seen.matched ++ [matchedLine orders line]
  grouped := place SettlementLine.platformOrderId seen.grouped line
  hits := if (orders line.platformOrderId).isSome then seen.hits + 1 else seen.hits

/-- The lines, the gaps of the order numbers and the rate. It is `none` where an assertion fails. -/
def reconcile (lines : List SettlementLine) (orders : String → Option OrderRef) :
    Option (List MatchedLine × List OrderGap × ℚ) := do
  let seen := lines.foldl (gather orders) ⟨[], [], 0⟩
  let gaps ← seen.grouped.mapM fun group => gap group.1 group.2 (orders group.1)
  let total := lines.length
  let rate := if total = 0 then 0 else quantize ((seen.hits : ℚ) / total)
  return (seen.matched, gaps, rate)

/-- The lines with an order number. -/
def linesOf (platformOrderId : String) (lines : List SettlementLine) : List SettlementLine :=
  lines.filter fun line => line.platformOrderId = platformOrderId

/-- How many lines have an order. -/
def hitsOf (orders : String → Option OrderRef) (lines : List SettlementLine) : ℕ :=
  lines.countP fun line => (orders line.platformOrderId).isSome

/-- An order number has an order, in the currency of all its lines. -/
def Comparable (lines : List SettlementLine) (orders : String → Option OrderRef)
    (platformOrderId : String) : Prop :=
  ∃ order, orders platformOrderId = some order ∧
    ∀ line ∈ lines, line.platformOrderId = platformOrderId → line.currency = order.currency

/-- A line of the settlement as it is listed. -/
structure Lists (orders : String → Option OrderRef) (line : SettlementLine)
    (listed : MatchedLine) : Prop where
  platformOrderId : listed.platformOrderId = line.platformOrderId
  feeType : listed.feeType = line.feeType
  amount : listed.amount = quantize line.amount
  currency : listed.currency = line.currency
  orderId : listed.orderId = (orders line.platformOrderId).map OrderRef.orderId
  status : listed.status = .matched ↔ (orders line.platformOrderId).isSome

/-- What a reconciliation says of lines and orders. The rate and the sums have six decimals. -/
structure Reconciled (lines : List SettlementLine) (orders : String → Option OrderRef)
    (matched : List MatchedLine) (gaps : List OrderGap) (rate : ℚ) : Prop where
  listed : List.Forall₂ (Lists orders) lines matched
  grouped : ∀ line ∈ lines, ∃! gap, gap ∈ gaps ∧ gap.platformOrderId = line.platformOrderId
  nodup : (gaps.map OrderGap.platformOrderId).Nodup
  from_lines : ∀ gap ∈ gaps, ∃ line ∈ lines, line.platformOrderId = gap.platformOrderId
  compared : ∀ gap ∈ gaps, gap.deviation.isSome ↔ Comparable lines orders gap.platformOrderId
  deviation : ∀ gap ∈ gaps, ∀ order, orders gap.platformOrderId = some order → ∀ deviation,
    gap.deviation = some deviation →
      deviation = quantize (sumOf (linesOf gap.platformOrderId lines)) - order.totalAmount
  exact : (∀ line ∈ lines, Fixed 6 line.amount) → ∀ gap ∈ gaps, ∀ order,
    orders gap.platformOrderId = some order → ∀ deviation, gap.deviation = some deviation →
      deviation = sumOf (linesOf gap.platformOrderId lines) - order.totalAmount
  rate : rate = quantize ((hitsOf orders lines : ℚ) / lines.length)

section Gaps

variable {lines : List SettlementLine} {orders : String → Option OrderRef}

/-- The loop lists each line, groups the lines and counts the hits. -/
lemma foldl_gather (lines : List SettlementLine) (seen : Gathered) :
    lines.foldl (gather orders) seen =
      ⟨seen.matched ++ lines.map (matchedLine orders),
        lines.foldl (place SettlementLine.platformOrderId) seen.grouped,
        seen.hits + hitsOf orders lines⟩ := by
  induction lines generalizing seen with
  | nil => simp [hitsOf]
  | cons line rest ih =>
    rw [List.foldl_cons, ih]
    simp only [gather, hitsOf, List.map_cons, List.foldl_cons, List.append_assoc,
      List.singleton_append, List.countP_cons, Gathered.mk.injEq, true_and]
    split_ifs <;> omega

lemma bucket_eq_linesOf (platformOrderId : String) :
    bucket (fun line => some line.platformOrderId) platformOrderId lines =
      linesOf platformOrderId lines := by
  simp [bucket, linesOf]

/-- Which lines have one currency. -/
lemma settlementCurrency_eq_some {currency : String} (hne : lines ≠ []) :
    settlementCurrency lines = some currency ↔ ∀ line ∈ lines, line.currency = currency := by
  rw [settlementCurrency, common_eq_some_iff (by simpa using hne)]
  simp

/-- Lines that have one currency are added up. -/
lemma amount_eq (hne : lines ≠ []) {currency : String}
    (h : settlementCurrency lines = some currency) :
    ((settlementCurrency lines).filter (· ≠ "")).map (fun _ => quantize (sumOf lines)) =
      some (quantize (sumOf lines)) := by
  obtain ⟨line, hline⟩ := List.exists_mem_of_ne_nil lines hne
  have hcurrency := (settlementCurrency_eq_some hne).mp h line hline
  have hlength := line.currency_length
  have hfilled : currency ≠ "" := by
    rintro rfl
    rw [hcurrency] at hlength
    exact absurd hlength (by decide)
  simp [h, hfilled]

lemma quantize_sub_total (x : ℚ) (order : OrderRef) :
    quantize (quantize x - order.totalAmount) = quantize x - order.totalAmount :=
  quantize_eq_self ((fixed_quantize 6 x).sub order.total_fixed)

lemma platformOrderId_of_gap {platformOrderId : String} {order : Option OrderRef} {g : OrderGap}
    (h : gap platformOrderId lines order = some g) : g.platformOrderId = platformOrderId := by
  cases order with
  | none =>
    simp only [gap, Option.some.injEq] at h
    rw [← h]
  | some order =>
    simp only [gap] at h
    split_ifs at h
    · rw [← Option.some.inj h]
    · obtain ⟨_, _, rfl⟩ := Option.map_eq_some_iff.mp h
      rfl

/-- A deviation `x` of some lines from an order in their currency. -/
def Deviates (lines : List SettlementLine) (order : Option OrderRef) (x : ℚ) : Prop :=
  ∃ o, order = some o ∧ (∀ line ∈ lines, line.currency = o.currency) ∧
    x = quantize (sumOf lines) - o.totalAmount

/-- A group of lines has a gap, and its deviation is known if the order has their currency. -/
lemma exists_gap (platformOrderId : String) (hne : lines ≠ []) (order : Option OrderRef) :
    ∃ g, gap platformOrderId lines order = some g ∧
      ∀ x, g.deviation = some x ↔ Deviates lines order x := by
  cases order with
  | none => exact ⟨_, rfl, by simp [Deviates]⟩
  | some order =>
    by_cases hsame : settlementCurrency lines = some order.currency
    · refine ⟨⟨platformOrderId, some order.orderId, some (quantize order.totalAmount),
        some order.currency, some (quantize (sumOf lines)), settlementCurrency lines,
        some (quantize (quantize (sumOf lines) - order.totalAmount)), noteCompared⟩, ?_, ?_⟩
      · simp only [gap, hsame, ne_eq, not_true_eq_false, if_false]
        rw [← hsame, amount_eq hne hsame, Option.map_some]
      · intro x
        rw [settlementCurrency_eq_some hne] at hsame
        simp only [quantize_sub_total, Option.some.injEq, Deviates, exists_eq_left']
        exact ⟨fun h => ⟨hsame, h.symm⟩, fun h => h.2.symm⟩
    · simp only [gap, ne_eq, hsame, not_false_eq_true, if_true, Option.some.injEq, exists_eq_left',
        reduceCtorEq, false_iff]
      rintro x ⟨_, ho, hcurrency, -⟩
      obtain rfl := Option.some.inj ho
      exact hsame ((settlementCurrency_eq_some hne).mpr hcurrency)

/-- The lines under their order numbers. -/
abbrev lineGroups (lines : List SettlementLine) : List (String × List SettlementLine) :=
  groups (fun line => some line.platformOrderId) lines

lemma lines_of_group {group : String × List SettlementLine} (hgroup : group ∈ lineGroups lines) :
    group.2 = linesOf group.1 lines ∧ group.2 ≠ [] ∧
      ∃ line ∈ lines, line.platformOrderId = group.1 := by
  obtain ⟨⟨line, hline, hkey⟩, hrows⟩ := mem_groups.mp hgroup
  rw [bucket_eq_linesOf] at hrows
  have hkey := Option.some.inj hkey
  refine ⟨hrows, ?_, line, hline, hkey⟩
  rw [hrows]
  exact List.ne_nil_of_mem (List.mem_filter.mpr ⟨hline, by simp [hkey]⟩)

/-- No assertion fails. -/
lemma exists_gaps (lines : List SettlementLine) (orders : String → Option OrderRef) :
    ∃ gaps, (lineGroups lines).mapM (fun group => gap group.1 group.2 (orders group.1)) =
      some gaps := by
  apply Optional.exists_mapM
  intro group hgroup
  obtain ⟨-, hne, -⟩ := lines_of_group hgroup
  obtain ⟨g, hg, -⟩ := exists_gap group.1 hne (orders group.1)
  exact ⟨g, hg⟩

/-- The gap of an order number is that of its lines. -/
lemma deviation_of_mem {gaps : List OrderGap}
    (hgaps : (lineGroups lines).mapM (fun group => gap group.1 group.2 (orders group.1)) =
      some gaps) {g : OrderGap} (hg : g ∈ gaps) (x : ℚ) :
    g.deviation = some x ↔
      Deviates (linesOf g.platformOrderId lines) (orders g.platformOrderId) x := by
  obtain ⟨group, hgroup, hgap⟩ := Optional.exists_of_mem hgaps hg
  obtain ⟨hrows, hne, -⟩ := lines_of_group hgroup
  obtain ⟨g', hgap', hdeviation⟩ := exists_gap group.1 hne (orders group.1)
  obtain rfl : g = g' := Option.some.inj (hgap.symm.trans hgap')
  rw [platformOrderId_of_gap hgap, ← hrows]
  exact hdeviation x

end Gaps

/-- A sum of amounts of six decimals is exact. -/
lemma exact_sumOf {lines : List SettlementLine} (h : ∀ line ∈ lines, Fixed 6 line.amount) :
    quantize (sumOf lines) = sumOf lines := by
  apply quantize_eq_self
  apply Fixed.sum
  intro amount hamount
  obtain ⟨line, hline, rfl⟩ := List.mem_map.mp hamount
  exact h line hline

/-- A settlement of three lines. The order of the first is known. -/
def threeLines : List SettlementLine :=
  [⟨"A", "ITEM", 10, "USD", rfl⟩, ⟨"B", "ITEM", 20, "USD", rfl⟩, ⟨"C", "ITEM", 30, "USD", rfl⟩]

def firstKnown (platformOrderId : String) : Option OrderRef :=
  if platformOrderId = "A" then some ⟨1, 10, "USD", 10000000, by norm_num⟩ else none

end Reconcile

end CrossPilot
