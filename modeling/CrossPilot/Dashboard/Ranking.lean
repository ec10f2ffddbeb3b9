import CrossPilot.Dashboard.Rollups
import CrossPilot.Lib.Extremes

/-!
# The ranking of SKUs

The SKUs with complete profits are sorted from the best to the worst. The best are shown, the worst,
and those with a loss. The list of losses is cut where it is longest: it keeps those that lost least
(`losses_iff`).
-/

namespace CrossPilot

open LandedCost Extremes

namespace Dashboard

/-- The profits of a SKU in a window, summed up by the database. -/
structure RawRank where
  skuId : ℕ
  spuId : ℕ
  skuCode : String
  currency : String
  bookCurrency : String
  quantity : ℤ
  revenue : ℚ
  netProfit : Option ℚ
  bookNetProfit : Option ℚ
  complete : Bool
  bookRevenue : Option ℚ

/-- A SKU in the ranking. A loss is a profit below zero. -/
structure SkuRank where
  skuId : ℕ
  spuId : ℕ
  skuCode : String
  currency : String
  bookCurrency : String
  quantity : ℤ
  revenue : ℚ
  netProfit : Option ℚ
  bookNetProfit : Option ℚ
  netMargin : Option ℚ
  loss : Bool
  complete : Bool
  bookRevenue : Option ℚ := none
  loss_eq : loss = netProfit.any fun net => net < 0
  deriving DecidableEq

/-- A SKU as `ranking` takes it from the database. -/
def RawRank.rank (row : RawRank) : SkuRank :=
  let net := if row.complete then row.netProfit else none
  { skuId := row.skuId
    spuId := row.spuId
    skuCode := row.skuCode
    currency := Text.strip row.currency
    bookCurrency := Text.strip row.bookCurrency
    quantity := row.quantity
    revenue := row.revenue
    netProfit := net
    bookNetProfit := if row.complete then row.bookNetProfit else none
    netMargin := net.bind fun net => ratio net row.revenue
    loss := net.any fun net => net < 0
    complete := row.complete && net.isSome
    bookRevenue := if row.complete then row.bookRevenue else none
    loss_eq := rfl }

/-- The SKUs that are ranked. -/
def ready (rows : List SkuRank) : List SkuRank :=
  rows.filter fun row => row.complete && row.netProfit.isSome

/-- `item.net_profit or Decimal("0")`. -/
def SkuRank.net (row : SkuRank) : ℚ := row.netProfit.getD 0

/-- The ranked SKUs from the best on. Those with the same profit stay in order. -/
def ordered (rows : List SkuRank) : List SkuRank :=
  (ready rows).insertionSort fun a b => b.net ≤ a.net

/-- `ordered[-limit:]`. All of a list come after its end less zero. -/
def lastOf {α : Type} (limit : ℕ) (xs : List α) : List α :=
  if limit = 0 then xs else xs.drop (xs.length - limit)

structure Ranking where
  top : List SkuRank
  bottom : List SkuRank
  loss : List SkuRank
  deriving DecidableEq

def rankSkus (rows : List SkuRank) (limit : ℕ) : Ranking where
  top := (ordered rows).take limit
  bottom := (lastOf limit (ordered rows)).reverse
  loss := ((ordered rows).filter SkuRank.loss).take limit

/-- The SKUs that are ranked and made a loss. -/
def losers (rows : List SkuRank) : List SkuRank := (ready rows).filter SkuRank.loss

/-! ### What the lists hold -/

section lists

variable {rows : List SkuRank} {limit : ℕ}

lemma perm_ordered (rows : List SkuRank) : (ordered rows).Perm (ready rows) :=
  List.perm_insertionSort _ _

lemma pairwise_ordered (rows : List SkuRank) :
    (ordered rows).Pairwise fun a b => b.net ≤ a.net := by
  have : Std.Total fun a b : SkuRank => b.net ≤ a.net := ⟨fun a b => le_total b.net a.net⟩
  have : IsTrans SkuRank fun a b => b.net ≤ a.net := ⟨fun a b c hab hbc => hbc.trans hab⟩
  exact List.pairwise_insertionSort _ _

/-- The worst are the first of the list turned around. -/
lemma bottom_eq (h : 1 ≤ limit) :
    (rankSkus rows limit).bottom = (ordered rows).reverse.take limit := by
  rw [rankSkus, lastOf, if_neg (Nat.one_le_iff_ne_zero.mp h), List.take_reverse]

lemma pairwise_reverse_ordered (rows : List SkuRank) :
    (ordered rows).reverse.Pairwise fun a b => a.net ≤ b.net :=
  List.pairwise_reverse.mpr (pairwise_ordered rows)

lemma net_neg_of_loss {row : SkuRank} (h : row.loss = true) : row.net < 0 := by
  rw [row.loss_eq, Option.any_eq_true] at h
  obtain ⟨net, hnet, hneg⟩ := h
  simpa [SkuRank.net, hnet] using hneg

/-- The losses shown are the greatest only if none is left out, or if all are the same. -/
lemma least_loss_iff (h : 1 ≤ limit) :
    Least SkuRank.net limit (losers rows) (rankSkus rows limit).loss ↔
      (losers rows).length ≤ limit ∨ ∀ a ∈ losers rows, ∀ b ∈ losers rows, a.net = b.net := by
  have hlosers : ((ordered rows).filter SkuRank.loss).Perm (losers rows) :=
    (perm_ordered rows).filter _
  have hiff := least_take_iff ((pairwise_ordered rows).filter SkuRank.loss) h
  constructor
  · intro hleast
    obtain hlength | hall := hiff.mp (hleast.perm hlosers.symm)
    · exact .inl (hlosers.length_eq ▸ hlength)
    · exact .inr fun a ha b hb => hall a (hlosers.symm.subset ha) b (hlosers.symm.subset hb)
  · rintro (hlength | hall)
    · exact (hiff.mpr (.inl (hlosers.length_eq ▸ hlength))).perm hlosers
    · refine (hiff.mpr (.inr fun a ha b hb => ?_)).perm hlosers
      exact hall a (hlosers.subset ha) b (hlosers.subset hb)

/-- **The three lists.** The best are shown from the best on, and the worst from the worst on. All that
are shown with a loss made one, but they are those that lost most only if the limit leaves none out, or
if all losses are the same. -/
theorem losses_iff (rows : List SkuRank) (h : 1 ≤ limit) :
    let ranking := rankSkus rows limit
    (Greatest SkuRank.net limit (ready rows) ranking.top ∧
      ranking.top.Pairwise fun a b => b.net ≤ a.net) ∧
    (Least SkuRank.net limit (ready rows) ranking.bottom ∧
      ranking.bottom.Pairwise fun a b => a.net ≤ b.net) ∧
    (∀ row ∈ ranking.loss, row.net < 0) ∧
    (Least SkuRank.net limit (losers rows) ranking.loss ↔
      (losers rows).length ≤ limit ∨ ∀ a ∈ losers rows, ∀ b ∈ losers rows, a.net = b.net) := by
  refine ⟨⟨?top, ?topSorted⟩, ⟨?bottom, ?bottomSorted⟩, ?negative, least_loss_iff h⟩
  case top => exact (greatest_take (pairwise_ordered rows)).perm (perm_ordered rows)
  case topSorted => exact (pairwise_ordered rows).sublist (List.take_sublist _ _)
  case bottom =>
    rw [bottom_eq h]
    exact (least_take (pairwise_reverse_ordered rows)).perm
      ((List.reverse_perm _).trans (perm_ordered rows))
  case bottomSorted =>
    rw [bottom_eq h]
    exact (pairwise_reverse_ordered rows).sublist (List.take_sublist _ _)
  case negative =>
    intro row hrow
    exact net_neg_of_loss (List.mem_filter.mp (List.mem_of_mem_take hrow)).2

end lists

/-! ### Two losses -/

/-- A SKU with a profit. -/
def skuWith (skuId : ℕ) (net : ℚ) : SkuRank :=
  RawRank.rank ⟨skuId, skuId, "A", "USD", "CNY", 1, 20, some net, some net, true, some 20⟩

/-- One loss, one place for it: it is shown. -/
theorem losses_iff_oneLoss :
    Least SkuRank.net 1 (losers [skuWith 1 5, skuWith 2 (-2)])
      (rankSkus [skuWith 1 5, skuWith 2 (-2)] 1).loss :=
  (losses_iff [skuWith 1 5, skuWith 2 (-2)] le_rfl).2.2.2.mpr (.inl (by decide +kernel))

/-- Of a loss of 2 and one of 50 the list with one place shows the loss of 2. -/
theorem smallLoss_shown :
    (rankSkus [skuWith 1 (-2), skuWith 2 (-50)] 1).loss = [skuWith 1 (-2)] ∧
    ¬ Least SkuRank.net 1 (losers [skuWith 1 (-2), skuWith 2 (-50)])
      (rankSkus [skuWith 1 (-2), skuWith 2 (-50)] 1).loss := by
  refine ⟨by decide +kernel, fun h => ?_⟩
  obtain hlength | hall := (least_loss_iff le_rfl).mp h
  · revert hlength
    decide +kernel
  · revert hall
    decide +kernel

end Dashboard

end CrossPilot
