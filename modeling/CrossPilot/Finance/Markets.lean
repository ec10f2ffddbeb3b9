import CrossPilot.Finance.DailyProfits

/-!
# Shops of several markets

A materialization is asked for one market, and applies the rules of that market to every order line
of its days, whichever shop has sold it. The row that it writes is kept under the SKU, shop, day and
currency. With shops of two markets among the order lines, each call gives the shops of the other
market a row that follows rules which are not theirs.
-/

namespace CrossPilot

open Transaction Table Groups LandedCost Profit

namespace ProfitService

/-- The market a shop sells to, its site in upper case. -/
def marketOf (d : Db) (shopId : ℕ) : Option String :=
  (d.shops.find? fun shop => shop.id = shopId).map fun shop => Text.upper shop.siteCode

/-- One more call. Those that went through are kept in order, and one that fails leaves nothing. -/
def call (p : WorkState × List MaterializeRequest) (req : MaterializeRequest) :
    WorkState × List MaterializeRequest :=
  match (materialize req).exec p.1 with
  | (.ok _, s') => (s', p.2 ++ [req])
  | (.error _, _) => p

/-- The calls one after the other. -/
def calls (s : WorkState) (reqs : List MaterializeRequest) :
    WorkState × List MaterializeRequest :=
  reqs.foldl call (s, [])

/-- The last call for the market of a shop. -/
def ownCall (d : Db) (done : List MaterializeRequest) (shopId : ℕ) : Option MaterializeRequest :=
  (done.filter fun req => marketOf d shopId = some req.market).getLast?

/-- The groups of the order lines of some days. -/
def groupsBetween (d : Db) (dateFrom dateTo : Day) : List (ProfitKey × List ProfitSourceLine) :=
  groups lineKey (SkuProfitRepository.orderLines d dateFrom dateTo)

/-- The row of a group is that of the last call for the market of its shop, and without such a
call it is as it was. -/
def OwnRow (d : Db) (before after : List SkuProfitDaily) (done : List MaterializeRequest)
    (group : ProfitKey × List ProfitSourceLine) : Prop :=
  match ownCall d done group.1.shopId with
  | none => after.filter (fun row => row.key = group.1) =
      before.filter (fun row => row.key = group.1)
  | some req => ∃ id, after.filter (fun row => row.key = group.1) = [groupRow d req id group]

/-- After some calls the row of each group follows the rules of the market of its shop. -/
def OwnRows (s : WorkState) (dateFrom dateTo : Day) (reqs : List MaterializeRequest) : Prop :=
  ∀ group ∈ groupsBetween s.data dateFrom dateTo,
    OwnRow s.data s.data.profits (calls s reqs).1.data.profits (calls s reqs).2 group

/-- What the lines of a group were sold for. -/
def soldFor (lines : List ProfitSourceLine) : ℚ :=
  quantize (lines.map fun line => linePrice line.unitPrice line.quantity).sum

/-- The prices of no group come to less than nothing, which the table would not take. -/
def Storable (d : Db) (dateFrom dateTo : Day) : Prop :=
  ∀ group ∈ groupsBetween d dateFrom dateTo, 0 ≤ soldFor group.2

/-- Every line of a known SKU was sold by a shop of the market. -/
def OfMarket (d : Db) (dateFrom dateTo : Day) (market : String) : Prop :=
  ∀ line ∈ SkuProfitRepository.orderLines d dateFrom dateTo, line.skuId.isSome →
    marketOf d line.shopId = some market

instance (d : Db) (dateFrom dateTo : Day) (market : String) :
    Decidable (OfMarket d dateFrom dateTo market) :=
  inferInstanceAs (Decidable (∀ line ∈ _, _))

/-! ### Calls that go through -/

lemma rolled_revenue (d : Db) (req : MaterializeRequest) (key : ProfitKey)
    (lines : List ProfitSourceLine) : (rolled d req key lines).revenue = soldFor lines := by
  simp only [rolled, rollupDaily_revenue, List.map_map, soldFor]
  rfl

section Through

variable {s : WorkState} {req : MaterializeRequest}

lemma wp_saveDaily_revenue {key : ProfitKey} {book : String} {quantity : ℤ}
    {rolled : DailyRollup} (hquantity : 0 < quantity) :
    (saveDaily key book quantity rolled).wp (fun _ _ => 0 ≤ rolled.revenue)
      (fun _ _ => rolled.revenue < 0) s := by
  have hchecks (id : ℕ) (k : ProfitKey) :
      violated (dailyRow id k book quantity rolled) =
        if rolled.revenue < 0 then some "revenue" else none :=
    if_neg (not_le.mpr hquantity)
  simp only [saveDaily, Prog.bind_eq, Prog.wp_bind, Prog.wp_select]
  cases SkuProfitRepository.getKey s.data key with
  | none =>
    simp only [Prog.wp_bind, wp_nextSnowflakeId, hchecks]
    split_ifs with hneg
    · exact hneg
    · exact not_lt.mp hneg
  | some row =>
    simp only [hchecks]
    split_ifs with hneg
    · exact hneg
    · exact not_lt.mp hneg

lemma wp_saveAll_revenue {groups : List (ProfitKey × List ProfitSourceLine)}
    (hquantity : ∀ group ∈ groups, 0 < (group.2.map ProfitSourceLine.quantity).sum) :
    (saveAll req groups).wp (fun _ _ => ∀ group ∈ groups, 0 ≤ soldFor group.2)
      (fun _ _ => ∃ group ∈ groups, soldFor group.2 < 0) s := by
  induction groups generalizing s with
  | nil => simp [saveAll]
  | cons group rest ih =>
    obtain ⟨hfirst, hrest⟩ := List.forall_mem_cons.mp hquantity
    simp only [saveAll, Prog.bind_eq, Prog.wp_bind, Prog.wp_select, Prog.pure_eq, Prog.wp_ret]
    apply Prog.wp_mono (wp_saveDaily_revenue hfirst)
    · intro _ s₁ hsold
      rw [rolled_revenue] at hsold
      apply Prog.wp_mono (ih hrest)
      · intro _ _ hothers
        exact List.forall_mem_cons.mpr ⟨hsold, hothers⟩
      · rintro _ _ ⟨other, hother, hneg⟩
        exact ⟨other, List.mem_cons_of_mem group hother, hneg⟩
    · intro _ _ hneg
      rw [rolled_revenue] at hneg
      exact ⟨group, by simp, hneg⟩

/-- Lines without pieces are not among those asked for. -/
lemma quantity_pos {d : Db} {dateFrom dateTo : Day} {line : ProfitSourceLine}
    (hline : line ∈ SkuProfitRepository.orderLines d dateFrom dateTo) : 0 < line.quantity := by
  obtain ⟨item, -, hsource⟩ := List.mem_filterMap.mp hline
  simp only [SkuProfitRepository.sourceLine] at hsource
  split at hsource
  · cases hsource
  · split_ifs at hsource with hasked
    obtain rfl := Option.some.inj hsource
    exact hasked.2.2

lemma quantities_pos {d : Db} {dateFrom dateTo : Day}
    {group : ProfitKey × List ProfitSourceLine} (hgroup : group ∈ groupsBetween d dateFrom dateTo) :
    0 < (group.2.map ProfitSourceLine.quantity).sum := by
  obtain ⟨⟨line, hline, hkey⟩, hlines⟩ := mem_groups.mp hgroup
  apply List.sum_pos
  · intro quantity hquantity
    obtain ⟨other, hother, rfl⟩ := List.mem_map.mp hquantity
    rw [hlines] at hother
    exact quantity_pos (mem_bucket.mp hother).1
  · rw [hlines]
    exact List.ne_nil_of_mem (List.mem_map_of_mem (mem_bucket.mpr ⟨hline, hkey⟩))

/-- A call goes through if and only if the table takes the row of each group. -/
lemma isOk_materialize_iff :
    ((materialize req).exec s).1.isOk ↔ Storable s.data req.dateFrom req.dateTo := by
  have hrun : (materialize req).wp (fun _ _ => Storable s.data req.dateFrom req.dateTo)
      (fun _ _ => ¬ Storable s.data req.dateFrom req.dateTo) s := by
    simp only [materialize, Prog.bind_eq, Prog.wp_bind, Prog.wp_select, Prog.pure_eq, Prog.wp_ret]
    apply Prog.wp_mono (wp_saveAll_revenue fun _ => quantities_pos) fun _ _ h => h
    rintro _ _ ⟨group, hgroup, hneg⟩ hall
    exact absurd (hall group hgroup) (not_le.mpr hneg)
  cases hexec : (materialize req).exec s with
  | mk result s' =>
    rw [Prog.wp, hexec] at hrun
    cases result with
    | error e => simpa [Except.isOk, Except.toBool] using hrun
    | ok view => simpa [Except.isOk, Except.toBool] using hrun

end Through

/-! ### Rows of the own market -/

section Markets

variable {s : WorkState} {dateFrom dateTo : Day}

lemma ownCall_append {d : Db} {done : List MaterializeRequest} {req : MaterializeRequest}
    {shopId : ℕ} (hmarket : marketOf d shopId = some req.market) :
    ownCall d (done ++ [req]) shopId = some req := by
  simp [ownCall, hmarket]

lemma ownCall_of_ne {d : Db} {req : MaterializeRequest} {shopId : ℕ}
    (hmarket : marketOf d shopId ≠ some req.market) : ownCall d [req] shopId = none := by
  simp [ownCall, hmarket]

lemma OfMarket.group {d : Db} {market : String} (h : OfMarket d dateFrom dateTo market)
    {group : ProfitKey × List ProfitSourceLine} (hgroup : group ∈ groupsBetween d dateFrom dateTo) :
    marketOf d group.1.shopId = some market := by
  obtain ⟨⟨line, hline, hkey⟩, -⟩ := mem_groups.mp hgroup
  obtain ⟨skuId, hsku, hkey⟩ := Option.map_eq_some_iff.mp hkey
  rw [← hkey]
  exact h line hline (by simp [hsku])

/-- A line of a known SKU is in a group. -/
lemma exists_group {d : Db} {line : ProfitSourceLine}
    (hline : line ∈ SkuProfitRepository.orderLines d dateFrom dateTo) (hsku : line.skuId.isSome) :
    ∃ group ∈ groupsBetween d dateFrom dateTo, group.1.shopId = line.shopId := by
  obtain ⟨skuId, hsku⟩ := Option.isSome_iff_exists.mp hsku
  refine ⟨(⟨skuId, line.shopId, line.statDate, line.currency⟩, _), mem_groups.mpr ⟨?_, rfl⟩, rfl⟩
  exact ⟨line, hline, by simp [lineKey, hsku]⟩

lemma call_of_isOk {p : WorkState × List MaterializeRequest} {req : MaterializeRequest}
    (hok : ((materialize req).exec p.1).1.isOk) :
    ProfitService.call p req = (step p.1 (.materialize req), p.2 ++ [req]) := by
  simp only [ProfitService.call, step]
  cases hexec : (materialize req).exec p.1 with
  | mk result s' =>
    rw [hexec] at hok
    cases result with
    | error e => cases hok
    | ok view => rfl

lemma call_of_not_isOk {p : WorkState × List MaterializeRequest} {req : MaterializeRequest}
    (hfailed : ¬ ((materialize req).exec p.1).1.isOk) : ProfitService.call p req = p := by
  simp only [ProfitService.call]
  cases hexec : (materialize req).exec p.1 with
  | mk result s' =>
    rw [hexec] at hfailed
    cases result with
    | error e => rfl
    | ok view => exact absurd rfl hfailed

/-- What some calls leave: nothing but daily profits changes, and each row is that of its own
market. -/
structure Called (s : WorkState) (dateFrom dateTo : Day)
    (p : WorkState × List MaterializeRequest) : Prop where
  frame : p.1.data = { s.data with profits := p.1.data.profits }
  wf : ProfitsWf p.1
  own : ∀ group ∈ groupsBetween s.data dateFrom dateTo,
    OwnRow s.data s.data.profits p.1.data.profits p.2 group

lemma Called.nil (hwf : ProfitsWf s) : Called s dateFrom dateTo (s, []) :=
  ⟨rfl, hwf, fun _ _ => rfl⟩

/-- A call for the market of all lines keeps the rows those of their own market. -/
lemma Called.call {p : WorkState × List MaterializeRequest} (h : Called s dateFrom dateTo p)
    {req : MaterializeRequest} (hfrom : req.dateFrom = dateFrom) (hto : req.dateTo = dateTo)
    (hmarket : Storable s.data dateFrom dateTo → OfMarket s.data dateFrom dateTo req.market) :
    Called s dateFrom dateTo (ProfitService.call p req) := by
  subst hfrom hto
  have hgroups : currentGroups p.1.data req = groupsBetween s.data req.dateFrom req.dateTo := by
    rw [h.frame]
    rfl
  by_cases hok : ((materialize req).exec p.1).1.isOk
  · have hstorable : Storable s.data req.dateFrom req.dateTo := by
      have := isOk_materialize_iff.mp hok
      rwa [h.frame] at this
    have hwrote := wrote_of_isOk h.wf hok
    rw [call_of_isOk hok]
    refine ⟨?_, hwrote.wf, ?_⟩
    · rw [hwrote.frame, h.frame]
    · intro group hgroup
      rw [OwnRow, ownCall_append ((hmarket hstorable).group hgroup)]
      rw [← hgroups] at hgroup
      obtain ⟨id, hrow⟩ := hwrote.present group hgroup
      have hsame : groupRow p.1.data req id group = groupRow s.data req id group := by
        rw [h.frame, groupRow_profits]
      refine ⟨id, ?_⟩
      rw [← hsame]
      apply hwrote.wf.key_unique.filter_eq_singleton hrow
      · simp [groupRow]
      · intro row _ hkey
        simpa [groupRow] using hkey
  · rw [call_of_not_isOk hok]
    exact h

/-- Calls for the market of all lines, in whatever order, leave the rows of their own market. -/
lemma Called.calls (hwf : ProfitsWf s) {reqs : List MaterializeRequest}
    (hdays : ∀ req ∈ reqs, req.dateFrom = dateFrom ∧ req.dateTo = dateTo)
    (hmarkets : ∀ req ∈ reqs, Storable s.data dateFrom dateTo →
      OfMarket s.data dateFrom dateTo req.market) :
    Called s dateFrom dateTo (ProfitService.calls s reqs) := by
  apply List.foldlRecOn reqs ProfitService.call (Called.nil hwf)
  intro p hp req hreq
  exact hp.call (hdays req hreq).1 (hdays req hreq).2 (hmarkets req hreq)

/-- One call for another market than that of a shop writes a row for it all the same. -/
lemma OwnRows.ofMarket {req : MaterializeRequest} (hwf : ProfitsWf s)
    (hempty : s.data.profits = []) (hstorable : Storable s.data req.dateFrom req.dateTo)
    (h : OwnRows s req.dateFrom req.dateTo [req]) :
    OfMarket s.data req.dateFrom req.dateTo req.market := by
  intro line hline hsku
  obtain ⟨group, hgroup, hshop⟩ := exists_group hline hsku
  rw [← hshop]
  by_contra hother
  have hok : ((materialize req).exec (s, ([] : List MaterializeRequest)).1).1.isOk :=
    isOk_materialize_iff.mpr hstorable
  have hcalls : ProfitService.calls s [req] = (step s (.materialize req), [req]) :=
    call_of_isOk hok
  have hrow := h group hgroup
  rw [hcalls, OwnRow, ownCall_of_ne hother, hempty, List.filter_nil] at hrow
  obtain ⟨i, hpresent⟩ := (wrote_of_isOk hwf hok).present group hgroup
  have hkey := List.filter_eq_nil_iff.mp hrow _ hpresent
  simp [groupRow] at hkey

end Markets

/-- Calls over the same days, in whatever order and however many of them are made, leave each row
with the rules of the market of its shop if and only if each of them is for the market of every shop
with lines on these days. If the table would not take the row of a group, no call goes through. -/
theorem own_rows_iff {d : Db} {dateFrom dateTo : Day} {reqs : List MaterializeRequest}
    (hdays : ∀ req ∈ reqs, req.dateFrom = dateFrom ∧ req.dateTo = dateTo) :
    (∀ s, ProfitsWf s → s.data = { d with profits := s.data.profits } →
      ∀ order, order.Subperm reqs → OwnRows s dateFrom dateTo order) ↔
      ∀ req ∈ reqs, Storable d dateFrom dateTo → OfMarket d dateFrom dateTo req.market := by
  constructor
  · intro hall req hreq hstorable
    obtain ⟨rfl, rfl⟩ := hdays req hreq
    let s : WorkState := ⟨{ ids := id }, { d with profits := [] }, []⟩
    have hwf : ProfitsWf s := ⟨.nil, .nil, Function.injective_id, by simp [s]⟩
    apply OwnRows.ofMarket hwf rfl hstorable
    exact hall s hwf rfl [req] (List.singleton_subperm_iff.mpr hreq)
  · intro hmarkets s hwf hdata order horder
    refine (Called.calls hwf ?_ ?_).own
    · intro req hreq
      exact hdays req (horder.subset hreq)
    · intro req hreq
      rw [hdata]
      exact hmarkets req (horder.subset hreq)

/-- A shop in Singapore beside the one in the United States. A tenth of the price goes to the
platform there, and a fifth here. -/
def twoMarkets : Db where
  shops := [{ id := 4, platformCode := "tiktok", siteCode := "US" },
    { id := 5, platformCode := "shopee", siteCode := "SG" }]
  orders := [firstOrder none, { firstOrder none with id := 2, shopId := 5, platformOrderId := "B" }]
  items := [firstItem, { firstItem with id := 2, orderId := 2 }]
  landedFees := [
    { id := 1, market := "SG", channel := .any, feeCode := .commission, charge := .rate
      amount := 1 / 10, effectiveFrom := 0, version := 1, source := "a", verifiedAt := 0 },
    { id := 2, market := "US", channel := .any, feeCode := .commission, charge := .rate
      amount := 1 / 5, effectiveFrom := 0, version := 1, source := "b", verifiedAt := 0 }]

def twoMarketsState : WorkState := ⟨{ ids := fun n => n }, twoMarkets, []⟩

/-- The same days for Singapore. -/
def firstDaysSg : MaterializeRequest := { firstDays with market := "SG" }

theorem own_rows_iff_oneMarket :
    (∀ req ∈ [firstDays], req.dateFrom = 1 ∧ req.dateTo = 2) ∧
    ∀ s, ProfitsWf s →
      s.data = { { twoMarkets with orders := [firstOrder none] } with profits := s.data.profits } →
      ∀ order, order.Subperm [firstDays] → OwnRows s 1 2 order := by
  have hdays : ∀ req ∈ [firstDays], req.dateFrom = 1 ∧ req.dateTo = 2 := by simp [firstDays]
  refine ⟨hdays, (own_rows_iff hdays).mpr ?_⟩
  intro req hreq _
  obtain rfl := List.mem_singleton.mp hreq
  decide +kernel

/-- The cost lines of a row do not depend on its id. -/
lemma OwnRows.lines {s : WorkState} {dateFrom dateTo : Day} {reqs : List MaterializeRequest}
    (h : OwnRows s dateFrom dateTo reqs) :
    ∀ group ∈ groupsBetween s.data dateFrom dateTo,
      ∀ req ∈ ownCall s.data (calls s reqs).2 group.1.shopId,
        ((calls s reqs).1.data.profits.filter fun row => row.key = group.1).map
          SkuProfitDaily.lines = [(groupRow s.data req 0 group).lines] := by
  intro group hgroup req hreq
  have hrow := h group hgroup
  rw [OwnRow, Option.mem_def.mp hreq] at hrow
  obtain ⟨id, hrow⟩ := hrow
  rw [hrow]
  rfl

/-- The call for Singapore leaves the shop in the United States with the fees of Singapore. -/
theorem not_own_rows_twoMarkets :
    ¬ ∀ (s : WorkState) (dateFrom dateTo : Day) (reqs : List MaterializeRequest), ProfitsWf s →
      (∀ req ∈ reqs, req.dateFrom = dateFrom ∧ req.dateTo = dateTo) →
        OwnRows s dateFrom dateTo reqs := by
  intro hall
  have hwf : ProfitsWf twoMarketsState :=
    ⟨.nil, .nil, fun _ _ h => h, by simp [twoMarketsState, twoMarkets]⟩
  have hdays : ∀ req ∈ [firstDays, firstDaysSg], req.dateFrom = 1 ∧ req.dateTo = 2 := by
    simp [firstDays, firstDaysSg]
  have hrows := hall twoMarketsState 1 2 [firstDays, firstDaysSg] hwf hdays
  have hlines := hrows.lines
  revert hlines
  decide +kernel

end ProfitService

end CrossPilot
