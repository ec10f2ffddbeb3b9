import CrossPilot.Finance.Materialize

/-!
# The order of the rules does not matter

A tax is picked by the longest pattern that the code begins with, and a fee by its channel for one
label after the other. With at most one tax rule for a type and a pattern, and one fee for a code, a
channel and a label, the picks are the same in whatever order the rules come
(`computeLandedCost_perm`).
-/

namespace CrossPilot

namespace LandedCost

variable {taxes taxes' : List TaxFact} {fees fees' : List FeeFact}

/-- At most one rule for a tax and a pattern. -/
def OneTaxEach (taxes : List TaxFact) : Prop :=
  (taxes.map fun t => (t.taxType, t.hsCodePattern)).Nodup

/-- At most one rule for a fee, a channel and a label. -/
def OneFeeEach (fees : List FeeFact) : Prop :=
  (fees.map fun f => (f.feeCode, f.channel, f.label)).Nodup

instance (taxes : List TaxFact) : Decidable (OneTaxEach taxes) :=
  inferInstanceAs (Decidable (List.Nodup _))

instance (fees : List FeeFact) : Decidable (OneFeeEach fees) :=
  inferInstanceAs (Decidable (List.Nodup _))

/-! ### Picks -/

/-- Two patterns of one length that a code begins with are the same. -/
lemma pattern_eq_of_length_eq {p q hsCode : String}
    (hp : p.toList.isPrefixOf hsCode.toList = true) (hq : q.toList.isPrefixOf hsCode.toList = true)
    (hlength : p.length = q.length) : p = q := by
  have hlength' : p.toList.length = q.toList.length := by
    rw [String.length_toList, String.length_toList, hlength]
  have hstart := List.prefix_of_prefix_length_le (List.isPrefixOf_iff_prefix.mp hp)
    (List.isPrefixOf_iff_prefix.mp hq) hlength'.le
  exact String.toList_injective (hstart.eq_of_length hlength')

/-- The longest pattern is one rule's. -/
lemma argmax_perm {ρ : Type} {rows rows' : List ρ} (hperm : rows.Perm rows') (f : ρ → ℕ)
    (hone : ∀ r ∈ rows, ∀ s ∈ rows, f r = f s → r = s) : rows.argmax f = rows'.argmax f := by
  cases hmax : rows.argmax f with
  | none =>
    rw [List.argmax_eq_none] at hmax
    subst hmax
    rw [hperm.symm.eq_nil, List.argmax_nil]
  | some r =>
    cases hmax' : rows'.argmax f with
    | none =>
      rw [List.argmax_eq_none] at hmax'
      subst hmax'
      rw [hperm.eq_nil] at hmax
      cases hmax
    | some s =>
      have hr := List.argmax_mem hmax
      have hs := hperm.mem_iff.mpr (List.argmax_mem hmax')
      have hle := List.le_of_mem_argmax hs hmax
      have hle' := List.le_of_mem_argmax (hperm.mem_iff.mp hr) hmax'
      rw [hone r hr s hs (le_antisymm hle' hle)]

/-- What is sought by the key alone is found once at most, and so is the same. -/
lemma filter_eq_of_perm {ρ κ : Type} {rows rows' : List ρ} (hperm : rows.Perm rows') {key : ρ → κ}
    (hone : (rows.map key).Nodup) (p : ρ → Bool) {k : κ} (hkey : ∀ r ∈ rows, p r → key r = k) :
    rows.filter p = rows'.filter p := by
  have hfound := hperm.filter p
  have hone' : ((rows.filter p).map key).Nodup := (List.filter_sublist.map key).nodup hone
  have hkey' : ∀ r ∈ rows.filter p, key r = k := fun r hr =>
    hkey r (List.mem_filter.mp hr).1 (List.mem_filter.mp hr).2
  generalize rows.filter p = found at hfound hone' hkey'
  match found, hfound with
  | [], hfound => exact hfound.symm.eq_nil.symm
  | [r], hfound => exact (List.singleton_perm.mp hfound)
  | r :: s :: rest, _ =>
    have hr := hkey' r (by simp)
    have hs := hkey' s (by simp)
    simp [hr, hs] at hone'

/-- The tax picked is the same. -/
lemma pickTax_perm (hperm : taxes.Perm taxes') (hone : OneTaxEach taxes) (taxType : TaxType)
    (hsCode : String) : pickTax taxes taxType hsCode = pickTax taxes' taxType hsCode := by
  have hrows := hperm.filter fun row => row.taxType = taxType
  have hone' := (List.filter_sublist (p := fun row : TaxFact => row.taxType = taxType)
    (l := taxes)).map fun t : TaxFact => (t.taxType, t.hsCodePattern)
  have hwild := filter_eq_of_perm hrows (hone'.nodup hone) (fun row => row.hsCodePattern = "*")
    (k := (taxType, "*")) fun row hrow hpattern => by
      simp only [List.mem_filter, decide_eq_true_eq] at hrow hpattern
      rw [hrow.2, hpattern]
  have hspecific := hrows.filter fun row =>
    row.hsCodePattern ≠ "*" && row.hsCodePattern.toList.isPrefixOf hsCode.toList
  have hmax := argmax_perm hspecific (fun row => row.hsCodePattern.length) fun row hrow other hother
      hlength => by
    simp only [List.mem_filter, decide_eq_true_eq, Bool.and_eq_true] at hrow hother
    have hpattern := pattern_eq_of_length_eq hrow.2.2 hother.2.2 hlength
    apply List.inj_on_of_nodup_map hone hrow.1.1 hother.1.1
    simp only [hrow.1.2, hother.1.2, hpattern]
  unfold pickTax
  dsimp only
  rw [hwild]
  generalize ((taxes.filter fun row => row.taxType = taxType).filter fun row =>
    row.hsCodePattern ≠ "*" && row.hsCodePattern.toList.isPrefixOf hsCode.toList) = specific
      at hspecific hmax ⊢
  generalize ((taxes'.filter fun row => row.taxType = taxType).filter fun row =>
    row.hsCodePattern ≠ "*" && row.hsCodePattern.toList.isPrefixOf hsCode.toList) = specific'
      at hspecific hmax ⊢
  cases specific with
  | nil => rw [hspecific.symm.eq_nil]
  | cons row rest =>
    cases specific' with
    | nil => exact absurd hspecific.eq_nil (by simp)
    | cons row' rest' => exact hmax

/-- The fees picked are the same. -/
lemma pickFees_perm (hperm : fees.Perm fees') (hone : OneFeeEach fees) (feeCode : FeeCode)
    (channel : Channel) : pickFees fees feeCode channel = pickFees fees' feeCode channel := by
  have hrows := hperm.filter fun row => row.feeCode = feeCode
  have hone' := (List.filter_sublist (p := fun row : FeeFact => row.feeCode = feeCode)
    (l := fees)).map fun f : FeeFact => (f.feeCode, f.channel, f.label)
  -- the rule of a label for a channel is one
  have hlabel (c : Channel) (label : String) := filter_eq_of_perm hrows (hone'.nodup hone)
    (fun row => row.label = label && row.channel = c) (k := (feeCode, c, label))
      fun row hrow hlabel => by
        simp only [List.mem_filter, decide_eq_true_eq, Bool.and_eq_true] at hrow hlabel
        rw [hrow.2, hlabel.1, hlabel.2]
  have hpick : pickLabel (fees.filter fun row => row.feeCode = feeCode) channel =
      pickLabel (fees'.filter fun row => row.feeCode = feeCode) channel := by
    funext label
    rw [pickLabel, pickLabel, hlabel channel label, hlabel .any label]
  have hlabels : ((fees.filter fun row => row.feeCode = feeCode).map
      FeeFact.label).dedup.insertionSort (fun a b => a ≤ b) = ((fees'.filter fun row =>
        row.feeCode = feeCode).map FeeFact.label).dedup.insertionSort fun a b => a ≤ b := by
    have hsorted (labels : List String) := List.pairwise_insertionSort (fun a b => a ≤ b) labels
    have hpermuted (labels : List String) := List.perm_insertionSort (fun a b => a ≤ b) labels
    exact ((hpermuted _).trans ((hrows.map _).dedup.trans (hpermuted _).symm)).eq_of_pairwise'
      (hsorted _) (hsorted _)
  rw [pickFees, pickFees, hpick, hlabels]

/-! ### Lines -/

/-- The lines see the taxes through the picks only. -/
lemma duty_congr (h : ∀ taxType hsCode, pickTax taxes taxType hsCode = pickTax taxes' taxType hsCode)
    (data : LandedCostInput) (currency : String) :
    duty data taxes currency = duty data taxes' currency := by
  rw [duty, duty, h]

lemma importTax_congr
    (h : ∀ taxType hsCode, pickTax taxes taxType hsCode = pickTax taxes' taxType hsCode)
    (data : LandedCostInput) (currency : String) (duty : CostLine) :
    importTax data taxes currency duty = importTax data taxes' currency duty := by
  have hpicks : (fun taxType => pickTax taxes taxType data.hsCode) =
      fun taxType => pickTax taxes' taxType data.hsCode := funext fun taxType => h taxType data.hsCode
  rw [importTax, importTax, hpicks]

section fees

variable (h : ∀ feeCode channel, pickFees fees feeCode channel = pickFees fees' feeCode channel)

include h

lemma pickFee_congr (feeCode : FeeCode) (channel : Channel) :
    pickFee fees feeCode channel = pickFee fees' feeCode channel := by
  rw [pickFee, pickFee, h]

/-- The lines see the fees through the picks only. -/
lemma brokerage_congr (data : LandedCostInput) (currency : String) :
    brokerage data fees currency = brokerage data fees' currency := by
  rw [brokerage, brokerage, h]

lemma storage_congr (data : LandedCostInput) (currency : String) :
    storage data fees currency = storage data fees' currency := by
  rw [storage, storage, pickFee_congr h]

lemma firstMile_congr (data : LandedCostInput) (currency : String) (purchase : CostLine) :
    firstMile data fees currency purchase = firstMile data fees' currency purchase := by
  simp only [firstMile, chargeable, pickFee_congr h]

lemma fxReserve_congr (channel : Channel) (currency : String) (parts : List CostLine) :
    fxReserve fees channel currency parts = fxReserve fees' channel currency parts := by
  rw [fxReserve, fxReserve, pickFee_congr h]

lemma priceLines_congr (data : LandedCostInput) (currency : String) :
    priceLines data fees currency = priceLines data fees' currency := by
  simp only [priceLines, rateOfPrice, fulfillment, returnLoss, pickFee_congr h]

end fees

/-- The result is the same in whatever order the rules come. -/
theorem computeLandedCost_perm (data : LandedCostInput) (disabled : List LineCode)
    (htaxes : taxes.Perm taxes') (hfees : fees.Perm fees') (htax : OneTaxEach taxes)
    (hfee : OneFeeEach fees) :
    computeLandedCost data taxes fees disabled = computeLandedCost data taxes' fees' disabled := by
  have hpickTax := pickTax_perm htaxes htax
  have hpickFees := pickFees_perm hfees hfee
  have hlines : costLines data taxes fees disabled = costLines data taxes' fees' disabled := by
    simp only [costLines, duty_congr hpickTax, importTax_congr hpickTax, brokerage_congr hpickFees,
      storage_congr hpickFees, firstMile_congr hpickFees, fxReserve_congr hpickFees,
      priceLines_congr hpickFees]
  rw [computeLandedCost, computeLandedCost, hlines]

/-- A tax for all goods and one for clothes. -/
def allGoods : TaxFact := ⟨.duty, "*", 1 / 10, 1, 1, none, none, "A", none⟩

def clothes : TaxFact := ⟨.duty, "61", 1 / 5, 1, 1, none, none, "B", none⟩

/-- Two parts of the brokerage. -/
def handling : FeeFact := ⟨.brokerage, .air, "handling", .fixed, 5, some "USD", none, "C", none⟩

def entry : FeeFact := ⟨.brokerage, .any, "entry", .fixed, 7, some "USD", none, "D", none⟩

/-- A shirt sent by air. -/
def shirt : LandedCostInput where
  market := "US"
  sellingCurrency := "USD"
  channel := .air
  firstMileMethod := .chargeable
  hsCode := "610910"
  declaredValue := some 20
  declaredCurrency := some "USD"

theorem computeLandedCost_perm_shirt :
    computeLandedCost shirt [allGoods, clothes] [handling, entry] [] =
      computeLandedCost shirt [clothes, allGoods] [entry, handling] [] :=
  computeLandedCost_perm shirt [] (List.Perm.swap _ _ _) (List.Perm.swap _ _ _) (by decide)
    (by decide)

/-! ### What the loaders give -/

/-- The loaders give one rule for a tax and a pattern, and one for a fee, a channel and a label. -/
theorem loaders_give_one (d : Db) (market : String) (on : Day) :
    OneTaxEach (LandedCostService.taxFacts d market on) ∧
      OneFeeEach (LandedCostService.feeFacts d market on) := by
  constructor
  · rw [OneTaxEach, LandedCostService.taxFacts, List.map_map]
    exact Groups.nodup_map_highest _ _ _
  · rw [OneFeeEach, LandedCostService.feeFacts, List.map_map]
    exact Groups.nodup_map_highest _ _ _

end LandedCost

end CrossPilot
