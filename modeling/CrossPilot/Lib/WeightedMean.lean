import CrossPilot.Lib.Decimals

/-!
# Running means

Lots of the same goods are put together one after the other. What is kept is how many there are and
one price for all of them: the mean of the price so far and that of the new lot, weighted by their
quantities and rounded to `k` decimals. Rounding errors add up, but not to much: what is kept is
worth what the lots were worth, up to half a unit of the last place for each piece and each lot that
was added to others.
-/

namespace Decimals

variable {k : ℕ} {x y g : ℚ}

/-- Rounding keeps the order. -/
lemma quantize_mono (h : x ≤ y) : quantize k x ≤ quantize k y := by
  have hpos : (0 : ℚ) < 10 ^ k := by positivity
  obtain hx | hx := le_or_gt 0 x
  · have hfloor : ⌊x * 10 ^ k + 1 / 2⌋ ≤ ⌊y * 10 ^ k + 1 / 2⌋ := Int.floor_le_floor (by gcongr)
    rw [quantize_of_nonneg hx, quantize_of_nonneg (hx.trans h), div_le_div_iff_of_pos_right hpos]
    exact_mod_cast hfloor
  have hunits (z : ℚ) : 0 ≤ units k z := Int.floor_nonneg.mpr (by positivity)
  obtain hy | hy := le_or_gt 0 y
  · have hneg : quantize k x ≤ 0 := by
      have hx' : (0 : ℚ) ≤ units k x := by exact_mod_cast hunits x
      rw [quantize, if_pos hx, neg_nonpos]
      positivity
    exact hneg.trans (quantize_nonneg hy)
  · have hfloor : units k y ≤ units k x := by
      unfold units
      rw [abs_of_neg hx, abs_of_neg hy]
      exact Int.floor_le_floor (by gcongr)
    rw [quantize, quantize, if_pos hx, if_pos hy, neg_le_neg_iff, div_le_div_iff_of_pos_right hpos]
    exact_mod_cast hfloor

lemma le_quantize (hg : Fixed k g) (h : g ≤ x) : g ≤ quantize k x := by
  rw [← quantize_eq_self hg]
  exact quantize_mono h

lemma quantize_le (hg : Fixed k g) (h : x ≤ g) : quantize k x ≤ g := by
  rw [← quantize_eq_self hg]
  exact quantize_mono h

/-- So many pieces at one price. -/
structure Lot where
  quantity : ℤ
  price : ℚ
  deriving DecidableEq

namespace Lot

def worth (lot : Lot) : ℚ := lot.quantity * lot.price

/-- What is kept of two lots. -/
def merge (k : ℕ) (held lot : Lot) : Lot :=
  ⟨held.quantity + lot.quantity,
    quantize k ((held.worth + lot.worth) / (held.quantity + lot.quantity))⟩

/-- What is kept of lots that are put together in turn. -/
def pile (k : ℕ) (lots : List Lot) : Lot := lots.foldl (merge k) ⟨0, 0⟩

variable {lots : List Lot} {held lot : Lot}

@[simp] lemma pile_nil : pile k [] = ⟨0, 0⟩ := rfl

@[simp] lemma pile_append_singleton : pile k (lots ++ [lot]) = merge k (pile k lots) lot := by
  simp [pile]

@[simp] lemma quantity_merge : (merge k held lot).quantity = held.quantity + lot.quantity := rfl

/-- Nothing is lost. -/
@[simp] lemma quantity_pile (lots : List Lot) : (pile k lots).quantity = (lots.map quantity).sum := by
  induction lots using List.reverseRecOn with
  | nil => rfl
  | append_singleton lots lot ih => simp [ih]

lemma quantity_pile_nonneg (h : ∀ l ∈ lots, 0 < l.quantity) : 0 ≤ (pile k lots).quantity := by
  rw [quantity_pile]
  apply List.sum_nonneg
  intro q hq
  obtain ⟨l, hl, rfl⟩ := List.mem_map.mp hq
  exact (h l hl).le

lemma fixed_pile (lots : List Lot) : Fixed k (pile k lots).price := by
  induction lots using List.reverseRecOn with
  | nil => exact Fixed.zero
  | append_singleton lots lot =>
    rw [pile_append_singleton]
    exact fixed_quantize k _

/-- The first lot keeps its price. -/
lemma price_merge_of_empty (h : 0 < lot.quantity) (hheld : held.quantity = 0) :
    (merge k held lot).price = quantize k lot.price := by
  have hne : (lot.quantity : ℚ) ≠ 0 := by exact_mod_cast h.ne'
  simp only [merge, worth, hheld, Int.cast_zero, zero_mul, zero_add]
  rw [mul_div_cancel_left₀ _ hne]

/-- A mean is not below what both prices are not below. -/
lemma le_price_merge (hg : Fixed k g) (hheld : 0 ≤ held.quantity) (h : 0 < lot.quantity)
    (hold : 0 < held.quantity → g ≤ held.price) (hnew : g ≤ lot.price) :
    g ≤ (merge k held lot).price := by
  have hlot : (0 : ℚ) < lot.quantity := by exact_mod_cast h
  have hq : (0 : ℚ) ≤ held.quantity := by exact_mod_cast hheld
  apply le_quantize hg
  rw [le_div_iff₀ (by positivity), worth, worth]
  have hworth : g * held.quantity ≤ held.quantity * held.price := by
    obtain hzero | hpos := hheld.eq_or_lt
    · simp [← hzero]
    · have := mul_le_mul_of_nonneg_left (hold hpos) hq
      linarith
  have := mul_le_mul_of_nonneg_left hnew hlot.le
  linarith

lemma price_merge_le (hg : Fixed k g) (hheld : 0 ≤ held.quantity) (h : 0 < lot.quantity)
    (hold : 0 < held.quantity → held.price ≤ g) (hnew : lot.price ≤ g) :
    (merge k held lot).price ≤ g := by
  have hlot : (0 : ℚ) < lot.quantity := by exact_mod_cast h
  have hq : (0 : ℚ) ≤ held.quantity := by exact_mod_cast hheld
  apply quantize_le hg
  rw [div_le_iff₀ (by positivity), worth, worth]
  have hworth : held.quantity * held.price ≤ g * held.quantity := by
    obtain hzero | hpos := hheld.eq_or_lt
    · simp [← hzero]
    · have := mul_le_mul_of_nonneg_left (hold hpos) hq
      linarith
  have := mul_le_mul_of_nonneg_left hnew hlot.le
  linarith

/-- The price of the pile lies between those of the lots. -/
theorem price_pile_mem (hlots : ∀ l ∈ lots, 0 < l.quantity) (hne : lots ≠ []) {lo hi : ℚ}
    (hlo : Fixed k lo) (hhi : Fixed k hi) (hbounds : ∀ l ∈ lots, lo ≤ l.price ∧ l.price ≤ hi) :
    lo ≤ (pile k lots).price ∧ (pile k lots).price ≤ hi := by
  induction lots using List.reverseRecOn with
  | nil => exact absurd rfl hne
  | append_singleton lots lot ih =>
    have hlots' : ∀ l ∈ lots, 0 < l.quantity := fun l hl => hlots l (by simp [hl])
    have hprev : 0 < (pile k lots).quantity →
        lo ≤ (pile k lots).price ∧ (pile k lots).price ≤ hi := by
      intro hpos
      refine ih hlots' ?_ fun l hl => hbounds l (by simp [hl])
      rintro rfl
      simp at hpos
    have hheld := quantity_pile_nonneg (k := k) hlots'
    have hlot := hlots lot (by simp)
    have hprice := hbounds lot (by simp)
    rw [pile_append_singleton]
    exact ⟨le_price_merge hlo hheld hlot (fun hpos => (hprev hpos).1) hprice.1,
      price_merge_le hhi hheld hlot (fun hpos => (hprev hpos).2) hprice.2⟩

/-- What rounding does to the worth of two lots. -/
lemma abs_worth_merge_sub_le (hheld : 0 ≤ held.quantity) (h : 0 < lot.quantity) :
    |(merge k held lot).worth - (held.worth + lot.worth)| * 10 ^ k ≤
      (merge k held lot).quantity / 2 := by
  have hlot : (0 : ℚ) < lot.quantity := by exact_mod_cast h
  have hq : (0 : ℚ) ≤ held.quantity := by exact_mod_cast hheld
  have hall : (0 : ℚ) < held.quantity + lot.quantity := by positivity
  have hround := abs_quantize_sub_le k ((held.worth + lot.worth) / (held.quantity + lot.quantity))
  have hworth : (merge k held lot).worth - (held.worth + lot.worth) =
      (held.quantity + lot.quantity) *
        (quantize k ((held.worth + lot.worth) / (held.quantity + lot.quantity)) -
          (held.worth + lot.worth) / (held.quantity + lot.quantity)) := by
    rw [mul_sub, mul_div_cancel₀ _ hall.ne']
    simp [worth, merge]
  rw [hworth, abs_mul, abs_of_pos hall, mul_assoc, quantity_merge]
  push_cast
  have := mul_le_mul_of_nonneg_left hround hall.le
  linarith

/-- The pile is worth what the lots are worth, but for the rounding. -/
theorem abs_worth_pile_sub_le (hlots : ∀ l ∈ lots, 0 < l.quantity)
    (hfixed : ∀ l ∈ lots, Fixed k l.price) :
    |(pile k lots).worth - (lots.map worth).sum| * 10 ^ k ≤
      (lots.length - 1 : ℕ) * (pile k lots).quantity / 2 := by
  induction lots using List.reverseRecOn with
  | nil => simp [worth]
  | append_singleton lots lot ih =>
    have hlots' : ∀ l ∈ lots, 0 < l.quantity := fun l hl => hlots l (by simp [hl])
    have hlot := hlots lot (by simp)
    have hheld := quantity_pile_nonneg (k := k) hlots'
    cases hempty : lots with
    | nil =>
      -- a single lot is not rounded
      have hprice : (merge k ⟨0, 0⟩ lot).price = quantize k lot.price :=
        price_merge_of_empty hlot rfl
      rw [quantize_eq_self (hfixed lot (by simp))] at hprice
      simp [worth, pile, hprice]
    | cons first rest =>
      rw [← hempty]
      have hone : 1 ≤ lots.length := by simp [hempty]
      have hprev := ih hlots' fun l hl => hfixed l (by simp [hl])
      have hnow := abs_worth_merge_sub_le (k := k) hheld hlot
      have hpos : (0 : ℚ) < 10 ^ k := by positivity
      have hlength : (((lots ++ [lot]).length - 1 : ℕ) : ℚ) = (lots.length - 1 : ℕ) + 1 := by
        rw [List.length_append, List.length_singleton, Nat.add_sub_cancel]
        exact_mod_cast (Nat.sub_add_cancel hone).symm
      have hgrow : ((pile k lots).quantity : ℚ) ≤ (merge k (pile k lots) lot).quantity := by
        rw [quantity_merge]
        exact_mod_cast (by linarith : (pile k lots).quantity ≤ (pile k lots).quantity + lot.quantity)
      have hscale := mul_le_mul_of_nonneg_left hgrow (Nat.cast_nonneg (α := ℚ) (lots.length - 1))
      rw [pile_append_singleton, hlength, List.map_append, List.sum_append, List.map_singleton,
        List.sum_singleton]
      calc |(merge k (pile k lots) lot).worth - ((lots.map worth).sum + lot.worth)| * 10 ^ k
          ≤ (|(merge k (pile k lots) lot).worth - ((pile k lots).worth + lot.worth)| +
              |(pile k lots).worth - (lots.map worth).sum|) * 10 ^ k := by
            gcongr
            refine le_of_eq_of_le (congrArg _ ?_) (abs_add_le _ _)
            ring
        _ ≤ (merge k (pile k lots) lot).quantity / 2 +
              (lots.length - 1 : ℕ) * (pile k lots).quantity / 2 := by
            rw [add_mul]
            exact add_le_add hnow hprev
        _ ≤ ((lots.length - 1 : ℕ) + 1) * (merge k (pile k lots) lot).quantity / 2 := by
            linarith

/-! ### Parts -/

section parts

variable {ρ ι : Type} {quantity : ρ → ℤ} {whole : ρ → ℚ} {part : ι → ρ → ℚ} {codes : List ι}
  {rs : List ρ}

/-- What is kept of things that each have a quantity and a price. -/
def pileOf (k : ℕ) (quantity : ρ → ℤ) (price : ρ → ℚ) (rs : List ρ) : Lot :=
  pile k (rs.map fun r => ⟨quantity r, price r⟩)

@[simp] lemma quantity_pileOf (price : ρ → ℚ) :
    (pileOf k quantity price rs).quantity = (rs.map quantity).sum := by
  simp [pileOf, Function.comp_def]

/-- The price of the pile lies between the least price and the greatest. -/
lemma exists_price_pileOf_mem {price : ρ → ℚ} (hne : rs ≠ []) (hq : ∀ r ∈ rs, 0 < quantity r)
    (hfixed : ∀ r ∈ rs, Fixed k (price r)) :
    ∃ least ∈ rs, ∃ most ∈ rs, price least ≤ (pileOf k quantity price rs).price ∧
      (pileOf k quantity price rs).price ≤ price most := by
  have hfinite : {r | r ∈ rs}.Finite := List.finite_toSet rs
  obtain ⟨least, hleast, hmin⟩ :=
    Set.exists_min_image _ price hfinite (List.exists_mem_of_ne_nil rs hne)
  obtain ⟨most, hmost, hmax⟩ :=
    Set.exists_max_image _ price hfinite (List.exists_mem_of_ne_nil rs hne)
  refine ⟨least, hleast, most, hmost, price_pile_mem (by simpa using hq) (by simpa using hne)
    (hfixed least hleast) (hfixed most hmost) fun l hl => ?_⟩
  obtain ⟨r, hr, rfl⟩ := List.mem_map.mp hl
  exact ⟨hmin r hr, hmax r hr⟩

/-- What things are worth is kept, but for the rounding. -/
lemma abs_price_pileOf_sub_le {price : ρ → ℚ} (hq : ∀ r ∈ rs, 0 < quantity r)
    (hfixed : ∀ r ∈ rs, Fixed k (price r)) :
    |(rs.map quantity).sum * (pileOf k quantity price rs).price -
        (rs.map fun r => quantity r * price r).sum| * 10 ^ k ≤
      (rs.length - 1 : ℕ) * (rs.map quantity).sum / 2 := by
  have hlots : ∀ l ∈ rs.map fun r => (⟨quantity r, price r⟩ : Lot), 0 < l.quantity := by
    simpa using hq
  have h := abs_worth_pile_sub_le (k := k) hlots (by simpa using hfixed)
  have hquantity : (pileOf k quantity price rs).quantity = (rs.map quantity).sum :=
    quantity_pileOf price
  unfold pileOf at hquantity ⊢
  simpa [worth, hquantity, Function.comp_def] using h

lemma sum_map_sum_comm (f : ρ → ι → ℚ) :
    (rs.map fun r => (codes.map fun i => f r i).sum).sum =
      (codes.map fun i => (rs.map fun r => f r i).sum).sum := by
  induction rs with
  | nil => simp
  | cons r rest ih => simp [ih, List.sum_map_add]

/-- The parts together are worth what is kept of them, but for the rounding of each. -/
lemma abs_price_parts_sub_le (hq : ∀ r ∈ rs, 0 < quantity r)
    (hfixed : ∀ i ∈ codes, ∀ r ∈ rs, Fixed k (part i r)) :
    |(rs.map quantity).sum * (codes.map fun i => (pileOf k quantity (part i) rs).price).sum -
        (codes.map fun i => (rs.map fun r => quantity r * part i r).sum).sum| * 10 ^ k ≤
      codes.length * ((rs.length - 1 : ℕ) * (rs.map quantity).sum / 2) := by
  have hpos : (0 : ℚ) < 10 ^ k := by positivity
  induction codes with
  | nil => simp
  | cons i codes ih =>
    have hi := abs_price_pileOf_sub_le hq (hfixed i (by simp))
    have hrest := ih fun j hj => hfixed j (by simp [hj])
    simp only [List.map_cons, List.sum_cons, List.length_cons]
    push_cast at hi hrest ⊢
    rw [← abs_of_pos hpos, ← abs_mul] at hi hrest ⊢
    refine le_trans (le_of_eq_of_le (congrArg _ ?_) (abs_add_le _ _))
      ((add_le_add hi hrest).trans (le_of_eq ?_))
    · ring
    · ring

lemma sum_quantity_pos (hne : rs ≠ []) (hq : ∀ r ∈ rs, 0 < quantity r) :
    0 < (rs.map quantity).sum := by
  obtain ⟨r, rest, rfl⟩ := List.exists_cons_of_ne_nil hne
  have hrest : 0 ≤ (rest.map quantity).sum := by
    apply List.sum_nonneg
    intro q hmem
    obtain ⟨s, hs, rfl⟩ := List.mem_map.mp hmem
    exact (hq s (by simp [hs])).le
  have hfirst := hq r (by simp)
  rw [List.map_cons, List.sum_cons]
  linarith

/-- Where the prices are sums, the price of the pile is the sum of those of its parts, but for the
rounding. -/
theorem abs_price_sub_parts_le (hne : rs ≠ []) (hq : ∀ r ∈ rs, 0 < quantity r)
    (hwhole : ∀ r ∈ rs, whole r = (codes.map fun i => part i r).sum)
    (hfixed : ∀ i ∈ codes, ∀ r ∈ rs, Fixed k (part i r)) :
    |(pileOf k quantity whole rs).price -
        (codes.map fun i => (pileOf k quantity (part i) rs).price).sum| * 10 ^ k ≤
      (codes.length + 1) * (rs.length - 1 : ℕ) / 2 := by
  have hpos : (0 : ℚ) < 10 ^ k := by positivity
  have hall : (0 : ℚ) < ((rs.map quantity).sum : ℤ) := by exact_mod_cast sum_quantity_pos hne hq
  have hwholes : ∀ r ∈ rs, Fixed k (whole r) := by
    intro r hr
    rw [hwhole r hr]
    apply Fixed.sum
    intro p hp
    obtain ⟨i, hi, rfl⟩ := List.mem_map.mp hp
    exact hfixed i hi r hr
  have hlanded := abs_price_pileOf_sub_le hq hwholes
  -- the parts together are worth what the wholes are worth
  have hworth : (rs.map fun r => quantity r * whole r).sum =
      (codes.map fun i => (rs.map fun r => quantity r * part i r).sum).sum := by
    have hsplit : (rs.map fun r => (quantity r : ℚ) * whole r) =
        rs.map fun r => (codes.map fun i => quantity r * part i r).sum := by
      apply List.map_congr_left
      intro r hr
      rw [hwhole r hr, List.sum_map_mul_left]
    rw [hsplit, sum_map_sum_comm]
  have hparts := abs_price_parts_sub_le hq hfixed
  rw [hworth] at hlanded
  refine le_of_mul_le_mul_left ?_ hall
  rw [← abs_of_pos hpos, ← abs_mul] at hlanded hparts ⊢
  rw [← abs_of_pos hall, ← abs_mul, abs_of_pos hall]
  refine le_trans (le_of_eq_of_le (congrArg _ ?_) (abs_sub _ _))
    ((add_le_add hlanded hparts).trans (le_of_eq ?_))
  · ring
  · ring

end parts

end Lot

end Decimals
