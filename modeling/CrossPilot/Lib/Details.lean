import CrossPilot.Lib.Table

/-!
# Tables with detail rows

The rows of one table belong to rows of another: a detail row holds the key of its owner. What a
detail row weighs may depend on its owner. The weight of all details moves with the one row that is
changed, whichever table it is in.
-/

namespace Table

variable {μ ρ ι κ : Type} [DecidableEq ι] [DecidableEq κ]
  {key : μ → ι} {owner : ρ → ι} {detailKey : ρ → κ} {g : μ → ρ → ℤ}
  {masters : List μ} {details : List ρ}

/-- What the details of a row weigh. -/
def weight (key : μ → ι) (owner : ρ → ι) (g : μ → ρ → ℤ) (details : List ρ) (m : μ) : ℤ :=
  total (fun r => if owner r = key m then g m r else 0) details

/-- What all details weigh. -/
def weighed (key : μ → ι) (owner : ρ → ι) (g : μ → ρ → ℤ) (masters : List μ) (details : List ρ) :
    ℤ :=
  total (weight key owner g details) masters

lemma total_add (f f' : ρ → ℤ) (rows : List ρ) :
    total (fun r => f r + f' r) rows = total f rows + total f' rows := List.sum_map_add

lemma total_nonpos {f : ρ → ℤ} {rows : List ρ} (h : ∀ r ∈ rows, f r ≤ 0) : total f rows ≤ 0 := by
  induction rows with
  | nil => exact le_rfl
  | cons r rest ih =>
    rw [total_cons]
    exact add_nonpos (h r (by simp)) (ih fun x hx => h x (by simp [hx]))

/-- A change of an owner. -/
lemma weighed_alter_master (hk : Keyed key masters) {m : μ} (hm : m ∈ masters) (f : μ → μ) :
    weighed key owner g (alter key (key m) f masters) details = weighed key owner g masters details +
      (weight key owner g details (f m) - weight key owner g details m) :=
  total_alter hk hm f _

/-- Only its owner counts for a detail row. -/
lemma total_ite_owner (hk : Keyed key masters) {m : μ} (hm : m ∈ masters) {i : ι} (hi : key m = i)
    (h : μ → ℤ) : total (fun m => if i = key m then h m else 0) masters = h m := by
  subst hi
  simpa only [eq_comm] using total_ite_key hk hm h

/-- A change of a detail row, which stays with its owner. -/
lemma weighed_alter_detail (hk : Keyed key masters) (hd : Keyed detailKey details) {m : μ}
    (hm : m ∈ masters) {r : ρ} (hr : r ∈ details) (ho : key m = owner r) {f : ρ → ρ}
    (hf : owner (f r) = owner r) :
    weighed key owner g masters (alter detailKey (detailKey r) f details) =
      weighed key owner g masters details + (g m (f r) - g m r) := by
  have hone : ∀ m, weight key owner g (alter detailKey (detailKey r) f details) m =
      weight key owner g details m + if owner r = key m then g m (f r) - g m r else 0 := by
    intro m
    unfold weight
    rw [total_alter hd hr, hf]
    by_cases h : owner r = key m <;> simp [h]
  unfold weighed
  rw [total_congr fun m _ => hone m, total_add, total_ite_owner hk hm ho]

/-- A new detail row. -/
lemma weighed_append_detail (hk : Keyed key masters) {m : μ} (hm : m ∈ masters) {r : ρ}
    (ho : key m = owner r) :
    weighed key owner g masters (details ++ [r]) = weighed key owner g masters details + g m r := by
  have hone : ∀ m, weight key owner g (details ++ [r]) m =
      weight key owner g details m + if owner r = key m then g m r else 0 := by
    intro m
    simp [weight]
  unfold weighed
  rw [total_congr fun m _ => hone m, total_add, total_ite_owner hk hm ho]

/-- Without details an owner weighs nothing. -/
lemma weight_eq_zero {m : μ} (h : ∀ r ∈ details, owner r ≠ key m) :
    weight key owner g details m = 0 :=
  total_eq_zero fun r hr => if_neg (h r hr)

/-- A new owner has no details yet. -/
lemma weighed_append_master {m : μ} (h : ∀ r ∈ details, owner r ≠ key m) :
    weighed key owner g (masters ++ [m]) details = weighed key owner g masters details := by
  unfold weighed
  rw [total_append, total_cons, total_nil, weight_eq_zero h, add_zero, add_zero]

lemma weighed_nonneg (h : ∀ m ∈ masters, ∀ r ∈ details, 0 ≤ g m r) :
    0 ≤ weighed key owner g masters details := by
  refine total_nonneg fun m hm => total_nonneg fun r hr => ?_
  split
  · exact h m hm r hr
  · exact le_rfl

/-- A detail row is part of the weight. -/
lemma le_weighed (h : ∀ m ∈ masters, ∀ r ∈ details, 0 ≤ g m r) {m : μ} (hm : m ∈ masters) {r : ρ}
    (hr : r ∈ details) (ho : owner r = key m) : g m r ≤ weighed key owner g masters details := by
  have hparts : ∀ m ∈ masters, ∀ r ∈ details, 0 ≤ if owner r = key m then g m r else 0 := by
    intro m hm r hr
    split
    · exact h m hm r hr
    · exact le_rfl
  calc g m r = if owner r = key m then g m r else 0 := by rw [if_pos ho]
    _ ≤ weight key owner g details m := le_total (hparts m hm) hr
    _ ≤ weighed key owner g masters details :=
      le_total (fun m hm => total_nonneg (hparts m hm)) hm

end Table
