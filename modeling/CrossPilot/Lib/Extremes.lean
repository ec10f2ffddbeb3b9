import Mathlib.Tactic

/-!
# The first rows of a list

The rows with the least values, as many as are wanted. With the order turned around these are the rows
with the greatest ones. A sorted list has them in front; what it has in front otherwise are the rows
from the other end.
-/

namespace Extremes

variable {ρ K : Type} [LinearOrder K]

/-- `n` of the rows, or all if there are fewer, with values no greater than those of the others. -/
def Least (k : ρ → K) (n : ℕ) (rows picked : List ρ) : Prop :=
  ∃ rest, (picked ++ rest).Perm rows ∧ picked.length = min n rows.length ∧
    ∀ a ∈ picked, ∀ b ∈ rest, k a ≤ k b

/-- `n` of the rows, or all if there are fewer, with values no less than those of the others. -/
def Greatest (k : ρ → K) (n : ℕ) (rows picked : List ρ) : Prop :=
  ∃ rest, (picked ++ rest).Perm rows ∧ picked.length = min n rows.length ∧
    ∀ a ∈ picked, ∀ b ∈ rest, k b ≤ k a

variable {k : ρ → K} {n : ℕ} {rows rows' picked xs : List ρ}

lemma Least.perm (h : Least k n rows picked) (hperm : rows.Perm rows') :
    Least k n rows' picked := by
  obtain ⟨rest, hrest, hlength, hle⟩ := h
  exact ⟨rest, hrest.trans hperm, by rw [hlength, hperm.length_eq], hle⟩

lemma Greatest.perm (h : Greatest k n rows picked) (hperm : rows.Perm rows') :
    Greatest k n rows' picked := by
  obtain ⟨rest, hrest, hlength, hle⟩ := h
  exact ⟨rest, hrest.trans hperm, by rw [hlength, hperm.length_eq], hle⟩

/-- What stands in front of what, when a list is cut. -/
lemma rel_of_mem_take_of_mem_drop {r : ρ → ρ → Prop} (h : xs.Pairwise r) {a b : ρ}
    (ha : a ∈ xs.take n) (hb : b ∈ xs.drop n) : r a b := by
  rw [← List.take_append_drop n xs, List.pairwise_append] at h
  exact h.2.2 a ha b hb

lemma least_take (h : xs.Pairwise fun a b => k a ≤ k b) : Least k n xs (xs.take n) :=
  ⟨xs.drop n, by rw [List.take_append_drop], by simp, fun _ ha _ hb =>
    rel_of_mem_take_of_mem_drop h ha hb⟩

lemma greatest_take (h : xs.Pairwise fun a b => k b ≤ k a) : Greatest k n xs (xs.take n) :=
  ⟨xs.drop n, by rw [List.take_append_drop], by simp, fun _ ha _ hb =>
    rel_of_mem_take_of_mem_drop h ha hb⟩

/-- What a list that is sorted the other way has in front are its least rows only if it has no others,
or if they are all alike. -/
theorem least_take_iff (h : xs.Pairwise fun a b => k b ≤ k a) (hn : 1 ≤ n) :
    Least k n xs (xs.take n) ↔ xs.length ≤ n ∨ ∀ a ∈ xs, ∀ b ∈ xs, k a = k b := by
  constructor
  · rintro ⟨rest, hperm, -, hle⟩
    by_cases hlength : xs.length ≤ n
    · exact .inl hlength
    right
    have hdrop : rest.Perm (xs.drop n) := by
      apply (List.perm_append_left_iff (xs.take n)).mp
      rw [List.take_append_drop]
      exact hperm
    have heq : ∀ a ∈ xs.take n, ∀ b ∈ xs.drop n, k a = k b := fun a ha b hb =>
      le_antisymm (hle a ha b (hdrop.symm.subset hb)) (rel_of_mem_take_of_mem_drop h ha hb)
    -- both parts have a row, and all are alike with these
    obtain ⟨first, hfirst⟩ : ∃ a, a ∈ xs.take n := by
      apply List.exists_mem_of_ne_nil
      intro hnil
      rw [List.take_eq_nil_iff] at hnil
      obtain hzero | hempty := hnil
      · omega
      · simp [hempty] at hlength
    obtain ⟨last, hlast⟩ : ∃ b, b ∈ xs.drop n := by
      apply List.exists_mem_of_ne_nil
      simpa using hlength
    have hall : ∀ a ∈ xs, k a = k last := by
      intro a ha
      rw [← List.take_append_drop n xs] at ha
      obtain ha | ha := List.mem_append.mp ha
      · exact heq a ha last hlast
      · rw [← heq first hfirst a ha, heq first hfirst last hlast]
    intro a ha b hb
    rw [hall a ha, hall b hb]
  · rintro (hlength | hall)
    · refine ⟨[], by simp [List.take_of_length_le hlength], by simp, by simp⟩
    · refine ⟨xs.drop n, by rw [List.take_append_drop], by simp, fun a ha b hb => ?_⟩
      exact le_of_eq (hall a (List.mem_of_mem_take ha) b (List.mem_of_mem_drop hb))

end Extremes
