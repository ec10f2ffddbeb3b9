import Mathlib.Data.List.Shortlex
import Mathlib.Tactic

/-!
# Numbers without a zero digit

With `k` digits that stand for one to `k`, every number is written in exactly one way (`digits_value`,
`value_digits`), and the order of the numbers is that of their digits, shorter ones first
(`value_lt_value_iff`).
-/

namespace Bijective

variable {k : ℕ}

/-- The number of some digits. The first digit counts one. -/
def value (ds : List (Fin k)) : ℕ := ds.foldl (fun n d => n * k + (d + 1)) 0

/-- The digits of a number. -/
def digits (k : ℕ) [NeZero k] : ℕ → List (Fin k)
  | 0 => []
  | n + 1 => digits k (n / k) ++ [Fin.ofNat k n]
decreasing_by exact Nat.lt_succ_of_le (Nat.div_le_self n k)

@[simp] lemma value_nil : value ([] : List (Fin k)) = 0 := rfl

@[simp] lemma value_append_singleton (ds : List (Fin k)) (d : Fin k) :
    value (ds ++ [d]) = value ds * k + d + 1 := by
  simp [value, add_assoc]

lemma value_pos {ds : List (Fin k)} (h : ds ≠ []) : 1 ≤ value ds := by
  obtain rfl | ⟨ds, d, rfl⟩ := List.eq_nil_or_concat' ds
  · exact absurd rfl h
  · simp

section

variable [NeZero k]

@[simp] lemma digits_zero : digits k 0 = [] := by rw [digits]

@[simp] lemma digits_succ (n : ℕ) : digits k (n + 1) = digits k (n / k) ++ [Fin.ofNat k n] := by
  rw [digits]

lemma value_digits (n : ℕ) : value (digits k n) = n := by
  induction n using Nat.strong_induction_on with
  | _ n ih =>
    cases n with
    | zero => simp
    | succ n =>
      rw [digits_succ, value_append_singleton, ih _ (Nat.lt_succ_of_le (Nat.div_le_self n k)),
        Fin.val_ofNat, mul_comm, Nat.div_add_mod]

lemma digits_value (ds : List (Fin k)) : digits k (value ds) = ds := by
  induction ds using List.reverseRecOn with
  | nil => simp
  | append_singleton ds d ih =>
    have hdiv : (value ds * k + d) / k = value ds := by
      rw [mul_comm, Nat.mul_add_div (NeZero.pos k), Nat.div_eq_of_lt d.isLt, add_zero]
    have hmod : Fin.ofNat k (value ds * k + d) = d := by
      apply Fin.ext
      rw [Fin.val_ofNat, mul_comm, Nat.mul_add_mod, Nat.mod_eq_of_lt d.isLt]
    rw [value_append_singleton, digits_succ, hdiv, hmod, ih]

lemma digits_injective : Function.Injective (digits k) :=
  Function.LeftInverse.injective value_digits

lemma value_injective : Function.Injective (value (k := k)) :=
  Function.LeftInverse.injective digits_value

lemma digits_ne_nil {n : ℕ} (hn : 1 ≤ n) : digits k n ≠ [] := by
  intro h
  have hvalue := value_digits (k := k) n
  rw [h, value_nil] at hvalue
  exact absurd hvalue (Nat.ne_of_lt hn)

end

/-! ### The order -/

lemma lex_append_singleton {α : Type} [LinearOrder α] {xs ys : List α} {x y : α}
    (h : xs.length = ys.length) : List.Lex (· < ·) (xs ++ [x]) (ys ++ [y]) ↔
      List.Lex (· < ·) xs ys ∨ xs = ys ∧ x < y := by
  induction xs generalizing ys with
  | nil =>
    obtain rfl := List.eq_nil_of_length_eq_zero h.symm
    simp
  | cons a xs ih =>
    cases ys with
    | nil => cases h
    | cons b ys =>
      rw [List.cons_append, List.cons_append, List.cons_lex_cons_iff, List.cons_lex_cons_iff,
        ih (Nat.succ.inj h), List.cons.injEq]
      tauto

/-- Lists that end with a digit each are ordered by what comes before it, and then by the digit. -/
lemma shortlex_append_singleton {α : Type} [LinearOrder α] {xs ys : List α} {x y : α} :
    List.Shortlex (· < ·) (xs ++ [x]) (ys ++ [y]) ↔
      List.Shortlex (· < ·) xs ys ∨ xs = ys ∧ x < y := by
  simp only [List.shortlex_def, List.length_append, List.length_singleton, add_lt_add_iff_right,
    add_left_inj, or_assoc]
  refine or_congr_right ?_
  constructor
  · rintro ⟨hlength, hlex⟩
    exact ((lex_append_singleton hlength).mp hlex).imp_left fun hlex => ⟨hlength, hlex⟩
  · rintro (⟨hlength, hlex⟩ | ⟨rfl, hlt⟩)
    · exact ⟨hlength, (lex_append_singleton hlength).mpr (.inl hlex)⟩
    · exact ⟨rfl, (lex_append_singleton rfl).mpr (.inr ⟨rfl, hlt⟩)⟩

/-- Digits written as other signs in the same order. -/
lemma shortlex_map_iff {α β : Type} [LinearOrder α] [LinearOrder β] {f : α → β}
    (hf : ∀ a b, f a < f b ↔ a < b) {xs ys : List α} :
    List.Shortlex (· < ·) (xs.map f) (ys.map f) ↔ List.Shortlex (· < ·) xs ys := by
  have hinjective : Function.Injective f :=
    StrictMono.injective fun a b h => (hf a b).mpr h
  have hlex (xs ys : List α) : List.Lex (· < ·) (xs.map f) (ys.map f) ↔
      List.Lex (· < ·) xs ys := by
    induction xs generalizing ys with
    | nil => cases ys <;> simp
    | cons a xs ih =>
      cases ys with
      | nil => simp
      | cons b ys => simp [List.cons_lex_cons_iff, hf, ih, hinjective.eq_iff]
  simp [List.shortlex_def, hlex]

/-- A last digit counts less than one before it. -/
lemma mul_add_lt_mul_add_iff {m n : ℕ} (d e : Fin k) :
    m * k + d < n * k + e ↔ m < n ∨ m = n ∧ d < e := by
  have hd := d.isLt
  have he := e.isLt
  obtain hlt | rfl | hlt := lt_trichotomy m n
  · have hle : (m + 1) * k ≤ n * k := Nat.mul_le_mul_right k hlt
    simp only [hlt, true_or, iff_true]
    linarith
  · simp
  · have hle : (n + 1) * k ≤ m * k := Nat.mul_le_mul_right k hlt
    have hnot : ¬ (m < n ∨ m = n ∧ d < e) := by omega
    simp only [hnot, iff_false, not_lt]
    linarith

lemma value_lt_value_iff [NeZero k] {ds es : List (Fin k)} :
    value ds < value es ↔ List.Shortlex (· < ·) ds es := by
  induction ds using List.reverseRecOn generalizing es with
  | nil =>
    obtain rfl | ⟨es, e, rfl⟩ := List.eq_nil_or_concat' es
    · simp
    · simp [List.Shortlex.of_length_lt]
  | append_singleton ds d ih =>
    obtain rfl | ⟨es, e, rfl⟩ := List.eq_nil_or_concat' es
    · simp
    · rw [shortlex_append_singleton, ← ih, value_append_singleton, value_append_singleton,
        add_lt_add_iff_right, mul_add_lt_mul_add_iff]
      rw [value_injective.eq_iff]

/-- The digits of numbers are in the order of the numbers, shorter ones first. -/
lemma digits_shortlex_iff [NeZero k] {m n : ℕ} :
    List.Shortlex (· < ·) (digits k m) (digits k n) ↔ m < n := by
  rw [← value_lt_value_iff, value_digits, value_digits]

end Bijective
