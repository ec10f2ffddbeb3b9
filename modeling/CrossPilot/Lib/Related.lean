import Mathlib.Tactic

/-!
# Queries that cannot tell two tables apart

Two tables hold related rows at the same places (`List.Forall₂ R`). A query over them that chooses,
sorts, cuts off and shows its rows only by what related rows have in common answers with related
rows, or with one and the same answer. This is how a secret is shown to stay out of an answer: the
secret is what related rows may differ in.

Or two tables share the part of their rows that has a property. A query for rows with the property
does not see the others.
-/

namespace Related

variable {α β γ δ : Type} {R : α → β → Prop} {xs : List α} {ys : List β}

/-- Every row is related to one of the other table. -/
lemma exists_left (h : List.Forall₂ R xs ys) {b : β} (hb : b ∈ ys) : ∃ a ∈ xs, R a b := by
  induction h with
  | nil => cases hb
  | cons hab _ ih =>
    rcases List.mem_cons.mp hb with rfl | hb
    · exact ⟨_, List.mem_cons_self, hab⟩
    · obtain ⟨a, ha, hrel⟩ := ih hb
      exact ⟨a, List.mem_cons_of_mem _ ha, hrel⟩

lemma exists_right (h : List.Forall₂ R xs ys) {a : α} (ha : a ∈ xs) : ∃ b ∈ ys, R a b := by
  obtain ⟨b, hb, hrel⟩ := exists_left h.flip ha
  exact ⟨b, hb, hrel⟩

/-- What is shown of related rows is the same. -/
lemma map_eq {f : α → γ} {g : β → γ} (h : List.Forall₂ R xs ys)
    (hfg : ∀ a b, R a b → f a = g b) : xs.map f = ys.map g := by
  induction h with
  | nil => rfl
  | cons hab _ ih => rw [List.map_cons, List.map_cons, hfg _ _ hab, ih]

/-- What is shown of a row that may be missing is the same. -/
lemma optionMap_eq {f : α → γ} {g : β → γ} {x : Option α} {y : Option β} (h : Option.Rel R x y)
    (hfg : ∀ a b, R a b → f a = g b) : x.map f = y.map g := by
  cases h with
  | none => rfl
  | some hab => exact congrArg some (hfg _ _ hab)

/-- A condition that related rows fulfil alike chooses related rows. -/
lemma filter {p : α → Bool} {q : β → Bool} (h : List.Forall₂ R xs ys)
    (hpq : ∀ a b, R a b → p a = q b) : List.Forall₂ R (xs.filter p) (ys.filter q) :=
  List.rel_filter (fun {a b} hab => iff_of_eq (congrArg (· = true) (hpq a b hab))) h

/-- What is made of related rows is related. -/
lemma map {S : γ → δ → Prop} {f : α → γ} {g : β → δ} (h : List.Forall₂ R xs ys)
    (hfg : ∀ a b, R a b → S (f a) (g b)) : List.Forall₂ S (xs.map f) (ys.map g) :=
  List.rel_map (fun {a b} hab => hfg a b hab) h

section Sorting

variable {r : α → α → Prop} {r' : β → β → Prop} [DecidableRel r] [DecidableRel r']

lemma orderedInsert (hr : ∀ a a' b b', R a b → R a' b' → (r a a' ↔ r' b b')) {a : α} {b : β}
    (hab : R a b) (h : List.Forall₂ R xs ys) :
    List.Forall₂ R (xs.orderedInsert r a) (ys.orderedInsert r' b) := by
  induction h with
  | nil => exact .cons hab .nil
  | @cons a' b' _ _ hab' hrest ih =>
    rw [List.orderedInsert_cons, List.orderedInsert_cons]
    by_cases hle : r a a'
    · rw [if_pos hle, if_pos ((hr a a' b b' hab hab').1 hle)]
      exact .cons hab (.cons hab' hrest)
    · rw [if_neg hle, if_neg fun h => hle ((hr a a' b b' hab hab').2 h)]
      exact .cons hab' ih

/-- An order that ranks related rows alike sorts related tables alike. -/
lemma insertionSort (hr : ∀ a a' b b', R a b → R a' b' → (r a a' ↔ r' b b'))
    (h : List.Forall₂ R xs ys) :
    List.Forall₂ R (xs.insertionSort r) (ys.insertionSort r') := by
  induction h with
  | nil => exact .nil
  | cons hab _ ih => exact orderedInsert hr hab ih

end Sorting

/-- The first row with a property, of related tables. -/
lemma find? {p : α → Bool} {q : β → Bool} (h : List.Forall₂ R xs ys)
    (hpq : ∀ a b, R a b → p a = q b) : Option.Rel R (xs.find? p) (ys.find? q) := by
  induction h with
  | nil => exact .none
  | @cons a b _ _ hab _ ih =>
    rw [List.find?_cons, List.find?_cons, ← hpq a b hab]
    cases p a with
    | true => exact .some hab
    | false => exact ih

/-- The last row of related tables. -/
lemma getLast? (h : List.Forall₂ R xs ys) : Option.Rel R xs.getLast? ys.getLast? := by
  induction h with
  | nil => exact .none
  | cons hab hrest ih =>
    cases hrest with
    | nil => exact .some hab
    | cons _ _ => simpa only [List.getLast?_cons_cons] using ih

/-! ### A shared part -/

section Part

variable {p q : α → Bool} {zs : List α}

/-- Narrower conditions choose the same rows of a shared part. -/
lemma filter_eq_of_part (h : xs.filter q = zs.filter q) (hp : ∀ x, p x → q x) :
    xs.filter p = zs.filter p := by
  have hnarrow : ∀ rows : List α, rows.filter p = (rows.filter q).filter p := by
    intro rows
    rw [List.filter_filter]
    refine List.filter_congr fun x _ => ?_
    cases hx : p x with
    | true => rw [hp x hx]; rfl
    | false => rfl
  rw [hnarrow xs, hnarrow zs, h]

lemma any_eq_of_part (h : xs.filter q = zs.filter q) (hp : ∀ x, p x → q x) :
    xs.any p = zs.any p := by
  have hany : ∀ rows : List α, rows.any p = !(rows.filter p).isEmpty := by
    intro rows
    induction rows with
    | nil => rfl
    | cons x rest ih =>
      rw [List.any_cons, List.filter_cons, ih]
      cases p x <;> rfl
  rw [hany xs, hany zs, filter_eq_of_part h hp]

lemma find?_eq_of_part (h : xs.filter q = zs.filter q) (hp : ∀ x, p x → q x) :
    xs.find? p = zs.find? p := by
  have hfind : ∀ rows : List α, rows.find? p = (rows.filter p).head? := by
    intro rows
    rw [List.head?_filter]
  rw [hfind xs, hfind zs, filter_eq_of_part h hp]

end Part

end Related
