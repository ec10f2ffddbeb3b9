import Mathlib.Tactic

/-!
# Lists of optional values

A list is worked through element by element, and one missing value makes the whole missing. So does
one that fails.
-/

namespace Optional

variable {α β : Type} {f : α → Option β} {xs : List α} {ys : List β}

/-- What a list gives where every element gives something. -/
lemma mapM_eq_some_iff : xs.mapM f = some ys ↔ List.Forall₂ (fun x y => f x = some y) xs ys := by
  induction xs generalizing ys with
  | nil => simp [eq_comm]
  | cons x rest ih =>
    rw [List.mapM_cons, List.forall₂_cons_left_iff]
    cases hx : f x with
    | none => simp
    | some y =>
      cases hrest : rest.mapM f with
      | none => simp [← ih, hrest]
      | some ys' => simp [← ih, hrest, eq_comm]

/-- A list gives something as soon as every element does. -/
lemma exists_mapM (h : ∀ x ∈ xs, ∃ y, f x = some y) : ∃ ys, xs.mapM f = some ys := by
  induction xs with
  | nil => exact ⟨[], rfl⟩
  | cons x rest ih =>
    obtain ⟨y, hy⟩ := h x (by simp)
    obtain ⟨ys, hys⟩ := ih fun x' hx' => h x' (by simp [hx'])
    exact ⟨y :: ys, by simp [List.mapM_cons, hy, hys]⟩

/-- What a list gives comes from its elements. -/
lemma exists_of_mem (h : xs.mapM f = some ys) {y : β} (hy : y ∈ ys) : ∃ x ∈ xs, f x = some y := by
  have h := mapM_eq_some_iff.mp h
  induction h with
  | nil => simp at hy
  | cons hx hrest ih =>
    obtain rfl | hy := List.mem_cons.mp hy
    · exact ⟨_, by simp, hx⟩
    · obtain ⟨x', hx', hf⟩ := ih (mapM_eq_some_iff.mpr hrest) hy
      exact ⟨x', by simp [hx'], hf⟩

/-- What can be read off the elements can be read off what they give. -/
lemma map_of_mapM {γ : Type} {g : α → γ} {g' : β → γ} (h : xs.mapM f = some ys)
    (hg : ∀ x ∈ xs, ∀ y, f x = some y → g' y = g x) : ys.map g' = xs.map g := by
  have h := mapM_eq_some_iff.mp h
  induction h with
  | nil => rfl
  | cons hx hrest ih =>
    rw [List.map_cons, List.map_cons, hg _ (by simp) _ hx,
      ih (mapM_eq_some_iff.mpr hrest) fun x hx' => hg x (by simp [hx'])]

lemma isSome_of_mapM (h : xs.mapM f = some ys) : ∀ x ∈ xs, (f x).isSome := by
  have h := mapM_eq_some_iff.mp h
  induction h with
  | nil => simp
  | cons hx hrest ih =>
    intro x' hx'
    obtain rfl | hx' := List.mem_cons.mp hx'
    · simp [hx]
    · exact ih (mapM_eq_some_iff.mpr hrest) x' hx'

end Optional

namespace Fallible

variable {α β ε : Type} {f : α → Except ε β} {xs : List α} {ys : List β}

/-- What a list gives where nothing fails. -/
lemma mapM_eq_ok_iff : xs.mapM f = .ok ys ↔ List.Forall₂ (fun x y => f x = .ok y) xs ys := by
  induction xs generalizing ys with
  | nil => simp [pure, Except.pure, eq_comm]
  | cons x rest ih =>
    rw [List.mapM_cons, List.forall₂_cons_left_iff]
    cases hx : f x with
    | error e => simp [bind, Except.bind]
    | ok y =>
      cases hrest : rest.mapM f with
      | error e => simp [bind, Except.bind, ← ih, hrest]
      | ok ys' => simp [bind, Except.bind, pure, Except.pure, ← ih, hrest, eq_comm]

/-- What a list gives comes from its elements. -/
lemma exists_of_mem (h : xs.mapM f = .ok ys) {y : β} (hy : y ∈ ys) : ∃ x ∈ xs, f x = .ok y := by
  have h := mapM_eq_ok_iff.mp h
  induction h with
  | nil => simp at hy
  | cons hx hrest ih =>
    obtain rfl | hy := List.mem_cons.mp hy
    · exact ⟨_, by simp, hx⟩
    · obtain ⟨x', hx', hf⟩ := ih (mapM_eq_ok_iff.mpr hrest) hy
      exact ⟨x', by simp [hx'], hf⟩

/-- A list fails in one of its elements. -/
lemma exists_of_error {e : ε} (h : xs.mapM f = .error e) : ∃ x ∈ xs, f x = .error e := by
  induction xs with
  | nil => cases h
  | cons x rest ih =>
    rw [List.mapM_cons] at h
    cases hx : f x with
    | error e' =>
      obtain rfl : e' = e := by simpa [hx, bind, Except.bind] using h
      exact ⟨x, by simp, hx⟩
    | ok y =>
      cases hrest : rest.mapM f with
      | error e' =>
        obtain rfl : e' = e := by simpa [hx, hrest, bind, Except.bind] using h
        obtain ⟨z, hz, herror⟩ := ih hrest
        exact ⟨z, List.mem_cons_of_mem _ hz, herror⟩
      | ok ys => simp [hx, hrest, bind, Except.bind, pure, Except.pure] at h

/-- A list gives something exactly if nothing fails. -/
lemma exists_mapM_iff : (∃ ys, xs.mapM f = .ok ys) ↔ ∀ x ∈ xs, ∃ y, f x = .ok y := by
  constructor
  · rintro ⟨ys, h⟩
    replace h := mapM_eq_ok_iff.mp h
    induction h with
    | nil => simp
    | cons hx _ ih => exact List.forall_mem_cons.mpr ⟨⟨_, hx⟩, ih⟩
  · intro h
    induction xs with
    | nil => exact ⟨[], rfl⟩
    | cons x rest ih =>
      obtain ⟨⟨y, hy⟩, hrest⟩ := List.forall_mem_cons.mp h
      obtain ⟨ys, hys⟩ := ih hrest
      exact ⟨y :: ys, by simp [List.mapM_cons, hy, hys, bind, Except.bind, pure, Except.pure]⟩

/-- A loop fails in one of its steps. -/
lemma foldlM_eq_error {σ : Type} {step : σ → α → Except ε σ} {s : σ} {e : ε}
    (h : xs.foldlM step s = .error e) : ∃ a ∈ xs, ∃ t, step t a = .error e := by
  induction xs generalizing s with
  | nil => cases h
  | cons a rest ih =>
    rw [List.foldlM_cons] at h
    cases hfirst : step s a with
    | error e' =>
      simp only [hfirst, bind, Except.bind] at h
      exact ⟨a, by simp, s, hfirst.trans h⟩
    | ok t =>
      simp only [hfirst, bind, Except.bind] at h
      obtain ⟨b, hb, hstep⟩ := ih h
      exact ⟨b, List.mem_cons_of_mem _ hb, hstep⟩

/-- What every step of a loop brings about, and no later step undoes, holds after the loop. -/
lemma foldlM_spec {σ : Type} {step : σ → α → Except ε σ} {R : σ → σ → Prop} {P : α → σ → Prop}
    (hrefl : ∀ s, R s s) (htrans : ∀ s t u, R s t → R t u → R s u)
    (hkeeps : ∀ a s t, R s t → P a s → P a t)
    (hstep : ∀ a ∈ xs, ∀ s t, step s a = .ok t → R s t ∧ P a t) {s t : σ}
    (h : xs.foldlM step s = .ok t) : R s t ∧ ∀ a ∈ xs, P a t := by
  induction xs generalizing s with
  | nil =>
    cases h
    exact ⟨hrefl _, by simp⟩
  | cons a rest ih =>
    rw [List.foldlM_cons] at h
    cases hfirst : step s a with
    | error e => simp [hfirst, bind, Except.bind] at h
    | ok u =>
      simp only [hfirst, bind, Except.bind] at h
      obtain ⟨hR, hP⟩ := hstep a (by simp) s u hfirst
      obtain ⟨hR', hall⟩ := ih (fun b hb => hstep b (List.mem_cons_of_mem _ hb)) h
      refine ⟨htrans _ _ _ hR hR', fun b hb => ?_⟩
      obtain rfl | hb := List.mem_cons.mp hb
      · exact hkeeps _ _ _ hR' hP
      · exact hall b hb

end Fallible
