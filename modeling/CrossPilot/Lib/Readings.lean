import Mathlib.Tactic

/-!
# Readings in a row

A parser makes its readings one after another and stops at the first that fails. Whether it ends as it
should (with a sound result, or with an error that its callers expect) can be told from the list of
its readings (`Reads.lawful_iff`). `Reads` is a triple for that: the demands met so far, the readings
to come, and the demands that a result meets.
-/

namespace Readings

universe u

variable {ρ ε ι : Type*} {α β : Type u}

/-- What is known about a reading: whether it succeeds, whether what is read meets the demands, and
whether its failure is one that callers expect; and which errors they expect. -/
structure Kind (ρ ε : Type*) where
  readable : ρ → Bool
  sound : ρ → Prop
  excused : ρ → Prop
  expected : ε → Prop

/-- A sequence that ends well is made of two parts that do. -/
lemma exists_of_bind {x : Except ε α} {k : α → Except ε β} {b : β} (h : x >>= k = .ok b) :
    ∃ a, x = .ok a ∧ k a = .ok b := by
  cases x with
  | error e => cases h
  | ok a => exact ⟨a, rfl, h⟩

/-- The same results in another order, or no results both times. -/
def PermResult : Except ε (List α) → Except ε (List α) → Prop
  | .ok as, .ok bs => as.Perm bs
  | .error _, .error _ => True
  | _, _ => False

/-- A loop over the same values in another order. -/
lemma permResult_mapM {f : ι → Except ε α} {xs ys : List ι} (h : xs.Perm ys) :
    PermResult (xs.mapM f) (ys.mapM f) := by
  induction h with
  | nil => exact List.Perm.refl []
  | cons x _ ih =>
    rw [List.mapM_cons, List.mapM_cons]
    cases f x with
    | error e => trivial
    | ok a =>
      rename_i xs ys _
      cases hxs : xs.mapM f <;> cases hys : ys.mapM f <;> rw [hxs, hys] at ih
      · trivial
      · exact ih.elim
      · exact ih.elim
      · exact List.Perm.cons a ih
  | swap x y xs =>
    simp only [List.mapM_cons]
    cases f x with
    | error e =>
      cases f y with
      | error e' => trivial
      | ok b => trivial
    | ok a =>
      cases f y with
      | error e => trivial
      | ok b =>
        cases xs.mapM f with
        | error e => trivial
        | ok as => exact List.Perm.swap a b as
  | trans _ _ ih ih' =>
    rename_i xs ys zs _ _
    cases hxs : xs.mapM f <;> cases hys : ys.mapM f <;> cases hzs : zs.mapM f <;>
      simp_all [PermResult]
    exact ih.trans ih'

variable (K : Kind ρ ε)

/-- The first reading that fails. -/
def Kind.failing (rs : List ρ) : Option ρ := rs.find? fun r => !K.readable r

/-- From the demands `p`, the readings `rs` lead to a result that meets `q` if all of them do, or to
the failure of the first that fails. -/
def Reads (p : Prop) (rs : List ρ) (x : Except ε α) (q : α → Prop) : Prop :=
  match K.failing rs with
  | none => ∃ a, x = .ok a ∧ (q a ↔ p ∧ ∀ r ∈ rs, K.sound r)
  | some r => ∃ e, x = .error e ∧ (K.expected e ↔ K.excused r)

/-- The readings end as they should: all are sound, or the first that fails does so as expected. -/
def Kind.Clean (rs : List ρ) : Prop :=
  match K.failing rs with
  | none => ∀ r ∈ rs, K.sound r
  | some r => K.excused r

/-- A parser ends as it should. -/
def Kind.Lawful (q : α → Prop) : Except ε α → Prop
  | .ok a => q a
  | .error e => K.expected e

namespace Reads

variable {K} {p p' : Prop} {r : ρ} {rs ss : List ρ} {x : Except ε α} {q q' : α → Prop}

@[simp] lemma failing_nil : K.failing ([] : List ρ) = none := rfl

@[simp] lemma failing_append : K.failing (rs ++ ss) = (K.failing rs).or (K.failing ss) :=
  List.find?_append

lemma failing_singleton : K.failing [r] = if K.readable r then none else some r := by
  cases h : K.readable r <;> simp [Kind.failing, h]

/-- No reading is left. -/
protected lemma pure {a : α} (h : q a ↔ p) : Reads K p [] (pure a) q :=
  ⟨a, rfl, by simpa using h⟩

/-- One reading that succeeds. -/
lemma ok {a : α} (hr : K.readable r = true) (h : q a ↔ p ∧ K.sound r) :
    Reads K p [r] (.ok a) q := by
  rw [Reads, failing_singleton, if_pos hr]
  exact ⟨a, rfl, by simpa using h⟩

/-- One reading that fails. -/
lemma error {e : ε} (hr : K.readable r = false) (h : K.expected e ↔ K.excused r) :
    Reads K p [r] (.error e) q := by
  rw [Reads, failing_singleton, if_neg (by simp [hr])]
  exact ⟨e, rfl, h⟩

lemma bind {k : α → Except ε β} {s : β → Prop} (hx : Reads K p rs x q)
    (hk : ∀ a, x = .ok a → Reads K (q a) ss (k a) s) : Reads K p (rs ++ ss) (x >>= k) s := by
  rw [Reads] at hx ⊢
  rw [failing_append]
  cases hrs : K.failing rs with
  | some r =>
    rw [hrs] at hx
    obtain ⟨e, rfl, hexpected⟩ := hx
    exact ⟨e, rfl, hexpected⟩
  | none =>
    rw [hrs] at hx
    obtain ⟨a, rfl, hq⟩ := hx
    have hka := hk a rfl
    rw [Reads] at hka
    rw [Option.none_or]
    cases hss : K.failing ss with
    | some r =>
      rw [hss] at hka
      exact hka
    | none =>
      rw [hss] at hka
      obtain ⟨b, hb, hs⟩ := hka
      refine ⟨b, hb, ?_⟩
      rw [hs, hq, and_assoc]
      simp only [List.mem_append, or_imp, forall_and]

/-- One reading, and what comes after it. -/
lemma bind_cons {k : α → Except ε β} {s : β → Prop} (hx : Reads K p [r] x q)
    (hk : ∀ a, x = .ok a → Reads K (q a) ss (k a) s) : Reads K p (r :: ss) (x >>= k) s :=
  Reads.bind hx hk

/-- After the last readings only a result is put together. -/
lemma bind_pure {f : α → β} {s : β → Prop} (hx : Reads K p rs x q) (h : ∀ a, s (f a) ↔ q a) :
    Reads K p rs (x >>= fun a => pure (f a)) s := by
  rw [← List.append_nil rs]
  exact Reads.bind hx fun a _ => Reads.pure (h a)

/-- The demands are put into other words. -/
lemma congr (hx : Reads K p rs x q) (hp : p ↔ p') (hq : ∀ a, x = .ok a → (q a ↔ q' a)) :
    Reads K p' rs x q' := by
  rw [Reads] at hx ⊢
  cases hrs : K.failing rs with
  | some r => rwa [hrs] at hx
  | none =>
    rw [hrs] at hx
    obtain ⟨a, rfl, h⟩ := hx
    exact ⟨a, rfl, by rw [← hq a rfl, h, hp]⟩

/-- The demands met before stay met. -/
lemma frame (hx : Reads K True rs x q) : Reads K p rs x fun a => p ∧ q a := by
  rw [Reads] at hx ⊢
  cases hrs : K.failing rs with
  | some r => rwa [hrs] at hx
  | none =>
    rw [hrs] at hx
    obtain ⟨a, rfl, h⟩ := hx
    exact ⟨a, rfl, by rw [h, true_and]⟩

/-- A loop makes the readings of each of its rounds. -/
lemma mapM {f : ι → Except ε α} {readings : ι → List ρ} {xs : List ι}
    (h : ∀ i ∈ xs, Reads K True (readings i) (f i) q) :
    Reads K p (xs.flatMap readings) (xs.mapM f) fun as => p ∧ ∀ a ∈ as, q a := by
  induction xs generalizing p with
  | nil => exact Reads.pure (by simp)
  | cons i xs ih =>
    rw [List.flatMap_cons, List.mapM_cons]
    refine Reads.bind (Reads.frame (h i (by simp))) fun a _ => ?_
    refine Reads.bind_pure (ih fun j hj => h j (by simp [hj])) fun as => ?_
    simp only [List.mem_cons, forall_eq_or_imp, and_assoc]

/-- A loop, of whose results only the first of a kind is of interest: all rounds have to succeed, and
the demands are on that one. -/
lemma mapM_find {f : ι → Except ε α} {readings : ι → List ρ} {P : α → Bool} {wanted : ι → Bool}
    (h : ∀ i, Reads K True (readings i) (f i) q) (hP : ∀ i a, f i = .ok a → P a = wanted i)
    (xs : List ι) :
    match K.failing (xs.flatMap readings) with
    | none => ∃ as, xs.mapM f = .ok as ∧ ((∀ a ∈ as.find? P, q a) ↔
        ∀ i ∈ xs.find? wanted, ∀ r ∈ readings i, K.sound r)
    | some r => ∃ e, xs.mapM f = .error e ∧ (K.expected e ↔ K.excused r) := by
  induction xs with
  | nil => exact ⟨[], rfl, by simp⟩
  | cons i xs ih =>
    have hi := h i
    rw [Reads] at hi
    rw [List.flatMap_cons, failing_append, List.mapM_cons]
    cases hfirst : K.failing (readings i) with
    | some r =>
      rw [hfirst] at hi
      obtain ⟨e, he, hexpected⟩ := hi
      exact ⟨e, by rw [he]; rfl, hexpected⟩
    | none =>
      rw [hfirst] at hi
      obtain ⟨a, ha, hq⟩ := hi
      rw [ha, Option.none_or]
      cases hrest : K.failing (xs.flatMap readings) with
      | some r =>
        rw [hrest] at ih
        obtain ⟨e, he, hexpected⟩ := ih
        exact ⟨e, by rw [he]; rfl, hexpected⟩
      | none =>
        rw [hrest] at ih
        obtain ⟨as, has, hfind⟩ := ih
        refine ⟨a :: as, by rw [has]; rfl, ?_⟩
        rw [true_and] at hq
        rw [List.find?_cons, List.find?_cons, hP i a ha]
        cases wanted i with
        | true => simpa using hq
        | false => exact hfind

/-- Whether a parser ends as it should can be told from its readings. -/
theorem lawful_iff (h : Reads K True rs x q) : K.Lawful q x ↔ K.Clean rs := by
  rw [Reads] at h
  rw [Kind.Clean]
  cases hrs : K.failing rs with
  | some r =>
    rw [hrs] at h
    obtain ⟨e, rfl, hexpected⟩ := h
    exact hexpected
  | none =>
    rw [hrs] at h
    obtain ⟨a, rfl, hq⟩ := h
    rw [true_and] at hq
    exact hq

end Reads

end Readings
