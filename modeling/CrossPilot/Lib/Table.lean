import Mathlib.Tactic

/-!
# Tables of keyed rows

A table is a list of rows with a key that no two rows share. `alter` changes the row with a given
key. Sums over a table (`total`) move by what the change does to that one row, which is how the
balances of a book are followed through updates.
-/

namespace Table

variable {ρ ι : Type}

/-- The sum of `g` over the rows. -/
def total (g : ρ → ℤ) (rows : List ρ) : ℤ := (rows.map g).sum

@[simp] lemma total_nil (g : ρ → ℤ) : total g [] = 0 := rfl

@[simp] lemma total_cons (g : ρ → ℤ) (r : ρ) (rows : List ρ) :
    total g (r :: rows) = g r + total g rows := by
  simp [total]

@[simp] lemma total_append (g : ρ → ℤ) (rows rows' : List ρ) :
    total g (rows ++ rows') = total g rows + total g rows' := by
  simp [total]

lemma total_flatMap {β : Type} (g : ρ → ℤ) (f : β → List ρ) (xs : List β) :
    total g (xs.flatMap f) = (xs.map fun x => total g (f x)).sum := by
  induction xs with
  | nil => rfl
  | cons x rest ih => simp [ih]

lemma total_congr {g g' : ρ → ℤ} {rows : List ρ} (h : ∀ r ∈ rows, g r = g' r) :
    total g rows = total g' rows := by
  unfold total
  rw [List.map_congr_left h]

lemma total_eq_zero {g : ρ → ℤ} {rows : List ρ} (h : ∀ r ∈ rows, g r = 0) : total g rows = 0 := by
  induction rows with
  | nil => rfl
  | cons r rest ih =>
    rw [total_cons, h r (by simp), ih fun r hr => h r (by simp [hr]), add_zero]

lemma total_nonneg {g : ρ → ℤ} {rows : List ρ} (h : ∀ r ∈ rows, 0 ≤ g r) : 0 ≤ total g rows := by
  apply List.sum_nonneg
  simpa using h

lemma le_total {g : ρ → ℤ} {rows : List ρ} (h : ∀ r ∈ rows, 0 ≤ g r) {r : ρ} (hr : r ∈ rows) :
    g r ≤ total g rows := by
  induction rows with
  | nil => cases hr
  | cons s rest ih =>
    rw [total_cons]
    have hs := h s (by simp)
    have hrest := total_nonneg fun r hr => h r (List.mem_cons_of_mem s hr)
    rcases List.mem_cons.mp hr with rfl | hr
    · omega
    · have := ih (fun r hr => h r (List.mem_cons_of_mem s hr)) hr
      omega

lemma total_perm {g : ρ → ℤ} {rows rows' : List ρ} (h : rows.Perm rows') :
    total g rows = total g rows' :=
  (h.map g).sum_eq

/-- The rows with a property and those without it make up the whole. -/
lemma total_filter_add {g : ρ → ℤ} (q : ρ → Bool) (rows : List ρ) :
    total g (rows.filter q) + total g (rows.filter fun r => !q r) = total g rows := by
  induction rows with
  | nil => rfl
  | cons r rest ih =>
    rw [total_cons, ← ih]
    cases hq : q r with
    | true =>
      simp only [List.filter_cons, hq, if_true, Bool.not_true, Bool.false_eq_true, if_false,
        total_cons]
      ring
    | false =>
      simp only [List.filter_cons, hq, Bool.false_eq_true, if_false, Bool.not_false, if_true,
        total_cons]
      ring

variable [DecidableEq ι] {key : ρ → ι}

/-- Change the row with key `i`. -/
def alter (key : ρ → ι) (i : ι) (f : ρ → ρ) (rows : List ρ) : List ρ :=
  rows.map fun r => if key r = i then f r else r

/-- No two rows have the same key. -/
def Keyed (key : ρ → ι) (rows : List ρ) : Prop := (rows.map key).Nodup

instance (key : ρ → ι) (rows : List ρ) : Decidable (Keyed key rows) :=
  inferInstanceAs (Decidable (rows.map key).Nodup)

omit [DecidableEq ι] in
lemma Keyed.eq_of_key_eq {rows : List ρ} (h : Keyed key rows) {r r' : ρ} (hr : r ∈ rows)
    (hr' : r' ∈ rows) (hk : key r = key r') : r = r' :=
  List.inj_on_of_nodup_map h hr hr' hk

lemma mem_alter {i : ι} {f : ρ → ρ} {rows : List ρ} {r : ρ} :
    r ∈ alter key i f rows ↔ ∃ s ∈ rows, r = if key s = i then f s else s := by
  simp only [alter, List.mem_map, eq_comm]

/-- A change that keeps the keys. -/
lemma map_alter {β : Type} {i : ι} {f : ρ → ρ} {g : ρ → β} (hf : ∀ r, g (f r) = g r)
    (rows : List ρ) : (alter key i f rows).map g = rows.map g := by
  simp only [alter, List.map_map]
  apply List.map_congr_left
  intro r _
  by_cases h : key r = i <;> simp [h, hf]

/-- The rows with a key, after a change that keeps the keys. -/
lemma filter_alter {i : ι} {f : ρ → ρ} (hf : ∀ r, key (f r) = key r) (j : ι) (rows : List ρ) :
    (alter key i f rows).filter (fun r => key r = j) =
      if i = j then (rows.filter fun r => key r = j).map f else rows.filter fun r => key r = j := by
  induction rows with
  | nil => simp [alter]
  | cons r rest ih =>
    have hcons : alter key i f (r :: rest) = (if key r = i then f r else r) :: alter key i f rest :=
      rfl
    rw [hcons]
    by_cases hr : key r = i
    · by_cases hij : i = j
      · subst hij
        simpa [hr, hf] using ih
      · simpa [hr, hf, hij] using ih
    · by_cases hij : i = j
      · subst hij
        simpa [hr] using ih
      · by_cases hrj : key r = j
        · simpa [hr, hij, hrj, Ne.symm hij] using ih
        · simpa [hr, hij, hrj] using ih

/-- Two changes of one row are one. -/
lemma alter_alter {i : ι} {f g : ρ → ρ} {rows : List ρ} (hf : ∀ r, key (f r) = key r) :
    alter key i g (alter key i f rows) = alter key i (g ∘ f) rows := by
  unfold alter
  rw [List.map_map]
  apply List.map_congr_left
  intro r _
  by_cases h : key r = i
  · simp [h, hf]
  · simp [h]

lemma Keyed.map_of {κ : Type} {key' : ρ → κ} {rows : List ρ} (h : Keyed key' rows) {f : ρ → ρ}
    (hf : ∀ r ∈ rows, key' (f r) = key' r) : Keyed key' (rows.map f) := by
  have hmap : (rows.map f).map key' = rows.map key' := by
    rw [List.map_map]
    exact List.map_congr_left hf
  rw [Keyed, hmap]
  exact h

lemma Keyed.alter {κ : Type} {key' : ρ → κ} {rows : List ρ} (h : Keyed key' rows) {i : ι}
    {f : ρ → ρ} (hf : ∀ r, key' (f r) = key' r) : Keyed key' (alter key i f rows) := by
  unfold Keyed
  rw [map_alter hf]
  exact h

omit [DecidableEq ι] in
lemma Keyed.append_singleton {rows : List ρ} (h : Keyed key rows) {r : ρ}
    (hr : ∀ s ∈ rows, key s ≠ key r) : Keyed key (rows ++ [r]) := by
  unfold Keyed
  rw [List.map_append, List.nodup_append]
  refine ⟨h, by simp, ?_⟩
  intro k hk k' hk' heq
  obtain ⟨s, hs, rfl⟩ := List.mem_map.mp hk
  simp only [List.map_cons, List.map_nil, List.mem_singleton] at hk'
  exact hr s hs (heq.trans hk')

/-- A change that keeps the row with the key changes nothing. -/
lemma alter_eq_self {i : ι} {f : ρ → ρ} {rows : List ρ} (h : ∀ r ∈ rows, key r = i → f r = r) :
    alter key i f rows = rows := by
  unfold alter
  conv_rhs => rw [← List.map_id rows]
  apply List.map_congr_left
  intro r hr
  by_cases hk : key r = i
  · simp [hk, h r hr hk]
  · simp [hk]

/-- Only what a change makes of the row with the key matters. -/
lemma alter_congr {i : ι} {f g : ρ → ρ} {rows : List ρ} (h : ∀ r ∈ rows, key r = i → f r = g r) :
    alter key i f rows = alter key i g rows := by
  apply List.map_congr_left
  intro r hr
  by_cases hk : key r = i
  · rw [if_pos hk, if_pos hk, h r hr hk]
  · rw [if_neg hk, if_neg hk]

/-- Of the rows with a property, one fewer is left after a change that takes it from one of them. -/
lemma countP_alter_lt {i : ι} {f : ρ → ρ} {p : ρ → Bool} {rows : List ρ}
    (hf : ∀ r, p (f r) = false) {r : ρ} (hr : r ∈ rows) (hk : key r = i) (hp : p r = true) :
    (alter key i f rows).countP p < rows.countP p := by
  have hle : ∀ rest : List ρ, (alter key i f rest).countP p ≤ rest.countP p := by
    intro rest
    rw [alter, List.countP_map]
    apply List.countP_mono_left
    intro s _ hs
    rw [Function.comp_apply] at hs
    split_ifs at hs
    · rw [hf] at hs
      cases hs
    · exact hs
  induction rows with
  | nil => cases hr
  | cons s rest ih =>
    have hcons : alter key i f (s :: rest) = (if key s = i then f s else s) :: alter key i f rest :=
      rfl
    rw [hcons, List.countP_cons, List.countP_cons]
    rcases List.mem_cons.mp hr with rfl | hr
    · rw [if_pos hk, if_neg (by simp [hf]), if_pos hp]
      exact Nat.lt_succ_of_le (hle rest)
    · have hrest := ih hr
      by_cases hs : key s = i
      · rw [if_pos hs, if_neg (by simp [hf])]
        omega
      · rw [if_neg hs]
        omega

/-- A change to a missing row changes nothing. -/
lemma alter_of_forall_ne {i : ι} {f : ρ → ρ} {rows : List ρ} (h : ∀ r ∈ rows, key r ≠ i) :
    alter key i f rows = rows :=
  alter_eq_self fun r hr hk => absurd hk (h r hr)

/-- Rows with other keys stay. -/
lemma mem_alter_of_ne {i : ι} {f : ρ → ρ} {rows : List ρ} {r : ρ} (hr : r ∈ rows)
    (h : key r ≠ i) : r ∈ alter key i f rows :=
  mem_alter.mpr ⟨r, hr, by simp [h]⟩

/-- Rows with other keys are the same as before. -/
lemma mem_alter_iff_of_ne {i : ι} {f : ρ → ρ} {rows : List ρ} (hf : ∀ r, key (f r) = key r) {r : ρ}
    (h : key r ≠ i) : r ∈ alter key i f rows ↔ r ∈ rows := by
  constructor
  · intro hr
    obtain ⟨s, hs, rfl⟩ := mem_alter.mp hr
    split_ifs at h ⊢ with hk
    · exact absurd ((hf s).trans hk) h
    · exact hs
  · intro hr
    exact mem_alter_of_ne hr h

lemma mem_alter_self {f : ρ → ρ} {rows : List ρ} {r : ρ} (hr : r ∈ rows) :
    f r ∈ alter key (key r) f rows :=
  mem_alter.mpr ⟨r, hr, by simp⟩

/-- A sum moves by what the change does to the changed row. -/
theorem total_alter {rows : List ρ} (hk : Keyed key rows) {r : ρ} (hr : r ∈ rows) (f : ρ → ρ)
    (g : ρ → ℤ) : total g (alter key (key r) f rows) = total g rows + (g (f r) - g r) := by
  induction rows with
  | nil => cases hr
  | cons s rest ih =>
    obtain ⟨hs, hrest⟩ := List.nodup_cons.mp hk
    rcases List.mem_cons.mp hr with rfl | hr
    · have hne : ∀ t ∈ rest, key t ≠ key r :=
        fun t ht heq => hs (heq ▸ List.mem_map_of_mem ht)
      have := alter_of_forall_ne (f := f) hne
      simp only [alter] at this
      simp only [alter, List.map_cons, if_true, total_cons, this]
      ring
    · have hne : key s ≠ key r := fun heq => hs (heq ▸ List.mem_map_of_mem hr)
      have := ih hrest hr
      simp only [alter] at this
      simp only [alter, List.map_cons, hne, if_false, total_cons, this]
      ring

/-- A sum over the rows with one key is the value of the one row with it. -/
lemma total_ite_key {rows : List ρ} (hk : Keyed key rows) {r : ρ} (hr : r ∈ rows) (g : ρ → ℤ) :
    total (fun t => if key t = key r then g t else 0) rows = g r := by
  induction rows with
  | nil => cases hr
  | cons t rest ih =>
    obtain ⟨ht, hrest⟩ := List.nodup_cons.mp hk
    rcases List.mem_cons.mp hr with rfl | hr
    · rw [total_cons, if_pos rfl, total_eq_zero, add_zero]
      intro u hu
      exact if_neg fun heq : key u = key r => ht (heq ▸ List.mem_map_of_mem hu)
    · rw [total_cons, ih hrest hr, if_neg, zero_add]
      exact fun heq => ht (heq ▸ List.mem_map_of_mem hr)

omit [DecidableEq ι] in
/-- A condition that only one row meets selects that row. -/
lemma Keyed.filter_eq_singleton {rows : List ρ} (hk : Keyed key rows) {r : ρ} (hr : r ∈ rows)
    {p : ρ → Bool} (hp : p r) (h : ∀ t ∈ rows, p t → key t = key r) : rows.filter p = [r] := by
  induction rows with
  | nil => cases hr
  | cons t rest ih =>
    obtain ⟨ht, hrest⟩ := List.nodup_cons.mp hk
    rcases List.mem_cons.mp hr with rfl | hr
    · rw [List.filter_cons_of_pos hp, List.filter_eq_nil_iff.mpr]
      intro u hu hpu
      exact ht (h u (List.mem_cons_of_mem r hu) hpu ▸ List.mem_map_of_mem hu)
    · rw [List.filter_cons_of_neg, ih hrest hr fun u hu => h u (List.mem_cons_of_mem t hu)]
      intro hpt
      exact ht (h t (by simp) hpt ▸ List.mem_map_of_mem hr)

/-- In a keyed table the first row with a key is the one row with it. -/
lemma find?_eq_some_iff {rows : List ρ} (hk : Keyed key rows) {i : ι} {r : ρ} :
    rows.find? (fun r => key r = i) = some r ↔ r ∈ rows ∧ key r = i := by
  constructor
  · intro h
    exact ⟨List.mem_of_find?_eq_some h, by simpa using List.find?_some h⟩
  · rintro ⟨hr, rfl⟩
    cases h : rows.find? fun s => key s = key r with
    | none =>
      have := List.find?_eq_none.mp h r hr
      simp at this
    | some s =>
      have hs : key s = key r := by simpa using List.find?_some h
      rw [hk.eq_of_key_eq (List.mem_of_find?_eq_some h) hr hs]

omit [DecidableEq ι] in
/-- A search that only the row's key can pass finds the row. -/
lemma find?_eq_some_of_mem {rows : List ρ} (hk : Keyed key rows) {r : ρ} (hr : r ∈ rows)
    {q : ρ → Bool} (hq : q r) (hkey : ∀ s, q s → key s = key r) : rows.find? q = some r := by
  cases h : rows.find? q with
  | none => exact absurd hq (by simpa using List.find?_eq_none.mp h r hr)
  | some s => rw [hk.eq_of_key_eq (List.mem_of_find?_eq_some h) hr (hkey s (List.find?_some h))]

/-- Replace the row that has the key of `r`, or add `r` if there is none. -/
def put (key : ρ → ι) (r : ρ) (rows : List ρ) : List ρ :=
  if rows.any (key · = key r) then alter key (key r) (fun _ => r) rows else rows ++ [r]

lemma put_of_forall_ne {rows : List ρ} {r : ρ} (h : ∀ s ∈ rows, key s ≠ key r) :
    put key r rows = rows ++ [r] := by
  rw [put, if_neg]
  simpa using h

lemma put_of_mem {rows : List ρ} {r s : ρ} (hs : s ∈ rows) (hk : key s = key r) :
    put key r rows = alter key (key r) (fun _ => r) rows := by
  rw [put, if_pos]
  simpa using ⟨s, hs, hk⟩

/-- The rows after `put` are the new row and the rows with other keys. -/
lemma mem_put {rows : List ρ} {r t : ρ} :
    t ∈ put key r rows ↔ t = r ∨ t ∈ rows ∧ key t ≠ key r := by
  by_cases h : ∃ s ∈ rows, key s = key r
  · obtain ⟨s, hs, hk⟩ := h
    rw [put_of_mem hs hk, mem_alter]
    constructor
    · rintro ⟨u, hu, rfl⟩
      by_cases hu' : key u = key r
      · exact .inl (if_pos hu')
      · rw [if_neg hu']
        exact .inr ⟨hu, hu'⟩
    · rintro (rfl | ⟨ht, hne⟩)
      · exact ⟨s, hs, by rw [if_pos hk]⟩
      · exact ⟨t, ht, by rw [if_neg hne]⟩
  · have hne : ∀ s ∈ rows, key s ≠ key r := fun s hs hk => h ⟨s, hs, hk⟩
    rw [put_of_forall_ne hne]
    constructor
    · intro ht
      rcases List.mem_append.mp ht with ht | ht
      · exact .inr ⟨ht, hne t ht⟩
      · exact .inl (by simpa using ht)
    · rintro (rfl | ⟨ht, -⟩)
      · simp
      · simp [ht]

lemma Keyed.put {rows : List ρ} (h : Keyed key rows) (r : ρ) : Keyed key (put key r rows) := by
  by_cases hex : ∃ s ∈ rows, key s = key r
  · obtain ⟨s, hs, hk⟩ := hex
    rw [put_of_mem hs hk]
    have hmap : (Table.alter key (key r) (fun _ => r) rows).map key = rows.map key := by
      simp only [Table.alter, List.map_map]
      apply List.map_congr_left
      intro t _
      by_cases ht : key t = key r <;> simp [ht]
    unfold Keyed
    rw [hmap]
    exact h
  · have hne : ∀ s ∈ rows, key s ≠ key r := fun s hs hk => hex ⟨s, hs, hk⟩
    rw [put_of_forall_ne hne]
    exact h.append_singleton hne

/-- Another key stays a key if the new row shares it with no other row than the one it replaces. -/
lemma Keyed.put_of {κ : Type} {key' : ρ → κ} {rows : List ρ} {r : ρ} (h' : Keyed key' rows)
    (h : Keyed key rows) (hr : ∀ s ∈ rows, key' s = key' r → key s = key r) :
    Keyed key' (Table.put key r rows) := by
  by_cases hex : ∃ s ∈ rows, key s = key r
  swap
  · have hne : ∀ s ∈ rows, key s ≠ key r := fun s hs hk => hex ⟨s, hs, hk⟩
    rw [put_of_forall_ne hne]
    exact h'.append_singleton fun s hs hk => hne s hs (hr s hs hk)
  obtain ⟨s, hs, hk⟩ := hex
  rw [put_of_mem hs hk]
  clear hs hk s
  induction rows with
  | nil => exact List.nodup_nil
  | cons t rest ih =>
    obtain ⟨ht, hrest⟩ := List.nodup_cons.mp h
    obtain ⟨ht', hrest'⟩ := List.nodup_cons.mp h'
    have htail := ih hrest' hrest fun s hs => hr s (List.mem_cons_of_mem t hs)
    refine List.nodup_cons.mpr ⟨?_, htail⟩
    intro hmem
    obtain ⟨u, hu, huk⟩ := List.mem_map.mp hmem
    obtain ⟨v, hv, rfl⟩ := mem_alter.mp hu
    have hvmem := List.mem_cons_of_mem t hv
    beta_reduce at huk
    by_cases htr : key t = key r
    · have hvr : key v ≠ key r := fun heq => ht (htr ▸ heq ▸ List.mem_map_of_mem hv)
      rw [if_neg hvr, if_pos htr] at huk
      exact hvr (hr v hvmem huk)
    · rw [if_neg htr] at huk
      by_cases hvr : key v = key r
      · rw [if_pos hvr] at huk
        exact htr (hr t (by simp) huk.symm)
      · rw [if_neg hvr] at huk
        exact ht' (huk ▸ List.mem_map_of_mem hv)

/-- The last version of a row is the one that counts. -/
lemma put_put {rows : List ρ} {r s : ρ} (hk : key s = key r) :
    put key s (put key r rows) = put key s rows := by
  have hmem : r ∈ put key r rows := mem_put.mpr (.inl rfl)
  rw [put_of_mem hmem hk.symm]
  by_cases h : ∃ t ∈ rows, key t = key r
  · obtain ⟨t, ht, htk⟩ := h
    rw [put_of_mem ht htk, put_of_mem ht (htk.trans hk.symm), hk]
    simp only [alter, List.map_map]
    apply List.map_congr_left
    intro u _
    by_cases hu : key u = key r <;> simp [hu]
  · have hne : ∀ t ∈ rows, key t ≠ key r := fun t ht htk => h ⟨t, ht, htk⟩
    rw [put_of_forall_ne hne, put_of_forall_ne (hk ▸ hne)]
    simp only [alter, List.map_append, List.map_cons, List.map_nil, hk, if_true]
    congr 1
    exact alter_of_forall_ne hne

/-- A sum after a row was added. -/
lemma total_put_of_forall_ne {rows : List ρ} {r : ρ} (h : ∀ s ∈ rows, key s ≠ key r) (g : ρ → ℤ) :
    total g (put key r rows) = total g rows + g r := by
  rw [put_of_forall_ne h, total_append, total_cons, total_nil, add_zero]

/-- A sum after a row was replaced. -/
lemma total_put_of_mem {rows : List ρ} (h : Keyed key rows) {r s : ρ} (hs : s ∈ rows)
    (hk : key s = key r) (g : ρ → ℤ) :
    total g (put key r rows) = total g rows + (g r - g s) := by
  rw [put_of_mem hs hk, ← hk, total_alter h hs]

/-- Rows that `q` selects are not affected if it selects neither the new row nor the old. -/
lemma filter_put {rows : List ρ} {r : ρ} {q : ρ → Bool} (hr : q r = false)
    (hold : ∀ s ∈ rows, key s = key r → q s = false) :
    (put key r rows).filter q = rows.filter q := by
  unfold put
  split
  · rename_i h
    clear h
    induction rows with
    | nil => rfl
    | cons t rest ih =>
      have htail := ih fun s hs => hold s (List.mem_cons_of_mem t hs)
      simp only [alter] at htail
      simp only [alter, List.map_cons]
      by_cases ht : key t = key r
      · rw [if_pos ht, List.filter_cons_of_neg (by simp [hr]),
          List.filter_cons_of_neg (by simp [hold t (by simp) ht]), htail]
      · rw [if_neg ht, List.filter_cons, List.filter_cons, htail]
  · simp [List.filter_append, hr]

/-- Changing a row by one key is putting its new version by another. -/
lemma alter_eq_put {κ : Type} [DecidableEq κ] {key' : ρ → κ} {rows : List ρ}
    (h : Keyed key rows) (h' : Keyed key' rows) {r : ρ} (hr : r ∈ rows) {f : ρ → ρ}
    (hf : key' (f r) = key' r) : alter key (key r) f rows = put key' (f r) rows := by
  rw [put_of_mem hr hf.symm, hf]
  apply List.map_congr_left
  intro t ht
  by_cases hk : key t = key r
  · obtain rfl := h.eq_of_key_eq ht hr hk
    simp
  · have hne : key' t ≠ key' r := fun hk' => hk (by rw [h'.eq_of_key_eq ht hr hk'])
    simp [hk, hne]

end Table
