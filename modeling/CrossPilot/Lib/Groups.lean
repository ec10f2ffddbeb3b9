import Mathlib.Tactic

/-!
# Rows in groups

Rows put under their keys, as a dictionary of lists keeps them: the keys in the order in which they
first appear, the rows of a key in the order of the table.
-/

namespace Groups

variable {ρ κ ν : Type} [DecidableEq κ]

/-- The rows under a key. -/
def bucket (key : ρ → Option κ) (k : κ) (rows : List ρ) : List ρ :=
  rows.filter fun r => key r = some k

/-- The keys with their rows. Rows without a key are left out. -/
def groups (key : ρ → Option κ) (rows : List ρ) : List (κ × List ρ) :=
  (rows.filterMap key).eraseDups.map fun k => (k, bucket key k rows)

/-- A row put under its key, behind the rows that stand there. -/
def place (key : ρ → κ) (grouped : List (κ × List ρ)) (row : ρ) : List (κ × List ρ) :=
  if key row ∈ grouped.map Prod.fst then
    grouped.map fun g => if g.1 = key row then (g.1, g.2 ++ [row]) else g
  else grouped ++ [(key row, [row])]

/-- The value of a list, if it has only one. -/
def common (ks : List κ) : Option κ :=
  match ks.eraseDups with
  | [k] => some k
  | _ => none

/-- For each key the row that ranks highest, and of these the first. -/
def highest [LinearOrder ν] (key : ρ → κ) (rank : ρ → ν) (rows : List ρ) : List ρ :=
  (rows.map key).eraseDups.filterMap fun k => (rows.filter fun r => key r = k).argmax rank

lemma nodup_eraseDups (ks : List κ) : ks.eraseDups.Nodup := by
  induction hn : ks.length using Nat.strong_induction_on generalizing ks with
  | _ n ih =>
    cases ks with
    | nil => simp
    | cons k rest =>
      rw [List.eraseDups_cons, List.nodup_cons]
      constructor
      · simp
      · apply ih _ _ _ rfl
        have := List.length_filter_le (fun b => !b == k) rest
        simp only [List.length_cons] at hn
        omega

lemma common_eq_some_iff {ks : List κ} (hne : ks ≠ []) {k : κ} :
    common ks = some k ↔ ∀ k' ∈ ks, k' = k := by
  have hnodup := nodup_eraseDups ks
  obtain ⟨first, hfirst⟩ := List.exists_mem_of_ne_nil ks hne
  have hmem (k' : κ) : k' ∈ ks.eraseDups ↔ k' ∈ ks := List.mem_eraseDups
  unfold common
  split
  · rename_i k' heq
    simp only [heq, List.mem_singleton] at hmem
    rw [Option.some.injEq]
    constructor
    · rintro rfl k'' hk''
      exact (hmem k'').mpr hk''
    · intro hall
      exact ((hmem first).mpr hfirst).symm.trans (hall first hfirst)
  · rename_i hmany
    simp only [reduceCtorEq, false_iff]
    intro hall
    -- only one value can stand in the list, and it stands there once
    have hsame : ∀ k' ∈ ks.eraseDups, k' = k := fun k' hk' => hall k' ((hmem k').mp hk')
    rw [List.eq_replicate_of_mem hsame] at hnodup hmany
    have hle := List.nodup_replicate.mp hnodup
    have hpos := List.length_pos_of_mem ((hmem first).mpr hfirst)
    have hone : ks.eraseDups.length = 1 := by omega
    exact hmany k (by rw [hone, List.replicate_one])

lemma mem_of_mem_highest [LinearOrder ν] {key : ρ → κ} {rank : ρ → ν} {rows : List ρ} {r : ρ}
    (h : r ∈ highest key rank rows) : r ∈ rows := by
  obtain ⟨k, -, hmax⟩ := List.mem_filterMap.mp h
  exact (List.mem_filter.mp (List.argmax_mem (Option.mem_def.mpr hmax))).1

/-- No key has two rows that rank highest. -/
lemma nodup_map_highest [LinearOrder ν] (key : ρ → κ) (rank : ρ → ν) (rows : List ρ) :
    ((highest key rank rows).map key).Nodup := by
  have hkey {k : κ} {r : ρ} (h : r ∈ (rows.filter fun r => key r = k).argmax rank) : key r = k := by
    simpa using (List.mem_filter.mp (List.argmax_mem h)).2
  apply List.pairwise_map.mpr
  refine List.pairwise_filterMap.mpr ((nodup_eraseDups _).imp fun hne r hr s hs heq => hne ?_)
  rw [← hkey hr, ← hkey hs, heq]

variable {key : ρ → Option κ} {rows : List ρ}

lemma mem_bucket {k : κ} {r : ρ} : r ∈ bucket key k rows ↔ r ∈ rows ∧ key r = some k := by
  simp [bucket]

lemma mem_groups {k : κ} {rs : List ρ} :
    (k, rs) ∈ groups key rows ↔ (∃ r ∈ rows, key r = some k) ∧ rs = bucket key k rows := by
  simp only [groups, List.mem_map, List.mem_eraseDups, List.mem_filterMap, Prod.mk.injEq]
  constructor
  · rintro ⟨_, hk, rfl, rfl⟩
    exact ⟨hk, rfl⟩
  · rintro ⟨hk, rfl⟩
    exact ⟨k, hk, rfl, rfl⟩

/-- What is found under a key. -/
lemma find?_groups (k : κ) :
    (((groups key rows).find? fun g => g.1 = k).map Prod.snd).getD [] = bucket key k rows := by
  cases h : (groups key rows).find? fun g => g.1 = k with
  | none =>
    symm
    simp only [Option.map_none, Option.getD_none, bucket, List.filter_eq_nil_iff, decide_eq_true_eq]
    intro r hr hk
    have hnot := List.find?_eq_none.mp h _ (mem_groups.mpr ⟨⟨r, hr, hk⟩, rfl⟩)
    simp at hnot
  | some g =>
    have hg : g.1 = k := by simpa using List.find?_some h
    have hmem : (k, g.2) ∈ groups key rows := by
      rw [← hg]
      exact List.mem_of_find?_eq_some h
    simpa using (mem_groups.mp hmem).2

/-- No key stands twice. -/
lemma nodup_groups : ((groups key rows).map Prod.fst).Nodup := by
  have hkeys : (groups key rows).map Prod.fst = (rows.filterMap key).eraseDups := by
    simp [groups, Function.comp_def]
  rw [hkeys]
  exact nodup_eraseDups _

/-- Rows that are changed without their keys stay in their groups. -/
lemma groups_map {ρ' : Type} (key : ρ' → Option κ) (f : ρ → ρ') (rows : List ρ) :
    groups key (rows.map f) =
      (groups (fun r => key (f r)) rows).map fun g => (g.1, g.2.map f) := by
  simp only [groups, List.filterMap_map, List.map_map]
  apply List.map_congr_left
  intro k _
  simp only [bucket, Function.comp_apply, List.filter_map]
  rfl

lemma groups_concat (key : ρ → κ) (rows : List ρ) (row : ρ) :
    groups (fun r => some (key r)) (rows ++ [row]) =
      place key (groups (fun r => some (key r)) rows) row := by
  have hkeys (rs : List ρ) : rs.filterMap (fun r => some (key r)) = rs.map key :=
    congrFun List.filterMap_eq_map' rs
  have hfirst : (groups (fun r => some (key r)) rows).map Prod.fst = (rows.map key).eraseDups := by
    simp [groups, Function.comp_def]
  have hbucket (k : κ) : bucket (fun r => some (key r)) k (rows ++ [row]) =
      bucket (fun r => some (key r)) k rows ++ if key row = k then [row] else [] := by
    simp only [bucket, List.filter_append, Option.some.injEq, List.append_cancel_left_eq]
    split_ifs with hk <;> simp [hk]
  rw [place, hfirst]
  split_ifs with hseen
  · -- the key has its place, and the row joins the others
    have hmem : key row ∈ rows.map key := by simpa using hseen
    have hnone : [key row].removeAll (rows.map key) = [] := by
      simpa [List.removeAll] using hmem
    rw [groups, hkeys, List.map_append, List.map_singleton, List.eraseDups_append, hnone,
      List.eraseDups_nil, List.append_nil, groups, hkeys, List.map_map]
    apply List.map_congr_left
    intro k _
    rw [hbucket, Function.comp_apply]
    split_ifs with hk hk' hk'
    · rfl
    · exact absurd hk.symm hk'
    · exact absurd hk'.symm hk
    · simp
  · have hmem : key row ∉ rows.map key := by simpa using hseen
    have hone : [key row].removeAll (rows.map key) = [key row] := by
      simpa [List.removeAll] using hmem
    rw [groups, hkeys, List.map_append, List.map_singleton, List.eraseDups_append, hone, groups,
      hkeys, List.map_append]
    congr 1
    · apply List.map_congr_left
      intro k hk
      have hne : key row ≠ k := by
        rintro rfl
        exact hseen hk
      rw [hbucket, if_neg hne, List.append_nil]
    · have hempty : bucket (fun r => some (key r)) (key row) rows = [] := by
        simp only [bucket, Option.some.injEq, List.filter_eq_nil_iff, decide_eq_true_eq]
        intro r hr heq
        exact hmem (List.mem_map.mpr ⟨r, hr, heq⟩)
      simp [List.eraseDups_cons, hbucket, hempty]

/-- Rows that are placed one after another stand in their groups. -/
lemma foldl_place (key : ρ → κ) (rows : List ρ) :
    rows.foldl (place key) [] = groups (fun r => some (key r)) rows := by
  induction rows using List.reverseRecOn with
  | nil => simp [groups]
  | append_singleton rows row ih =>
    rw [List.foldl_append, ih, List.foldl_cons, List.foldl_nil, groups_concat]

/-- What the groups come to is what the rows come to. -/
lemma sum_groups {M : Type} [AddCommMonoid M] (key : ρ → κ) (f : ρ → M) (rows : List ρ) :
    ((groups (fun r => some (key r)) rows).map fun g => (g.2.map f).sum).sum =
      (rows.map f).sum := by
  induction rows using List.reverseRecOn with
  | nil => simp [groups]
  | append_singleton rows row ih =>
    have hnodup : ((groups (fun r => some (key r)) rows).map Prod.fst).Nodup := nodup_groups
    rw [groups_concat, List.map_append, List.sum_append, ← ih, List.map_singleton,
      List.sum_singleton]
    generalize groups (fun r => some (key r)) rows = grouped at hnodup
    rw [place]
    split_ifs with hseen
    · clear ih
      induction grouped with
      | nil => simp at hseen
      | cons g rest ihg =>
        obtain ⟨hnotin, hrest⟩ := List.nodup_cons.mp hnodup
        rw [List.map_cons, List.map_cons, List.sum_cons, List.map_cons, List.sum_cons]
        by_cases hg : g.1 = key row
        · -- the other groups stay as they are
          have hsame : rest.map (fun g => if g.1 = key row then (g.1, g.2 ++ [row]) else g) = rest := by
            conv_rhs => rw [← List.map_id rest]
            apply List.map_congr_left
            intro g' hg'
            rw [if_neg, id]
            intro heq
            exact hnotin (List.mem_map.mpr ⟨g', hg', heq.trans hg.symm⟩)
          rw [if_pos hg, hsame, List.map_append, List.sum_append, List.map_singleton,
            List.sum_singleton, add_right_comm]
        · rw [if_neg hg, ihg hrest, add_assoc]
          exact (List.mem_cons.mp hseen).resolve_left (Ne.symm hg)
    · rw [List.map_append, List.sum_append]
      simp

end Groups
