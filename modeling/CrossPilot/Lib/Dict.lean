import CrossPilot.Lib.Table
import Mathlib.Data.Finset.Sort

/-!
# Dictionaries

A dictionary keeps its keys in the order in which they first came. A key that is set again keeps its
place.
-/

open Table

/-- Entries of which no two have the same key. -/
structure Dict (κ ν : Type) where
  entries : List (κ × ν)
  keyed : Keyed Prod.fst entries

namespace Dict

variable {κ ν α : Type} [DecidableEq κ]

def empty : Dict κ ν := ⟨[], List.nodup_nil⟩

def get (d : Dict κ ν) (k : κ) : Option ν := (d.entries.find? fun e => e.1 = k).map Prod.snd

def set (d : Dict κ ν) (k : κ) (v : ν) : Dict κ ν := ⟨put Prod.fst (k, v) d.entries, d.keyed.put _⟩

/-- Add a member to the set under a key, which is empty at first. -/
def addTo [DecidableEq α] (d : Dict κ (Finset α)) (k : κ) (a : α) : Dict κ (Finset α) :=
  d.set k (insert a ((d.get k).getD ∅))

variable {d : Dict κ ν} {k k' : κ} {v : ν}

lemma mem_entries_iff : (k, v) ∈ d.entries ↔ d.get k = some v := by
  simp only [get, Option.map_eq_some_iff, Prod.exists, exists_eq_right]
  constructor
  · intro h
    exact ⟨k, (find?_eq_some_iff d.keyed).mpr ⟨h, rfl⟩⟩
  · rintro ⟨k', h⟩
    obtain ⟨hmem, rfl⟩ := (find?_eq_some_iff d.keyed).mp h
    exact hmem

@[simp] lemma get_empty : (empty : Dict κ ν).get k = none := rfl

@[simp] lemma get_set : (d.set k v).get k' = if k = k' then some v else d.get k' := by
  apply Option.ext
  intro v'
  rw [← mem_entries_iff, set, mem_put]
  by_cases h : k = k'
  · subst h
    simp [eq_comm]
  · simp [h, Ne.symm h, mem_entries_iff]

@[simp] lemma get_addTo [DecidableEq α] {d : Dict κ (Finset α)} {a : α} : (d.addTo k a).get k' =
    if k = k' then some (insert a ((d.get k).getD ∅)) else d.get k' :=
  get_set

/-- The sets that come of adding members one by one. -/
lemma get_foldl_addTo {ρ : Type} [DecidableEq α] (key : ρ → κ) (value : ρ → α) (rows : List ρ)
    (k : κ) : (rows.foldl (fun d r => addTo d (key r) (value r)) empty).get k =
      if ∃ r ∈ rows, key r = k then
        some ((rows.filter fun r => key r = k).map value).toFinset
      else none := by
  induction rows using List.reverseRecOn with
  | nil => simp
  | append_singleton rows r ih =>
    rw [List.foldl_append, List.foldl_cons, List.foldl_nil, get_addTo]
    by_cases hr : key r = k
    · subst hr
      have hset : ((rows.foldl (fun d r => addTo d (key r) (value r)) empty).get (key r)).getD ∅ =
          ((rows.filter fun s => key s = key r).map value).toFinset := by
        rw [ih]
        split_ifs with hex
        · rfl
        · have hnil : rows.filter (fun s => key s = key r) = [] := by simpa using hex
          simp [hnil]
      rw [if_pos rfl, hset, if_pos ⟨r, by simp, rfl⟩]
      simp [List.filter_append, List.toFinset_append, Finset.union_comm]
    · rw [if_neg hr, ih]
      simp [List.filter_append, hr]

end Dict
