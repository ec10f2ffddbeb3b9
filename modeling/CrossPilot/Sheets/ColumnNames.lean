import CrossPilot.Lib.Bijective
import CrossPilot.Sheets.Worksheet
import Mathlib.Data.Char
import Mathlib.Data.Set.List

/-!
# Names of columns

Both writers name columns by the same loop, and the reader finds their numbers. The names are the
numbers with the digits `A` to `Z`, none of which is zero, so every string of letters names one
column.
-/

namespace CrossPilot.Sheets

/-! ### The loops of the writers -/

/-- `while current`, with the letters in front of a name. -/
def nameLoop : ℕ → List Char → List Char
  | 0, name => name
  | n + 1, name => nameLoop (n / 26) (Char.ofNat (65 + n % 26) :: name)
decreasing_by exact Nat.lt_succ_of_le (Nat.div_le_self n 26)

/-- `_column_name` of the order workbook. -/
def orderColumnName (index : ℕ) : String := String.ofList (nameLoop index [])

/-- `_column_name` of the report. -/
def reportColumnName (index : ℕ) : String := String.ofList (nameLoop index [])

lemma nameLoop_eq (n : ℕ) (name : List Char) : nameLoop n name = columnName n ++ name := by
  induction n using columnName.induct generalizing name with
  | case1 => simp [nameLoop, columnName]
  | case2 n ih => simp [nameLoop, columnName_succ, ih]

/-! ### Letters as digits -/

def letter (d : Fin 26) : Char := Char.ofNat (65 + d)

/-- A name over `A` to `Z`. -/
def IsName (name : String) : Prop := name ≠ "" ∧ ∀ c ∈ name.toList, 'A' ≤ c ∧ c ≤ 'Z'

/-- Shorter names come first, and names of one length in alphabetical order. -/
def Before (a b : String) : Prop := List.Shortlex (· < ·) a.toList b.toList

lemma letter_lt_letter_iff {d e : Fin 26} : letter d < letter e ↔ d < e := by
  revert d e
  decide

lemma letter_injective : Function.Injective letter := by
  intro d e h
  revert d e
  decide

lemma letter_bounds (d : Fin 26) : 'A' ≤ letter d ∧ letter d ≤ 'Z' := by
  revert d
  decide

lemma exists_letter {c : Char} (h : 'A' ≤ c ∧ c ≤ 'Z') : ∃ d, letter d = c := by
  have hlow : 65 ≤ c.toNat := h.1
  have hhigh : c.toNat ≤ 90 := h.2
  refine ⟨⟨c.toNat - 65, by omega⟩, ?_⟩
  rw [letter, Nat.add_sub_cancel' hlow, Char.ofNat_toNat]

lemma columnName_eq (n : ℕ) : columnName n = (Bijective.digits 26 n).map letter := by
  induction n using columnName.induct with
  | case1 => simp [columnName]
  | case2 n ih => simp [columnName_succ, ih, letter]

/-- A way to name columns uses every name once, in order. -/
structure Enumerates (columnName : ℕ → String) : Prop where
  isName : ∀ n, 1 ≤ n → IsName (columnName n)
  unique : ∀ name, IsName name → ∃! n, 1 ≤ n ∧ columnName n = name
  ordered : ∀ m n, 1 ≤ m → 1 ≤ n → (Before (columnName m) (columnName n) ↔ m < n)

/-- The digits of a name. -/
lemma exists_digits {name : String} (h : ∀ c ∈ name.toList, 'A' ≤ c ∧ c ≤ 'Z') :
    ∃ ds : List (Fin 26), name.toList = ds.map letter := by
  have hall : ∀ c ∈ name.toList, c ∈ Set.range letter := fun c hc => exists_letter (h c hc)
  have hrange : name.toList ∈ Set.range (List.map letter) := by
    rw [Set.range_list_map]
    exact hall
  obtain ⟨ds, hds⟩ := hrange
  exact ⟨ds, hds.symm⟩

lemma toList_orderColumnName (n : ℕ) :
    (orderColumnName n).toList = (Bijective.digits 26 n).map letter := by
  rw [orderColumnName, nameLoop_eq, List.append_nil, String.toList_ofList, columnName_eq]

lemma enumerates_orderColumnName : Enumerates orderColumnName where
  isName := by
    intro n hn
    constructor
    · intro hempty
      have hnil := toList_orderColumnName n
      rw [hempty] at hnil
      exact Bijective.digits_ne_nil hn (List.map_eq_nil_iff.mp hnil.symm)
    · rw [toList_orderColumnName, List.forall_mem_map]
      exact fun d _ => letter_bounds d
  unique := by
    rintro name ⟨hne, hletters⟩
    obtain ⟨ds, hds⟩ := exists_digits hletters
    refine ⟨Bijective.value ds, ⟨?_, ?_⟩, ?_⟩
    · refine Bijective.value_pos fun hnil => hne ?_
      rw [← String.toList_inj, hds, hnil]
      rfl
    · rw [← String.toList_inj, toList_orderColumnName, Bijective.digits_value, hds]
    · rintro n ⟨-, rfl⟩
      rw [toList_orderColumnName] at hds
      rw [← letter_injective.list_map hds, Bijective.value_digits]
  ordered := by
    intro m n _ _
    rw [Before, toList_orderColumnName, toList_orderColumnName]
    exact (Bijective.shortlex_map_iff (f := letter) fun _ _ => letter_lt_letter_iff).trans
      Bijective.digits_shortlex_iff

lemma columnIndex_orderColumnName (n r : ℕ) :
    columnIndex (orderColumnName (n + 1) ++ toString r) = .ok n := by
  have href : orderColumnName (n + 1) ++ toString r =
      String.ofList (columnName (n + 1) ++ number r) := by
    rw [orderColumnName, nameLoop_eq, List.append_nil, String.ofList_append, number,
      String.ofList_toList]
  rw [href, columnIndex_ref]

/-- The reader finds the number of every column that a writer names, and the names are all strings
of letters, shorter ones first and in alphabetical order. -/
theorem columnIndex_columnName :
    (∀ n r, 1 ≤ n → 1 ≤ r → columnIndex (orderColumnName n ++ toString r) = .ok (n - 1) ∧
      columnIndex (reportColumnName n ++ toString r) = .ok (n - 1)) ∧
    Enumerates orderColumnName ∧ Enumerates reportColumnName := by
  refine ⟨fun n r hn _ => ?_, enumerates_orderColumnName, enumerates_orderColumnName⟩
  obtain ⟨n, rfl⟩ := Nat.exists_eq_add_of_le' hn
  exact ⟨columnIndex_orderColumnName n r, columnIndex_orderColumnName n r⟩

end CrossPilot.Sheets
