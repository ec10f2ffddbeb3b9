import CrossPilot.Sheets.ProductSheet

/-!
# Reading the rows of products

A row with a measure that is `NaN` ends the reading with an exception, and so does a correct row with
an infinite measure. All other rows leave errors or a draft (`foldlM_parseRow`).
-/

namespace CrossPilot.ProductSheet

open Decimals

variable {columns : Dict Column ℕ}

/-! ### Rows -/

def optionalText (text : String) : Option String := if text = "" then none else some text

/-- A row without an error behind the rows before it. -/
structure Correct (columns : Dict Column ℕ) (before : List (ℤ × List String))
    (cells : List String) : Prop where
  code : cellOf columns cells .skuCode ≠ "" ∧ (cellOf columns cells .skuCode).length ≤ 64
  unused : ∀ row ∈ before, cellOf columns row.2 .skuCode ≠ cellOf columns cells .skuCode
  title : cellOf columns cells .title ≠ "" ∧ (cellOf columns cells .title).length ≤ 256
  brand : (cellOf columns cells .brand).length ≤ 128
  barcode : (cellOf columns cells .barcode).length ≤ 64
  measures : ∀ c ∈ Column.measures,
    ∃ d, Numeral.ofText (cellOf columns cells c) = some (.number d) ∧ isPositive d

/-- No measure of a row is `NaN`. -/
def NoNan (columns : Dict Column ℕ) (cells : List String) : Prop :=
  ∀ c ∈ Column.measures, Numeral.ofText (cellOf columns cells c) ≠ some .nan

/-- No measure of a row is an infinity. -/
def NoInfinity (columns : Dict Column ℕ) (cells : List String) : Prop :=
  ∀ c ∈ Column.measures, ∀ negative,
    Numeral.ofText (cellOf columns cells c) ≠ some (.number (.infinite negative))

/-- The number of a cell, if it spells one greater than zero. -/
def measureOf (text : String) : Option Decimal :=
  match Numeral.ofText text with
  | some (.number d) => if isPositive d then some d else none
  | _ => none

lemma measureOf_eq_some_iff {text : String} {d : Decimal} :
    measureOf text = some d ↔ Numeral.ofText text = some (.number d) ∧ isPositive d := by
  rw [measureOf]
  split
  · next d' h => aesop
  · next h => simpa using fun h' => absurd h' (h d)

@[simp] lemma strip_cellOf (cells : List String) (c : Column) :
    Text.strip (cellOf columns cells c) = cellOf columns cells c := by
  have hempty : Text.strip "" = "" := Text.strip_eq_empty_iff.mpr (by simp)
  rw [cellOf]
  cases columns.get c with
  | none => simpa using hempty
  | some index => cases h : cells[index]? <;> simp [h, hempty]

lemma positive_nan {text : String} (h : Numeral.ofText text = some .nan) :
    positive text = .error .invalidOperation := by
  have hne : text ≠ "" := by
    rintro rfl
    exact absurd h (by decide +kernel)
  simp [positive, hne, h]

lemma positive_eq {text : String} (h : Numeral.ofText text ≠ some .nan) :
    positive text = .ok (measureOf text) := by
  rw [positive, measureOf]
  split_ifs with hempty
  · have hnone : Numeral.ofText text = none := by rw [hempty]; decide +kernel
    rw [hnone]
  · cases hread : Numeral.ofText text with
    | none => rfl
    | some n =>
      cases n with
      | nan => exact absurd hread h
      | number d => rfl

lemma optional_snd_eq_nil_iff {cells : List String} {c : Column} {limit : ℕ} {number : ℤ} :
    (optional columns cells c limit number).2 = [] ↔ (cellOf columns cells c).length ≤ limit := by
  simp only [optional]
  split_ifs with hempty hlong
  · simp [hempty]
  · simpa using hlong
  · simpa using hlong

lemma optional_fst {cells : List String} {c : Column} {limit : ℕ} {number : ℤ}
    (h : (cellOf columns cells c).length ≤ limit) :
    (optional columns cells c limit number).1 = optionalText (cellOf columns cells c) := by
  simp only [optional, optionalText]
  split_ifs with hempty hlong
  · rfl
  · exact absurd hlong (by simpa using h)
  · rfl

lemma measureErrors_eq_nil_iff {number : ℤ} {c : Column} {m : Option Decimal} :
    measureErrors number c m = [] ↔ m.isSome := by
  cases m <;> simp [measureErrors]

lemma textErrors_eq_nil_iff {seen : Finset String} {number : ℤ} {cells : List String} :
    textErrors columns seen number cells = [] ↔
      ((cellOf columns cells .skuCode ≠ "" ∧ (cellOf columns cells .skuCode).length ≤ 64) ∧
        cellOf columns cells .skuCode ∉ seen) ∧
      (cellOf columns cells .title ≠ "" ∧ (cellOf columns cells .title).length ≤ 256) ∧
      (cellOf columns cells .brand).length ≤ 128 ∧ (cellOf columns cells .barcode).length ≤ 64 := by
  simp only [textErrors, List.append_eq_nil_iff, optional_snd_eq_nil_iff]
  rw [and_assoc, and_assoc]
  refine and_congr ?_ (and_congr ?_ Iff.rfl)
  · split_ifs with hcode hseen
    · simpa [imp_iff_not_or] using Or.inl hcode
    · simp [hseen]
    · simpa [hseen] using hcode
  · split_ifs with htitle
    · simpa [imp_iff_not_or] using htitle
    · simpa using htitle

/-! ### Drafts -/

/-- The number of a cell that spells one. -/
def numberOf (text : String) : Decimal := (measureOf text).getD (.infinite false)

/-- The draft of a row without an error. -/
def draftOf (columns : Dict Column ℕ) (cells : List String) : SpuCreate where
  title := cellOf columns cells .title
  brand := optionalText (cellOf columns cells .brand)
  sku := {
    skuCode := cellOf columns cells .skuCode
    barcode := optionalText (cellOf columns cells .barcode)
    weightG := numberOf (cellOf columns cells .weightG)
    lengthCm := numberOf (cellOf columns cells .lengthCm)
    widthCm := numberOf (cellOf columns cells .widthCm)
    heightCm := numberOf (cellOf columns cells .heightCm) }

lemma requireText_cellOf {cells : List String} {c : Column} {limit : ℕ}
    (h : cellOf columns cells c ≠ "" ∧ (cellOf columns cells c).length ≤ limit) :
    requireText limit (cellOf columns cells c) = .ok (cellOf columns cells c) := by
  simp [requireText, h.1, h.2]

lemma cleanText_cellOf {cells : List String} {c : Column} {limit : ℕ}
    (h : (cellOf columns cells c).length ≤ limit) :
    cleanText limit (optionalText (cellOf columns cells c)) =
      .ok (optionalText (cellOf columns cells c)) := by
  rw [optionalText]
  split_ifs with hempty
  · rfl
  · simp [cleanText, hempty, h]

/-- The fields of a draft take what is positive and finite. -/
lemma positiveDecimal_eq {d : Decimal} (h : isPositive d) :
    (positiveDecimal d = .ok d ∧ ∀ negative, d ≠ .infinite negative) ∨
      (positiveDecimal d = .error (.validation "Input should be a finite number") ∧
        d = .infinite false) := by
  cases d with
  | finite negative digits exponent => simp [positiveDecimal, h]
  | infinite negative =>
    cases negative with
    | false => simp [positiveDecimal]
    | true => cases h

section

variable {before : List (ℤ × List String)} {cells : List String} (h : Correct columns before cells)
include h

/-- A measure of a correct row goes through the schema exactly if it is finite. -/
lemma positiveDecimal_numberOf {c : Column} (hc : c ∈ Column.measures) :
    (positiveDecimal (numberOf (cellOf columns cells c)) =
        .ok (numberOf (cellOf columns cells c)) ∧
      ∀ negative, Numeral.ofText (cellOf columns cells c) ≠
        some (.number (.infinite negative))) ∨
    (positiveDecimal (numberOf (cellOf columns cells c)) =
        .error (.validation "Input should be a finite number") ∧
      ∃ negative, Numeral.ofText (cellOf columns cells c) =
        some (.number (.infinite negative))) := by
  obtain ⟨d, hread, hpositive⟩ := h.measures c hc
  have hd : numberOf (cellOf columns cells c) = d := by
    simp [numberOf, measureOf_eq_some_iff.mpr ⟨hread, hpositive⟩]
  rw [hd, hread]
  obtain ⟨hok, hfinite⟩ | ⟨hrefused, hinfinite⟩ := positiveDecimal_eq hpositive
  · exact .inl ⟨hok, by simpa using hfinite⟩
  · exact .inr ⟨hrefused, false, by rw [hinfinite]⟩

/-- The schema takes a correct draft whose measures are finite. -/
lemma validate_draftOf (hfinite : NoInfinity columns cells) :
    (draftOf columns cells).sku.validate = .ok (draftOf columns cells).sku ∧
      (draftOf columns cells).validate = .ok (draftOf columns cells) := by
  have hmeasure (c : Column) (hc : c ∈ Column.measures) :
      positiveDecimal (numberOf (cellOf columns cells c)) =
        .ok (numberOf (cellOf columns cells c)) := by
    obtain ⟨hok, -⟩ | ⟨-, negative, hread⟩ := positiveDecimal_numberOf h hc
    · exact hok
    · exact absurd hread (hfinite c hc negative)
  simp only [Column.measures, List.forall_mem_cons, List.not_mem_nil, IsEmpty.forall_iff,
    implies_true, and_true] at hmeasure
  obtain ⟨hweight, hlength, hwidth, hheight⟩ := hmeasure
  constructor
  · simp [draftOf, SkuWrite.validate, requireText_cellOf h.code, cleanText_cellOf h.barcode,
      hweight, hlength, hwidth, hheight, bind, Except.bind, pure, Except.pure]
  · simp [draftOf, SpuCreate.validate, requireText_cellOf h.title, cleanText_cellOf h.brand, bind,
      Except.bind, pure, Except.pure]

/-- The schema has no place for an infinite measure. -/
lemma validate_infinite {c : Column} {negative : Bool} (hc : c ∈ Column.measures)
    (hinfinite : Numeral.ofText (cellOf columns cells c) = some (.number (.infinite negative))) :
    (draftOf columns cells).sku.validate =
      .error (.validation "Input should be a finite number") := by
  have hmeasure (c : Column) (hc : c ∈ Column.measures) := positiveDecimal_numberOf h hc
  have hraised := ((hmeasure c hc).resolve_left fun hok => hok.2 negative hinfinite).1
  simp only [draftOf, SkuWrite.validate, requireText_cellOf h.code, cleanText_cellOf h.barcode,
    bind, Except.bind]
  obtain ⟨hweight, -⟩ | ⟨hweight, -⟩ := hmeasure .weightG (by simp [Column.measures])
  swap
  · rw [hweight]
  obtain ⟨hlength, -⟩ | ⟨hlength, -⟩ := hmeasure .lengthCm (by simp [Column.measures])
  swap
  · rw [hweight, hlength]
  obtain ⟨hwidth, -⟩ | ⟨hwidth, -⟩ := hmeasure .widthCm (by simp [Column.measures])
  swap
  · rw [hweight, hlength, hwidth]
  have hheight : positiveDecimal (numberOf (cellOf columns cells .heightCm)) =
      .error (.validation "Input should be a finite number") := by
    simp only [Column.measures, List.mem_cons, List.not_mem_nil, or_false] at hc
    obtain rfl | rfl | rfl | rfl := hc
    · simp [hweight] at hraised
    · simp [hlength] at hraised
    · simp [hwidth] at hraised
    · exact hraised
  rw [hweight, hlength, hwidth, hheight]

end

/-! ### One row -/

/-- The codes that are noted after a row. -/
def noted (columns : Dict Column ℕ) (seen : Finset String) (cells : List String) : Finset String :=
  if cellOf columns cells .skuCode = "" ∨ 64 < (cellOf columns cells .skuCode).length then seen
  else insert (cellOf columns cells .skuCode) seen

def rowErrors (columns : Dict Column ℕ) (seen : Finset String) (number : ℤ)
    (cells : List String) : List RowError :=
  textErrors columns seen number cells ++
    measureErrors number .weightG (measureOf (cellOf columns cells .weightG)) ++
    measureErrors number .lengthCm (measureOf (cellOf columns cells .lengthCm)) ++
    measureErrors number .widthCm (measureOf (cellOf columns cells .widthCm)) ++
    measureErrors number .heightCm (measureOf (cellOf columns cells .heightCm))

variable {p : Parsed} {number : ℤ} {cells : List String}

/-- A row has no errors exactly if it is correct behind the rows whose codes were noted. -/
lemma rowErrors_eq_nil_iff {before : List (ℤ × List String)} {seen : Finset String}
    (hseen : ∀ code, code ∈ seen ↔ (∃ row ∈ before, cellOf columns row.2 .skuCode = code) ∧
      code ≠ "" ∧ code.length ≤ 64) :
    rowErrors columns seen number cells = [] ↔ Correct columns before cells := by
  have hmeasure (c : Column) : (measureOf (cellOf columns cells c)).isSome ↔
      ∃ d, Numeral.ofText (cellOf columns cells c) = some (.number d) ∧ isPositive d := by
    simp [Option.isSome_iff_exists, measureOf_eq_some_iff]
  simp only [rowErrors, List.append_eq_nil_iff, measureErrors_eq_nil_iff, textErrors_eq_nil_iff,
    hmeasure]
  constructor
  · rintro ⟨⟨⟨⟨⟨⟨hcode, hfresh⟩, htitle, hbrand, hbarcode⟩, hweight⟩, hlength⟩, hwidth⟩, hheight⟩
    refine ⟨hcode, fun row hrow heq => ?_, htitle, hbrand, hbarcode, ?_⟩
    · exact hfresh ((hseen _).mpr ⟨⟨row, hrow, heq⟩, hcode⟩)
    · simp [Column.measures, hweight, hlength, hwidth, hheight]
  · intro h
    have hmem (c : Column) (hc : c ∈ Column.measures) := h.measures c hc
    simp only [Column.measures, List.forall_mem_cons, List.not_mem_nil, IsEmpty.forall_iff,
      implies_true, and_true] at hmem
    obtain ⟨hweight, hlength, hwidth, hheight⟩ := hmem
    refine ⟨⟨⟨⟨⟨⟨h.code, fun hmem => ?_⟩, h.title, h.brand, h.barcode⟩, hweight⟩, hlength⟩,
      hwidth⟩, hheight⟩
    obtain ⟨⟨row, hrow, heq⟩, -⟩ := (hseen _).mp hmem
    exact h.unused row hrow heq

/-- A measure that is `NaN` ends the import with an exception. -/
lemma parseRow_nan (h : ¬ NoNan columns cells) :
    parseRow columns p (number, cells) = .error .invalidOperation := by
  simp only [NoNan, not_forall, not_not] at h
  obtain ⟨c, hc, hnan⟩ := h
  by_cases hweight : Numeral.ofText (cellOf columns cells .weightG) = some .nan
  · simp [parseRow, positive_nan hweight, bind, Except.bind]
  by_cases hlength : Numeral.ofText (cellOf columns cells .lengthCm) = some .nan
  · simp [parseRow, positive_eq hweight, positive_nan hlength, bind, Except.bind]
  by_cases hwidth : Numeral.ofText (cellOf columns cells .widthCm) = some .nan
  · simp [parseRow, positive_eq hweight, positive_eq hlength, positive_nan hwidth, bind,
      Except.bind]
  have hheight : Numeral.ofText (cellOf columns cells .heightCm) = some .nan := by
    simp only [Column.measures, List.mem_cons, List.not_mem_nil, or_false] at hc
    obtain rfl | rfl | rfl | rfl := hc
    · exact absurd hnan hweight
    · exact absurd hnan hlength
    · exact absurd hnan hwidth
    · exact hnan
  simp [parseRow, positive_eq hweight, positive_eq hlength, positive_eq hwidth,
    positive_nan hheight, bind, Except.bind]

section

variable (hnan : NoNan columns cells)
include hnan

/-- Without `NaN`, a row is read into numbers. -/
lemma parseRow_eq : parseRow columns p (number, cells) =
    match rowErrors columns p.seen number cells, measureOf (cellOf columns cells .weightG),
      measureOf (cellOf columns cells .lengthCm), measureOf (cellOf columns cells .widthCm),
      measureOf (cellOf columns cells .heightCm) with
    | [], some weight, some length, some width, some height => do
      let sku ← SkuWrite.validate ⟨cellOf columns cells .skuCode,
        (optional columns cells .barcode 64 number).1, weight, length, width, height⟩
      let draft ← SpuCreate.validate {
        title := cellOf columns cells .title
        brand := (optional columns cells .brand 128 number).1
        sku := sku }
      return { p with
        drafts := p.drafts ++ [(number, draft)], seen := noted columns p.seen cells }
    | errors, _, _, _, _ =>
      return { p with errors := p.errors ++ errors, seen := noted columns p.seen cells } := by
  simp only [NoNan, Column.measures, List.forall_mem_cons, List.not_mem_nil, IsEmpty.forall_iff,
    implies_true, and_true] at hnan
  obtain ⟨hweight, hlength, hwidth, hheight⟩ := hnan
  simp only [parseRow, positive_eq hweight, positive_eq hlength, positive_eq hwidth,
    positive_eq hheight, bind, Except.bind]
  rfl

lemma parseRow_of_errors (h : rowErrors columns p.seen number cells ≠ []) :
    parseRow columns p (number, cells) = .ok { p with
      errors := p.errors ++ rowErrors columns p.seen number cells
      seen := noted columns p.seen cells } := by
  rw [parseRow_eq hnan]
  split
  · next hnil _ _ _ _ => exact absurd hnil h
  · rfl

variable {before : List (ℤ × List String)}
  (hseen : ∀ code, code ∈ p.seen ↔ (∃ row ∈ before, cellOf columns row.2 .skuCode = code) ∧
    code ≠ "" ∧ code.length ≤ 64)
  (hcorrect : Correct columns before cells)
include hseen hcorrect

/-- A correct row goes through the schema. -/
lemma parseRow_of_correct : parseRow columns p (number, cells) = do
    let sku ← (draftOf columns cells).sku.validate
    let draft ← { draftOf columns cells with sku := sku }.validate
    return { p with drafts := p.drafts ++ [(number, draft)], seen := noted columns p.seen cells } := by
  have hnil : rowErrors columns p.seen number cells = [] :=
    (rowErrors_eq_nil_iff hseen).mpr hcorrect
  have hmeasure (c : Column) (hc : c ∈ Column.measures) : measureOf (cellOf columns cells c) =
      some (numberOf (cellOf columns cells c)) := by
    obtain ⟨d, hread⟩ := hcorrect.measures c hc
    simp [numberOf, measureOf_eq_some_iff.mpr hread]
  simp only [Column.measures, List.forall_mem_cons, List.not_mem_nil, IsEmpty.forall_iff,
    implies_true, and_true] at hmeasure
  obtain ⟨hweight, hlength, hwidth, hheight⟩ := hmeasure
  rw [parseRow_eq hnan, hnil, hweight, hlength, hwidth, hheight, optional_fst hcorrect.brand,
    optional_fst hcorrect.barcode]
  rfl

end

/-! ### All rows -/

/-- Every row is correct behind the rows before it. -/
def AllCorrect (columns : Dict Column ℕ) (rows : List (ℤ × List String)) : Prop :=
  ∀ before row after, rows = before ++ row :: after → Correct columns before row.2

/-- The rows can be read: no measure is `NaN`, and no correct row has an infinite measure. -/
structure Readable (columns : Dict Column ℕ) (rows : List (ℤ × List String)) : Prop where
  noNan : ∀ row ∈ rows, NoNan columns row.2
  noInfinity : ∀ before row after, rows = before ++ row :: after → Correct columns before row.2 →
    NoInfinity columns row.2

/-- What holds of every element behind those before it, for a list with one more element. -/
lemma forall_split_append_singleton {α : Type} {xs : List α} {x : α} {P : List α → α → Prop} :
    (∀ before y after, xs ++ [x] = before ++ y :: after → P before y) ↔
      (∀ before y after, xs = before ++ y :: after → P before y) ∧ P xs x := by
  constructor
  · intro h
    refine ⟨fun before y after hxs => h before y (after ++ [x]) (by simp [hxs]), h xs x [] rfl⟩
  · rintro ⟨h, hlast⟩ before y after hxs
    obtain rfl | ⟨after', z, rfl⟩ := List.eq_nil_or_concat' after
    · obtain ⟨rfl, heq⟩ := List.append_inj' hxs rfl
      cases heq
      exact hlast
    · have hxs' : xs ++ [x] = (before ++ y :: after') ++ [z] := by simpa using hxs
      exact h before y after' (List.append_inj' hxs' rfl).1

/-- What is known after rows have been read. -/
structure Reads (columns : Dict Column ℕ) (rows : List (ℤ × List String)) (p : Parsed) : Prop where
  seen : ∀ code, code ∈ p.seen ↔ (∃ row ∈ rows, cellOf columns row.2 .skuCode = code) ∧
    code ≠ "" ∧ code.length ≤ 64
  errors : p.errors = [] ↔ AllCorrect columns rows
  drafts : p.errors = [] → p.drafts = rows.map fun row => (row.1, draftOf columns row.2)

variable {rows : List (ℤ × List String)} {row : ℤ × List String} {p : Parsed}

lemma allCorrect_append_singleton : AllCorrect columns (rows ++ [row]) ↔
    AllCorrect columns rows ∧ Correct columns rows row.2 :=
  forall_split_append_singleton

lemma readable_append_singleton : Readable columns (rows ++ [row]) ↔ Readable columns rows ∧
    NoNan columns row.2 ∧ (Correct columns rows row.2 → NoInfinity columns row.2) := by
  constructor
  · rintro ⟨hnan, hinfinite⟩
    obtain ⟨hinfinite, hlast⟩ := forall_split_append_singleton
      (P := fun before row => Correct columns before row.2 → NoInfinity columns row.2).mp hinfinite
    exact ⟨⟨fun r hr => hnan r (by simp [hr]), hinfinite⟩, hnan row (by simp), hlast⟩
  · rintro ⟨⟨hnan, hinfinite⟩, hlastNan, hlast⟩
    refine ⟨fun r hr => ?_, forall_split_append_singleton.mpr ⟨hinfinite, hlast⟩⟩
    obtain hr | hr := List.mem_append.mp hr
    · exact hnan r hr
    · rw [List.mem_singleton.mp hr]
      exact hlastNan

lemma mem_noted {seen : Finset String} {cells : List String} {code : String} :
    code ∈ noted columns seen cells ↔ code ∈ seen ∨ cellOf columns cells .skuCode = code ∧
      code ≠ "" ∧ code.length ≤ 64 := by
  rw [noted]
  split_ifs with h
  · have hnot : ¬ (cellOf columns cells .skuCode = code ∧ code ≠ "" ∧ code.length ≤ 64) := by
      rintro ⟨rfl, hne, hle⟩
      exact h.elim hne (by omega)
    simp [hnot]
  · rw [not_or, not_lt] at h
    simp only [Finset.mem_insert]
    constructor
    · rintro (rfl | hmem)
      · exact .inr ⟨rfl, h⟩
      · exact .inl hmem
    · rintro (hmem | ⟨rfl, -⟩)
      · exact .inr hmem
      · exact .inl rfl

/-- An exception that is not the error of the import. -/
def Exn.foreign : Exn → Bool
  | productImport _ => false
  | _ => true

lemma Reads.nil : Reads columns [] {} where
  seen := by simp
  errors := by simp [AllCorrect]
  drafts := by simp

namespace Reads

variable (h : Reads columns rows p)
include h

lemma mem_seen (row : ℤ × List String) (code : String) : code ∈ noted columns p.seen row.2 ↔
    (∃ r ∈ rows ++ [row], cellOf columns r.2 .skuCode = code) ∧ code ≠ "" ∧ code.length ≤ 64 := by
  rw [mem_noted, h.seen, ← or_and_right]
  simp [or_and_right, exists_or]

/-- A row that can be read is noted, with its errors or as a draft. -/
lemma next (hnan : NoNan columns row.2)
    (hfinite : Correct columns rows row.2 → NoInfinity columns row.2) :
    ∃ p', parseRow columns p row = .ok p' ∧ Reads columns (rows ++ [row]) p' := by
  obtain ⟨number, cells⟩ := row
  by_cases hcorrect : Correct columns rows cells
  · obtain ⟨hsku, hdraft⟩ := validate_draftOf hcorrect (hfinite hcorrect)
    have hrow : parseRow columns p (number, cells) = _ :=
      parseRow_of_correct hnan h.seen hcorrect
    simp only [hsku, hdraft, bind, Except.bind, pure, Except.pure] at hrow
    refine ⟨_, hrow, h.mem_seen (number, cells), ?_, fun herrors => ?_⟩
    · simp [allCorrect_append_singleton, h.errors, hcorrect]
    · simp [h.drafts herrors]
  · have herrors : rowErrors columns p.seen number cells ≠ [] :=
      mt (rowErrors_eq_nil_iff h.seen).mp hcorrect
    refine ⟨_, parseRow_of_errors hnan herrors, h.mem_seen (number, cells), ?_, fun hnil => ?_⟩
    · simp [allCorrect_append_singleton, hcorrect, herrors]
    · exact absurd (List.append_eq_nil_iff.mp hnil).2 herrors

/-- A row that cannot be read ends the import with a foreign exception. -/
lemma parseRow_error (hrow : ¬ (NoNan columns row.2 ∧
      (Correct columns rows row.2 → NoInfinity columns row.2))) :
    ∃ e, parseRow columns p row = .error e ∧ e.foreign := by
  obtain ⟨number, cells⟩ := row
  by_cases hnan : NoNan columns cells
  · rw [not_and, Classical.not_imp] at hrow
    obtain ⟨hcorrect, hinfinite⟩ := hrow hnan
    simp only [NoInfinity, not_forall, not_not] at hinfinite
    obtain ⟨c, hc, negative, hread⟩ := hinfinite
    have hparse : parseRow columns p (number, cells) = _ :=
      parseRow_of_correct hnan h.seen hcorrect
    rw [validate_infinite hcorrect hc hread] at hparse
    exact ⟨_, hparse, rfl⟩
  · exact ⟨_, parseRow_nan hnan, rfl⟩

end Reads

/-- The loop over the rows comes to its end exactly if they can be read. -/
lemma foldlM_parseRow (columns : Dict Column ℕ) (rows : List (ℤ × List String)) :
    (Readable columns rows ∧
      ∃ p, rows.foldlM (parseRow columns) {} = .ok p ∧ Reads columns rows p) ∨
    (¬ Readable columns rows ∧
      ∃ e, rows.foldlM (parseRow columns) {} = .error e ∧ e.foreign) := by
  induction rows using List.reverseRecOn with
  | nil => exact .inl ⟨⟨by simp, by simp⟩, {}, rfl, .nil⟩
  | append_singleton rows row ih =>
    rw [readable_append_singleton, List.foldlM_append]
    obtain ⟨hreadable, p, hok, hreads⟩ | ⟨hunreadable, e, herror, hforeign⟩ := ih
    · simp only [hok, hreadable, true_and, bind, Except.bind, List.foldlM_cons, List.foldlM_nil]
      by_cases hrow : NoNan columns row.2 ∧
        (Correct columns rows row.2 → NoInfinity columns row.2)
      · obtain ⟨p', hnext, hreads'⟩ := hreads.next hrow.1 hrow.2
        exact .inl ⟨hrow, p', by rw [hnext]; rfl, hreads'⟩
      · obtain ⟨e, hnext, hforeign⟩ := hreads.parseRow_error hrow
        exact .inr ⟨hrow, e, by rw [hnext], hforeign⟩
    · exact .inr ⟨fun hall => hunreadable hall.1, e, by rw [herror]; rfl, hforeign⟩

end CrossPilot.ProductSheet
