import CrossPilot.Sheets.Workbook

/-!
# Worksheets as trees

A worksheet is its declaration and its tags (`sheet_eq`), and these are read as the tree that they
were written for (`tree_sheetTags`). Only the texts of cells depend on what the cells say.
-/

namespace CrossPilot.Sheets

open Markup

/-! ### Columns and numbers -/

section columns

/-- The number that letters stand for. -/
def lettersValue (letters : List Char) : ℕ :=
  letters.foldl (fun index c => index * 26 + (c.toNat - 64)) 0

lemma columnName_succ (n : ℕ) :
    columnName (n + 1) = columnName (n / 26) ++ [Char.ofNat (65 + n % 26)] := by
  rw [columnName]

lemma toNat_letter {d : ℕ} (h : d < 26) : (Char.ofNat (65 + d)).toNat = 65 + d := by
  interval_cases d <;> rfl

lemma letter_cases {d : ℕ} (h : d < 26) :
    (Char.ofNat (65 + d)).isAlpha = true ∧ (Char.ofNat (65 + d)).toUpper = Char.ofNat (65 + d) := by
  interval_cases d <;> exact ⟨rfl, rfl⟩

lemma mem_columnName {n : ℕ} {c : Char} (h : c ∈ columnName n) :
    ∃ d < 26, c = Char.ofNat (65 + d) := by
  induction n using columnName.induct with
  | case1 => simp [columnName] at h
  | case2 n ih =>
    rw [columnName_succ, List.mem_append, List.mem_singleton] at h
    rcases h with hmem | rfl
    · exact ih hmem
    · exact ⟨n % 26, Nat.mod_lt _ (by decide), rfl⟩

/-- The letters of a column stand for its number. -/
lemma lettersValue_columnName (n : ℕ) : lettersValue (columnName n) = n := by
  induction n using columnName.induct with
  | case1 => simp [columnName, lettersValue]
  | case2 n ih =>
    have hstep : lettersValue (columnName (n + 1)) =
        lettersValue (columnName (n / 26)) * 26 + (65 + n % 26 - 64) := by
      rw [columnName_succ, lettersValue, List.foldl_append]
      simp only [List.foldl_cons, List.foldl_nil, toNat_letter (Nat.mod_lt n (by decide : 26 > 0))]
      rfl
    rw [hstep, ih]
    omega

lemma columnName_ne_nil (n : ℕ) : columnName (n + 1) ≠ [] := by
  rw [columnName_succ]
  simp

lemma number_eq (n : ℕ) : number n = Nat.toDigits 10 n := by
  simp [number, Nat.repr]

lemma isDigit_of_mem_number {n : ℕ} {c : Char} (h : c ∈ number n) : c.isDigit = true := by
  rw [number_eq] at h
  exact Nat.isDigit_of_mem_toDigits (by decide : 0 < 10) (by decide) h

lemma columnIndex_ref (i index : ℕ) :
    columnIndex (String.ofList (columnName (i + 1) ++ number index)) = .ok i := by
  have hletters : (columnName (i + 1)).filter Char.isAlpha = columnName (i + 1) := by
    rw [List.filter_eq_self]
    intro c hc
    obtain ⟨d, hd, rfl⟩ := mem_columnName hc
    exact (letter_cases hd).1
  have hdigits : (number index).filter Char.isAlpha = [] := by
    rw [List.filter_eq_nil_iff]
    intro c hc
    have hdigit := isDigit_of_mem_number hc
    unfold Char.isDigit at hdigit
    unfold Char.isAlpha Char.isUpper Char.isLower
    grind
  have hupper : (columnName (i + 1)).map Char.toUpper = columnName (i + 1) := by
    conv_rhs => rw [← List.map_id (columnName (i + 1))]
    apply List.map_congr_left
    intro c hc
    obtain ⟨d, hd, rfl⟩ := mem_columnName hc
    exact (letter_cases hd).2
  have hvalue : (columnName (i + 1)).foldl (fun index c => index * 26 + (c.toNat - 64)) 0 = i + 1 :=
    lettersValue_columnName (i + 1)
  simp only [columnIndex, String.toList_ofList, List.filter_append, hletters, hdigits,
    List.append_nil, if_neg (columnName_ne_nil i), hupper, hvalue, Nat.add_sub_cancel]

lemma rowNumber_number (n : ℕ) : rowNumber (String.ofList (number n)) = .ok n := by
  have hne : number n ≠ [] := by
    rw [number_eq]
    exact Nat.toDigits_ne_nil
  have hall : (number n).all Char.isDigit = true := by
    rw [List.all_eq_true]
    exact fun c hc => isDigit_of_mem_number hc
  rw [rowNumber, String.toList_ofList, if_pos ⟨hne, hall⟩, number_eq, Nat.ofDigitChars_ten_toDigits]

end columns

/-! ### The tags of a worksheet -/

def chars (s : String) : List Char := s.toList

def cellTags (ref value : List Char) : List (List Char × List Char) :=
  (tagText (chars "c") [(chars "r", ref), (chars "t", chars "inlineStr")], escape []) ::
    ([[(tagText (chars "is") [], escape []), (tagText (chars "t") [], escape value),
      ('/' :: chars "t", []), ('/' :: chars "is", [])]].flatten ++ [('/' :: chars "c", [])])

def rowTags (index : ℕ) (values : List String) : List (List Char × List Char) :=
  (tagText (chars "row") [(chars "r", number index)], escape []) ::
    ((values.mapIdx fun i value =>
      cellTags (columnName (i + 1) ++ number index) value.toList).flatten ++
        [('/' :: chars "row", [])])

def dimensionRef (headers : List String) (count : ℕ) : List Char :=
  chars "A1:" ++ columnName (max headers.length 1) ++ number (max (count + 1) 1)

def headTags (headers : List String) (count : ℕ) : List (List Char × List Char) :=
  [(tagText (chars "worksheet") [(chars "xmlns", chars main)], escape []),
   (tagText (chars "dimension") [(chars "ref", dimensionRef headers count)] ++ ['/'], []),
   (tagText (chars "sheetData") [], escape [])]

/-- The rows of a table, with their numbers. -/
def tableTags (table : List (List String)) : List (List Char × List Char) :=
  (table.mapIdx fun i values => rowTags (i + 1) values).flatten

def sheetTags (headers : List String) (rows : List (List String)) : List (List Char × List Char) :=
  headTags headers rows.length ++ tableTags (headers :: rows) ++
    [('/' :: chars "sheetData", []), ('/' :: chars "worksheet", [])]

section written

lemma render_cons (t : List Char × List Char) (tags : List (List Char × List Char)) :
    render (t :: tags) = '<' :: (t.1 ++ '>' :: t.2) ++ render tags := rfl

@[simp] lemma escape_nil : escape [] = [] := rfl

@[simp] lemma render_nil : render [] = [] := rfl

lemma map_mapIdx {α β γ : Type} (f : ℕ → α → β) (g : β → γ) (xs : List α) :
    (xs.mapIdx f).map g = xs.mapIdx fun i x => g (f i x) := by
  simp [List.mapIdx_eq_zipIdx_map, Function.comp_def]

lemma mapIdx_map {α β γ : Type} (f : ℕ → β → γ) (g : α → β) (xs : List α) :
    (xs.map g).mapIdx f = xs.mapIdx fun i x => f i (g x) := by
  simp [List.mapIdx_eq_zipIdx_map, List.zipIdx_map, Function.comp_def]

lemma cell_eq (ref value : List Char) : cell ref value = render (cellTags ref value) := by
  simp [cell, cellTags, render_cons, tagText, quoted, chars]

lemma render_flatten (tss : List (List (List Char × List Char))) :
    render tss.flatten = (tss.map render).flatten := by
  rw [render, List.flatMap_def, List.map_flatten, List.flatten_flatten, List.map_map]
  rfl

lemma row_eq (index : ℕ) (values : List String) : row index values = render (rowTags index values) := by
  have hcells : (values.mapIdx fun i value =>
      cell (columnName (i + 1) ++ number index) value.toList) =
      (values.mapIdx fun i value =>
        cellTags (columnName (i + 1) ++ number index) value.toList).map render := by
    rw [map_mapIdx]
    simp only [cell_eq]
  rw [row, hcells, rowTags, render_cons, render_append, render_flatten]
  simp [render_cons, tagText, quoted, chars]

lemma sheetHead_eq (headers : List String) (count : ℕ) :
    sheetHead headers count = declaration.toList ++ render (headTags headers count) := by
  simp [sheetHead, declaration, headTags, render_cons, tagText, quoted, dimensionRef, chars]

lemma table_eq (headers : List String) (rows : List (List String)) :
    row 1 headers ++ (rows.mapIdx fun i values => row (i + 2) values).flatten =
      render (tableTags (headers :: rows)) := by
  rw [tableTags, render_flatten, map_mapIdx, List.mapIdx_cons, List.flatten_cons]
  simp only [row_eq]

lemma sheet_eq (headers : List String) (rows : List (List String)) :
    sheet headers rows = declaration.toList ++ render (sheetTags headers rows) := by
  have htail : sheetTail.toList =
      render [('/' :: chars "sheetData", []), ('/' :: chars "worksheet", [])] := by
    simp [sheetTail, render_cons, chars]
  rw [sheet, sheetHead_eq, htail, List.append_assoc _ (row 1 headers), table_eq, sheetTags,
    render_append, render_append]
  simp only [List.append_assoc]

end written

/-! ### The tree of a worksheet -/

def cellElement (ref value : List Char) : Element :=
  .node (qualified main "c") (texts [(chars "r", ref), (chars "t", chars "inlineStr")]) ""
    [.node (qualified main "is") [] "" [.node (qualified main "t") [] (String.ofList value) []]]

def rowElement (index : ℕ) (values : List String) : Element :=
  .node (qualified main "row") (texts [(chars "r", number index)]) ""
    (values.mapIdx fun i value => cellElement (columnName (i + 1) ++ number index) value.toList)

def sheetElement (headers : List String) (rows : List (List String)) : Element :=
  .node (qualified main "worksheet") [] ""
    [.node (qualified main "dimension") (texts [(chars "ref", dimensionRef headers rows.length)]) "" [],
     .node (qualified main "sheetData") [] ""
      ((headers :: rows).mapIdx fun i values => rowElement (i + 1) values)]

section trees

lemma forall₂_mapIdx {α β γ : Type} {R : β → γ → Prop} {f : ℕ → α → β} {g : ℕ → α → γ}
    {xs : List α} (h : ∀ i, ∀ x ∈ xs, R (f i x) (g i x)) :
    List.Forall₂ R (xs.mapIdx f) (xs.mapIdx g) := by
  rw [List.mapIdx_eq_zipIdx_map, List.mapIdx_eq_zipIdx_map, List.forall₂_map_left_iff,
    List.forall₂_map_right_iff, List.forall₂_same]
  exact fun x hx => h x.2 x.1 (List.fst_mem_of_mem_zipIdx hx)

/-- References and numbers are made of letters, digits and colons. -/
def Referential (cs : List Char) : Prop := ∀ c ∈ cs, c.isAlphanum = true ∨ c = ':'

lemma referential_number (n : ℕ) : Referential (number n) := by
  intro c hc
  rw [Char.isAlphanum, isDigit_of_mem_number hc, Bool.or_true]
  exact .inl rfl

lemma referential_columnName (n : ℕ) : Referential (columnName n) := by
  intro c hc
  obtain ⟨d, hd, rfl⟩ := mem_columnName hc
  rw [Char.isAlphanum, (letter_cases hd).1, Bool.true_or]
  exact .inl rfl

lemma Referential.append {a b : List Char} (ha : Referential a) (hb : Referential b) :
    Referential (a ++ b) := by
  intro c hc
  rcases List.mem_append.mp hc with h | h
  · exact ha c h
  · exact hb c h

lemma referential_dimensionRef (headers : List String) (count : ℕ) :
    Referential (dimensionRef headers count) := by
  refine (Referential.append ?_ (referential_columnName _)).append (referential_number _)
  simp [Referential, chars]

lemma Referential.notMem {cs : List Char} (h : Referential cs) {c : Char}
    (hc : c.isAlphanum = false) (hcolon : c ≠ ':') : c ∉ cs := by
  intro hmem
  rcases h c hmem with halpha | heq
  · rw [halpha] at hc
    cases hc
  · exact hcolon heq

lemma Referential.isPlain {cs : List Char} (h : Referential cs) : isPlain cs = true := by
  rw [Markup.isPlain, List.all_eq_true]
  intro c hc
  have hne : ∀ d : Char, d.isAlphanum = false → d ≠ ':' → c ≠ d := by
    rintro d hd hcolon rfl
    exact h.notMem hd hcolon hc
  simp [hne '<' rfl (by decide), hne '&' rfl (by decide), hne '\t' rfl (by decide),
    hne '\n' rfl (by decide), hne '}' rfl (by decide)]

lemma notMem_reserved : main ∉ reserved := by
  decide +kernel

lemma writable_nil : Writable [] := ⟨by simp, by simp⟩

lemma writable_singleton {key value : List Char} (hkey : isName key = true)
    (hvalue : Referential value) : Writable [(key, value)] := by
  refine ⟨?_, by simp⟩
  simp only [List.forall_mem_cons, List.not_mem_nil, false_implies, implies_true, and_true]
  exact ⟨hkey, hvalue.isPlain, hvalue.notMem rfl (by decide), hvalue.notMem rfl (by decide)⟩

lemma reads_cell {ref : List Char} (href : Referential ref) (value : List Char) :
    Reads main (cellTags ref value) (cellElement ref value) := by
  have hcell : Writable [(chars "r", ref), (chars "t", chars "inlineStr")] := by
    refine ⟨?_, ?_⟩
    · simp only [List.forall_mem_cons, List.not_mem_nil, false_implies, implies_true, and_true]
      exact ⟨⟨by decide, href.isPlain, href.notMem rfl (by decide), href.notMem rfl (by decide)⟩, by decide⟩
    · show [chars "r", chars "t"].Nodup
      decide
  have htext : Reads main
      ((tagText (chars "t") [], escape value) :: ([].flatten ++ [('/' :: chars "t", [])]))
      (.node (qualified main "t") [] (String.ofList value) []) :=
    reads_node (by decide) writable_nil (by simp) notMem_reserved .nil
  have his : Reads main ((tagText (chars "is") [], escape []) ::
        ([[(tagText (chars "t") [], escape value), ('/' :: chars "t", [])]].flatten ++
          [('/' :: chars "is", [])]))
      (.node (qualified main "is") [] "" [.node (qualified main "t") [] (String.ofList value) []]) :=
    reads_node (by decide) writable_nil (by simp) notMem_reserved (.cons htext .nil)
  refine reads_node (by decide) hcell ?_ notMem_reserved (.cons his .nil)
  show "xmlns".toList ∉ [chars "r", chars "t"]
  decide

lemma reads_row (index : ℕ) (values : List String) :
    Reads main (rowTags index values) (rowElement index values) := by
  refine reads_node (by decide) (writable_singleton (by decide) (referential_number index)) ?_
    notMem_reserved (forall₂_mapIdx fun i value _ => ?_)
  · show "xmlns".toList ∉ [chars "r"]
    decide
  · exact reads_cell ((referential_columnName _).append (referential_number index)) _

/-- The tags of a worksheet are read as its tree. -/
lemma tree_sheetTags (headers : List String) (rows : List (List String)) :
    tree [] (sheetTags headers rows) = some (sheetElement headers rows) := by
  have hdimension : Reads main
      [(tagText (chars "dimension") [(chars "ref", dimensionRef headers rows.length)] ++ ['/'], [])]
      (.node (qualified main "dimension")
        (texts [(chars "ref", dimensionRef headers rows.length)]) "" []) := by
    refine reads_empty (by decide) (writable_singleton (by decide) (referential_dimensionRef _ _))
      ?_ notMem_reserved
    show "xmlns".toList ∉ [chars "ref"]
    decide
  have hdata : Reads main ((tagText (chars "sheetData") [], escape []) ::
        (((headers :: rows).mapIdx fun i values => rowTags (i + 1) values).flatten ++
          [('/' :: chars "sheetData", [])]))
      (.node (qualified main "sheetData") [] ""
        ((headers :: rows).mapIdx fun i values => rowElement (i + 1) values)) :=
    reads_node (by decide) writable_nil (by simp) notMem_reserved
      (forall₂_mapIdx fun i values _ => reads_row (i + 1) values)
  have hsplit : sheetTags headers rows =
      (tagText (chars "worksheet") [("xmlns".toList, main.toList)], escape []) ::
        ([[(tagText (chars "dimension") [(chars "ref", dimensionRef headers rows.length)] ++ ['/'],
            [])],
          (tagText (chars "sheetData") [], escape []) ::
            (((headers :: rows).mapIdx fun i values => rowTags (i + 1) values).flatten ++
              [('/' :: chars "sheetData", [])])].flatten ++ [('/' :: chars "worksheet", [])]) := by
    simp [sheetTags, headTags, tableTags, chars]
  rw [hsplit]
  exact tree_root (by decide) (by decide +kernel) (by decide +kernel) notMem_reserved
    (.cons hdimension (.cons hdata .nil))

end trees

/-! ### What the tags are made of -/

/-- Tags are made of letters, digits and a few signs. -/
def isTagChar (c : Char) : Bool :=
  c.isAlphanum || c == ' ' || c == ':' || c == '=' || c == '"' || c == '/' || c == '.'

/-- A tag, followed by nothing or by the text of a cell. -/
def Written (table : List (List String)) (p : List Char × List Char) : Prop :=
  p.1.all isTagChar = true ∧
    (p.2 = [] ∨ ∃ values ∈ table, ∃ value ∈ values, p.2 = escape value.toList)

section written

variable {table : List (List String)} {p : List Char × List Char}

lemma Referential.all {cs : List Char} (h : Referential cs) : cs.all isTagChar = true := by
  rw [List.all_eq_true]
  intro c hc
  rcases h c hc with halpha | rfl
  · simp [isTagChar, halpha]
  · rfl

lemma written_cellTags {ref : List Char} (href : Referential ref) {values : List String}
    (hvalues : values ∈ table) {value : String} (hvalue : value ∈ values)
    (hp : p ∈ cellTags ref value.toList) : Written table p := by
  have hcell : (tagText (chars "c") [(chars "r", ref), (chars "t", chars "inlineStr")]).all isTagChar =
      true := by
    simp [tagText, quoted, chars, href.all, isTagChar]
  simp only [cellTags, List.flatten_cons, List.flatten_nil, List.append_nil, List.cons_append,
    List.nil_append, List.mem_cons, List.not_mem_nil, or_false] at hp
  rcases hp with rfl | rfl | rfl | rfl | rfl | rfl
  · exact ⟨hcell, .inl rfl⟩
  · exact ⟨rfl, .inl rfl⟩
  · exact ⟨rfl, .inr ⟨values, hvalues, value, hvalue, rfl⟩⟩
  · exact ⟨rfl, .inl rfl⟩
  · exact ⟨rfl, .inl rfl⟩
  · exact ⟨rfl, .inl rfl⟩

lemma written_rowTags {index : ℕ} {values : List String} (hvalues : values ∈ table)
    (hp : p ∈ rowTags index values) : Written table p := by
  have hrow : (tagText (chars "row") [(chars "r", number index)]).all isTagChar = true := by
    simp [tagText, quoted, chars, (referential_number index).all, isTagChar]
  rw [rowTags, List.mem_cons, List.mem_append, List.mem_singleton, List.mem_flatten] at hp
  rcases hp with rfl | ⟨tags, htags, hp⟩ | rfl
  · exact ⟨hrow, .inl rfl⟩
  · obtain ⟨i, hi, rfl⟩ := List.mem_mapIdx.mp htags
    exact written_cellTags ((referential_columnName _).append (referential_number index)) hvalues
      (List.getElem_mem hi) hp
  · exact ⟨rfl, .inl rfl⟩

lemma written_sheetTags (headers : List String) (rows : List (List String)) :
    ∀ p ∈ sheetTags headers rows, Written (headers :: rows) p := by
  intro p hp
  have hdimension : (tagText (chars "dimension")
      [(chars "ref", dimensionRef headers rows.length)] ++ ['/']).all isTagChar = true := by
    simp [tagText, quoted, chars, (referential_dimensionRef _ _).all, isTagChar]
  simp only [sheetTags, headTags, List.mem_append, List.mem_cons, List.not_mem_nil, or_false] at hp
  rcases hp with ((rfl | rfl | rfl) | hp) | rfl | rfl
  · exact ⟨by decide +kernel, .inl rfl⟩
  · exact ⟨hdimension, .inl rfl⟩
  · exact ⟨rfl, .inl rfl⟩
  · obtain ⟨tags, htags, hp⟩ := List.mem_flatten.mp hp
    obtain ⟨i, hi, rfl⟩ := List.mem_mapIdx.mp htags
    exact written_rowTags (List.getElem_mem hi) hp
  · exact ⟨rfl, .inl rfl⟩
  · exact ⟨rfl, .inl rfl⟩

/-- The text of every cell follows some tag. -/
lemma exists_sheetTags {headers : List String} {rows : List (List String)} {values : List String}
    (hvalues : values ∈ headers :: rows) {value : String} (hvalue : value ∈ values) :
    ∃ p ∈ sheetTags headers rows, p.2 = escape value.toList := by
  obtain ⟨i, hi, rfl⟩ := List.getElem_of_mem hvalues
  obtain ⟨j, hj, rfl⟩ := List.getElem_of_mem hvalue
  refine ⟨(tagText (chars "t") [], escape _), ?_, rfl⟩
  rw [sheetTags, List.mem_append, List.mem_append]
  refine .inl (.inr (List.mem_flatten.mpr ⟨_, List.mem_mapIdx.mpr ⟨i, hi, rfl⟩, ?_⟩))
  rw [rowTags, List.mem_cons, List.mem_append]
  refine .inr (.inl (List.mem_flatten.mpr ⟨_, List.mem_mapIdx.mpr ⟨j, hj, rfl⟩, ?_⟩))
  simp [cellTags]

lemma Written.notMem (h : Written table p) {c : Char} (hc : isTagChar c = false) : c ∉ p.1 := by
  intro hmem
  rw [List.all_eq_true.mp h.1 c hmem] at hc
  cases hc

end written

/-! ### Ends of lines -/

/-- A text with uniform ends of lines. -/
def lined (s : String) : String := String.ofList (lineEnds s.toList)

section lines

lemma map_cellTags (ref value : List Char) :
    (cellTags ref value).map (fun p => (p.1, lineEnds p.2)) = cellTags ref (lineEnds value) := by
  simp [cellTags, lineEnds_escape, lineEnds]

lemma map_rowTags (index : ℕ) (values : List String) :
    (rowTags index values).map (fun p => (p.1, lineEnds p.2)) = rowTags index (values.map lined) := by
  rw [rowTags, List.map_cons, List.map_append, List.map_flatten, map_mapIdx, rowTags, mapIdx_map]
  simp only [map_cellTags]
  simp [lineEnds, lined]

lemma map_tableTags (table : List (List String)) :
    (tableTags table).map (fun p => (p.1, lineEnds p.2)) =
      tableTags (table.map fun values => values.map lined) := by
  rw [tableTags, List.map_flatten, map_mapIdx, tableTags, mapIdx_map]
  simp only [map_rowTags]

lemma map_sheetTags (headers : List String) (rows : List (List String)) :
    (sheetTags headers rows).map (fun p => (p.1, lineEnds p.2)) =
      sheetTags (headers.map lined) (rows.map fun values => values.map lined) := by
  rw [sheetTags, List.map_append, List.map_append, map_tableTags]
  simp [sheetTags, headTags, dimensionRef, lineEnds]

lemma lineEnds_render_sheetTags (headers : List String) (rows : List (List String)) :
    lineEnds (render (sheetTags headers rows)) =
      render (sheetTags (headers.map lined) (rows.map fun values => values.map lined)) := by
  rw [lineEnds_render, map_sheetTags]
  exact fun p hp => (written_sheetTags headers rows p hp).notMem (by decide)

/-- Uniform ends of lines are those of the cells. -/
lemma lineEnds_sheet (headers : List String) (rows : List (List String)) :
    lineEnds (sheet headers rows) =
      sheet (headers.map lined) (rows.map fun values => values.map lined) := by
  have hdeclaration : lineEnds declaration.toList = declaration.toList := by
    rw [lineEnds_eq_self_iff]
    decide +kernel
  rw [sheet_eq, lineEnds_append_render, lineEnds_render_sheetTags, hdeclaration, sheet_eq]

end lines

end CrossPilot.Sheets
