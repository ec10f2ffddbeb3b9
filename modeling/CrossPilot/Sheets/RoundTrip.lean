import CrossPilot.Lib.Optional
import CrossPilot.Sheets.Worksheet

/-!
# Reading what was written

A workbook that was written in either way is read back with its rows and columns, and with its cells
stripped, exactly if XML has a place for all their characters and no stripped cell has a carriage
return within: parsers make one line feed of it (`readTabular_iff`).
-/

namespace CrossPilot.Sheets

open Markup

variable {read : String → Option Element}

/-! ### Reading a worksheet -/

section reading

lemma localName_qualified {name : String} (h : '}' ∉ name.toList) :
    localName (qualified main name) = name := by
  have htag : (qualified main name).toList = ('{' :: main.toList) ++ '}' :: name.toList := by
    simp [qualified, main]
  have hall : ∀ c ∈ name.toList.reverse, decide (c ≠ '}') = true := by
    intro c hc
    simpa using fun heq : c = '}' => h (heq ▸ List.mem_reverse.mp hc)
  rw [localName, htag, List.reverse_append, List.reverse_cons, List.append_assoc,
    List.takeWhile_append_of_pos hall]
  simp

lemma iterAll_eq (es : List Element) : Element.iterAll es = es.flatMap Element.iter := by
  induction es with
  | nil => rw [Element.iterAll, List.flatMap_nil]
  | cons e es ih => rw [Element.iterAll, ih, List.flatMap_cons]

/-- The elements of a name, below an element of that name or another. -/
def named (name : String) (e : Element) : List Element :=
  e.iter.filter fun item => localName item.tag = name

lemma named_node {name tag : String} (htag : '}' ∉ tag.toList) (attrib : List (String × String))
    (text : String) (children : List Element) :
    named name (.node (qualified main tag) attrib text children) =
      (if tag = name then [.node (qualified main tag) attrib text children] else []) ++
        children.flatMap (named name) := by
  have hlocal : localName (Element.node (qualified main tag) attrib text children).tag = tag :=
    localName_qualified htag
  rw [named, Element.iter, List.filter_cons, hlocal, iterAll_eq, List.filter_flatMap]
  split_ifs with hname hname' hname'
  · rfl
  · exact absurd (of_decide_eq_true hname) hname'
  · exact absurd (decide_eq_true hname') hname
  · rfl

lemma named_cellElement_row (ref value : List Char) :
    named "row" (cellElement ref value) = [] := by
  simp [cellElement, named_node]

lemma joined_cellElement (ref value : List Char) :
    joined (cellElement ref value) = String.ofList value := by
  have hnamed : named "t" (cellElement ref value) =
      [.node (qualified main "t") [] (String.ofList value) []] := by
    simp [cellElement, named_node]
  have hjoined : joined (cellElement ref value) =
      String.join ((named "t" (cellElement ref value)).map Element.text) := rfl
  rw [hjoined, hnamed]
  simp [Element.text, String.join]

lemma named_rowElement (index : ℕ) (values : List String) :
    named "row" (rowElement index values) = [rowElement index values] := by
  have hcells : (values.mapIdx fun i value =>
      cellElement (columnName (i + 1) ++ number index) value.toList).flatMap (named "row") = [] := by
    rw [List.flatMap_eq_nil_iff]
    intro e he
    obtain ⟨i, hi, rfl⟩ := List.mem_mapIdx.mp he
    exact named_cellElement_row _ _
  rw [rowElement, named_node (by decide), hcells]
  simp

/-- The rows of a worksheet are found in their order. -/
lemma named_sheetElement (headers : List String) (rows : List (List String)) :
    named "row" (sheetElement headers rows) =
      (headers :: rows).mapIdx fun i values => rowElement (i + 1) values := by
  have hrows : ((headers :: rows).mapIdx fun i values => rowElement (i + 1) values).flatMap
      (named "row") = (headers :: rows).mapIdx fun i values => rowElement (i + 1) values := by
    conv_rhs => rw [← List.flatMap_singleton' (List.mapIdx _ _)]
    apply List.flatMap_congr
    intro e he
    obtain ⟨i, hi, rfl⟩ := List.mem_mapIdx.mp he
    exact named_rowElement _ _
  rw [sheetElement, named_node (by decide), List.flatMap_cons, List.flatMap_singleton,
    named_node (by decide), named_node (by decide), hrows]
  simp

lemma cellText_cellElement (ref value : List Char) (shared : List String) :
    cellText (cellElement ref value) shared = .ok (Text.strip (String.ofList value)) := by
  have hkind : (cellElement ref value).get "t" = some "inlineStr" := by
    simp [cellElement, Element.get, Element.attrib, texts, chars]
  rw [cellText, if_pos hkind, joined_cellElement]

lemma cellAt_concat (cells : List (ℕ × String)) (last : ℕ × String) (column : ℕ) :
    cellAt (cells ++ [last]) column = if last.1 = column then last.2 else cellAt cells column := by
  rw [cellAt, List.filter_append]
  split_ifs with h
  · simp [h]
  · simp [h, cellAt]

/-- The cells of a row without gaps. -/
lemma map_cellAt (texts : List String) :
    (List.range texts.length).map (cellAt (texts.mapIdx fun i text => (i, text))) = texts := by
  induction texts using List.reverseRecOn with
  | nil => rfl
  | append_singleton texts last ih =>
    have hbefore : (List.range texts.length).map
        (cellAt ((texts.mapIdx fun i text => (i, text)) ++ [(texts.length, last)])) =
        (List.range texts.length).map (cellAt (texts.mapIdx fun i text => (i, text))) := by
      apply List.map_congr_left
      intro column hcolumn
      rw [cellAt_concat, if_neg (List.mem_range.mp hcolumn).ne']
    rw [List.mapIdx_concat, List.length_append, List.length_singleton, List.range_succ,
      List.map_append, hbefore, ih, List.map_singleton, cellAt_concat, if_pos rfl]

lemma foldl_max_range (n : ℕ) : (List.range (n + 1)).foldl max 0 = n := by
  induction n with
  | zero => rfl
  | succ n ih =>
    rw [List.range_succ, List.foldl_append, ih]
    simp

/-- As many columns as there are cells. -/
lemma width_eq {texts : List String} (h : texts ≠ []) :
    ((texts.mapIdx fun i text => (i, text)).map (·.1)).foldl max 0 + 1 = texts.length := by
  have hcolumns : (texts.mapIdx fun i text => (i, text)).map (·.1) = List.range texts.length := by
    rw [map_mapIdx, List.mapIdx_eq_zipIdx_map, List.range_eq_range', ← List.zipIdx_map_snd]
  obtain ⟨n, hn⟩ : ∃ n, texts.length = n + 1 :=
    ⟨texts.length - 1, (Nat.succ_pred (by simpa using h)).symm⟩
  rw [hcolumns, hn, foldl_max_range]

lemma sheetRow_rowElement (index : ℕ) {values : List String} (h : values ≠ [])
    (shared : List String) :
    sheetRow shared (rowElement index values) = .ok (some (index, values.map Text.strip)) := by
  let elements := values.mapIdx fun i value =>
    cellElement (columnName (i + 1) ++ number index) value.toList
  let cells := (values.map Text.strip).mapIdx fun i text => (i, text)
  have hindex : ((rowElement index values).get "r").getD "0" = String.ofList (number index) := by
    simp [rowElement, Element.get, Element.attrib, texts, chars]
  have hchildren : (rowElement index values).children.filter (fun cell => localName cell.tag = "c") =
      elements := by
    show elements.filter _ = elements
    rw [List.filter_eq_self]
    intro e he
    obtain ⟨i, hi, rfl⟩ := List.mem_mapIdx.mp he
    exact decide_eq_true (localName_qualified (by decide))
  have hcells : elements.mapM (fun cell => do
      let column ← columnIndex ((cell.get "r").getD "A1")
      return (column, ← cellText cell shared)) = .ok cells := by
    apply Fallible.mapM_eq_ok_iff.mpr
    rw [show cells = values.mapIdx fun i value => (i, Text.strip value) from mapIdx_map _ _ _]
    apply forall₂_mapIdx
    intro i value _
    have href : ((cellElement (columnName (i + 1) ++ number index) value.toList).get "r").getD "A1" =
        String.ofList (columnName (i + 1) ++ number index) := by
      simp [cellElement, Element.get, Element.attrib, texts, chars]
    rw [href, columnIndex_ref, cellText_cellElement, String.ofList_toList]
    rfl
  have hne : values.map Text.strip ≠ [] := by simpa using h
  have hcells_ne : cells ≠ [] := by
    rw [Ne, List.mapIdx_eq_nil_iff]
    exact hne
  rw [sheetRow, hindex, rowNumber_number, hchildren]
  show Except.bind (elements.mapM _) _ = _
  rw [hcells]
  show (if cells = [] then _ else _) = _
  rw [if_neg hcells_ne, width_eq hne, map_cellAt]
  rfl

/-- The rows of the tree of a worksheet. -/
lemma mapM_sheetRow {headers : List String} {rows : List (List String)}
    (h : ∀ values ∈ headers :: rows, values ≠ []) (shared : List String) :
    ((named "row" (sheetElement headers rows)).mapM (sheetRow shared)) =
      .ok ((headers :: rows).mapIdx fun i values => some (i + 1, values.map Text.strip)) := by
  rw [named_sheetElement]
  apply Fallible.mapM_eq_ok_iff.mpr
  apply forall₂_mapIdx
  intro i values hvalues
  exact sheetRow_rowElement (i + 1) (h values hvalues) shared

end reading

/-! ### Reading a workbook -/

/-- All characters of a table have a place in XML. -/
def Legal (table : List (List String)) : Prop :=
  ∀ values ∈ table, ∀ value ∈ values, value.toList.all legal = true

instance (table : List (List String)) : Decidable (Legal table) := by
  unfold Legal
  infer_instance

section books

variable {headers : List String} {rows : List (List String)}

lemma legal_of_isTagChar {c : Char} (h : isTagChar c = true) : legal c = true := by
  have hrange : 0x20 ≤ c.toNat ∧ c.toNat ≤ 122 := by
    unfold isTagChar Char.isAlphanum Char.isAlpha Char.isUpper Char.isLower Char.isDigit at h
    simp only [Bool.or_eq_true, Bool.and_eq_true, decide_eq_true_eq, beq_iff_eq,
      UInt32.le_iff_toNat_le, ge_iff_le] at h
    have hval : c.toNat = c.val.toNat := rfl
    rcases h with (((((h | rfl) | rfl) | rfl) | rfl) | rfl) | rfl
    · have hA : 'A'.val.toNat = 65 := rfl
      have hZ : 'Z'.val.toNat = 90 := rfl
      have ha : 'a'.val.toNat = 97 := rfl
      have hz : 'z'.val.toNat = 122 := rfl
      have h0 : '0'.val.toNat = 48 := rfl
      have h9 : '9'.val.toNat = 57 := rfl
      omega
    all_goals decide
  have hlow : (decide (0x20 ≤ c.toNat)) = true := decide_eq_true hrange.1
  have hne : c.toNat ≠ 0xFFFE ∧ c.toNat ≠ 0xFFFF := by omega
  simp [legal, hrange.1, hne]

/-- A worksheet is legal as its cells are. -/
lemma legal_sheet : (sheet headers rows).all legal = true ↔ Legal (headers :: rows) := by
  have hdeclaration : declaration.toList.all legal = true := by decide +kernel
  rw [sheet_eq, List.all_append, hdeclaration, Bool.true_and, legal_render]
  constructor
  · intro h values hvalues value hvalue
    obtain ⟨p, hp, htext⟩ := exists_sheetTags hvalues hvalue
    have hlegal := (h p hp).2
    rwa [htext, legal_escape] at hlegal
  · intro h p hp
    obtain ⟨htag, htext⟩ := written_sheetTags headers rows p hp
    rw [List.all_eq_true] at htag
    refine ⟨List.all_eq_true.mpr fun c hc => legal_of_isTagChar (htag c hc), ?_⟩
    rcases htext with hnil | ⟨values, hvalues, value, hvalue, htext⟩
    · rw [hnil]
      rfl
    · rw [htext, legal_escape]
      exact h values hvalues value hvalue

lemma separable_sheetTags : Separable (sheetTags headers rows) := by
  intro p hp
  have hwritten := written_sheetTags headers rows p hp
  refine ⟨hwritten.notMem rfl, hwritten.notMem rfl, ?_⟩
  rcases hwritten.2 with hnil | ⟨values, -, value, -, htext⟩
  · simp [hnil]
  · rw [htext]
    exact notMem_escape _

/-- A worksheet declares no types and no entities. -/
lemma bang_sheet : bang (sheet headers rows) = false := by
  have hdeclaration : declaration.toList = '<' :: '?' :: declaration.toList.drop 2 := by
    decide +kernel
  have hrest : '<' ∉ '?' :: declaration.toList.drop 2 := by decide +kernel
  rw [sheet_eq, hdeclaration, List.cons_append, List.cons_append, bang_cons_of_ne (by decide),
    ← List.cons_append, bang_append hrest]
  exact bang_render separable_sheetTags fun p hp =>
    (written_sheetTags headers rows p hp).notMem rfl

lemma parse_sheet (h : Legal (headers :: rows)) : parse (String.ofList (sheet headers rows)) =
    some (sheetElement (headers.map lined) (rows.map fun values => values.map lined)) := by
  apply parse_document (legal_sheet.mpr h)
  · rw [lineEnds_sheet, sheet_eq]
  · exact separable_sheetTags
  · exact tree_sheetTags _ _

/-- What declares nothing is left to the parser. -/
lemma xml_of_bang {payload : String} (h : bang payload.toList = false) :
    xml read payload = match read payload with
      | some root => .ok root
      | none => .error unreadable := by
  have hbang : bang (payload.toList.map Char.toUpper) = false := by
    rw [bang_map_toUpper, h]
  have hnot : ∀ s, ¬ '<' :: '!' :: s <:+: payload.toList.map Char.toUpper := by
    intro s hwithin
    rw [bang_of_within hwithin] at hbang
    cases hbang
  have hdeclares : ¬ ("<!DOCTYPE".toList <:+: payload.toList.map Char.toUpper ∨
      "<!ENTITY".toList <:+: payload.toList.map Char.toUpper) := by
    have hdoctype : "<!DOCTYPE".toList = '<' :: '!' :: "DOCTYPE".toList := by simp
    have hentity : "<!ENTITY".toList = '<' :: '!' :: "ENTITY".toList := by simp
    rw [hdoctype, hentity]
    exact not_or.mpr ⟨hnot _, hnot _⟩
  have hxml : xml read payload =
      if "<!DOCTYPE".toList <:+: payload.toList.map Char.toUpper ∨
          "<!ENTITY".toList <:+: payload.toList.map Char.toUpper then .error unreadable
      else
        match read payload with
        | some root => .ok root
        | none => .error unreadable := rfl
  rw [hxml, if_neg hdeclares]

lemma xml_sheet (hread : Conforming read) : xml read (String.ofList (sheet headers rows)) =
    if Legal (headers :: rows) then
      .ok (sheetElement (headers.map lined) (rows.map fun values => values.map lined))
    else .error unreadable := by
  rw [xml_of_bang]
  · split_ifs with hlegal
    · rw [hread.reads _ _ (parse_sheet hlegal)]
    · rw [hread.refuses]
      rw [String.toList_ofList, ← Bool.not_eq_true, legal_sheet]
      exact hlegal
  · rw [String.toList_ofList]
    exact bang_sheet

/-- The rows that a table is read as. -/
def readRows (table : List (List String)) : List (ℕ × List String) :=
  table.mapIdx fun i values => (i + 1, values.map fun value => Text.strip (lined value))

lemma sheetRows_sheet (hread : Conforming read) (h : ∀ values ∈ headers :: rows, values ≠ [])
    (shared : List String) : sheetRows read (String.ofList (sheet headers rows)) shared =
      if Legal (headers :: rows) then .ok (readRows (headers :: rows)) else .error unreadable := by
  rw [sheetRows, xml_sheet hread]
  split_ifs with hlegal
  · have hlined : ∀ values ∈ headers.map lined :: rows.map fun values => values.map lined,
        values ≠ [] := by
      intro values hvalues
      have hmem : values ∈ (headers :: rows).map fun values => values.map lined := hvalues
      obtain ⟨values', hvalues', rfl⟩ := List.mem_map.mp hmem
      simpa using h values' hvalues'
    show Except.bind ((named "row" _).mapM (sheetRow shared)) _ = _
    rw [mapM_sheetRow hlined]
    have hsome : ((headers :: rows).map fun values => values.map lined).mapIdx
        (fun i values => some (i + 1, values.map Text.strip)) =
        (readRows (headers :: rows)).map some := by
      rw [mapIdx_map, readRows, map_mapIdx]
      simp [Function.comp_def]
    show Except.ok (List.filterMap id (List.mapIdx _ ((headers :: rows).map _))) = _
    rw [hsome, List.filterMap_map]
    exact congrArg Except.ok List.filterMap_some
  · rfl

/-- A workbook with a worksheet that was written is read, unless the parser refuses it. -/
lemma readXlsx_book (hread : Conforming read) (h : ∀ values ∈ headers :: rows, values ≠ [])
    (sheetName : String) : readXlsx read (book sheetName (sheet headers rows)) =
      if Legal (headers :: rows) then .ok (readRows (headers :: rows)) else .error unreadable := by
  have hnames : (book sheetName (sheet headers rows)).map (·.1) =
      ["[Content_Types].xml", "_rels/.rels", "xl/workbook.xml", "xl/_rels/workbook.xml.rels",
        "xl/worksheets/sheet1.xml"] := rfl
  have hpath : sheetPath ((book sheetName (sheet headers rows)).map (·.1)) =
      .ok "xl/worksheets/sheet1.xml" := by
    have hmem : "xl/worksheets/sheet1.xml" ∈ (book sheetName (sheet headers rows)).map (·.1) := by
      rw [hnames]
      simp
    exact if_pos hmem
  have hpart : readPart (book sheetName (sheet headers rows)) "xl/worksheets/sheet1.xml" =
      .ok (String.ofList (sheet headers rows)) := by
    simp [readPart, book]
  have hshared : "xl/sharedStrings.xml" ∉ (book sheetName (sheet headers rows)).map (·.1) := by
    rw [hnames]
    simp
  delta readXlsx
  simp only [if_neg hshared, hpath, hpart, pure, Except.pure, bind, Except.bind]
  exact sheetRows_sheet hread h []

/-- The rows are written one below the other. -/
lemma foldl_write (rows : List (List String)) (f : ExportFile) :
    rows.foldl ExportFile.write f = { f with
      count := f.count + rows.length
      body := f.body ++ (rows.mapIdx fun i values => row (f.count + i + 2) values).flatten } := by
  induction rows generalizing f with
  | nil => simp
  | cons values rows ih =>
    have hshift : (fun i values => row ((f.write values).count + i + 2) values) =
        fun i values => row (f.count + (i + 1) + 2) values := by
      funext i values
      rw [ExportFile.write, show f.count + 1 + i = f.count + (i + 1) by omega]
    have hcount : (f.write values).count + rows.length = f.count + (rows.length + 1) := by
      show f.count + 1 + rows.length = _
      omega
    have hbody : (f.write values).body = f.body ++ row (f.count + 0 + 2) values := rfl
    rw [List.foldl_cons, ih, List.mapIdx_cons, List.flatten_cons, ← List.append_assoc, ← hbody,
      List.length_cons, ← hcount, ← hshift]
    rfl

/-- Both ways to write a table write the same, up to ends of lines and the name of the sheet. -/
lemma exportXlsx_eq (headers : List String) (rows : List (List String)) :
    exportXlsx headers rows = book "sku-profit"
      (sheet (headers.map lined) (rows.map fun values => values.map lined)) := by
  have hbody : lineEnds (row 1 headers ++ (rows.mapIdx fun i values => row (i + 2) values).flatten) =
      row 1 (headers.map lined) ++
        ((rows.map fun values => values.map lined).mapIdx fun i values => row (i + 2) values).flatten := by
    rw [table_eq, table_eq, lineEnds_render, map_tableTags]
    · rfl
    · intro p hp
      have hmem : p ∈ sheetTags headers rows := by simp [sheetTags, hp]
      exact (written_sheetTags headers rows p hmem).notMem (by decide)
  have hhead : ∀ count, sheetHead (headers.map lined) count = sheetHead headers count := by
    intro count
    simp [sheetHead]
  rw [exportXlsx, foldl_write, ExportFile.finalize, sheet]
  simp only [ExportFile.enter, Nat.zero_add, hbody, hhead, List.length_map, List.append_assoc]

lemma legal_map_lined (table : List (List String)) :
    Legal (table.map fun values => values.map lined) ↔ Legal table := by
  simp only [Legal, List.forall_mem_map, lined, String.toList_ofList, legal_lineEnds]

lemma readRows_map_lined (table : List (List String)) :
    readRows (table.map fun values => values.map lined) = readRows table := by
  rw [readRows, mapIdx_map, readRows]
  simp [lined, Function.comp_def]

/-- A workbook that was written row by row is read as one that was written at once. -/
lemma readXlsx_exportXlsx (hread : Conforming read) (h : ∀ values ∈ headers :: rows, values ≠ []) :
    readXlsx read (exportXlsx headers rows) =
      if Legal (headers :: rows) then .ok (readRows (headers :: rows)) else .error unreadable := by
  have hlined : ∀ values ∈ headers.map lined :: rows.map fun values => values.map lined,
      values ≠ [] := by
    simpa using h
  have hlegal := legal_map_lined (headers :: rows)
  have hrows := readRows_map_lined (headers :: rows)
  rw [List.map_cons] at hlegal hrows
  rw [exportXlsx_eq, readXlsx_book hread hlined, hrows]
  simp only [hlegal]

/-- The rows of a table, numbered, with stripped cells. -/
def strippedRows (table : List (List String)) : List (ℕ × List String) :=
  table.mapIdx fun i values => (i + 1, values.map Text.strip)

lemma strip_lined_eq_iff (s : String) :
    Text.strip (lined s) = Text.strip s ↔ '\r' ∉ (Text.strip s).toList := by
  rw [← String.toList_inj, Text.toList_strip, Text.toList_strip, lined, String.toList_ofList,
    stripChars_lineEnds, lineEnds_eq_self_iff]

lemma readRows_eq_iff (table : List (List String)) : readRows table = strippedRows table ↔
    ∀ values ∈ table, ∀ value ∈ values, '\r' ∉ (Text.strip value).toList := by
  simp only [readRows, strippedRows, List.mapIdx_eq_mapIdx_iff, Prod.mk.injEq, true_and,
    List.map_inj_left, strip_lined_eq_iff]
  constructor
  · intro h values hvalues
    obtain ⟨i, hi, rfl⟩ := List.getElem_of_mem hvalues
    exact h i hi
  · intro h i hi
    exact h _ (List.getElem_mem hi)

/-- What is named as a workbook is read as one. -/
lemma readTabular_xlsx (readCsv : Book → Except SpreadsheetError (List (ℕ × List String)))
    {filename : String} (hname : ".xlsx".toList <:+ (Text.lower filename).toList) (book : Book) :
    readTabular read readCsv book filename = readXlsx read book := by
  have hcsv : ¬ ".csv".toList <:+ (Text.lower filename).toList := by
    intro hcsv
    have hsuffix := List.suffix_of_suffix_length_le hcsv hname (by simp)
    revert hsuffix
    decide
  show (if _ then _ else if _ then _ else _) = _
  rw [if_neg hcsv, if_pos hname]

end books

/-- A cell survives: its characters have a place in XML, and no carriage return is within it. -/
def Survives (value : String) : Prop :=
  value.toList.all legal = true ∧ '\r' ∉ (Text.strip value).toList

/-- A table that is written, in either way, is read back with stripped cells exactly if all its
cells survive. -/
theorem readTabular_iff (hread : Conforming read)
    (readCsv : Book → Except SpreadsheetError (List (ℕ × List String)))
    {headers : List String} {rows : List (List String)} (hheaders : headers ≠ [])
    (hrows : ∀ values ∈ rows, values ≠ []) (sheetName : String) {filename : String}
    (hname : ".xlsx".toList <:+ (Text.lower filename).toList) :
    (readTabular read readCsv (buildXlsx headers rows sheetName) filename =
        .ok (strippedRows (headers :: rows)) ↔
      ∀ values ∈ headers :: rows, ∀ value ∈ values, Survives value) ∧
    (readTabular read readCsv (exportXlsx headers rows) filename =
        .ok (strippedRows (headers :: rows)) ↔
      ∀ values ∈ headers :: rows, ∀ value ∈ values, Survives value) := by
  have htable : ∀ values ∈ headers :: rows, values ≠ [] := by
    simpa using ⟨hheaders, hrows⟩
  have hread_iff : (if Legal (headers :: rows) then Except.ok (readRows (headers :: rows))
      else Except.error unreadable) = .ok (strippedRows (headers :: rows)) ↔
      ∀ values ∈ headers :: rows, ∀ value ∈ values, Survives value := by
    have hsurvive : (∀ values ∈ headers :: rows, ∀ value ∈ values, Survives value) ↔
        Legal (headers :: rows) ∧ readRows (headers :: rows) = strippedRows (headers :: rows) := by
      rw [readRows_eq_iff, Legal]
      simp only [Survives, forall_and]
    rw [hsurvive]
    split_ifs with hlegal
    · simp [hlegal]
    · simp [hlegal]
  constructor
  · rw [readTabular_xlsx readCsv hname, buildXlsx, readXlsx_book hread htable]
    exact hread_iff
  · rw [readTabular_xlsx readCsv hname, readXlsx_exportXlsx hread htable]
    exact hread_iff

instance (value : String) : Decidable (Survives value) := by
  unfold Survives
  infer_instance

/-- Signs that XML reserves survive. -/
theorem readTabular_iff_reserved :
    (readTabular parse (fun _ => .ok []) (buildXlsx ["sku", "note"] [["A-1", " 1 & 2 < 3 "]] "orders")
        "Orders.XLSX" = .ok (strippedRows [["sku", "note"], ["A-1", " 1 & 2 < 3 "]])) ∧
    (readTabular parse (fun _ => .ok []) (exportXlsx ["sku", "note"] [["A-1", " 1 & 2 < 3 "]])
        "Orders.XLSX" = .ok (strippedRows [["sku", "note"], ["A-1", " 1 & 2 < 3 "]])) := by
  have hname : ".xlsx".toList <:+ (Text.lower "Orders.XLSX").toList := by decide +kernel
  have hsurvive : ∀ values ∈ [["sku", "note"], ["A-1", " 1 & 2 < 3 "]], ∀ value ∈ values,
      Survives value := by decide +kernel
  have hheaders : ["sku", "note"] ≠ [] := by simp
  have hrows : ∀ values ∈ [["A-1", " 1 & 2 < 3 "]], values ≠ [] := by simp
  obtain ⟨hbuild, hexport⟩ :=
    readTabular_iff conforming_parse (fun _ => .ok []) hheaders hrows "orders" hname
  exact ⟨hbuild.mpr hsurvive, hexport.mpr hsurvive⟩

/-- A control character makes a workbook that cannot be read, and a carriage return within a text
comes back as a line feed. -/
theorem control_character_lost :
    Conforming parse ∧
    readTabular parse (fun _ => .ok []) (buildXlsx ["note"] [["a\x01b"]] "orders") "orders.xlsx" =
      .error unreadable ∧
    readTabular parse (fun _ => .ok []) (exportXlsx ["note"] [["a\x01b"]]) "orders.xlsx" =
      .error unreadable ∧
    readTabular parse (fun _ => .ok []) (buildXlsx ["note"] [["a\rb"]] "orders") "orders.xlsx" =
      .ok [(1, ["note"]), (2, ["a\nb"])] ∧
    strippedRows [["note"], ["a\rb"]] = [(1, ["note"]), (2, ["a\rb"])] := by
  have hname : ".xlsx".toList <:+ (Text.lower "orders.xlsx").toList := by decide +kernel
  have hillegal : ¬ Legal [["note"], ["a\x01b"]] := by decide +kernel
  have hlegal : Legal [["note"], ["a\rb"]] := by decide +kernel
  refine ⟨conforming_parse, ?_, ?_, ?_, ?_⟩
  · rw [readTabular_xlsx _ hname, buildXlsx, readXlsx_book conforming_parse (by simp),
      if_neg hillegal]
  · rw [readTabular_xlsx _ hname, readXlsx_exportXlsx conforming_parse (by simp), if_neg hillegal]
  · rw [readTabular_xlsx _ hname, buildXlsx, readXlsx_book conforming_parse (by simp),
      if_pos hlegal]
    have hrows : readRows [["note"], ["a\rb"]] = [(1, ["note"]), (2, ["a\nb"])] := by
      decide +kernel
    rw [hrows]
  · decide +kernel

end CrossPilot.Sheets
