import CrossPilot.Lib.Dict
import CrossPilot.Lib.Optional
import CrossPilot.Sheets.Workbook
import CrossPilot.Database

/-!
# Uploaded files

An uploaded file passes through decoders that raise exceptions of their own: a codec and a reader of
tables with commas, or a container and a parser. Callers know one exception, `SpreadsheetError`. What
the decoders do is a parameter here, and which exceptions they may raise is their type.

A file is answered as it should be exactly if it is readable in the sense of `Answerable`: the others
end with a foreign exception, or with a cell that was counted from the end of the table of texts
(`answered_iff`).
-/

namespace CrossPilot.Sheets.Uploads

open Markup

/-! ### Exceptions -/

inductive Exn
  | spreadsheet (message : String)
  | unicodeDecode | csv | badZipFile | key | value | runtime | notImplemented | zlib | eof | parse
  deriving DecidableEq

/-- What opening a container and reading its members may raise. Members that are encrypted raise
`RuntimeError`. -/
inductive ZipError
  | badZipFile | key | value | runtime | notImplemented | zlib | eof
  deriving DecidableEq

def ZipError.exn : ZipError → Exn
  | badZipFile => .badZipFile
  | key => .key
  | value => .value
  | runtime => .runtime
  | notImplemented => .notImplemented
  | zlib => .zlib
  | eof => .eof

inductive XmlError
  | parse | value
  deriving DecidableEq

def XmlError.exn : XmlError → Exn
  | parse => .parse
  | value => .value

/-! ### Libraries -/

structure Archive where
  namelist : List String
  read : String → Except ZipError (List UInt8)

/-- What stands outside: `str.isalpha` of a character and `str.upper`, the codec, which may raise
`UnicodeDecodeError`, the reader of tables with commas, which may raise `csv.Error`, the container
and the parser. -/
structure Libraries where
  isalpha : Char → Bool
  upper : String → String
  decodeUtf8Sig : List UInt8 → Option String
  csvReader : String → Option (List (List String))
  openZip : List UInt8 → Except ZipError Archive
  fromstring : List UInt8 → Except XmlError Element

variable (lib : Libraries)

/-! ### Tables with commas -/

/-- `_read_csv`. -/
def readCsv (payload : List UInt8) : Except Exn (List (ℤ × List String)) :=
  match lib.decodeUtf8Sig payload with
  | none => .error .unicodeDecode
  | some text =>
    match lib.csvReader text with
    | none => .error .csv
    | some rows => .ok <| ((rows.zipIdx 1).filter fun r =>
        r.1.any fun cell => Text.strip cell ≠ "").map fun r => (r.2, r.1.map Text.strip)

/-! ### Workbooks -/

def upperByte (b : UInt8) : UInt8 := if 97 ≤ b ∧ b ≤ 122 then b - 32 else b

def ascii (s : String) : List UInt8 := s.toList.map fun c => c.toNat.toUInt8

/-- `_xml`. -/
def xml (payload : List UInt8) : Except Exn Element :=
  let folded := payload.map upperByte
  if ascii "<!DOCTYPE" <:+: folded ∨ ascii "<!ENTITY" <:+: folded then
    .error (.spreadsheet "表格无法解析")
  else (lib.fromstring payload).mapError XmlError.exn

/-- `_shared_strings`, which are none where there is no such part. -/
def sharedStrings (book : Archive) : Except Exn (List String) :=
  if "xl/sharedStrings.xml" ∈ book.namelist then do
    let root ← xml lib (← (book.read "xl/sharedStrings.xml").mapError ZipError.exn)
    return (root.children.filter fun node => localName node.tag = "si").map joined
  else .ok []

/-- `_column_index`. -/
def columnIndex (ref : String) : Except Exn ℤ :=
  let letters := String.ofList (ref.toList.filter lib.isalpha)
  if letters = "" then .error (.spreadsheet "表格无法解析")
  else .ok ((lib.upper letters).toList.foldl (fun index c => index * 26 + ((c.toNat : ℤ) - 64)) 0 - 1)

/-- The column that a cell says it stands in. -/
def columnOf (cell : Element) : Except Exn ℤ := columnIndex lib ((cell.get "r").getD "A1")

/-- `_cell_text`. -/
def cellText (shared : List String) (cell : Element) : Except Exn String :=
  (Sheets.cellText cell shared).mapError fun e => .spreadsheet e.message

/-- A cell goes to its column, and over a cell that stands there. -/
def place (shared : List String) (cells : Dict ℤ String) (cell : Element) :
    Except Exn (Dict ℤ String) := do
  let column ← columnOf lib cell
  return cells.set column (← cellText shared cell)

def cellsOf (node : Element) : List Element :=
  node.children.filter fun cell => localName cell.tag = "c"

def rowNumber (node : Element) : Except Exn ℤ :=
  match Text.readInt ((node.get "r").getD "0") with
  | some number => .ok number
  | none => .error .value

/-- A row of a worksheet, unless it has no cells. -/
def rowOf (shared : List String) (node : Element) : Except Exn (Option (ℤ × List String)) := do
  let number ← rowNumber node
  let cells ← (cellsOf node).foldlM (place lib shared) .empty
  match (cells.entries.map Prod.fst).max? with
  | none => return none
  | some last => return some (number, (List.range (last + 1).toNat).map fun (index : ℕ) =>
      (cells.get index).getD "")

def rowsOf (root : Element) : List Element :=
  root.iter.filter fun node => localName node.tag = "row"

/-- `_sheet_rows`. -/
def sheetRows (payload : List UInt8) (shared : List String) :
    Except Exn (List (ℤ × List String)) := do
  let root ← xml lib payload
  return (← (rowsOf root).mapM (rowOf lib shared)).filterMap id

/-- What `_read_xlsx` tries. -/
def readBook (payload : List UInt8) : Except Exn (List (ℤ × List String)) := do
  let book ← (lib.openZip payload).mapError ZipError.exn
  let shared ← sharedStrings lib book
  let path ← (sheetPath book.namelist).mapError fun e => .spreadsheet e.message
  sheetRows lib (← (book.read path).mapError ZipError.exn) shared

/-- What the reader of workbooks turns into a `SpreadsheetError`. `UnicodeDecodeError` is one of the
exceptions under `ValueError`. -/
def Exn.caught : Exn → Bool
  | badZipFile | key | parse | value | unicodeDecode => true
  | _ => false

/-- The handler of `_read_xlsx`. -/
def handled {α : Type} : Except Exn α → Except Exn α
  | .error e => .error (if e.caught then .spreadsheet "表格无法解析" else e)
  | .ok a => .ok a

/-- `_read_xlsx`. -/
def readXlsx (payload : List UInt8) : Except Exn (List (ℤ × List String)) :=
  handled (readBook lib payload)

/-- `read_tabular`. -/
def readTabular (payload : List UInt8) (filename : String) :
    Except Exn (List (ℤ × List String)) :=
  let name := (Text.lower filename).toList
  if ".csv".toList <:+ name then readCsv lib payload
  else if ".xlsx".toList <:+ name then readXlsx lib payload
  else .error (.spreadsheet "文件需要是 xlsx 或 csv")

/-! ### What an answer should be -/

/-- The cell that is returned for a column of a row. -/
def lastCell (node : Element) (column : ℤ) : Option Element :=
  ((cellsOf node).filter fun cell => (columnOf lib cell).toOption = some column).getLast?

/-- What is written in a cell. -/
def written (cell : Element) : String :=
  match cell.children.find? fun item => localName item.tag = "v" with
  | some item => item.text
  | none => ""

/-- Each cell of a row that refers to the table of texts shows the text at the index that is written
in it. -/
def FromTable (shared : List String) (node : Element) (row : ℤ × List String) : Prop :=
  ∀ (column : ℕ) (cell : Element), lastCell lib node column = some cell → cell.get "t" = some "s" →
    ∃ i : ℕ, Text.readInt (written cell) = some (i : ℤ) ∧
      ∃ text, shared[i]? = some text ∧ row.2[column]? = some (Text.strip text)

/-- The worksheet of an uploaded workbook and its table of texts. -/
def Contains (payload : List UInt8) (root : Element) (shared : List String) : Prop :=
  ∃ book path data, lib.openZip payload = .ok book ∧ sharedStrings lib book = .ok shared ∧
    (sheetPath book.namelist).toOption = some path ∧ book.read path = .ok data ∧
    xml lib data = .ok root

def IsWorkbook (filename : String) : Prop :=
  ¬ ".csv".toList <:+ (Text.lower filename).toList ∧
    ".xlsx".toList <:+ (Text.lower filename).toList

/-- The rows of the table, with every text taken from its place, or a `SpreadsheetError`. -/
def Answered (payload : List UInt8) (filename : String) : Prop :=
  match readTabular lib payload filename with
  | .error e => ∃ message, e = .spreadsheet message
  | .ok rows => IsWorkbook filename → ∀ root shared, Contains lib payload root shared →
      List.Forall₂ (FromTable lib shared) ((rowsOf root).filter fun node => cellsOf node ≠ []) rows

/-! ### Which files are answered -/

/-- A container raises nothing that is not caught, as far as it is read. -/
structure Unlocked (payload : List UInt8) : Prop where
  opened : ∀ e, lib.openZip payload = .error e → e.exn.caught = true
  shared : ∀ book, lib.openZip payload = .ok book → "xl/sharedStrings.xml" ∈ book.namelist →
    ∀ e, book.read "xl/sharedStrings.xml" = .error e → e.exn.caught = true
  sheet : ∀ book shared path, lib.openZip payload = .ok book → sharedStrings lib book = .ok shared →
    (sheetPath book.namelist).toOption = some path → ∀ e, book.read path = .error e →
    e.exn.caught = true

/-- A table with commas can be decoded. A workbook's container raises nothing foreign, and if all its
rows can be read, no cell that is returned refers to the table of texts from its end. -/
def Answerable (payload : List UInt8) (filename : String) : Prop :=
  (".csv".toList <:+ (Text.lower filename).toList → ∃ text rows,
    lib.decodeUtf8Sig payload = some text ∧ lib.csvReader text = some rows) ∧
  (IsWorkbook filename → Unlocked lib payload ∧
    ∀ root shared, Contains lib payload root shared →
      (∀ node ∈ rowsOf root, ∃ result, rowOf lib shared node = .ok result) →
      ∀ node ∈ rowsOf root, ∀ (column : ℕ) (cell : Element),
        lastCell lib node column = some cell → cell.get "t" = some "s" →
        ∀ i ∈ Text.readInt (written cell), 0 ≤ i)

section

variable {lib} {shared : List String} {payload : List UInt8}

/-! ### Rows -/

/-- A column shows the last cell that stands in it. -/
lemma get_foldlM_place {cells : List Element} {d : Dict ℤ String}
    (h : cells.foldlM (place lib shared) .empty = .ok d) {column : ℤ} {cell : Element}
    (hlast : (cells.filter fun cell => (columnOf lib cell).toOption = some column).getLast? =
      some cell) : ∃ text, cellText shared cell = .ok text ∧ d.get column = some text := by
  induction cells using List.reverseRecOn generalizing d with
  | nil => simp at hlast
  | append_singleton cells c ih =>
    rw [List.foldlM_append] at h
    obtain ⟨d', hd', h⟩ := bind_eq_ok.mp h
    simp only [List.foldlM_cons, List.foldlM_nil, place, bind_pure] at h
    obtain ⟨column', hcolumn, h⟩ := bind_eq_ok.mp h
    obtain ⟨text, htext, h⟩ := bind_eq_ok.mp h
    cases h
    rw [List.filter_append] at hlast
    by_cases hsame : column' = column
    · subst hsame
      have hone : [c].filter (fun cell => (columnOf lib cell).toOption = some column') = [c] := by
        simp [hcolumn, Except.toOption]
      rw [hone, List.getLast?_concat, Option.some.injEq] at hlast
      subst hlast
      exact ⟨text, htext, by simp⟩
    · have hnone : [c].filter (fun cell => (columnOf lib cell).toOption = some column) = [] := by
        simp [hcolumn, hsame, Except.toOption]
      rw [hnone, List.append_nil] at hlast
      obtain ⟨text', htext', hget⟩ := ih hd' hlast
      exact ⟨text', htext', by simp [hsame, hget]⟩

lemma entries_foldlM_place {cells : List Element} {d : Dict ℤ String}
    (h : cells.foldlM (place lib shared) .empty = .ok d) : d.entries = [] ↔ cells = [] := by
  induction cells using List.reverseRecOn generalizing d with
  | nil =>
    cases h
    simp [Dict.empty]
  | append_singleton cells c ih =>
    rw [List.foldlM_append] at h
    obtain ⟨d', -, h⟩ := bind_eq_ok.mp h
    simp only [List.foldlM_cons, List.foldlM_nil, place, bind_pure] at h
    obtain ⟨column, -, h⟩ := bind_eq_ok.mp h
    obtain ⟨text, -, h⟩ := bind_eq_ok.mp h
    cases h
    have hmem : (column, text) ∈ (d'.set column text).entries := by simp [Dict.mem_entries_iff]
    simp [List.ne_nil_of_mem hmem]

/-- A row is returned if it has cells, and each column shows its last cell. -/
lemma rowOf_eq_ok {node : Element} {result : Option (ℤ × List String)}
    (h : rowOf lib shared node = .ok result) : (result = none ↔ cellsOf node = []) ∧
      ∀ row ∈ result, ∀ (column : ℕ) (cell : Element), lastCell lib node column = some cell →
        ∃ text, cellText shared cell = .ok text ∧ row.2[column]? = some text := by
  obtain ⟨number, -, h⟩ := bind_eq_ok.mp h
  obtain ⟨d, hd, h⟩ := bind_eq_ok.mp h
  rw [← entries_foldlM_place hd]
  split at h
  next hmax =>
    cases h
    have hnil : d.entries = [] := by simpa using hmax
    simp [hnil]
  next last hmax =>
    cases h
    have hsome : d.entries ≠ [] := by
      intro hnil
      simp [hnil] at hmax
    refine ⟨by simp [hsome], ?_⟩
    rintro row hrow column cell hlast
    obtain rfl := Option.some.inj hrow
    obtain ⟨text, htext, hget⟩ := get_foldlM_place hd hlast
    have hmem := Dict.mem_entries_iff.mpr hget
    have hle : (column : ℤ) ≤ last :=
      (List.max?_eq_some_iff.mp hmax).2 _ (List.mem_map_of_mem hmem)
    have hlt : column < (last + 1).toNat := by omega
    exact ⟨text, htext, by simp [hlt, hget]⟩

/-- The text of a cell that refers to the table. -/
lemma cellText_shared {cell : Element} (hkind : cell.get "t" = some "s") {text : String}
    (h : cellText shared cell = .ok text) : ∃ i, Text.readInt (written cell) = some i ∧
      ∃ found, pick shared i = some found ∧ text = Text.strip found := by
  have hcase : ∀ o, (Text.readInt (written cell)).bind (pick shared) = o →
      Sheets.cellText cell shared =
        o.elim (.error unreadable) fun text => .ok (Text.strip text) := by
    intro o ho
    rw [Sheets.cellText, hkind]
    unfold written at ho
    cases hv : cell.children.find? fun item => localName item.tag = "v"
    all_goals
      rw [hv] at ho
      dsimp only at ho ⊢
      rw [ho]
      cases o <;> rfl
  rw [cellText, hcase _ rfl] at h
  cases hfound : (Text.readInt (written cell)).bind (pick shared) with
  | none => simp [hfound, Except.mapError] at h
  | some found =>
    obtain ⟨i, hi, hpick⟩ := Option.bind_eq_some_iff.mp hfound
    simp only [hfound, Option.elim_some, Except.mapError, Except.ok.injEq] at h
    exact ⟨i, hi, found, hpick, h.symm⟩

/-- The texts of a row come from their places in the table unless an index is negative. -/
lemma fromTable_iff {node : Element} {row : ℤ × List String}
    (h : rowOf lib shared node = .ok (some row)) : FromTable lib shared node row ↔
      ∀ (column : ℕ) (cell : Element), lastCell lib node column = some cell →
        cell.get "t" = some "s" → ∀ i ∈ Text.readInt (written cell), 0 ≤ i := by
  constructor
  · intro hrow column cell hlast hkind i hi
    obtain ⟨n, hn, -⟩ := hrow column cell hlast hkind
    rw [hn, Option.mem_some_iff] at hi
    exact hi ▸ Int.natCast_nonneg n
  · intro hpositive column cell hlast hkind
    obtain ⟨text, htext, hcolumn⟩ := (rowOf_eq_ok h).2 row rfl column cell hlast
    obtain ⟨i, hi, found, hpick, rfl⟩ := cellText_shared hkind htext
    have hnonneg := hpositive column cell hlast hkind i hi
    rw [pick, if_pos hnonneg] at hpick
    exact ⟨i.toNat, by rw [Int.toNat_of_nonneg hnonneg, hi], found, hpick, hcolumn⟩

/-- The rows that are returned are those of the nodes with cells. -/
lemma forall₂_rows_iff {nodes : List Element} {results : List (Option (ℤ × List String))}
    (h : nodes.mapM (rowOf lib shared) = .ok results) :
    List.Forall₂ (FromTable lib shared) (nodes.filter fun node => cellsOf node ≠ [])
        (results.filterMap id) ↔
      ∀ node ∈ nodes, ∀ (column : ℕ) (cell : Element), lastCell lib node column = some cell →
        cell.get "t" = some "s" → ∀ i ∈ Text.readInt (written cell), 0 ≤ i := by
  replace h := Fallible.mapM_eq_ok_iff.mp h
  induction h with
  | nil => simp
  | @cons node result nodes results hnode _ ih =>
    refine Iff.trans ?_ (Iff.trans (and_congr Iff.rfl ih) List.forall_mem_cons.symm)
    cases result with
    | none =>
      have hempty := (rowOf_eq_ok hnode).1.mp rfl
      simp [hempty, lastCell]
    | some row =>
      have hcells : cellsOf node ≠ [] := fun hnil => by
        simpa using (rowOf_eq_ok hnode).1.mpr hnil
      have hcons : (some row :: results).filterMap id = row :: results.filterMap id := rfl
      rw [List.filter_cons_of_pos (by simpa using hcells), hcons, List.forall₂_cons,
        fromTable_iff hnode]

/-! ### Exceptions -/

/-- An exception that callers see as a `SpreadsheetError`. -/
def Exn.Known (e : Exn) : Prop := e.caught = true ∨ ∃ message, e = .spreadsheet message

lemma mapError_eq_error {α ε : Type} {x : Except ε α} {g : ε → Exn} {e : Exn} :
    x.mapError g = .error e ↔ ∃ e', x = .error e' ∧ g e' = e := by
  cases x <;> simp [Except.mapError]

lemma mapError_eq_ok {α ε : Type} {x : Except ε α} {g : ε → Exn} {a : α} :
    x.mapError g = .ok a ↔ x = .ok a := by
  cases x <;> simp [Except.mapError]

lemma known_xml {e : Exn} (h : xml lib payload = .error e) : e.Known := by
  simp only [xml] at h
  split_ifs at h
  · cases h
    exact .inr ⟨_, rfl⟩
  · obtain ⟨e', -, rfl⟩ := mapError_eq_error.mp h
    cases e' <;> exact .inl rfl

lemma known_place {d : Dict ℤ String} {cell : Element} {e : Exn}
    (h : place lib shared d cell = .error e) : e.Known := by
  obtain h | ⟨column, -, h⟩ := bind_eq_error.mp h
  · simp only [columnOf, columnIndex] at h
    split_ifs at h
    cases h
    exact .inr ⟨_, rfl⟩
  · obtain h | ⟨text, -, h⟩ := bind_eq_error.mp h
    · obtain ⟨e', -, rfl⟩ := mapError_eq_error.mp h
      exact .inr ⟨_, rfl⟩
    · simp [pure, Except.pure] at h

lemma known_foldlM_place {cells : List Element} {d : Dict ℤ String} {e : Exn}
    (h : cells.foldlM (place lib shared) d = .error e) : e.Known := by
  induction cells generalizing d with
  | nil => simp [pure, Except.pure] at h
  | cons cell rest ih =>
    rw [List.foldlM_cons] at h
    obtain h | ⟨d', -, h⟩ := bind_eq_error.mp h
    · exact known_place h
    · exact ih h

lemma known_rowOf {node : Element} {e : Exn} (h : rowOf lib shared node = .error e) : e.Known := by
  obtain h | ⟨number, -, h⟩ := bind_eq_error.mp h
  · unfold rowNumber at h
    split at h
    · simp at h
    · cases h
      exact .inl rfl
  · obtain h | ⟨d, -, h⟩ := bind_eq_error.mp h
    · exact known_foldlM_place h
    · split at h <;> simp [pure, Except.pure] at h

lemma known_mapM_rowOf {nodes : List Element} {e : Exn}
    (h : nodes.mapM (rowOf lib shared) = .error e) : e.Known := by
  induction nodes with
  | nil => simp [pure, Except.pure] at h
  | cons node rest ih =>
    rw [List.mapM_cons] at h
    obtain h | ⟨result, -, h⟩ := bind_eq_error.mp h
    · exact known_rowOf h
    · obtain h | ⟨results, -, h⟩ := bind_eq_error.mp h
      · exact ih h
      · simp [pure, Except.pure] at h

lemma known_sheetRows {e : Exn} (h : sheetRows lib payload shared = .error e) : e.Known := by
  obtain h | ⟨root, -, h⟩ := bind_eq_error.mp h
  · exact known_xml h
  · obtain h | ⟨results, -, h⟩ := bind_eq_error.mp h
    · exact known_mapM_rowOf h
    · simp [pure, Except.pure] at h

lemma exn_known_iff {e : ZipError} : e.exn.Known ↔ e.exn.caught = true := by
  cases e <;> simp [Exn.Known, ZipError.exn]

/-- No foreign exception gets through exactly if the container raises none as far as it is read. -/
lemma unlocked_iff : Unlocked lib payload ↔ ∀ e, readBook lib payload = .error e → e.Known := by
  constructor
  · intro h e he
    obtain he | ⟨book, hbook, he⟩ := bind_eq_error.mp he
    · obtain ⟨e', he', rfl⟩ := mapError_eq_error.mp he
      exact .inl (h.opened e' he')
    replace hbook := mapError_eq_ok.mp hbook
    obtain he | ⟨shared, hshared, he⟩ := bind_eq_error.mp he
    · unfold sharedStrings at he
      split_ifs at he with hlisted
      obtain he | ⟨root, -, he⟩ := bind_eq_error.mp he
      · obtain ⟨e', he', rfl⟩ := mapError_eq_error.mp he
        exact .inl (h.shared book hbook hlisted e' he')
      · obtain he | ⟨root, -, he⟩ := bind_eq_error.mp he
        · exact known_xml he
        · simp [pure, Except.pure] at he
    obtain he | ⟨path, hpath, he⟩ := bind_eq_error.mp he
    · obtain ⟨e', -, rfl⟩ := mapError_eq_error.mp he
      exact .inr ⟨_, rfl⟩
    replace hpath := mapError_eq_ok.mp hpath
    obtain he | ⟨data, -, he⟩ := bind_eq_error.mp he
    · obtain ⟨e', he', rfl⟩ := mapError_eq_error.mp he
      exact .inl (h.sheet book shared path hbook hshared (by simp [hpath, Except.toOption]) e' he')
    · exact known_sheetRows he
  · intro h
    have hraised {e : ZipError} (he : readBook lib payload = .error e.exn) : e.exn.caught = true :=
      exn_known_iff.mp (h _ he)
    constructor
    · intro e he
      exact hraised (by simp [readBook, he, Except.mapError, bind, Except.bind])
    · intro book hbook hlisted e he
      apply hraised
      simp [readBook, sharedStrings, hbook, hlisted, he, Except.mapError, bind, Except.bind]
    · intro book shared path hbook hshared hpath e he
      have hpath' : sheetPath book.namelist = .ok path := by
        cases hp : sheetPath book.namelist with
        | error e => simp [hp, Except.toOption] at hpath
        | ok p => simpa [hp, Except.toOption] using hpath
      apply hraised
      simp [readBook, hbook, hshared, hpath', he, Except.mapError, bind, Except.bind]

/-- What is read of a workbook comes from its worksheet and its table of texts. -/
lemma readBook_of_contains {root : Element} (h : Contains lib payload root shared) :
    readBook lib payload =
      ((rowsOf root).mapM (rowOf lib shared)).map fun results => results.filterMap id := by
  obtain ⟨book, path, data, hbook, hshared, hpath, hdata, hroot⟩ := h
  have hpath' : sheetPath book.namelist = .ok path := by
    cases hp : sheetPath book.namelist with
    | error e => simp [hp, Except.toOption] at hpath
    | ok p => simpa [hp, Except.toOption] using hpath
  simp only [readBook, hbook, hshared, hpath', hdata, Except.mapError, sheetRows, hroot, bind,
    Except.bind]
  cases (rowsOf root).mapM (rowOf lib shared) <;> rfl

end

section

variable {lib} {payload : List UInt8}

lemma known_iff {e : Exn} : e.Known ↔
    ∃ message, (if e.caught = true then .spreadsheet "表格无法解析" else e) = .spreadsheet message := by
  by_cases hcaught : e.caught = true <;> simp [Exn.Known, hcaught]

lemma workbook_iff : (match handled (readBook lib payload) with
    | .error e => ∃ message, e = .spreadsheet message
    | .ok rows => ∀ root shared, Contains lib payload root shared →
      List.Forall₂ (FromTable lib shared) ((rowsOf root).filter fun node => cellsOf node ≠ [])
        rows) ↔
    (∀ e, readBook lib payload = .error e → e.Known) ∧
      ∀ root shared, Contains lib payload root shared →
        (∀ node ∈ rowsOf root, ∃ result, rowOf lib shared node = .ok result) →
        ∀ node ∈ rowsOf root, ∀ (column : ℕ) (cell : Element),
          lastCell lib node column = some cell → cell.get "t" = some "s" →
          ∀ i ∈ Text.readInt (written cell), 0 ≤ i := by
  cases hread : readBook lib payload with
  | error e =>
    have hvacuous : ∀ root shared, Contains lib payload root shared →
        ¬ ∀ node ∈ rowsOf root, ∃ result, rowOf lib shared node = .ok result := by
      intro root shared hcontains hall
      obtain ⟨results, hresults⟩ := Fallible.exists_mapM_iff.mpr hall
      rw [readBook_of_contains hcontains, hresults] at hread
      simp [Except.map] at hread
    simp only [handled, ← known_iff, Except.error.injEq, forall_eq']
    exact ⟨fun h => ⟨h, fun root shared hcontains hall => absurd hall (hvacuous root shared hcontains)⟩,
      And.left⟩
  | ok rows =>
    simp only [handled, reduceCtorEq, IsEmpty.forall_iff, implies_true, true_and]
    refine forall₃_congr fun root shared hcontains => ?_
    rw [readBook_of_contains hcontains] at hread
    cases hresults : (rowsOf root).mapM (rowOf lib shared) with
    | error e => simp [hresults, Except.map] at hread
    | ok results =>
      simp only [hresults, Except.map, Except.ok.injEq] at hread
      subst hread
      have hall := Fallible.exists_mapM_iff.mp ⟨results, hresults⟩
      rw [forall₂_rows_iff hresults]
      exact ⟨fun h _ => h, fun h => h hall⟩

end

/-- A file is answered with the rows of its table, every text taken from its place, or with a
`SpreadsheetError`, exactly if it is answerable. -/
theorem answered_iff (payload : List UInt8) (filename : String) :
    Answered lib payload filename ↔ Answerable lib payload filename := by
  by_cases hcsv : ".csv".toList <:+ (Text.lower filename).toList
  · have hnot : ¬ IsWorkbook filename := fun h => h.1 hcsv
    simp only [Answered, Answerable, readTabular, hnot, hcsv, IsEmpty.forall_iff, forall_const,
      and_true, readCsv]
    cases hdecode : lib.decodeUtf8Sig payload with
    | none => simp
    | some text => cases hrows : lib.csvReader text <;> simp [hrows]
  · by_cases hxlsx : ".xlsx".toList <:+ (Text.lower filename).toList
    · have hbook : IsWorkbook filename := ⟨hcsv, hxlsx⟩
      simp only [Answered, Answerable, readTabular, if_pos hxlsx, hcsv, hbook, IsEmpty.forall_iff,
        forall_const, true_and, readXlsx, unlocked_iff, if_false]
      exact workbook_iff
    · have hnot : ¬ IsWorkbook filename := fun h => hxlsx h.2
      simp only [Answered, Answerable, readTabular, hcsv, hxlsx, hnot, if_false, IsEmpty.forall_iff,
        and_self, iff_true]
      exact ⟨_, rfl⟩

/-- A cell that refers to the table of texts from its end. -/
example : (cellText ["first", "last"] (.node "c" [("t", "s")] "" [.node "v" [] "-1" []])).toOption =
    some "last" := by
  decide +kernel

/-- ASCII is all that is decoded, and a text is one cell. -/
private def asciiLibraries : Libraries where
  isalpha := Char.isAlpha
  upper := Text.upper
  decodeUtf8Sig := fun payload =>
    if payload.all (· < 128) then some (String.ofList (payload.map fun b => Char.ofNat b.toNat))
    else none
  csvReader := fun text => some [[text]]
  openZip := fun _ => .error .badZipFile
  fromstring := fun _ => .error .parse

/-- A byte that no UTF-8 text has ends with a `UnicodeDecodeError`. -/
theorem not_answered_latin1 : ¬ ∀ (lib : Libraries) (payload : List UInt8) (filename : String),
    Answered lib payload filename := by
  intro h
  have hread : readTabular asciiLibraries [255] "products.csv" = .error .unicodeDecode := by
    have hname : ".csv".toList <:+ (Text.lower "products.csv").toList := by decide +kernel
    rw [readTabular, if_pos hname]
    rfl
  have hanswered := h asciiLibraries [255] "products.csv"
  simp [Answered, hread] at hanswered

end CrossPilot.Sheets.Uploads
