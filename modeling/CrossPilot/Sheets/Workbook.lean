import CrossPilot.Lib.Markup

/-!
# Workbooks

Tables are written as workbooks in two ways, at once (`buildXlsx`) and row by row through a temporary
file (`ExportFile`), and read by `readTabular`. All cells are texts. The container is lossless, so a
workbook is the list of its parts here.

The parser is a parameter of the reader, and so is the reader for tables with commas.
-/

namespace CrossPilot.Sheets

open Markup

/-- The parts of a workbook, by name. -/
abbrev Book := List (String × String)

/-! ### Writing -/

/-- `_column_name`. -/
def columnName : ℕ → List Char
  | 0 => []
  | n + 1 => columnName (n / 26) ++ [Char.ofNat (65 + n % 26)]
decreasing_by exact Nat.lt_succ_of_le (Nat.div_le_self n 26)

def number (n : ℕ) : List Char := (toString n).toList

def cell (ref value : List Char) : List Char :=
  ("<c r=\"" ++ String.ofList ref ++ "\" t=\"inlineStr\"><is><t>" ++ String.ofList (escape value) ++
    "</t></is></c>").toList

/-- `_row` and `_inline_row`. -/
def row (index : ℕ) (values : List String) : List Char :=
  let cells := values.mapIdx fun i value => cell (columnName (i + 1) ++ number index) value.toList
  ("<row r=\"" ++ String.ofList (number index) ++ "\">" ++ String.ofList cells.flatten ++
    "</row>").toList

/-- The namespace of worksheets. -/
def main : String := "http://schemas.openxmlformats.org/spreadsheetml/2006/main"

/-- The worksheet up to its rows. -/
def sheetHead (headers : List String) (count : ℕ) : List Char :=
  let lastColumn := columnName (max headers.length 1)
  let lastRow := number (max (count + 1) 1)
  ("<?xml version=\"1.0\" encoding=\"UTF-8\" standalone=\"yes\"?>" ++
    "<worksheet xmlns=\"" ++ main ++ "\">" ++
    "<dimension ref=\"A1:" ++ String.ofList lastColumn ++ String.ofList lastRow ++ "\"/>" ++
    "<sheetData>").toList

def sheetTail : String := "</sheetData></worksheet>"

/-- `_sheet`. -/
def sheet (headers : List String) (rows : List (List String)) : List Char :=
  sheetHead headers rows.length ++ row 1 headers ++
    (rows.mapIdx fun i values => row (i + 2) values).flatten ++ sheetTail.toList

/-- `_workbook`. -/
def workbook (sheetName : String) : String :=
  "<?xml version=\"1.0\" encoding=\"UTF-8\" standalone=\"yes\"?>" ++
    "<workbook xmlns=\"" ++ main ++ "\" " ++
    "xmlns:r=\"http://schemas.openxmlformats.org/officeDocument/2006/relationships\">" ++
    "<sheets><sheet name=\"" ++ String.ofList (escape sheetName.toList) ++
    "\" sheetId=\"1\" r:id=\"rId1\"/></sheets></workbook>"

def contentTypes : String :=
  "<?xml version=\"1.0\" encoding=\"UTF-8\" standalone=\"yes\"?>\n" ++
    "<Types xmlns=\"http://schemas.openxmlformats.org/package/2006/content-types\">\n" ++
    "  <Default Extension=\"rels\" ContentType=" ++
    "\"application/vnd.openxmlformats-package.relationships+xml\"/>\n" ++
    "  <Default Extension=\"xml\" ContentType=\"application/xml\"/>\n" ++
    "  <Override PartName=\"/xl/workbook.xml\" ContentType=" ++
    "\"application/vnd.openxmlformats-officedocument.spreadsheetml.sheet.main+xml\"/>\n" ++
    "  <Override PartName=\"/xl/worksheets/sheet1.xml\" ContentType=" ++
    "\"application/vnd.openxmlformats-officedocument.spreadsheetml.worksheet+xml\"/>\n" ++
    "</Types>\n"

/-- One relationship, in a part of its own. -/
def relationships (kind target : String) : String :=
  "<?xml version=\"1.0\" encoding=\"UTF-8\" standalone=\"yes\"?>\n" ++
    "<Relationships xmlns=\"http://schemas.openxmlformats.org/package/2006/relationships\">\n" ++
    "  <Relationship Id=\"rId1\" Type=" ++
    "\"http://schemas.openxmlformats.org/officeDocument/2006/relationships/" ++ kind ++
    "\" Target=\"" ++ target ++ "\"/>\n" ++
    "</Relationships>\n"

/-- A workbook with one worksheet. -/
def book (sheetName : String) (sheet : List Char) : Book :=
  [("[Content_Types].xml", contentTypes),
   ("_rels/.rels", relationships "officeDocument" "xl/workbook.xml"),
   ("xl/workbook.xml", workbook sheetName),
   ("xl/_rels/workbook.xml.rels", relationships "worksheet" "worksheets/sheet1.xml"),
   ("xl/worksheets/sheet1.xml", String.ofList sheet)]

/-- `build_xlsx`. -/
def buildXlsx (headers : List String) (rows : List (List String)) (sheetName : String) : Book :=
  book sheetName (sheet headers rows)

/-- An export under way: the rows so far are in a temporary file. -/
structure ExportFile where
  headers : List String
  count : ℕ := 0
  body : List Char

namespace ExportFile

/-- `__enter__`. -/
def enter (headers : List String) : ExportFile := { headers, body := row 1 headers }

def write (f : ExportFile) (values : List String) : ExportFile :=
  { f with count := f.count + 1, body := f.body ++ row (f.count + 1 + 1) values }

/-- `_finalize`. The temporary file is read back as a text, with uniform ends of lines. -/
def finalize (f : ExportFile) : Book :=
  book "sku-profit" (sheetHead f.headers f.count ++ lineEnds f.body ++ sheetTail.toList)

end ExportFile

/-- All rows are written, and the file is closed. -/
def exportXlsx (headers : List String) (rows : List (List String)) : Book :=
  (rows.foldl ExportFile.write (.enter headers)).finalize

/-! ### Reading -/

structure SpreadsheetError where
  message : String

def unreadable : SpreadsheetError := ⟨"表格无法解析"⟩

/-- `_local`. -/
def localName (tag : String) : String :=
  String.ofList (tag.toList.reverse.takeWhile (· ≠ '}')).reverse

/-- `_xml`. -/
def xml (read : String → Option Element) (payload : String) : Except SpreadsheetError Element :=
  let folded := payload.toList.map Char.toUpper
  if "<!DOCTYPE".toList <:+: folded ∨ "<!ENTITY".toList <:+: folded then .error unreadable
  else
    match read payload with
    | some root => .ok root
    | none => .error unreadable

/-- The texts below an element, joined. -/
def joined (e : Element) : String :=
  String.join ((e.iter.filter fun item => localName item.tag = "t").map (·.text))

/-- `_shared_strings`. -/
def sharedStrings (read : String → Option Element) (payload : String) :
    Except SpreadsheetError (List String) := do
  let root ← xml read payload
  return (root.children.filter fun node => localName node.tag = "si").map joined

/-- `_column_index`, of a reference with ASCII letters. -/
def columnIndex (ref : String) : Except SpreadsheetError ℕ :=
  let letters := ref.toList.filter Char.isAlpha
  if letters = [] then .error unreadable
  else .ok ((letters.map Char.toUpper).foldl (fun index c => index * 26 + (c.toNat - 64)) 0 - 1)

/-- An element of a list, where negative indices count from its end. -/
def pick (shared : List String) (i : ℤ) : Option String :=
  if 0 ≤ i then shared[i.toNat]? else if 0 ≤ shared.length + i then shared[(shared.length + i).toNat]?
  else none

/-- `_cell_text`. -/
def cellText (cell : Element) (shared : List String) : Except SpreadsheetError String :=
  let kind := cell.get "t"
  if kind = some "inlineStr" then .ok (Text.strip (joined cell))
  else
    let value :=
      match cell.children.find? fun item => localName item.tag = "v" with
      | some item => item.text
      | none => ""
    if kind = some "s" then
      match (Text.readInt value).bind (pick shared) with
      | some text => .ok (Text.strip text)
      | none => .error unreadable
    else .ok (Text.strip value)

/-- `int`, of the digits that a row's number is written with. -/
def rowNumber (s : String) : Except SpreadsheetError ℕ :=
  if s.toList ≠ [] ∧ s.toList.all Char.isDigit then .ok (Nat.ofDigitChars 10 s.toList 0)
  else .error unreadable

/-- The cells of a row, by their columns. The last one counts where two have one column. -/
def cellAt (cells : List (ℕ × String)) (column : ℕ) : String :=
  ((cells.filter fun c => c.1 = column).getLast?.map (·.2)).getD ""

/-- A row of a worksheet, unless it has no cells. -/
def sheetRow (shared : List String) (node : Element) :
    Except SpreadsheetError (Option (ℕ × List String)) := do
  let index ← rowNumber ((node.get "r").getD "0")
  let cells ← (node.children.filter fun cell => localName cell.tag = "c").mapM fun cell => do
    let column ← columnIndex ((cell.get "r").getD "A1")
    return (column, ← cellText cell shared)
  if cells = [] then return none
  else
    let width := (cells.map (·.1)).foldl max 0 + 1
    return some (index, (List.range width).map (cellAt cells))

/-- `_sheet_rows`. -/
def sheetRows (read : String → Option Element) (payload : String) (shared : List String) :
    Except SpreadsheetError (List (ℕ × List String)) := do
  let root ← xml read payload
  let rows ← (root.iter.filter fun node => localName node.tag = "row").mapM (sheetRow shared)
  return rows.filterMap id

/-- `_sheet_path`. -/
def sheetPath (names : List String) : Except SpreadsheetError String :=
  if "xl/worksheets/sheet1.xml" ∈ names then .ok "xl/worksheets/sheet1.xml"
  else
    let sheets := names.filter fun name =>
      "xl/worksheets/sheet".isPrefixOf name && name.endsWith ".xml"
    match sheets.insertionSort (· ≤ ·) with
    | first :: _ => .ok first
    | [] => .error unreadable

/-- `book.read`. -/
def readPart (book : Book) (name : String) : Except SpreadsheetError String :=
  match book.find? fun part => part.1 = name with
  | some part => .ok part.2
  | none => .error unreadable

/-- `_read_xlsx`. -/
def readXlsx (read : String → Option Element) (book : Book) :
    Except SpreadsheetError (List (ℕ × List String)) := do
  let names := book.map (·.1)
  let shared ← if "xl/sharedStrings.xml" ∈ names then do
      sharedStrings read (← readPart book "xl/sharedStrings.xml")
    else pure []
  let path ← sheetPath names
  sheetRows read (← readPart book path) shared

/-- `read_tabular`. -/
def readTabular (read : String → Option Element)
    (readCsv : Book → Except SpreadsheetError (List (ℕ × List String))) (book : Book)
    (filename : String) : Except SpreadsheetError (List (ℕ × List String)) :=
  let name := (Text.lower filename).toList
  if ".csv".toList <:+ name then readCsv book
  else if ".xlsx".toList <:+ name then readXlsx read book
  else .error ⟨"文件需要是 xlsx 或 csv"⟩

end CrossPilot.Sheets
