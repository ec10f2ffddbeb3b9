import CrossPilot.Lib.Dict
import CrossPilot.Lib.Numerals

/-!
# Products from a sheet

The rows of an uploaded sheet are read into drafts of products, each with one SKU. If a row has an
error, no product is written. Reading a row, validating its draft, looking its code up and storing it
raise exceptions of different kinds, and the import answers with one of them.

The model starts from the cells. Texts are stored in columns of PostgreSQL, which have no place for
the character zero, and measures in columns with six decimals.
-/

namespace CrossPilot.ProductSheet

open Decimals

/-! ### Exceptions -/

structure RowError where
  row : ℤ
  column : String
  message : String
  deriving DecidableEq

/-- What an import may raise: its own error with the rows, another error of the application,
`decimal.InvalidOperation`, a `ValidationError` of the schema, or an error of the database. -/
inductive Exn
  | productImport (rows : List RowError)
  | app (code : ℕ) (message : String)
  | invalidOperation
  | validation (message : String)
  | integrity (constraint : String)
  | data
  deriving DecidableEq

/-! ### Columns of a sheet -/

inductive Column
  | skuCode | title | brand | barcode | weightG | lengthCm | widthCm | heightCm | status
  deriving DecidableEq

namespace Column

/-- The field of the column. -/
def key : Column → String
  | skuCode => "sku_code"
  | title => "title"
  | brand => "brand"
  | barcode => "barcode"
  | weightG => "weight_g"
  | lengthCm => "length_cm"
  | widthCm => "width_cm"
  | heightCm => "height_cm"
  | status => "status"

def label : Column → String
  | skuCode => "SKU编码"
  | title => "商品标题"
  | brand => "品牌"
  | barcode => "条码"
  | weightG => "重量克"
  | lengthCm => "长厘米"
  | widthCm => "宽厘米"
  | heightCm => "高厘米"
  | status => "状态"

def all : List Column :=
  [skuCode, title, brand, barcode, weightG, lengthCm, widthCm, heightCm, status]

/-- `_REQUIRED`. -/
def required : List Column := [skuCode, title, weightG, lengthCm, widthCm, heightCm]

/-- The columns that hold numbers. -/
def measures : List Column := [weightG, lengthCm, widthCm, heightCm]

/-- `_HEADER_KEYS.get`. -/
def ofHeader (text : String) : Option Column := all.find? fun c => text = c.key ∨ text = c.label

end Column

/-- `_columns`: the first column with a header counts. -/
def columnsOf (header : List String) : Dict Column ℕ :=
  header.zipIdx.foldl (fun found c =>
    match Column.ofHeader (Text.strip c.1) with
    | some column => if (found.get column).isNone then found.set column c.2 else found
    | none => found) .empty

/-- `_cell`. -/
def cellOf (columns : Dict Column ℕ) (cells : List String) (column : Column) : String :=
  ((columns.get column).bind fun index => cells[index]?.map Text.strip).getD ""

/-! ### Drafts -/

/-- `clean_text`. -/
def cleanText (limit : ℕ) : Option String → Except Exn (Option String)
  | none => .ok none
  | some value =>
    let text := Text.strip value
    if text = "" then .ok none
    else if limit < text.length then .error (.validation "过长")
    else .ok (some text)

/-- Whether a number is greater than zero. -/
def isPositive : Decimal → Bool
  | .finite negative digits _ => !negative && digits ≠ 0
  | .infinite negative => !negative

/-- `positive_decimal` of a number, and the check of the field, which has no place for infinities. -/
def positiveDecimal : Decimal → Except Exn Decimal
  | .finite negative digits exponent =>
    if isPositive (.finite negative digits exponent) then .ok (.finite negative digits exponent)
    else .error (.validation "必须大于 0")
  | .infinite negative =>
    if negative then .error (.validation "必须大于 0")
    else .error (.validation "Input should be a finite number")

structure SkuWrite where
  skuCode : String
  barcode : Option String
  weightG : Decimal
  lengthCm : Decimal
  widthCm : Decimal
  heightCm : Decimal
  deriving DecidableEq

/-- A text that has to be there, of a limited length. -/
def requireText (limit : ℕ) (value : String) : Except Exn String :=
  let text := Text.strip value
  if text = "" ∨ limit < text.length then .error (.validation "不能为空") else .ok text

def SkuWrite.validate (w : SkuWrite) : Except Exn SkuWrite := do
  return {
    skuCode := ← requireText 64 w.skuCode
    barcode := ← cleanText 64 w.barcode
    weightG := ← positiveDecimal w.weightG
    lengthCm := ← positiveDecimal w.lengthCm
    widthCm := ← positiveDecimal w.widthCm
    heightCm := ← positiveDecimal w.heightCm }

structure SpuCreate where
  title : String
  brand : Option String
  status : String := "DRAFT"
  sku : SkuWrite
  deriving DecidableEq

def SpuCreate.validate (d : SpuCreate) : Except Exn SpuCreate := do
  return {
    title := ← requireText 256 d.title
    brand := ← cleanText 128 d.brand
    status := d.status
    sku := d.sku }

/-! ### Rows -/

/-- `_positive`. Comparing `NaN` raises. -/
def positive (text : String) : Except Exn (Option Decimal) :=
  if text = "" then .ok none
  else
    match Numeral.ofText text with
    | none => .ok none
    | some .nan => .error .invalidOperation
    | some (.number d) => .ok (if isPositive d then some d else none)

/-- `_optional`: the text of a cell, and an error if it is too long. -/
def optional (columns : Dict Column ℕ) (cells : List String) (column : Column) (limit : ℕ)
    (number : ℤ) : Option String × List RowError :=
  let text := cellOf columns cells column
  if text = "" then (none, [])
  else if limit < text.length then
    (none, [⟨number, column.key, s!"不能超过 {limit} 个字符"⟩])
  else (some text, [])

structure Parsed where
  errors : List RowError := []
  drafts : List (ℤ × SpuCreate) := []
  seen : Finset String := ∅

/-- The errors of a row but for its numbers. -/
def textErrors (columns : Dict Column ℕ) (seen : Finset String) (number : ℤ)
    (cells : List String) : List RowError :=
  let skuCode := cellOf columns cells .skuCode
  let title := cellOf columns cells .title
  (if skuCode = "" ∨ 64 < skuCode.length then
      [⟨number, Column.skuCode.key, "SKU 编码不能为空，且不超过 64 个字符"⟩]
    else if skuCode ∈ seen then [⟨number, Column.skuCode.key, "文件里 SKU 编码重复"⟩]
    else []) ++
  (if title = "" ∨ 256 < title.length then
      [⟨number, Column.title.key, "商品标题不能为空，且不超过 256 个字符"⟩]
    else []) ++
  (optional columns cells .brand 128 number).2 ++ (optional columns cells .barcode 64 number).2

/-- A number that is missing or not positive. -/
def measureErrors (number : ℤ) (column : Column) : Option Decimal → List RowError
  | none => [⟨number, column.key, "必须是大于 0 的十进制数字"⟩]
  | some _ => []

/-- `_parse_row`. A code that may be used is noted, whatever else is wrong with its row. -/
def parseRow (columns : Dict Column ℕ) (p : Parsed) (row : ℤ × List String) :
    Except Exn Parsed := do
  let (number, cells) := row
  let skuCode := cellOf columns cells .skuCode
  let seen := if skuCode = "" ∨ 64 < skuCode.length then p.seen else insert skuCode p.seen
  let weight ← positive (cellOf columns cells .weightG)
  let length ← positive (cellOf columns cells .lengthCm)
  let width ← positive (cellOf columns cells .widthCm)
  let height ← positive (cellOf columns cells .heightCm)
  let errors := textErrors columns p.seen number cells ++ measureErrors number .weightG weight ++
    measureErrors number .lengthCm length ++ measureErrors number .widthCm width ++
    measureErrors number .heightCm height
  match errors, weight, length, width, height with
  | [], some weight, some length, some width, some height =>
    let sku ← SkuWrite.validate ⟨skuCode, (optional columns cells .barcode 64 number).1, weight,
      length, width, height⟩
    let draft ← SpuCreate.validate {
      title := cellOf columns cells .title
      brand := (optional columns cells .brand 128 number).1
      sku := sku }
    return { p with drafts := p.drafts ++ [(number, draft)], seen := seen }
  | errors, _, _, _, _ => return { p with errors := p.errors ++ errors, seen := seen }

/-! ### The tables -/

structure Spu where
  id : ℕ
  title : String
  brand : Option String
  status : String
  deriving DecidableEq

structure Sku where
  id : ℕ
  spuId : ℕ
  skuCode : String
  barcode : Option String
  weightG : ℚ
  lengthCm : ℚ
  widthCm : ℚ
  heightCm : ℚ
  purchasePrice : Option ℚ := none
  currency : Option String := none
  deleted : Bool := false
  deriving DecidableEq

structure Store where
  spus : List Spu
  skus : List Sku
  nextId : ℕ
  deriving DecidableEq

/-- A text on its way into the database. -/
def storeText (text : String) : Except Exn String :=
  if Text.storable text then .ok text else .error .data

def storeOptional : Option String → Except Exn (Option String)
  | none => .ok none
  | some text => (storeText text).map some

/-- A number on its way into a `NUMERIC(20, 6)`. It may have 16383 decimals on the way. -/
def storeNumeric : Decimal → Except Exn ℚ
  | .infinite _ => .error .data
  | .finite negative digits exponent =>
    match Decimal.value (.finite negative digits exponent) with
    | .inr _ => .error .data
    | .inl x =>
      if exponent < -16383 ∨ 10 ^ 14 ≤ |quantize 6 x| then .error .data else .ok (quantize 6 x)

/-- `code_taken`. -/
def codeTaken (s : Store) (skuCode : String) : Except Exn Bool := do
  let skuCode ← storeText skuCode
  return s.skus.any fun sku => !sku.deleted && sku.skuCode = skuCode

def skuCodeDuplicated : Exn := .app 40001 "SKU 编码重复"

/-- `_ensure_code_free`. -/
def ensureCodeFree (s : Store) (skuCode : String) : Except Exn Unit := do
  if ← codeTaken s skuCode then .error skuCodeDuplicated else .ok ()

/-- `spus.add`. -/
def addSpu (s : Store) (d : SpuCreate) : Except Exn (Store × Spu) := do
  let spu : Spu := ⟨s.nextId, ← storeText d.title, ← storeOptional d.brand, d.status⟩
  return ({ s with spus := s.spus ++ [spu], nextId := s.nextId + 1 }, spu)

/-- `skus.add`: the constraints are checked on what is stored. -/
def addSku (s : Store) (spuId : ℕ) (w : SkuWrite) : Except Exn Store := do
  let sku : Sku := {
    id := s.nextId
    spuId := spuId
    skuCode := ← storeText w.skuCode
    barcode := ← storeOptional w.barcode
    weightG := ← storeNumeric w.weightG
    lengthCm := ← storeNumeric w.lengthCm
    widthCm := ← storeNumeric w.widthCm
    heightCm := ← storeNumeric w.heightCm }
  if ¬ (0 < sku.weightG ∧ 0 < sku.lengthCm ∧ 0 < sku.widthCm ∧ 0 < sku.heightCm) then
    .error (.integrity "measures")
  else if s.skus.any fun other => !other.deleted && other.skuCode = sku.skuCode then
    .error skuCodeDuplicated
  else .ok { s with skus := s.skus ++ [sku], nextId := s.nextId + 1 }

/-- `create_spu`, of a draft with one SKU and without a price. -/
def createSpu (s : Store) (d : SpuCreate) : Except Exn Store := do
  ensureCodeFree s d.sku.skuCode
  let (s, spu) ← addSpu s d
  addSku s spu.id d.sku

/-! ### The import -/

def maxImportRows : ℕ := 500

/-- The errors of the header and of the number of rows. -/
def headerErrors (header : ℤ × List String) (data : List (ℤ × List String)) : List RowError :=
  let columns := columnsOf header.2
  ((Column.required.filter fun c => (columns.get c).isNone).map fun c =>
      (⟨header.1, c.key, s!"缺少列：{c.label}"⟩ : RowError)) ++
    match data[maxImportRows]? with
    | some row => [⟨row.1, "", s!"单次最多导入 {maxImportRows} 行"⟩]
    | none => []

/-- The drafts whose codes are taken. -/
def takenErrors (s : Store) (drafts : List (ℤ × SpuCreate)) : Except Exn (List RowError) :=
  drafts.foldlM (fun errors draft => do
    if ← codeTaken s draft.2.sku.skuCode then
      return errors ++ [⟨draft.1, Column.skuCode.key, "SKU 编码已存在"⟩]
    else return errors) []

/-- `import_file`, of the cells of a file. An exception undoes the transaction. -/
def importFile (table : List (ℤ × List String)) (s : Store) : Except Exn (Store × ℕ) :=
  match table with
  | [] => .error (.productImport [⟨1, "", "表格是空的"⟩])
  | header :: data => do
    if headerErrors header data ≠ [] then .error (.productImport (headerErrors header data))
    let p ← data.foldlM (parseRow (columnsOf header.2)) {}
    let errors := p.errors ++ if data = [] then [⟨header.1, "", "没有数据行"⟩] else []
    if errors ≠ [] then .error (.productImport errors)
    let taken ← takenErrors s p.drafts
    if taken ≠ [] then .error (.productImport taken)
    let s ← p.drafts.foldlM (fun s draft => createSpu s draft.2) s
    return (s, p.drafts.length)

end CrossPilot.ProductSheet
