import CrossPilot.Finance.Reconcile
import CrossPilot.Lib.Context

/-!
# Imported settlements

The lines of a settlement file are stored with amounts of six decimals, and the header with their
sum. The gaps to the orders are computed from the lines when the file comes in, and again from the
stored items whenever the settlement is shown. Amounts are decimal numbers of Python, which may be
`NaN`, and sums are rounded to 28 digits.
-/

namespace CrossPilot.SettlementFile

open Decimals Groups Reconcile

inductive Exn
  | settlementFileInvalid (message : String)
  | paramInvalid (message : String)
  | notFound
  | mismatch (message : String)
  | invalidOperation
  | assertion
  | data
  deriving DecidableEq

/-- Arithmetic of `decimal`, where an invalid operation raises. -/
def operation {α : Type} : Option α → Except Exn α
  | none => .error .invalidOperation
  | some a => .ok a

/-- A sum to 28 digits. -/
def sumOf (amounts : List Extended) : Except Exn Extended := operation (Extended.sum 27 amounts)

/-- `quantize`. -/
def quantize (amount : Extended) : Except Exn Extended := operation (Extended.quantize 27 6 amount)

/-! ### The table of a file -/

structure Line where
  platformOrderId : String
  feeType : String
  amount : Extended
  currency : String
  deriving DecidableEq

/-- `str.upper` and `str.isalpha` of a character. -/
structure Letters where
  upper : String → String
  isalpha : Char → Bool

variable (letters : Letters)

def headerNames : List String := ["platform_order_id", "fee_type", "amount", "currency"]

/-- A cell, empty where a row is short. -/
def cellOf (cells : List String) (i : ℕ) : String := cells.getD i ""

/-- One row of `parse_settlement_table`. -/
def parseRow (row : ℤ × List String) : Except Exn Line := do
  let (number, cells) := row
  let platformOrderId := Text.strip (cellOf cells 0)
  let feeType := Text.strip (cellOf cells 1)
  if platformOrderId = "" ∨ 128 < platformOrderId.length then
    .error (.settlementFileInvalid s!"第 {number} 行订单号不合法")
  if feeType = "" ∨ 32 < feeType.length then
    .error (.settlementFileInvalid s!"第 {number} 行费用类型不合法")
  match Extended.ofText (cellOf cells 2) with
  | none => .error (.settlementFileInvalid s!"第 {number} 行金额不合法")
  | some amount =>
    let currency := letters.upper (Text.strip (cellOf cells 3))
    if currency.length ≠ 3 ∨ ¬ currency.toList.all letters.isalpha then
      .error (.settlementFileInvalid s!"第 {number} 行币种不合法")
    else .ok ⟨platformOrderId, feeType, amount, currency⟩

def parseSettlementTable (table : List (ℤ × List String)) : Except Exn (List Line) :=
  match table with
  | [] => .error (.settlementFileInvalid "结算文件是空的")
  | header :: rows =>
    if (header.2.map fun cell => Text.lower (Text.strip cell)).take 4 ≠ headerNames then
      .error (.settlementFileInvalid "表头必须是 platform_order_id,fee_type,amount,currency")
    else do
      let lines ← rows.mapM (parseRow letters)
      if lines = [] then .error (.settlementFileInvalid "结算文件没有明细") else .ok lines

/-! ### Lines beside orders -/

structure MatchedLine where
  platformOrderId : String
  feeType : String
  amount : Extended
  currency : String
  orderId : Option ℕ
  status : MatchStatus
  deriving DecidableEq

structure OrderGap where
  platformOrderId : String
  orderId : Option ℕ
  orderAmount : Option ℚ
  orderCurrency : Option String
  settlementAmount : Option Extended
  settlementCurrency : Option String
  deviation : Option Extended
  note : String
  deriving DecidableEq

/-- The difference of two amounts to 28 digits. The second is what a column holds. -/
def subtract (amount : Extended) (total : ℚ) : Except Exn Extended :=
  operation (Extended.add 27 amount (.finite (-total)))

/-- The sum of lines that have one currency. An empty one counts as none. -/
def settlementAmount (lines : List Line) : Except Exn (Option Extended) :=
  match (common (lines.map Line.currency)).filter (· ≠ "") with
  | none => .ok none
  | some _ => do return some (← quantize (← sumOf (lines.map Line.amount)))

/-- `_gap`. -/
def gap (platformOrderId : String) (lines : List Line) (order : Option OrderRef) :
    Except Exn OrderGap := do
  let currency := common (lines.map Line.currency)
  let amount ← settlementAmount lines
  match order with
  | none =>
    return ⟨platformOrderId, none, none, none, amount, currency, none, noteUnmatched⟩
  | some order =>
    let total := Decimals.quantize 6 order.totalAmount
    if currency ≠ some order.currency then
      return ⟨platformOrderId, some order.orderId, some total, some order.currency, amount, currency,
        none, noteCurrency⟩
    else
      match amount with
      | none => .error .assertion
      | some amount => do
        let deviation ← quantize (← subtract amount order.totalAmount)
        return ⟨platformOrderId, some order.orderId, some total, some order.currency, some amount,
          currency, some deviation, noteCompared⟩

/-- What the loop over the lines has gathered. -/
structure Gathered where
  matched : List MatchedLine := []
  grouped : List (String × List Line) := []
  hits : ℕ := 0

/-- One round of the loop. -/
def gather (orders : String → Option OrderRef) (seen : Gathered) (line : Line) :
    Except Exn Gathered := do
  let order := orders line.platformOrderId
  let listed : MatchedLine := {
    platformOrderId := line.platformOrderId
    feeType := line.feeType
    amount := ← quantize line.amount
    currency := line.currency
    orderId := order.map OrderRef.orderId
    status := if order.isSome then .matched else .unmatched }
  return {
    matched := seen.matched ++ [listed]
    grouped := place Line.platformOrderId seen.grouped line
    hits := if order.isSome then seen.hits + 1 else seen.hits }

/-- `reconcile`. -/
def reconcile (lines : List Line) (orders : String → Option OrderRef) :
    Except Exn (List MatchedLine × List OrderGap × ℚ) := do
  let seen ← lines.foldlM (gather orders) {}
  let gaps ← seen.grouped.mapM fun group => gap group.1 group.2 (orders group.1)
  let rate := if lines.length = 0 then 0
    else Decimals.quantize 6 (significant 27 ((seen.hits : ℚ) / lines.length))
  return (seen.matched, gaps, rate)

/-- `header_amount`. -/
def headerAmount (lines : List Line) (currency : String) : Except Exn Extended := do
  quantize (← sumOf ((lines.filter fun line => line.currency = currency).map Line.amount))

/-! ### The tables -/

structure Settlement where
  id : ℕ
  shopId : ℕ
  platformSettlementId : String
  periodStart : ℤ
  periodEnd : ℤ
  amount : Extended
  currency : String
  source : String
  lineCount : ℕ
  matchedCount : ℕ
  matchRate : ℚ
  idempotencyKey : Option String

structure SettlementItem where
  settlementId : ℕ
  platformOrderId : String
  orderId : Option ℕ
  feeType : String
  amount : Extended
  currency : String
  matchStatus : MatchStatus

/-- The tables, and the orders of each shop by their numbers on the platform. -/
structure Store where
  shops : List ℕ
  orders : ℕ → String → Option OrderRef
  settlements : List Settlement
  items : List SettlementItem
  nextId : ℕ

/-- An amount on its way into a `NUMERIC(20, 6)`, which may hold `NaN`. -/
def storeAmount : Extended → Except Exn Extended
  | .finite x =>
    if 10 ^ 14 ≤ |Decimals.quantize 6 x| then .error .data
    else .ok (.finite (Decimals.quantize 6 x))
  | .nan => .ok .nan
  | .infinite _ | .signaling => .error .data

/-- A text on its way into the database. -/
def storeText (text : String) : Except Exn String :=
  if Text.storable text then .ok text else .error .data

def storeItem (settlementId : ℕ) (line : MatchedLine) : Except Exn SettlementItem := do
  return {
    settlementId := settlementId
    platformOrderId := ← storeText line.platformOrderId
    orderId := line.orderId
    feeType := ← storeText line.feeType
    amount := ← storeAmount line.amount
    currency := line.currency
    matchStatus := line.status }

/-- `items_of`. -/
def itemsOf (s : Store) (settlementId : ℕ) : List SettlementItem :=
  s.items.filter fun item => item.settlementId = settlementId

/-- `_orders`. The query takes what a column holds. -/
def ordersFor (s : Store) (shopId : ℕ) (platformOrderIds : List String) :
    Except Exn (String → Option OrderRef) := do
  let _ ← platformOrderIds.mapM storeText
  return fun id => if id ∈ platformOrderIds then s.orders shopId id else none

/-! ### The service -/

/-- A settlement as it is shown. -/
structure Detail where
  row : Settlement
  items : List SettlementItem
  gaps : List OrderGap

def SettlementItem.line (item : SettlementItem) : Line :=
  ⟨item.platformOrderId, item.feeType, item.amount, item.currency⟩

/-- `_detail`. -/
def detail (s : Store) (row : Settlement) : Except Exn Detail := do
  let items := itemsOf s row.id
  let orders ← ordersFor s row.shopId (items.map SettlementItem.platformOrderId)
  let (_, gaps, _) ← reconcile (items.map SettlementItem.line) orders
  return ⟨row, items, gaps⟩

/-- `_clean_key`. -/
def cleanKey (value : Option String) : Option String :=
  (value.map fun text => Text.truncate 128 (Text.strip text)).filter (· ≠ "")

structure Request where
  filename : String
  shopId : ℕ
  platformSettlementId : String
  periodStart : ℤ
  periodEnd : ℤ
  currency : String
  idempotencyKey : Option String

/-- What is stored of a file whose table could be read. -/
def importTable (s : Store) (r : Request) (table : List (ℤ × List String)) :
    Except Exn (Store × Settlement) := do
  let lines ← parseSettlementTable letters table
  if r.shopId ∉ s.shops then .error .notFound
  let settlementNo := Text.strip r.platformSettlementId
  if settlementNo = "" ∨ 128 < settlementNo.length then .error (.paramInvalid "结算单号不合法")
  let settlementNo ← storeText settlementNo
  if s.settlements.any fun row =>
      row.shopId = r.shopId && row.platformSettlementId = settlementNo then
    .error (.mismatch "同一店铺的结算单号已导入")
  let orders ← ordersFor s r.shopId (lines.map Line.platformOrderId)
  let (matched, _, rate) ← reconcile lines orders
  let amount ← headerAmount lines r.currency
  let source := Text.truncate 500 (Text.strip r.filename)
  let row : Settlement := {
    id := s.nextId
    shopId := r.shopId
    platformSettlementId := settlementNo
    periodStart := r.periodStart
    periodEnd := r.periodEnd
    amount := ← storeAmount amount
    currency := r.currency
    source := ← storeText (if source = "" then "upload.csv" else source)
    lineCount := matched.length
    matchedCount := matched.countP fun line => line.status = .matched
    matchRate := rate
    idempotencyKey := cleanKey r.idempotencyKey }
  let items ← matched.mapM (storeItem row.id)
  return ({ s with
    settlements := s.settlements ++ [row]
    items := s.items ++ items
    nextId := s.nextId + 1 }, row)

def maxSheetBytes : ℕ := 2000000

/-- `import_file`, of a payload with its size and the table that is read from it, if any. -/
def importFile (s : Store) (r : Request) (size : ℕ) (table : Option (List (ℤ × List String))) :
    Except Exn (Store × Detail) := do
  if r.periodEnd < r.periodStart then .error (.paramInvalid "结束日不能早于开始日")
  match (cleanKey r.idempotencyKey).bind fun key =>
      s.settlements.find? fun row => row.idempotencyKey = some key with
  | some existing => return (s, ← detail s existing)
  | none =>
    if maxSheetBytes < size then .error (.settlementFileInvalid "结算文件过大")
    match table with
    | none => .error (.settlementFileInvalid "结算文件无法解析")
    | some table =>
      let (s', row) ← importTable letters s r table
      return (s', ← detail s' row)

end CrossPilot.SettlementFile
