import CrossPilot.Lib.DigitStrings

/-!
# Amounts as they are shown

Amounts come as decimal strings and are rounded and grouped as strings, without a number in between.
A string that is no amount is refused, which is `none` here.
-/

namespace CrossPilot.Frontend.Money

open DigitStrings

/-! ### Strings of amounts -/

/-- What `trim` takes away at both ends. -/
def isSpace (c : Char) : Bool :=
  let n := c.toNat
  (9 ≤ n && n ≤ 13) || n = 0x20 || n = 0xA0 || n = 0x1680 || (0x2000 ≤ n && n ≤ 0x200A) ||
    n = 0x2028 || n = 0x2029 || n = 0x202F || n = 0x205F || n = 0x3000 || n = 0xFEFF

/-- `trim`. -/
def trim (cs : List Char) : List Char :=
  ((cs.dropWhile isSpace).reverse.dropWhile isSpace).reverse

/-- Whether a string starts with a minus, and what comes after it. -/
def splitSign (cs : List Char) : Bool × List Char :=
  if cs.head? = some '-' then (true, cs.tail) else (false, cs)

/-- `DECIMAL_PATTERN`. -/
def isDecimal (cs : List Char) : Bool :=
  let unsigned := (splitSign cs).2
  let rest := unsigned.dropWhile Char.isDigit
  unsigned.takeWhile Char.isDigit ≠ [] &&
    (rest = [] || (rest.head? = some '.' && rest.tail ≠ [] && rest.tail.all Char.isDigit))

/-- The parts before and after the first point. -/
def splitPoint (cs : List Char) : List Char × Option (List Char) :=
  (cs.takeWhile (· ≠ '.'),
    match cs.dropWhile (· ≠ '.') with
    | [] => none
    | _ :: rest => some (rest.takeWhile (· ≠ '.')))

/-- Zeros in front of another digit are left out. -/
def stripZeros : List Char → List Char
  | '0' :: c :: cs => if c.isDigit then stripZeros (c :: cs) else '0' :: c :: cs
  | cs => cs

/-- The fraction behind its point, if there is one. -/
def withFraction (whole : List Char) : Option (List Char) → List Char
  | none => whole
  | some fraction => whole ++ '.' :: fraction

def withSign (negative : Bool) (cs : List Char) : List Char := if negative then '-' :: cs else cs

/-- `normalizeDecimalString`. -/
def normalizeDecimalString (raw : String) : Option String :=
  let trimmed := trim raw.toList
  if ¬ isDecimal trimmed then none
  else
    let (negative, unsigned) := splitSign trimmed
    let (whole, fraction) := splitPoint unsigned
    some (String.ofList (withSign negative (withFraction (stripZeros whole) fraction)))

/-! ### Rounding -/

/-- `incrementIntegerString`. -/
def incrementIntegerString (cs : List Char) : List Char :=
  let (digits, carry) := increment cs
  if carry then '1' :: digits else digits

/-- `isZero`. -/
def isZero (cs : List Char) : Bool :=
  match cs with
  | ['0'] => true
  | '0' :: '.' :: fraction => fraction.all (· = '0')
  | _ => false

/-- The digits of an amount, rounded to a number of decimals. -/
def roundDigits (whole fraction : List Char) (decimals : ℕ) : List Char × List Char :=
  let padded := fraction ++ List.replicate (decimals + 1 - fraction.length) '0'
  let kept := padded.take decimals
  -- the digit after those that are kept decides
  if roundsUp (padded.getD decimals '0') then
    if decimals = 0 then (incrementIntegerString whole, kept)
    else
      let (digits, carry) := increment kept
      (if carry then incrementIntegerString whole else whole, digits)
  else (whole, kept)

/-- `roundDecimalString`. -/
def roundDecimalString (value : String) (decimals : ℕ) : Option String :=
  (normalizeDecimalString value).map fun normalized =>
    let (negative, unsigned) := splitSign normalized.toList
    let (whole, fraction) := splitPoint unsigned
    let (whole, fraction) := roundDigits whole (fraction.getD []) decimals
    let body := if decimals = 0 then whole else whole ++ '.' :: fraction
    String.ofList (withSign (negative && !isZero body) body)

/-! ### Thousands -/

/-- What a regular expression takes for a part of a word. -/
def isWord (c : Char) : Bool := c.isAlphanum || c = '_'

/-- Digits follow, in threes, and then no other digit. -/
def threesFollow (cs : List Char) : Bool :=
  let run := (cs.takeWhile Char.isDigit).length
  run ≠ 0 && run % 3 = 0

/-- Separators go where there is no boundary of a word and threes follow. -/
def groupFrom (before : Bool) : List Char → List Char
  | [] => []
  | c :: cs =>
    (if before == isWord c && threesFollow (c :: cs) then [','] else []) ++
      c :: groupFrom (isWord c) cs

/-- `groupThousands`. -/
def groupThousands (cs : List Char) : List Char := groupFrom false cs

/-! ### What is shown -/

/-- `CURRENCY_SYMBOLS`. -/
def currencySymbols : List (String × String) :=
  [("CNY", "¥"), ("USD", "$"), ("EUR", "€"), ("GBP", "£"), ("JPY", "¥"), ("HKD", "HK$"),
    ("SGD", "S$"), ("MYR", "RM"), ("THB", "฿"), ("IDR", "Rp"), ("PHP", "₱"), ("VND", "₫"),
    ("TWD", "NT$"), ("BRL", "R$"), ("MXN", "MX$"), ("AUD", "A$"), ("CAD", "C$"), ("KRW", "₩")]

structure FormatMoneyOptions where
  currency : String := "CNY"
  decimals : ℕ := 2
  showSymbol : Bool := true
  showCode : Bool := false
  grouping : Bool := true
  fallback : String := "—"

/-- `formatMoney`. -/
def formatMoney (value : Option String) (options : FormatMoneyOptions) : String :=
  match value.filter (· ≠ "") with
  | none => options.fallback
  | some value =>
    match roundDecimalString value options.decimals with
    | none => options.fallback
    | some rounded =>
      let (negative, unsigned) := splitSign rounded.toList
      let (whole, fraction) := splitPoint unsigned
      let number := withFraction (if options.grouping then groupThousands whole else whole) fraction
      let symbol := if options.showSymbol then (currencySymbols.lookup options.currency).getD ""
        else ""
      let code := if options.showCode then " " ++ options.currency else ""
      (if negative then "-" else "") ++ symbol ++ String.ofList number ++ code

/-- `isNegativeMoney`. -/
def isNegativeMoney (value : Option String) : Bool :=
  match value.filter (· ≠ "") with
  | none => false
  | some value =>
    match normalizeDecimalString value with
    | none => false
    | some normalized => (splitSign normalized.toList).1

end CrossPilot.Frontend.Money
