import CrossPilot.Lib.DecimalText

/-!
# Numbers in texts

What Python's `Decimal(text)` makes of a text: a decimal number with or without exponent, an
infinity, no number at all, or an error.
-/

namespace Decimals

/-- What `Decimal(text)` can be. -/
inductive Numeral
  | number (d : Decimal)
  | nan
  deriving DecidableEq

namespace Numeral

def isFinite : Numeral → Bool
  | number (.finite _ _ _) => true
  | _ => false

/-- The bounds within which a `Decimal` is exact. -/
def maxExponent : ℤ := 999999999999999999

def minExponent : ℤ := -1999999999999999997

/-- The exponent of a number, after an `e`. -/
def readExponent : List Char → Option ℤ
  | [] => some 0
  | _ :: cs =>
    let (negative, cs) := Decimal.splitSign cs
    (Decimal.digitsOf cs).map fun n => if negative then -(n : ℤ) else n

def isExponentMark (c : Char) : Bool := c = 'e' || c = 'E'

/-- Digits with at most one point, and an exponent. -/
def readNumber (negative : Bool) (cs : List Char) : Option Numeral := do
  let (n, places) ← Decimal.readPositional (cs.takeWhile fun c => !isExponentMark c)
  let scale ← readExponent (cs.dropWhile fun c => !isExponentMark c)
  let exponent := scale - places
  if exponent + (Nat.toDigits 10 n).length - 1 ≤ maxExponent ∧ minExponent ≤ exponent then
    some (number (.finite negative n exponent))
  else none

/-- The digits that `NaN` may carry. -/
def isPayload (cs : List Char) : Bool := cs.all fun c => (Text.digitValue c).isSome

/-- Behind the sign. -/
def readUnsigned (negative : Bool) (cs : List Char) : Option Numeral :=
  let lower := cs.map Char.toLower
  if lower = "inf".toList ∨ lower = "infinity".toList then some (number (.infinite negative))
  else if lower.take 3 = "nan".toList then (if isPayload (lower.drop 3) then some nan else none)
  else if lower.take 4 = "snan".toList then (if isPayload (lower.drop 4) then some nan else none)
  else readNumber negative cs

/-- `Decimal(text)`. Blanks around the number and underscores are passed over. -/
def ofText (s : String) : Option Numeral :=
  let (negative, cs) := Decimal.splitSign ((Text.stripChars s.toList).filter (· ≠ '_'))
  readUnsigned negative cs

end Numeral

end Decimals
