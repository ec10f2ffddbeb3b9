import CrossPilot.Lib.Decimals
import CrossPilot.Lib.Text

/-!
# Decimal numbers and their texts

A decimal number keeps its digits and an exponent, as Python's `Decimal` does: `1.5` and `1.50` are
equal and written differently. `format(d, "f")` writes it without exponent, and reading the text
gives an equal number (`value_ofText_format`).
-/

namespace Decimals

/-- A decimal number that is not `NaN`. -/
inductive Decimal
  | finite (negative : Bool) (digits : ℕ) (exponent : ℤ)
  | infinite (negative : Bool)
  deriving DecidableEq

namespace Decimal

/-- Digits and how many of them stand behind the point. -/
def shifted (digits : ℕ) (exponent : ℤ) : ℕ × ℕ :=
  if 0 ≤ exponent then (digits * 10 ^ exponent.toNat, 0) else (digits, (-exponent).toNat)

def sign (negative : Bool) : String := if negative then "-" else ""

/-- Digits with a point in front of the last `k`. -/
def positional (n k : ℕ) : String :=
  if k = 0 then toString n else toString (n / 10 ^ k) ++ "." ++ padded k (n % 10 ^ k)

/-- `format(d, "f")`. -/
def format : Decimal → String
  | finite negative digits exponent =>
    sign negative ++ positional (shifted digits exponent).1 (shifted digits exponent).2
  | infinite negative => sign negative ++ "Infinity"

/-- The number, or the sign of an infinity. -/
def value : Decimal → ℚ ⊕ Bool
  | finite negative digits exponent =>
    let amount : ℚ := (shifted digits exponent).1 / 10 ^ (shifted digits exponent).2
    .inl (if negative then -amount else amount)
  | infinite negative => .inr negative

/-- The digits of a text. -/
def digitsOf (cs : List Char) : Option ℕ :=
  if cs = [] then none
  else cs.foldlM (fun n c => (Text.digitValue c).map fun d => n * 10 + d) 0

/-- Digits with at most one point. -/
def readPositional (cs : List Char) : Option (ℕ × ℕ) :=
  let whole := cs.takeWhile (· != '.')
  let fraction := (cs.dropWhile (· != '.')).tail
  (digitsOf (whole ++ fraction)).map fun n => (n, fraction.length)

/-- Whether a text begins with a minus, and what follows its sign. -/
def splitSign (cs : List Char) : Bool × List Char :=
  if cs.head? = some '-' then (true, cs.tail)
  else if cs.head? = some '+' then (false, cs.tail)
  else (false, cs)

/-- `Decimal(text)` of a text without exponent. -/
def ofText (text : String) : Option Decimal :=
  let (negative, cs) := splitSign text.toList
  if cs = "Infinity".toList then some (infinite negative)
  else (readPositional cs).map fun p => finite negative p.1 (-(p.2 : ℤ))

/-! ### Reading what was written -/

/-- What is read before a digit is worth ten times as much behind it. -/
def push (n : ℕ) (c : Char) : Option ℕ := (Text.digitValue c).map fun d => n * 10 + d

lemma foldlM_toDigits (a n : ℕ) :
    (Nat.toDigits 10 n).foldlM push a = some (a * 10 ^ (Nat.toDigits 10 n).length + n) := by
  induction n using Nat.strong_induction_on with
  | _ n ih =>
    rw [Nat.toDigits_eq_if (by decide)]
    split_ifs with hn
    · simp [push, Text.digitValue_digitChar hn]
    · have hmod : n % 10 < 10 := Nat.mod_lt n (by decide)
      rw [List.foldlM_append, ih (n / 10) (by omega)]
      simp only [Option.bind_eq_bind, Option.bind_some, List.foldlM_cons, List.foldlM_nil, push,
        Text.digitValue_digitChar hmod, Option.map_some, Option.pure_def, List.length_append,
        List.length_singleton, Option.some.injEq]
      rw [pow_succ, ← mul_assoc]
      omega

lemma foldlM_zeros (a j : ℕ) : (List.replicate j '0').foldlM push a = some (a * 10 ^ j) := by
  have hzero : Text.digitValue '0' = some 0 := by decide
  induction j generalizing a with
  | zero => simp
  | succ j ih =>
    rw [List.replicate_succ, List.foldlM_cons, push, hzero]
    simp only [Option.map_some, Option.bind_eq_bind, Option.bind_some, add_zero]
    rw [ih, pow_succ']
    congr 1
    ring

lemma toList_padded (k n : ℕ) : (padded k n).toList =
    List.replicate (k - (Nat.toDigits 10 n).length) '0' ++ Nat.toDigits 10 n := by
  have hrepr : toString n = n.repr := rfl
  simp [padded, hrepr, String.toList_append, ← String.length_toList]

/-- A number of at most `k` digits fills them all. -/
lemma length_padded {k n : ℕ} (hk : 0 < k) (h : n < 10 ^ k) : (padded k n).toList.length = k := by
  have hle := (Nat.length_toDigits_le_iff (by decide) hk).mpr h
  rw [toList_padded, List.length_append, List.length_replicate]
  omega

lemma foldlM_padded (a : ℕ) {k n : ℕ} (hk : 0 < k) (h : n < 10 ^ k) :
    (padded k n).toList.foldlM push a = some (a * 10 ^ k + n) := by
  have hle := (Nat.length_toDigits_le_iff (by decide) hk).mpr h
  rw [toList_padded, List.foldlM_append, foldlM_zeros]
  simp only [Option.bind_eq_bind, Option.bind_some, foldlM_toDigits]
  rw [mul_assoc, ← pow_add, Nat.sub_add_cancel hle]

lemma ne_of_mem_toDigits {n : ℕ} {c p : Char} (hc : c ∈ Nat.toDigits 10 n)
    (hp : p.isDigit = false) : c ≠ p := by
  rintro rfl
  have hdigit := Nat.isDigit_of_mem_toDigits (by decide) (by decide) hc
  rw [hp] at hdigit
  cases hdigit

lemma toList_positional_zero (n : ℕ) : (positional n 0).toList = Nat.toDigits 10 n := by
  have hrepr : toString n = n.repr := rfl
  simp [positional, hrepr]

lemma toList_positional {k : ℕ} (hk : 0 < k) (n : ℕ) : (positional n k).toList =
    Nat.toDigits 10 (n / 10 ^ k) ++ '.' :: (padded k (n % 10 ^ k)).toList := by
  have hrepr : toString (n / 10 ^ k) = (n / 10 ^ k).repr := rfl
  simp [positional, hrepr, String.toList_append, hk.ne']

/-- The text begins with a digit. -/
lemma exists_toList_positional (n k : ℕ) :
    ∃ c cs m, (positional n k).toList = c :: cs ∧ c ∈ Nat.toDigits 10 m := by
  have hne (m : ℕ) : ∃ c cs, Nat.toDigits 10 m = c :: cs :=
    List.exists_cons_of_ne_nil Nat.toDigits_ne_nil
  obtain rfl | hk := Nat.eq_zero_or_pos k
  · obtain ⟨c, cs, h⟩ := hne n
    exact ⟨c, cs, n, (toList_positional_zero n).trans h, by simp [h]⟩
  · obtain ⟨c, cs, h⟩ := hne (n / 10 ^ k)
    exact ⟨c, _, n / 10 ^ k, by rw [toList_positional hk, h, List.cons_append], by simp [h]⟩

lemma readPositional_positional (n k : ℕ) :
    readPositional (positional n k).toList = some (n, k) := by
  have hall (m : ℕ) : ∀ c ∈ Nat.toDigits 10 m, (c != '.') = true := fun c hc => by
    simpa using ne_of_mem_toDigits hc (by decide)
  obtain rfl | hk := Nat.eq_zero_or_pos k
  · have hdrop : (Nat.toDigits 10 n).dropWhile (· != '.') = [] :=
      List.dropWhile_eq_nil_iff.mpr (hall n)
    simp only [readPositional, toList_positional_zero, List.takeWhile_eq_self_iff.mpr (hall n),
      hdrop, List.tail_nil, List.append_nil, digitsOf, if_neg Nat.toDigits_ne_nil,
      List.length_nil]
    change Option.map _ ((Nat.toDigits 10 n).foldlM push 0) = _
    rw [foldlM_toDigits]
    simp
  · have hmod : n % 10 ^ k < 10 ^ k := Nat.mod_lt n (by positivity)
    have htake : (positional n k).toList.takeWhile (· != '.') = Nat.toDigits 10 (n / 10 ^ k) := by
      rw [toList_positional hk, List.takeWhile_append_of_pos (hall _)]
      simp
    have hdrop : (positional n k).toList.dropWhile (· != '.') =
        '.' :: (padded k (n % 10 ^ k)).toList := by
      rw [toList_positional hk, List.dropWhile_append_of_pos (hall _)]
      simp
    simp only [readPositional, htake, hdrop, List.tail_cons, length_padded hk hmod, digitsOf,
      List.append_eq_nil_iff, Nat.toDigits_ne_nil, false_and, if_false]
    change Option.map _ ((Nat.toDigits 10 (n / 10 ^ k) ++
      (padded k (n % 10 ^ k)).toList).foldlM push 0) = _
    rw [List.foldlM_append, foldlM_toDigits]
    simp only [Option.bind_eq_bind, Option.bind_some, foldlM_padded _ hk hmod, Option.map_some,
      zero_mul, zero_add]
    rw [Nat.div_add_mod']

lemma splitSign_append {cs : List Char} {c : Char} {rest : List Char} (hcs : cs = c :: rest)
    (hminus : c ≠ '-') (hplus : c ≠ '+') (negative : Bool) :
    splitSign ((sign negative).toList ++ cs) = (negative, cs) := by
  subst hcs
  cases negative
  · simp [splitSign, sign, hminus, hplus]
  · simp [splitSign, sign]

lemma shifted_neg (n k : ℕ) : shifted n (-(k : ℤ)) = (n, k) := by
  simp only [shifted]
  split_ifs with hk
  · obtain rfl : k = 0 := by omega
    simp
  · simp

/-- A text without exponent is read as an equal number. -/
theorem value_ofText_format (d : Decimal) :
    ∃ d', ofText d.format = some d' ∧ d'.value = d.value := by
  cases d with
  | infinite negative =>
    refine ⟨.infinite negative, ?_, rfl⟩
    cases negative <;> decide
  | finite negative digits exponent =>
    rcases hshift : shifted digits exponent with ⟨n, k⟩
    obtain ⟨c, cs, m, hlist, hc⟩ := exists_toList_positional n k
    refine ⟨.finite negative n (-(k : ℤ)), ?_, ?_⟩
    · have hbody : (positional n k).toList ≠ "Infinity".toList := by
        rw [hlist]
        intro h
        exact ne_of_mem_toDigits hc (by decide) (List.cons.inj h).1
      simp only [ofText, format, hshift, String.toList_append,
        splitSign_append hlist (ne_of_mem_toDigits hc (by decide))
          (ne_of_mem_toDigits hc (by decide)), if_neg hbody, readPositional_positional,
        Option.map_some]
    · simp only [value, shifted_neg, hshift]

/-! ### Amounts of a column -/

variable {k : ℕ}

/-- The number that a column of `k` decimals holds. -/
def ofColumn (k : ℕ) (x : ℚ) : Decimal := finite (decide (x < 0)) (units k x).toNat (-(k : ℤ))

lemma format_ofColumn (hk : 0 < k) (x : ℚ) : (ofColumn k x).format = text k x := by
  by_cases hx : x < 0 <;>
    simp [ofColumn, format, shifted_neg, positional, hk.ne', text, sign, hx, String.append_assoc]

lemma units_nonneg (k : ℕ) (x : ℚ) : 0 ≤ units k x := by
  apply Int.floor_nonneg.mpr
  positivity

lemma value_ofColumn (k : ℕ) (x : ℚ) : (ofColumn k x).value = .inl (quantize k x) := by
  have hcast : (((units k x).toNat : ℕ) : ℚ) = units k x := by
    rw [← Int.cast_natCast, Int.toNat_of_nonneg (units_nonneg k x)]
  simp only [ofColumn, value, shifted_neg, hcast, quantize, decide_eq_true_eq]

/-- An amount of a column is read as it was written. -/
lemma ofText_text (hk : 0 < k) (x : ℚ) :
    ∃ d, ofText (text k x) = some d ∧ d.value = .inl (quantize k x) := by
  obtain ⟨d, hd, hvalue⟩ := value_ofText_format (ofColumn k x)
  rw [format_ofColumn hk] at hd
  exact ⟨d, hd, hvalue.trans (value_ofColumn k x)⟩

end Decimal

end Decimals
