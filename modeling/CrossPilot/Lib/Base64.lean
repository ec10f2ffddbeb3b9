import Mathlib.Data.List.Basic
import Mathlib.Tactic

/-!
# Base64 for URLs

Bytes as letters, digits, `-` and `_`, written without padding and read as Python's
`urlsafe_b64decode` does: both alphabets are understood, other ASCII characters are passed over, and
whatever follows the padding is ignored.
-/

namespace Base64

def digit (n : ℕ) : Char :=
  if n < 26 then Char.ofNat (65 + n)
  else if n < 52 then Char.ofNat (71 + n)
  else if n < 62 then Char.ofNat (n - 4)
  else if n = 62 then '-'
  else '_'

/-- The value of a digit of either alphabet. -/
def value (c : Char) : Option ℕ :=
  if 'A' ≤ c ∧ c ≤ 'Z' then some (c.toNat - 65)
  else if 'a' ≤ c ∧ c ≤ 'z' then some (c.toNat - 71)
  else if '0' ≤ c ∧ c ≤ '9' then some (c.toNat + 4)
  else if c = '+' ∨ c = '-' then some 62
  else if c = '/' ∨ c = '_' then some 63
  else none

/-- Three bytes are four digits. -/
def encode : List ℕ → List Char
  | a :: b :: c :: rest =>
    digit (a / 4) :: digit (a % 4 * 16 + b / 16) :: digit (b % 16 * 4 + c / 64) :: digit (c % 64) ::
      encode rest
  | [a, b] => [digit (a / 4), digit (a % 4 * 16 + b / 16), digit (b % 16 * 4)]
  | [a] => [digit (a / 4), digit (a % 4 * 16)]
  | [] => []

/-- The bytes of some digits, after `pos` digits of a group. What these leave for the next byte is
`left`, and `pads` signs of padding stand behind them. -/
def scan (pos left pads : ℕ) : List Char → Option (List ℕ)
  | [] => if pos = 0 then some [] else none
  | c :: cs =>
    if c = '=' then
      if pos < 2 then scan pos left pads cs
      else if 4 ≤ pos + (pads + 1) then some []
      else scan pos left (pads + 1) cs
    else
      match value c with
      | none => scan pos left pads cs
      | some d =>
        match pos with
        | 0 => scan 1 d 0 cs
        | 1 => ((left * 4 + d / 16) :: ·) <$> scan 2 (d % 16) 0 cs
        | 2 => ((left * 16 + d / 4) :: ·) <$> scan 3 (d % 4) 0 cs
        | _ => ((left * 64 + d) :: ·) <$> scan 0 0 0 cs

/-- `urlsafe_b64decode`. Only ASCII is accepted. -/
def decode (cs : List Char) : Option (List ℕ) :=
  if cs.all fun c => c.toNat < 128 then scan 0 0 0 cs else none

/-- `s + "=" * (-len(s) % 4)`. -/
def padded (cs : List Char) : List Char := cs ++ List.replicate ((4 - cs.length % 4) % 4) '='

section roundtrip

variable {n : ℕ} {bytes : List ℕ}

lemma value_digit (h : n < 64) : value (digit n) = some n := by
  have hall : ∀ n < 64, value (digit n) = some n := by decide
  exact hall n h

lemma digit_ne (h : n < 64) : digit n ≠ '=' := by
  have hall : ∀ n < 64, digit n ≠ '=' := by decide
  exact hall n h

lemma toNat_digit_lt (n : ℕ) : (digit n).toNat < 128 := by
  have hall : ∀ n < 64, (digit n).toNat < 128 := by decide
  by_cases h : n < 64
  · exact hall n h
  · have hlast : digit n = '_' := by
      rw [digit, if_neg (by omega), if_neg (by omega), if_neg (by omega), if_neg (by omega)]
    rw [hlast]
    decide

/-! A digit is read by its place in the group. -/

lemma scan_first (h : n < 64) (left pads : ℕ) (cs : List Char) :
    scan 0 left pads (digit n :: cs) = scan 1 n 0 cs := by
  rw [scan, if_neg (digit_ne h), value_digit h]
  rfl

lemma scan_second (h : n < 64) (left pads : ℕ) (cs : List Char) :
    scan 1 left pads (digit n :: cs) = ((left * 4 + n / 16) :: ·) <$> scan 2 (n % 16) 0 cs := by
  rw [scan, if_neg (digit_ne h), value_digit h]
  rfl

lemma scan_third (h : n < 64) (left pads : ℕ) (cs : List Char) :
    scan 2 left pads (digit n :: cs) = ((left * 16 + n / 4) :: ·) <$> scan 3 (n % 4) 0 cs := by
  rw [scan, if_neg (digit_ne h), value_digit h]
  rfl

lemma scan_fourth (h : n < 64) (left pads : ℕ) (cs : List Char) :
    scan 3 left pads (digit n :: cs) = ((left * 64 + n) :: ·) <$> scan 0 0 0 cs := by
  rw [scan, if_neg (digit_ne h), value_digit h]
  rfl

/-- What was written, padded, is read. -/
lemma scan_padded (h : ∀ b ∈ bytes, b < 256) : scan 0 0 0 (padded (encode bytes)) = some bytes := by
  induction bytes using encode.induct with
  | case1 a b c rest ih =>
    have ha := h a (by simp)
    have hb := h b (by simp)
    have hc := h c (by simp)
    have hrest := ih fun d hd => h d (by simp [hd])
    have hpadded : padded (encode (a :: b :: c :: rest)) = digit (a / 4) ::
        digit (a % 4 * 16 + b / 16) :: digit (b % 16 * 4 + c / 64) :: digit (c % 64) ::
          padded (encode rest) := by
      have hpads : ((encode rest).length + 1 + 1 + 1 + 1) % 4 = (encode rest).length % 4 := by omega
      simp [padded, encode, hpads]
    have hfirst : a / 4 * 4 + (a % 4 * 16 + b / 16) / 16 = a := by omega
    have hsecond : (a % 4 * 16 + b / 16) % 16 * 16 + (b % 16 * 4 + c / 64) / 4 = b := by omega
    have hthird : (b % 16 * 4 + c / 64) % 4 * 64 + c % 64 = c := by omega
    rw [hpadded, scan_first (by omega), scan_second (by omega), scan_third (by omega),
      scan_fourth (by omega), hrest, hfirst, hsecond, hthird]
    rfl
  | case2 a b =>
    have ha := h a (by simp)
    have hb := h b (by simp)
    have hfirst : a / 4 * 4 + (a % 4 * 16 + b / 16) / 16 = a := by omega
    have hsecond : (a % 4 * 16 + b / 16) % 16 * 16 + (b % 16 * 4) / 4 = b := by omega
    have hpadded : padded (encode [a, b]) =
        [digit (a / 4), digit (a % 4 * 16 + b / 16), digit (b % 16 * 4), '='] := rfl
    rw [hpadded, scan_first (by omega), scan_second (by omega), scan_third (by omega), hfirst,
      hsecond]
    rfl
  | case3 a =>
    have ha := h a (by simp)
    have hfirst : a / 4 * 4 + (a % 4 * 16) / 16 = a := by omega
    have hpadded : padded (encode [a]) = [digit (a / 4), digit (a % 4 * 16), '=', '='] := rfl
    rw [hpadded, scan_first (by omega), scan_second (by omega), hfirst]
    rfl
  | case4 => simp [encode, padded, scan]

lemma encode_ascii (bytes : List ℕ) : ∀ c ∈ encode bytes, c.toNat < 128 := by
  induction bytes using encode.induct with
  | case1 a b c rest ih =>
    simp only [encode, List.forall_mem_cons]
    exact ⟨toNat_digit_lt _, toNat_digit_lt _, toNat_digit_lt _, toNat_digit_lt _, ih⟩
  | case2 a b => simp [encode, toNat_digit_lt]
  | case3 a => simp [encode, toNat_digit_lt]
  | case4 => simp [encode]

/-- Reading gives back what was written. -/
lemma decode_padded (h : ∀ b ∈ bytes, b < 256) : decode (padded (encode bytes)) = some bytes := by
  have hascii : (padded (encode bytes)).all (fun c => c.toNat < 128) = true := by
    rw [padded, List.all_append, Bool.and_eq_true, List.all_eq_true, List.all_eq_true]
    constructor
    · exact fun c hc => decide_eq_true (encode_ascii bytes c hc)
    · intro c hc
      rw [List.eq_of_mem_replicate hc]
      rfl
  rw [decode, if_pos hascii, scan_padded h]

end roundtrip

/-! ### Texts as bytes -/

/-- `str.encode`, in UTF-8. -/
def utf8 (cs : List Char) : List ℕ := (cs.flatMap String.utf8EncodeChar).map UInt8.toNat

/-- `bytes.decode`, of UTF-8. -/
def utf8Decode (bytes : List ℕ) : Option (List Char) :=
  ((bytes.map UInt8.ofNat).toByteArray.utf8Decode?).map Array.toList

lemma utf8_lt (cs : List Char) : ∀ b ∈ utf8 cs, b < 256 := by
  intro b hb
  obtain ⟨byte, -, rfl⟩ := List.mem_map.mp hb
  exact byte.toNat_lt

lemma utf8Decode_utf8 (cs : List Char) : utf8Decode (utf8 cs) = some cs := by
  have hbytes : ((utf8 cs).map UInt8.ofNat).toByteArray = cs.utf8Encode := by
    simp [utf8, List.utf8Encode, Function.comp_def]
  rw [utf8Decode, hbytes, List.utf8Decode?_utf8Encode]
  simp

end Base64
