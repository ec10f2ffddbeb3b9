import Mathlib.Data.List.TakeWhile
import Mathlib.Tactic

/-!
# Python's text functions

The parts of Python's `str` that backends written in it lean on when they clean up input:
`strip`, slices from the front, `isdigit`, `int`, and `lower` of an ASCII text.
-/

namespace Text

/-- `str.isspace` of one character. -/
def isSpace (c : Char) : Bool :=
  let n := c.toNat
  (9 ≤ n && n ≤ 13) || (28 ≤ n && n ≤ 32) || n == 0x85 || n == 0xA0 || n == 0x1680 ||
    (0x2000 ≤ n && n ≤ 0x200A) || n == 0x2028 || n == 0x2029 || n == 0x202F || n == 0x205F ||
    n == 0x3000

/-- Remove what `isSpace` accepts from the two ends. -/
def stripChars (cs : List Char) : List Char :=
  ((cs.dropWhile isSpace).reverse.dropWhile isSpace).reverse

/-- `str.strip`. -/
def strip (s : String) : String := String.ofList (stripChars s.toList)

/-- `s[:n]`. -/
def truncate (n : ℕ) (s : String) : String := String.ofList (s.toList.take n)

/-- Where the runs of ten decimal digits begin. -/
private def decimalZeros : List ℕ :=
  [48, 1632, 1776, 1984, 2406, 2534, 2662, 2790, 2918, 3046, 3174, 3302, 3430, 3558, 3664, 3792,
   3872, 4160, 4240, 6112, 6160, 6470, 6608, 6784, 6800, 6992, 7088, 7232, 7248, 42528, 43216,
   43264, 43472, 43504, 43600, 44016, 65296, 66720, 68912, 69734, 69872, 69942, 70096, 70384,
   70736, 70864, 71248, 71360, 71472, 71904, 72016, 72784, 73040, 73120, 73552, 92768, 92864,
   93008, 120782, 120792, 120802, 120812, 120822, 123200, 123632, 124144, 125264, 130032]

/-- The other runs of digits (superscripts, circled numbers and the like), with their lengths. -/
private def otherDigits : List (ℕ × ℕ) :=
  [(178, 2), (185, 1), (4969, 9), (6618, 1), (8304, 1), (8308, 6), (8320, 10), (9312, 9),
   (9332, 9), (9352, 9), (9450, 1), (9461, 9), (9471, 1), (10102, 9), (10112, 9), (10122, 9),
   (68160, 4), (69216, 9), (69714, 9), (127232, 11)]

/-- `str.isdigit` of one character. -/
def isDigit (c : Char) : Bool :=
  decimalZeros.any (fun z => z ≤ c.toNat && c.toNat < z + 10) ||
    otherDigits.any fun r => r.1 ≤ c.toNat && c.toNat < r.1 + r.2

/-- The value of a decimal digit. -/
def digitValue (c : Char) : Option ℕ :=
  (decimalZeros.find? fun z => z ≤ c.toNat && c.toNat < z + 10).map fun z => c.toNat - z

/-- `str.isdigit`. -/
def isDigits (s : String) : Bool := s != "" && s.toList.all isDigit

/-- `int` of a text of digits. Digits that are not decimal are refused, as are very long texts. -/
def toInt (s : String) : Option ℕ :=
  if s = "" ∨ 4300 < s.length then none
  else s.toList.foldlM (fun n c => (digitValue c).map fun d => n * 10 + d) 0

/-- A text of ASCII characters with one of the separators that `isSpace` accepts and C does not. -/
def hasSeparator (s : String) : Bool :=
  s.toList.all (fun c => c.toNat < 128) &&
    s.toList.any fun c => 28 ≤ c.toNat && c.toNat ≤ 31

/-- `int` of any text: blanks around it, a sign and underscores between digits are allowed. -/
def readInt (s : String) : Option ℤ :=
  let (negative, digits) := match stripChars s.toList with
    | '-' :: rest => (true, rest)
    | '+' :: rest => (false, rest)
    | rest => (false, rest)
  let groups := digits.splitOn '_'
  if hasSeparator s || groups.any List.isEmpty then none
  else (toInt (String.ofList groups.flatten)).map fun n => if negative then -(n : ℤ) else n

/-- `str.lower` of an ASCII text. -/
def lower (s : String) : String := String.ofList (s.toList.map Char.toLower)

/-- `str.upper` of an ASCII text. -/
def upper (s : String) : String := String.ofList (s.toList.map Char.toUpper)

/-- A text in which `new` stands for `old`. The first `skip` characters belong to the last place that
was found. -/
def replaceFrom (old new : List Char) (skip : ℕ) : List Char → List Char
  | [] => []
  | c :: cs =>
    match skip with
    | k + 1 => replaceFrom old new k cs
    | 0 =>
      if old <+: c :: cs then new ++ replaceFrom old new (old.length - 1) cs
      else c :: replaceFrom old new 0 cs

/-- `str.replace`, of a text that is not empty. -/
def replace (old new s : String) : String :=
  String.ofList (replaceFrom old.toList new.toList 0 s.toList)

/-- What a column of texts in PostgreSQL holds. -/
def storable (s : String) : Bool := '\x00' ∉ s.toList

@[simp] lemma toList_truncate (n : ℕ) (s : String) : (truncate n s).toList = s.toList.take n := by
  simp [truncate]

@[simp] lemma toList_strip (s : String) : (strip s).toList = stripChars s.toList := by
  simp [strip]

/-- A text of blanks only has nothing left. -/
lemma stripChars_eq_nil_iff {cs : List Char} : stripChars cs = [] ↔ ∀ c ∈ cs, isSpace c := by
  rw [stripChars, List.reverse_eq_nil_iff, List.dropWhile_eq_nil_iff]
  constructor
  · intro h c hc
    by_contra hspace
    have hdrop : cs.dropWhile isSpace ≠ [] := by
      rw [Ne, List.dropWhile_eq_nil_iff]
      exact fun hall => hspace (hall c hc)
    have hhead := List.head_dropWhile_not isSpace hdrop
    exact absurd (h _ (List.mem_reverse.2 (List.head_mem hdrop))) (by simp [hhead])
  · intro h c hc
    exact h c ((List.dropWhile_sublist isSpace).subset (List.mem_reverse.1 hc))

lemma strip_eq_empty_iff {s : String} : strip s = "" ↔ ∀ c ∈ s.toList, isSpace c := by
  rw [← String.toList_inj, toList_strip]
  exact stripChars_eq_nil_iff

section strip

variable {a b m : List Char}

/-- Blanks at the ends are removed, whatever they are. -/
lemma stripChars_append (ha : ∀ c ∈ a, isSpace c) (hb : ∀ c ∈ b, isSpace c) :
    stripChars (a ++ m ++ b) = stripChars m := by
  rw [stripChars, List.append_assoc, List.dropWhile_append_of_pos ha, stripChars]
  congr 1
  by_cases hm : m.dropWhile isSpace = []
  · have hnil : (m ++ b).dropWhile isSpace = [] := by
      rw [List.dropWhile_append, hm, List.isEmpty_nil, if_pos rfl, List.dropWhile_eq_nil_iff]
      exact hb
    rw [hm, hnil]
  · have happend : (m ++ b).dropWhile isSpace = m.dropWhile isSpace ++ b := by
      rw [List.dropWhile_append, if_neg]
      simpa using hm
    rw [happend, List.reverse_append, List.dropWhile_append_of_pos]
    intro c hc
    exact hb c (List.mem_reverse.mp hc)

/-- A text is its blanks at the ends, and what is between them. -/
lemma exists_stripChars (cs : List Char) : ∃ a b, (∀ c ∈ a, isSpace c) ∧ (∀ c ∈ b, isSpace c) ∧
    cs = a ++ stripChars cs ++ b := by
  let rest := cs.dropWhile isSpace
  refine ⟨cs.takeWhile isSpace, (rest.reverse.takeWhile isSpace).reverse, ?_, ?_, ?_⟩
  · exact fun c hc => List.mem_takeWhile_imp hc
  · exact fun c hc => List.mem_takeWhile_imp (List.mem_reverse.mp hc)
  · have hsplit : stripChars cs ++ (rest.reverse.takeWhile isSpace).reverse = rest := by
      rw [stripChars, ← List.reverse_append, List.takeWhile_append_dropWhile, List.reverse_reverse]
    rw [List.append_assoc, hsplit, List.takeWhile_append_dropWhile]

/-- Nothing is removed between two characters that are no blanks. -/
lemma stripChars_eq_self (hfirst : ∀ c ∈ m.head?, isSpace c = false)
    (hlast : ∀ c ∈ m.getLast?, isSpace c = false) : stripChars m = m := by
  have hdrop : ∀ {l : List Char}, (∀ c ∈ l.head?, isSpace c = false) → l.dropWhile isSpace = l := by
    intro l hl
    cases l with
    | nil => rfl
    | cons c cs => rw [List.dropWhile_cons_of_neg (by simp [hl c rfl])]
  rw [stripChars, hdrop hfirst, hdrop (by simpa using hlast), List.reverse_reverse]

lemma head?_dropWhile {cs : List Char} {c : Char} (h : (cs.dropWhile isSpace).head? = some c) :
    isSpace c = false := by
  have hnot := List.head?_dropWhile_not isSpace cs
  rwa [h] at hnot

lemma getLast?_stripChars (cs : List Char) : ∀ c ∈ (stripChars cs).getLast?, isSpace c = false := by
  intro c hc
  rw [stripChars, List.getLast?_reverse] at hc
  exact head?_dropWhile hc

lemma head?_stripChars (cs : List Char) : ∀ c ∈ (stripChars cs).head?, isSpace c = false := by
  intro c hc
  rw [stripChars, List.head?_reverse] at hc
  obtain ⟨t, ht⟩ := List.dropWhile_suffix isSpace (l := (cs.dropWhile isSpace).reverse)
  have hlast : (cs.dropWhile isSpace).reverse.getLast? = some c := by
    rw [← ht, List.getLast?_append, hc, Option.some_or]
  rw [List.getLast?_reverse] at hlast
  exact head?_dropWhile hlast

end strip

/-- Only the ends are taken away. -/
lemma mem_of_mem_stripChars {cs : List Char} {c : Char} (h : c ∈ stripChars cs) : c ∈ cs := by
  obtain ⟨a, b, -, -, hsplit⟩ := exists_stripChars cs
  rw [hsplit]
  simp [h]

@[simp] lemma strip_strip (s : String) : strip (strip s) = strip s := by
  rw [← String.toList_inj]
  simp only [toList_strip]
  exact stripChars_eq_self (head?_stripChars _) (getLast?_stripChars _)

lemma toLower_toLower (c : Char) : c.toLower.toLower = c.toLower := by
  unfold Char.toLower
  split_ifs with h h'
  · grind [UInt32.toNat_add]
  · rfl
  · rfl

/-- A text that has been lowered and stripped is lower case still. -/
lemma lower_strip_lower (s : String) : lower (strip (lower s)) = strip (lower s) := by
  rw [← String.toList_inj]
  simp only [lower, toList_strip, String.toList_ofList]
  conv_rhs => rw [← List.map_id (stripChars _)]
  apply List.map_congr_left
  intro c hc
  obtain ⟨d, -, rfl⟩ := List.mem_map.mp (mem_of_mem_stripChars hc)
  exact toLower_toLower d

section replace

variable {c : Char} {old new l t : List Char}

/-- What lacks the first character of a text does not hold the text. -/
lemma replaceFrom_append (hc : c ∉ l) :
    replaceFrom (c :: old) new 0 (l ++ t) = l ++ replaceFrom (c :: old) new 0 t := by
  induction l with
  | nil => rfl
  | cons d l ih =>
    have hd : ¬ c :: old <+: d :: (l ++ t) := by
      intro hprefix
      exact hc (by simp [(List.cons_prefix_cons.mp hprefix).1])
    rw [List.cons_append, replaceFrom, if_neg hd, ih (fun h => hc (by simp [h])), List.cons_append]

lemma replaceFrom_length : replaceFrom old new l.length (l ++ t) = replaceFrom old new 0 t := by
  induction l with
  | nil => rfl
  | cons d l ih => rw [List.length_cons, List.cons_append, replaceFrom, ih]

/-- The text itself is replaced, and the rest after it is gone through. -/
lemma replaceFrom_self :
    replaceFrom (c :: old) new 0 (c :: old ++ t) = new ++ replaceFrom (c :: old) new 0 t := by
  have hprefix : c :: old <+: c :: (old ++ t) := List.prefix_append (c :: old) t
  rw [List.cons_append, replaceFrom, if_pos hprefix, List.length_cons, Nat.add_sub_cancel,
    replaceFrom_length]

/-- Its first character stays where something else follows. -/
lemma replaceFrom_cons (h : ¬ c :: old <+: c :: t) :
    replaceFrom (c :: old) new 0 (c :: t) = c :: replaceFrom (c :: old) new 0 t := by
  rw [replaceFrom, if_neg h]

lemma replaceFrom_of_notMem (hc : c ∉ l) : replaceFrom (c :: old) new 0 l = l := by
  have h := @replaceFrom_append c old new l [] hc
  rwa [List.append_nil, replaceFrom, List.append_nil] at h

lemma replace_ofList (old new : String) (l : List Char) :
    replace old new (String.ofList l) =
      String.ofList (replaceFrom old.toList new.toList 0 l) := by
  rw [replace, String.toList_ofList]

end replace

lemma digitValue_digitChar {d : ℕ} (h : d < 10) : digitValue d.digitChar = some d := by
  have hall : ∀ d < 10, digitValue (Nat.digitChar d) = some d := by decide
  exact hall d h

lemma isDigit_of_ascii {c : Char} (h : c.isDigit = true) : isDigit c = true := by
  simp only [Char.isDigit, Bool.and_eq_true, decide_eq_true_eq, UInt32.le_iff_toNat_le] at h
  have hlow : 48 ≤ c.toNat := h.1
  have hhigh : c.toNat ≤ 57 := h.2
  simp only [isDigit, Bool.or_eq_true, List.any_eq_true, Bool.and_eq_true, decide_eq_true_eq]
  exact Or.inl ⟨48, by decide, hlow, by omega⟩

/-- A number is written in digits. -/
lemma isDigits_repr (n : ℕ) : isDigits n.repr = true := by
  simp only [isDigits, Bool.and_eq_true, bne_iff_ne, ne_eq, List.all_eq_true, Nat.toList_repr]
  refine ⟨Nat.repr_ne_empty, ?_⟩
  intro c hc
  exact isDigit_of_ascii (Nat.isDigit_of_mem_toDigits (by decide) (by decide) hc)

/-- Reading the digits of a number gives the number back. -/
lemma foldlM_toDigits (n : ℕ) :
    (Nat.toDigits 10 n).foldlM (fun m c => (digitValue c).map fun d => m * 10 + d) 0 = some n := by
  induction n using Nat.strong_induction_on with
  | _ n ih =>
    rw [Nat.toDigits_eq_if (by decide)]
    split_ifs with hn
    · simp [digitValue_digitChar hn]
    · have hmod : n % 10 < 10 := Nat.mod_lt n (by decide)
      rw [List.foldlM_append, ih (n / 10) (by omega)]
      simp only [Option.bind_eq_bind, Option.bind_some, List.foldlM_cons, List.foldlM_nil,
        digitValue_digitChar hmod, Option.map_some, Option.pure_def]
      congr 1
      omega

/-- `int(str(n))` of a number of 64 bits. -/
lemma toInt_repr {n : ℕ} (h : n < 2 ^ 63) : toInt n.repr = some n := by
  have hlength : n.repr.length ≤ 19 := by
    rw [← String.length_toList, Nat.toList_repr]
    exact (Nat.length_toDigits_le_iff (by decide) (by decide)).mpr (lt_trans h (by decide))
  have hreadable : ¬ (n.repr = "" ∨ 4300 < n.repr.length) := by
    rw [not_or]
    exact ⟨Nat.repr_ne_empty, by omega⟩
  rw [toInt, if_neg hreadable, Nat.toList_repr]
  exact foldlM_toDigits n

/-! ### Numbers as texts -/

section numbers

variable {c : Char} {n : ℕ}

/-- The characters of a number are digits of ASCII. -/
lemma toNat_of_mem_repr (hc : c ∈ n.repr.toList) : 48 ≤ c.toNat ∧ c.toNat ≤ 57 := by
  rw [Nat.toList_repr] at hc
  have hdigit := Nat.isDigit_of_mem_toDigits (by decide) (by decide) hc
  simp only [Char.isDigit, Bool.and_eq_true, decide_eq_true_eq, UInt32.le_iff_toNat_le] at hdigit
  exact hdigit

lemma isSpace_of_mem_repr (hc : c ∈ n.repr.toList) : isSpace c = false := by
  obtain ⟨hlow, hhigh⟩ := toNat_of_mem_repr hc
  simp only [isSpace, Bool.or_eq_false_iff, Bool.and_eq_false_iff, decide_eq_false_iff_not,
    beq_eq_false_iff_ne]
  omega

lemma stripChars_repr (n : ℕ) : stripChars n.repr.toList = n.repr.toList :=
  stripChars_eq_self (fun _ hc => isSpace_of_mem_repr (List.mem_of_mem_head? hc))
    fun _ hc => isSpace_of_mem_repr (List.mem_of_mem_getLast? hc)

/-- A number as a text has no blanks around it. -/
lemma strip_repr (n : ℕ) : strip n.repr = n.repr := by
  rw [strip, stripChars_repr, String.ofList_toList]

/-- `int(str(n))` of a number of 64 bits, with the reader of any text. -/
lemma readInt_repr (h : n < 2 ^ 63) : readInt n.repr = some (n : ℤ) := by
  have hne : ∀ {c : Char}, c ∈ n.repr.toList → ∀ d : Char, d.toNat < 48 ∨ 57 < d.toNat → c ≠ d := by
    rintro c hc d hd rfl
    have := toNat_of_mem_repr hc
    omega
  have hsplit : n.repr.toList.splitOn '_' = [n.repr.toList] :=
    List.splitOnP_eq_singleton fun c hc => by
      simpa using hne hc '_' (by decide)
  have hseparator : hasSeparator n.repr = false := by
    rw [hasSeparator, Bool.and_eq_false_iff]
    right
    simp only [List.any_eq_false, Bool.and_eq_true, decide_eq_true_eq, not_and, not_le]
    intro c hc _
    exact lt_of_lt_of_le (by decide) (toNat_of_mem_repr hc).1
  have hsign : (match n.repr.toList with
      | '-' :: rest => (true, rest)
      | '+' :: rest => (false, rest)
      | rest => (false, rest)) = (false, n.repr.toList) := by
    split
    · rename_i rest heq
      exact absurd rfl (hne (by rw [heq]; simp) '-' (by decide))
    · rename_i rest heq
      exact absurd rfl (hne (by rw [heq]; simp) '+' (by decide))
    · rfl
  have hempty : n.repr.toList.isEmpty = false := by
    simp
  rw [readInt, stripChars_repr, hsign]
  simp only [hseparator, hsplit, List.any_cons, hempty, List.any_nil, Bool.or_self,
    Bool.false_eq_true, if_false, List.flatten_singleton, String.ofList_toList, toInt_repr h]
  rfl

end numbers

end Text
