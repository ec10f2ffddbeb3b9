import CrossPilot.Frontend.Money
import Mathlib.Data.List.TakeWhile

/-!
# Rounding of amounts

An amount that is accepted spells a number (`isDecimal_iff`). Rounding gives the number that is
nearest, halves away from zero, with so many decimals and without a minus in front of zero
(`roundDecimalString_rounds`).
-/

namespace CrossPilot.Frontend.Money

open DigitStrings

/-! ### Spellings -/

/-- A number as it is spelled. -/
structure Spelling where
  negative : Bool
  whole : List Char
  fraction : List Char
  whole_ne : whole ≠ []
  digits : IsDigits (whole ++ fraction)

/-- A fraction of no digits is none. -/
def point (fraction : List Char) : Option (List Char) :=
  if fraction = [] then none else some fraction

namespace Spelling

variable (s : Spelling)

def unsigned : List Char := withFraction s.whole (point s.fraction)

def text : List Char := withSign s.negative s.unsigned

/-- The number without its sign, in units of the last decimal. -/
def units : ℕ := DigitStrings.value (s.whole ++ s.fraction)

def magnitude : ℚ := s.units / 10 ^ s.fraction.length

/-- The number that is spelled. -/
def value : ℚ := if s.negative then -s.magnitude else s.magnitude

lemma digits_whole : IsDigits s.whole := (isDigits_append.mp s.digits).1

lemma digits_fraction : IsDigits s.fraction := (isDigits_append.mp s.digits).2

lemma magnitude_nonneg : 0 ≤ s.magnitude := by
  rw [magnitude]
  positivity

end Spelling

/-! ### Reading a spelling -/

lemma ne_of_isDigit {c d : Char} (hc : c.isDigit = true) (hd : d.isDigit = false) : c ≠ d := by
  rintro rfl
  rw [hc] at hd
  cases hd

lemma takeWhile_digits {cs : List Char} (rest : List Char) (h : IsDigits cs)
    (hrest : ∀ c ∈ rest.head?, c.isDigit = false) :
    (cs ++ rest).takeWhile Char.isDigit = cs ∧ (cs ++ rest).dropWhile Char.isDigit = rest := by
  rw [List.takeWhile_append_of_pos h, List.dropWhile_append_of_pos h]
  cases rest with
  | nil => simp
  | cons c rest => simp [hrest c rfl]

lemma splitPoint_digits {whole fraction : List Char} (h : IsDigits (whole ++ fraction)) :
    splitPoint (withFraction whole (point fraction)) = (whole, point fraction) := by
  obtain ⟨hwhole, hfraction⟩ := isDigits_append.mp h
  have hne {cs : List Char} (hcs : IsDigits cs) : ∀ c ∈ cs, decide (c ≠ '.') = true := by
    intro c hc
    simpa using ne_of_isDigit (hcs c hc) rfl
  rw [point]
  split_ifs with hempty
  · rw [withFraction, splitPoint, List.takeWhile_eq_self_iff.mpr (hne hwhole),
      List.dropWhile_eq_nil_iff.mpr (hne hwhole)]
  · rw [withFraction, splitPoint, List.takeWhile_append_of_pos (hne hwhole),
      List.dropWhile_append_of_pos (hne hwhole)]
    have hall : fraction.takeWhile (fun c => decide (c ≠ '.')) = fraction :=
      List.takeWhile_eq_self_iff.mpr (hne hfraction)
    rw [List.takeWhile_cons_of_neg (by simp), List.dropWhile_cons_of_neg (by simp)]
    dsimp only
    rw [hall, List.append_nil]

lemma head?_unsigned (s : Spelling) : ∀ c ∈ s.unsigned.head?, c.isDigit := by
  obtain ⟨c, cs, hwhole⟩ := List.exists_cons_of_ne_nil s.whole_ne
  have hc : c.isDigit = true := s.digits_whole c (by simp [hwhole])
  rw [Spelling.unsigned, hwhole]
  cases point s.fraction <;> simp [withFraction, hc]

lemma splitSign_text (s : Spelling) : splitSign s.text = (s.negative, s.unsigned) := by
  rw [Spelling.text, withSign]
  split_ifs with hnegative
  · simp [splitSign, hnegative]
  · have hhead : s.unsigned.head? ≠ some '-' := by
      intro hminus
      have hdigit := head?_unsigned s '-' hminus
      cases hdigit
    simp [splitSign, hhead, hnegative]

lemma withSign_splitSign (cs : List Char) : withSign (splitSign cs).1 (splitSign cs).2 = cs := by
  rw [splitSign]
  split_ifs with h
  · obtain ⟨rest, rfl⟩ := List.head?_eq_some_iff.mp h
    simp [withSign]
  · rfl

lemma isDigits_takeWhile (cs : List Char) : IsDigits (cs.takeWhile Char.isDigit) :=
  fun _ hc => List.mem_takeWhile_imp hc

/-- What is accepted is a spelling. -/
lemma isDecimal_iff {cs : List Char} : isDecimal cs ↔ ∃ s : Spelling, cs = s.text := by
  constructor
  · intro h
    have hwhole := isDigits_takeWhile (splitSign cs).2
    have hsplit := List.takeWhile_append_dropWhile (p := Char.isDigit) (l := (splitSign cs).2)
    simp only [isDecimal, Bool.and_eq_true, Bool.or_eq_true, decide_eq_true_eq,
      List.all_eq_true] at h
    obtain ⟨hne, hrest | ⟨⟨hhead, htail⟩, hall⟩⟩ := h
    · refine ⟨⟨(splitSign cs).1, _, [], hne, by simpa using hwhole⟩, ?_⟩
      rw [hrest, List.append_nil] at hsplit
      simp [Spelling.text, Spelling.unsigned, point, withFraction, hsplit, withSign_splitSign]
    · obtain ⟨fraction, hfraction⟩ := List.head?_eq_some_iff.mp hhead
      rw [hfraction, List.tail_cons] at htail hall
      refine ⟨⟨(splitSign cs).1, _, fraction, hne, isDigits_append.mpr ⟨hwhole, hall⟩⟩, ?_⟩
      rw [hfraction] at hsplit
      simp [Spelling.text, Spelling.unsigned, point, withFraction, htail, hsplit,
        withSign_splitSign]
  · rintro ⟨s, rfl⟩
    simp only [isDecimal, splitSign_text, Spelling.unsigned]
    rw [point]
    split_ifs with hempty
    · obtain ⟨htake, hdrop⟩ := takeWhile_digits [] s.digits_whole (by simp)
      rw [List.append_nil] at htake hdrop
      simp [withFraction, htake, hdrop, s.whole_ne]
    · obtain ⟨htake, hdrop⟩ := takeWhile_digits ('.' :: s.fraction) s.digits_whole
        (by simp)
      have hall : s.fraction.all Char.isDigit = true := List.all_eq_true.mpr s.digits_fraction
      simp [withFraction, htake, hdrop, s.whole_ne, hempty, hall]

/-! ### Normal spellings -/

lemma stripZeros_spec {cs : List Char} (h : IsDigits cs) (hne : cs ≠ []) :
    IsDigits (stripZeros cs) ∧ stripZeros cs ≠ [] ∧ value (stripZeros cs) = value cs ∧
      (value cs = 0 → stripZeros cs = ['0']) := by
  induction cs using stripZeros.induct with
  | case1 c cs hc ih =>
    have hrest := (isDigits_cons.mp h).2
    have hvalue : value ('0' :: c :: cs) = value (c :: cs) := by
      have hzero : digit '0' = 0 := rfl
      rw [value_cons, hzero, zero_mul, zero_add]
    rw [stripZeros, if_pos hc, hvalue]
    exact ih hrest (List.cons_ne_nil _ _)
  | case2 c cs hc => exact absurd (h c (by simp)) hc
  | case3 cs hcs =>
    rw [stripZeros]
    · refine ⟨h, hne, rfl, fun hzero => ?_⟩
      have hall := (value_eq_zero_iff h).mp hzero
      obtain ⟨c, rest, rfl⟩ := List.exists_cons_of_ne_nil hne
      obtain rfl := hall c (by simp)
      cases rest with
      | nil => rfl
      | cons d rest => exact absurd rfl (hcs d rest)
    · exact hcs

/-- The spelling without zeros in front. -/
def Spelling.stripped (s : Spelling) : Spelling where
  negative := s.negative
  whole := stripZeros s.whole
  fraction := s.fraction
  whole_ne := (stripZeros_spec s.digits_whole s.whole_ne).2.1
  digits := isDigits_append.mpr
    ⟨(stripZeros_spec s.digits_whole s.whole_ne).1, s.digits_fraction⟩

lemma Spelling.units_stripped (s : Spelling) : s.stripped.units = s.units := by
  rw [Spelling.units, Spelling.units, value_append, value_append]
  show DigitStrings.value (stripZeros s.whole) * _ + _ = _
  rw [(stripZeros_spec s.digits_whole s.whole_ne).2.2.1]
  rfl

lemma Spelling.value_stripped (s : Spelling) : s.stripped.value = s.value := by
  rw [Spelling.value, Spelling.value, Spelling.magnitude, Spelling.magnitude, s.units_stripped]
  rfl

/-- The whole part of a normal spelling of less than one is a zero. -/
lemma Spelling.whole_stripped (s : Spelling) (h : DigitStrings.value s.stripped.whole = 0) :
    s.stripped.whole = ['0'] := by
  obtain ⟨-, -, hvalue, hzero⟩ := stripZeros_spec s.digits_whole s.whole_ne
  exact hzero (hvalue ▸ h)

variable {raw : String}

/-- An amount is accepted exactly if it is a spelling between blanks, and loses zeros in front. -/
lemma normalizeDecimalString_eq (s : Spelling) (h : trim raw.toList = s.text) :
    normalizeDecimalString raw = some (String.ofList s.stripped.text) := by
  have haccepted : isDecimal s.text = true := isDecimal_iff.mpr ⟨s, rfl⟩
  simp only [normalizeDecimalString, h, haccepted, not_true_eq_false, if_false, splitSign_text]
  rw [Spelling.unsigned, splitPoint_digits s.digits]
  rfl

lemma normalizeDecimalString_isSome_iff :
    (normalizeDecimalString raw).isSome ↔ ∃ s : Spelling, trim raw.toList = s.text := by
  constructor
  · intro h
    apply isDecimal_iff.mp
    by_contra hnot
    simp [normalizeDecimalString, hnot] at h
  · rintro ⟨s, hs⟩
    rw [normalizeDecimalString_eq s hs, Option.isSome_some]

/-! ### Rounding -/

lemma incrementIntegerString_spec {cs : List Char} (h : IsDigits cs) :
    IsDigits (incrementIntegerString cs) ∧ incrementIntegerString cs ≠ [] ∧
      value (incrementIntegerString cs) = value cs + 1 := by
  have hdigits := isDigits_increment h
  have hvalue := value_increment h
  have hlength := length_increment cs
  simp only [incrementIntegerString]
  by_cases hcarry : (increment cs).2
  · simp only [hcarry, if_true] at hvalue ⊢
    refine ⟨isDigits_cons.mpr ⟨rfl, hdigits⟩, List.cons_ne_nil _ _, ?_⟩
    have hone : digit '1' = 1 := rfl
    rw [value_cons, hone, hlength]
    omega
  · simp only [hcarry, if_false, Bool.false_eq_true] at hvalue ⊢
    refine ⟨hdigits, fun hnil => ?_, hvalue⟩
    rw [hnil] at hvalue
    simp at hvalue

/-- What is kept of the decimals, the next digit, and what is cut off behind it. -/
lemma exists_split (fraction : List Char) (decimals : ℕ) (h : IsDigits fraction) :
    ∃ kept c rest, fraction ++ List.replicate (decimals + 1 - fraction.length) '0' =
      kept ++ c :: rest ∧ kept.length = decimals ∧ IsDigits kept ∧ c.isDigit ∧ IsDigits rest := by
  have hlength : decimals <
      (fraction ++ List.replicate (decimals + 1 - fraction.length) '0').length := by
    rw [List.length_append, List.length_replicate]
    omega
  have hdigits : IsDigits (fraction ++ List.replicate (decimals + 1 - fraction.length) '0') :=
    isDigits_append.mpr ⟨h, isDigits_zeros _⟩
  generalize fraction ++ List.replicate (decimals + 1 - fraction.length) '0' = padded at *
  have hsplit : padded = padded.take decimals ++ padded[decimals] :: padded.drop (decimals + 1) := by
    rw [← List.drop_eq_getElem_cons, List.take_append_drop]
  refine ⟨_, _, _, hsplit, ?_, hdigits.take _, hdigits _ (List.getElem_mem _), ?_⟩
  · rw [List.length_take]
    omega
  · exact fun c hc => hdigits c (List.mem_of_mem_drop hc)

/-- Zeros behind a fraction change nothing. -/
lemma value_div_pad (whole fraction : List Char) (n : ℕ) :
    (value (whole ++ (fraction ++ List.replicate n '0')) : ℚ) /
        10 ^ (fraction ++ List.replicate n '0').length =
      value (whole ++ fraction) / 10 ^ fraction.length := by
  rw [← List.append_assoc, value_append, value_zeros, List.length_append, List.length_replicate,
    pow_add]
  push_cast
  field_simp
  ring

/-- The digits of a rounded amount. -/
structure Rounded (whole fraction : List Char) (decimals : ℕ) (r : List Char × List Char) :
    Prop where
  digits : IsDigits (r.1 ++ r.2)
  whole_ne : r.1 ≠ []
  length : r.2.length = decimals
  value : (value (r.1 ++ r.2) : ℤ) =
    ⌊(DigitStrings.value (whole ++ fraction) : ℚ) / 10 ^ fraction.length * 10 ^ decimals + 1 / 2⌋
  zero : (DigitStrings.value whole = 0 → whole = ['0']) →
    DigitStrings.value (r.1 ++ r.2) = 0 → r.1 = ['0']

/-- What is kept, and one more where the next digit says so, is the nearest number. -/
lemma floor_kept (whole : List Char) {fraction kept rest : List Char} {c : Char} {n : ℕ}
    (hsplit : fraction ++ List.replicate n '0' = kept ++ c :: rest) (hc : c.isDigit)
    (hrest : IsDigits rest) :
    ⌊(value (whole ++ fraction) : ℚ) / 10 ^ fraction.length * 10 ^ kept.length + 1 / 2⌋ =
      (value (whole ++ kept) : ℤ) + if roundsUp c then 1 else 0 := by
  have hlength : (fraction ++ List.replicate n '0').length = kept.length + (rest.length + 1) := by
    rw [hsplit, List.length_append, List.length_cons]
  rw [← floor_value hc hrest, ← value_div_pad whole fraction n, hlength, hsplit, ← List.append_assoc,
    pow_add]
  congr 2
  field_simp

/-- Adding one to the decimals carries into the whole part. -/
lemma value_carry {whole kept : List Char} (hwhole : IsDigits whole) (hkept : IsDigits kept) :
    value ((if (increment kept).2 then incrementIntegerString whole else whole) ++
      (increment kept).1) = value (whole ++ kept) + 1 := by
  have hvalue := value_increment hkept
  rw [value_append, value_append, length_increment]
  split_ifs with hcarry
  · rw [if_pos hcarry] at hvalue
    rw [(incrementIntegerString_spec hwhole).2.2, add_mul]
    omega
  · rw [if_neg hcarry] at hvalue
    omega

lemma roundDigits_rounded {whole fraction : List Char} (h : IsDigits (whole ++ fraction))
    (hne : whole ≠ []) (decimals : ℕ) :
    Rounded whole fraction decimals (roundDigits whole fraction decimals) := by
  obtain ⟨hwhole, hfraction⟩ := isDigits_append.mp h
  obtain ⟨kept, c, rest, hsplit, rfl, hkept, hc, hrest⟩ := exists_split fraction decimals hfraction
  have hfloor := floor_kept whole hsplit hc hrest
  have hincrement := incrementIntegerString_spec hwhole
  have htake : (kept ++ c :: rest).take kept.length = kept := List.take_left' rfl
  have hnext : (kept ++ c :: rest).getD kept.length '0' = c := by simp [List.getD]
  simp only [roundDigits, hsplit, htake, hnext]
  by_cases hup : roundsUp c
  · rw [if_pos hup] at hfloor ⊢
    by_cases hdecimals : kept.length = 0
    · -- no decimals are kept
      rw [if_pos hdecimals]
      obtain rfl := List.eq_nil_of_length_eq_zero hdecimals
      refine ⟨by simpa using hincrement.1, hincrement.2.1, rfl, ?_, fun _ hzero => ?_⟩
      · rw [hfloor, List.append_nil, List.append_nil, hincrement.2.2]
        push_cast
        rfl
      · simp [hincrement.2.2] at hzero
    · rw [if_neg hdecimals]
      have hvalue := value_carry hwhole hkept
      refine ⟨isDigits_append.mpr ⟨?_, isDigits_increment hkept⟩, ?_, length_increment kept, ?_,
        fun _ hzero => ?_⟩
      · dsimp only
        split_ifs
        · exact hincrement.1
        · exact hwhole
      · dsimp only
        split_ifs
        · exact hincrement.2.1
        · exact hne
      · rw [hfloor, hvalue]
        push_cast
        rfl
      · rw [hvalue] at hzero
        cases hzero
  · rw [if_neg hup] at hfloor ⊢
    refine ⟨isDigits_append.mpr ⟨hwhole, hkept⟩, hne, rfl, ?_, fun hnormal hzero => ?_⟩
    · rw [hfloor, add_zero]
    · rw [value_append, Nat.add_eq_zero_iff] at hzero
      refine hnormal ?_
      simpa using hzero.1

lemma eq_of_mem_isZero {cs : List Char} (h : isZero cs) : ∀ c ∈ cs, c = '0' ∨ c = '.' := by
  rw [isZero.eq_def] at h
  split at h
  · simp
  · rw [List.all_eq_true] at h
    simpa [or_imp, forall_and] using fun c hc => .inl (by simpa using h c hc)
  · cases h

lemma Spelling.mem_unsigned (t : Spelling) {c : Char} (hc : c ∈ t.whole ++ t.fraction) :
    c ∈ t.unsigned := by
  rw [Spelling.unsigned, point]
  split_ifs with hempty
  · simpa [withFraction, hempty] using hc
  · obtain hc | hc := List.mem_append.mp hc <;> simp [withFraction, hc]

/-- A normal spelling is taken for zero exactly if it spells zero. -/
lemma isZero_unsigned_iff (t : Spelling) (hnormal : t.units = 0 → t.whole = ['0']) :
    isZero t.unsigned ↔ t.units = 0 := by
  have hzeros : t.units = 0 ↔ ∀ c ∈ t.whole ++ t.fraction, c = '0' := value_eq_zero_iff t.digits
  constructor
  · intro h
    rw [hzeros]
    intro c hc
    refine (eq_of_mem_isZero h c (t.mem_unsigned hc)).resolve_right fun hpoint => ?_
    exact ne_of_isDigit (t.digits c hc) rfl hpoint
  · intro h
    have hall : ∀ c ∈ t.fraction, c = '0' := fun c hc => hzeros.mp h c (by simp [hc])
    rw [Spelling.unsigned, hnormal h, point]
    split_ifs
    · rfl
    · simpa [withFraction, isZero] using hall

lemma abs_value (s : Spelling) : |s.value| = s.magnitude := by
  rw [Spelling.value]
  split_ifs
  · rw [abs_neg, abs_of_nonneg s.magnitude_nonneg]
  · exact abs_of_nonneg s.magnitude_nonneg

/-- What is written of a rounded amount. -/
structure Rounds (s t : Spelling) (decimals : ℕ) : Prop where
  length : t.fraction.length = decimals
  value : t.value = Decimals.quantize decimals s.value
  sign : t.negative → t.value < 0

/-- The digits of an amount, rounded, and its sign unless they spell zero. -/
lemma rounds_of_rounded {s t : Spelling} {decimals : ℕ}
    (h : Rounded s.whole s.fraction decimals (t.whole, t.fraction))
    (hsign : t.negative = (s.negative && t.units ≠ 0)) : Rounds s t decimals := by
  have hunits : (t.units : ℤ) = Decimals.units decimals s.value := by
    rw [Decimals.units, abs_value]
    exact h.value
  have hmagnitude : t.magnitude = (Decimals.units decimals s.value : ℚ) / 10 ^ decimals := by
    rw [Spelling.magnitude, ← hunits, h.length]
    rfl
  by_cases hzero : t.units = 0
  · have hnegative : t.negative = false := by simpa [hzero] using hsign
    have hvalue : t.value = 0 := by
      simp [Spelling.value, Spelling.magnitude, hnegative, hzero]
    refine ⟨h.length, ?_, fun ht => ?_⟩
    · rw [hvalue, Decimals.quantize, ← hunits, hzero]
      split_ifs <;> simp
    · rw [hnegative] at ht
      cases ht
  · have hnegative : t.negative = s.negative := by simpa [hzero] using hsign
    have hpos : 0 < t.magnitude := by
      have hcast : (0 : ℚ) < t.units := by exact_mod_cast Nat.pos_of_ne_zero hzero
      rw [Spelling.magnitude]
      positivity
    have hsource : s.value < 0 ↔ s.negative := by
      have hne : s.magnitude ≠ 0 := by
        intro hmagnitude
        rw [Decimals.units, abs_value, hmagnitude] at hunits
        norm_num at hunits
        exact hzero hunits
      have hlt : 0 < s.magnitude := lt_of_le_of_ne s.magnitude_nonneg hne.symm
      rw [Spelling.value]
      split_ifs with hs
      · simpa [hs] using hlt
      · simpa [hs] using hlt.le
    refine ⟨h.length, ?_, fun ht => ?_⟩
    · rw [Decimals.quantize, ← hmagnitude, Spelling.value, hnegative]
      split_ifs with h1 h2 h2
      · rfl
      · exact absurd (hsource.mpr h1) h2
      · exact absurd (hsource.mp h2) h1
      · rfl
    · rw [Spelling.value, if_pos ht]
      linarith

/-- Rounding an amount that is accepted. -/
lemma exists_rounds (s : Spelling) (h : trim raw.toList = s.text) (decimals : ℕ) :
    ∃ t : Spelling, roundDecimalString raw decimals = some (String.ofList t.text) ∧
      Rounds s.stripped t decimals := by
  have hrounded := roundDigits_rounded s.stripped.digits s.stripped.whole_ne decimals
  let r := roundDigits s.stripped.whole s.stripped.fraction decimals
  let body : Spelling := ⟨s.negative, r.1, r.2, hrounded.whole_ne, hrounded.digits⟩
  let t : Spelling := { body with negative := s.negative && !isZero body.unsigned }
  have hzero : isZero body.unsigned ↔ body.units = 0 :=
    isZero_unsigned_iff body (hrounded.zero s.whole_stripped)
  refine ⟨t, ?_, rounds_of_rounded hrounded ?_⟩
  · have hfraction : (point s.stripped.fraction).getD [] = s.stripped.fraction := by
      rw [point]
      split_ifs with hempty <;> simp [hempty]
    have hbody : (if decimals = 0 then r.1 else r.1 ++ '.' :: r.2) = body.unsigned := by
      have hlength : r.2.length = decimals := hrounded.length
      rw [Spelling.unsigned, point]
      by_cases hdecimals : decimals = 0
      · have hempty : body.fraction = [] := List.eq_nil_of_length_eq_zero (hlength.trans hdecimals)
        rw [if_pos hdecimals, if_pos hempty]
        rfl
      · have hne : body.fraction ≠ [] := by
          intro hempty
          exact hdecimals (hlength.symm.trans (congrArg List.length hempty))
        rw [if_neg hdecimals, if_neg hne]
        rfl
    simp only [roundDecimalString, normalizeDecimalString_eq s h, Option.map_some,
      String.toList_ofList, splitSign_text, Spelling.unsigned, splitPoint_digits s.stripped.digits,
      hfraction]
    rw [hbody]
    rfl
  · show (s.negative && !isZero body.unsigned) = (s.negative && decide (body.units ≠ 0))
    congr 1
    by_cases hunits : body.units = 0
    · simp [hzero.mpr hunits, hunits]
    · simp [Bool.eq_false_iff.mpr fun htrue => hunits (hzero.mp htrue), hunits]

/-! ### Thousands -/

/-- Groups of three digits behind a first group of at most three. -/
def Grouped (cs shown : List Char) : Prop :=
  ∃ (first : List Char) (groups : List (List Char)), cs = first ++ groups.flatten ∧
    shown = first ++ (groups.map fun g => ',' :: g).flatten ∧
    1 ≤ first.length ∧ first.length ≤ 3 ∧ ∀ g ∈ groups, g.length = 3

lemma threesFollow_iff {cs : List Char} (h : IsDigits cs) :
    threesFollow cs ↔ cs.length ≠ 0 ∧ cs.length % 3 = 0 := by
  rw [threesFollow, List.takeWhile_eq_self_iff.mpr h]
  simp

/-- Behind a digit, separators go in front of every three that end the digits. -/
lemma groupFrom_digits {cs : List Char} (h : IsDigits cs) :
    ∃ (first : List Char) (groups : List (List Char)), cs = first ++ groups.flatten ∧
      groupFrom true cs = first ++ (groups.map fun g => ',' :: g).flatten ∧
      first.length = cs.length % 3 ∧ ∀ g ∈ groups, g.length = 3 := by
  induction cs with
  | nil => exact ⟨[], [], rfl, rfl, rfl, by simp⟩
  | cons c cs ih =>
    obtain ⟨hc, hcs⟩ := isDigits_cons.mp h
    obtain ⟨first, groups, hflat, hgroup, hlength, hthree⟩ := ih hcs
    have hword : isWord c = true := by simp [isWord, Char.isAlphanum, hc]
    have hfollow := threesFollow_iff h
    rw [List.length_cons] at hfollow
    rw [groupFrom, hword, hgroup]
    by_cases hmod : (cs.length + 1) % 3 = 0
    · -- a group begins here
      have hyes : threesFollow (c :: cs) = true := hfollow.mpr ⟨by omega, hmod⟩
      refine ⟨[], (c :: first) :: groups, by simp [← hflat], by simp [hyes], by simp [hmod],
        List.forall_mem_cons.mpr ⟨?_, hthree⟩⟩
      rw [List.length_cons, hlength]
      omega
    · have hno : threesFollow (c :: cs) = false := by
        rw [Bool.eq_false_iff]
        exact fun htrue => hmod (hfollow.mp htrue).2
      refine ⟨c :: first, groups, by simp [← hflat], by simp [hno], ?_, hthree⟩
      rw [List.length_cons, List.length_cons, hlength]
      omega

lemma groupThousands_grouped {cs : List Char} (h : IsDigits cs) (hne : cs ≠ []) :
    Grouped cs (groupThousands cs) := by
  obtain ⟨c, rest, rfl⟩ := List.exists_cons_of_ne_nil hne
  obtain ⟨hc, hrest⟩ := isDigits_cons.mp h
  obtain ⟨first, groups, hflat, hgroup, hlength, hthree⟩ := groupFrom_digits hrest
  have hword : isWord c = true := by simp [isWord, Char.isAlphanum, hc]
  refine ⟨c :: first, groups, by simp [← hflat], ?_, by simp, ?_, hthree⟩
  · simp [groupThousands, groupFrom, hword, hgroup]
  · rw [List.length_cons, hlength]
    omega

/-- Every amount that is accepted spells a number, and rounding it gives the nearest number with so
many decimals, halves away from zero, and no minus in front of zero. Its whole part is grouped by
thousands. -/
theorem roundDecimalString_rounds (raw : String) (decimals : ℕ)
    (h : (normalizeDecimalString raw).isSome) :
    ∃ s t : Spelling, trim raw.toList = s.text ∧
      roundDecimalString raw decimals = some (String.ofList t.text) ∧
      t.fraction.length = decimals ∧ t.value = Decimals.quantize decimals s.value ∧
      (t.negative → t.value < 0) ∧ Grouped t.whole (groupThousands t.whole) := by
  obtain ⟨s, hs⟩ := normalizeDecimalString_isSome_iff.mp h
  obtain ⟨t, hround, hrounds⟩ := exists_rounds s hs decimals
  refine ⟨s, t, hs, hround, hrounds.length, ?_, hrounds.sign,
    groupThousands_grouped t.digits_whole t.whole_ne⟩
  rw [hrounds.value, s.value_stripped]

/-- A tie below zero. -/
theorem roundDecimalString_rounds_tie :
    ∃ s t : Spelling, trim " -1234.565".toList = s.text ∧
      roundDecimalString " -1234.565" 2 = some (String.ofList t.text) ∧
      t.fraction.length = 2 ∧ t.value = Decimals.quantize 2 s.value ∧
      (t.negative → t.value < 0) ∧ Grouped t.whole (groupThousands t.whole) :=
  roundDecimalString_rounds " -1234.565" 2 (by decide +kernel)

example : roundDecimalString " -1234.565" 2 = some "-1234.57" := by decide +kernel

/-! ### Signs -/

lemma Spelling.ne_empty (s : Spelling) (h : trim raw.toList = s.text) : raw ≠ "" := by
  rintro rfl
  have hne : s.text ≠ [] := by
    obtain ⟨c, cs, hwhole⟩ := List.exists_cons_of_ne_nil s.whole_ne
    rw [Spelling.text, withSign, Spelling.unsigned, hwhole]
    cases point s.fraction <;> split_ifs <;> simp [withFraction]
  exact hne h.symm

/-- The sign of an amount that is accepted is the one it is spelled with. -/
lemma isNegativeMoney_eq (s : Spelling) (h : trim raw.toList = s.text) :
    isNegativeMoney (some raw) = s.negative := by
  have hsome : (some raw).filter (· ≠ "") = some raw := by simp [s.ne_empty h]
  simp only [isNegativeMoney, hsome, normalizeDecimalString_eq s h, String.toList_ofList,
    splitSign_text]
  rfl

lemma symbol_no_minus (options : FormatMoneyOptions) :
    (if options.showSymbol then (currencySymbols.lookup options.currency).getD "" else "").toList.head? ≠
      some '-' := by
  have hall : ∀ p ∈ currencySymbols, p.2.toList.head? ≠ some '-' := by decide
  split_ifs
  · cases hsymbol : currencySymbols.lookup options.currency with
    | none => simp
    | some symbol =>
      obtain ⟨before, after, htable, -⟩ := List.lookup_eq_some_iff.mp hsymbol
      exact hall (options.currency, symbol) (by rw [htable]; simp)
  · simp

lemma number_no_minus (t : Spelling) (grouping : Bool) :
    (withFraction (if grouping then groupThousands t.whole else t.whole) (point t.fraction)).head? =
      t.whole.head? := by
  obtain ⟨c, cs, hwhole⟩ := List.exists_cons_of_ne_nil t.whole_ne
  have hc : c.isDigit = true := t.digits_whole c (by simp [hwhole])
  have hword : isWord c = true := by simp [isWord, Char.isAlphanum, hc]
  rw [hwhole]
  cases point t.fraction <;> cases grouping <;>
    simp [withFraction, groupThousands, groupFrom, hword]

/-- An amount is shown with a minus exactly if it is rounded to less than zero. -/
lemma formatMoney_minus_iff (s : Spelling) (h : trim raw.toList = s.text)
    (options : FormatMoneyOptions) :
    (formatMoney (some raw) options).toList.head? = some '-' ↔
      Decimals.quantize options.decimals s.value < 0 := by
  obtain ⟨t, hround, hrounds⟩ := exists_rounds s h options.decimals
  have hsome : (some raw).filter (· ≠ "") = some raw := by simp [s.ne_empty h]
  have hnegative : t.negative ↔ t.value < 0 := by
    refine ⟨hrounds.sign, fun hvalue => ?_⟩
    by_contra hpositive
    rw [Spelling.value, if_neg hpositive] at hvalue
    exact absurd t.magnitude_nonneg (not_le.mpr hvalue)
  rw [← s.value_stripped, ← hrounds.value, ← hnegative]
  simp only [formatMoney, hsome, hround, String.toList_ofList, splitSign_text, Spelling.unsigned,
    splitPoint_digits t.digits, String.toList_append]
  cases t.negative with
  | true => simp
  | false =>
    obtain ⟨c, cs, hwhole⟩ := List.exists_cons_of_ne_nil t.whole_ne
    have hc : c ≠ '-' := ne_of_isDigit (t.digits_whole c (by simp [hwhole])) rfl
    have hnumber := number_no_minus t options.grouping
    have hhead : t.whole.head? = some c := by rw [hwhole, List.head?_cons]
    rw [hhead] at hnumber
    have hsymbol := symbol_no_minus options
    simp only [List.head?_append, List.head?_nil, Bool.false_eq_true, iff_false, if_false,
      Option.none_or, String.toList_empty, hnumber]
    generalize (if options.showSymbol then (currencySymbols.lookup options.currency).getD ""
      else "").toList.head? = symbol at hsymbol
    cases symbol with
    | none => simpa using hc
    | some d => simpa using hsymbol


/-- The sign by itself agrees with the value, and with what is shown in as many decimals as the
amount has. -/
def SignAgrees (raw : String) (s : Spelling) : Prop :=
  (isNegativeMoney (some raw) ↔ s.value < 0) ∧
    ∀ options : FormatMoneyOptions, options.decimals = s.fraction.length →
      (isNegativeMoney (some raw) ↔
        (formatMoney (some raw) options).toList.head? = some '-')

lemma quantize_own_precision (s : Spelling) :
    Decimals.quantize s.fraction.length s.value = s.value := by
  refine Decimals.quantize_eq_self ⟨if s.negative then -s.units else s.units, ?_⟩
  rw [Spelling.value, Spelling.magnitude]
  split_ifs
  · push_cast
    ring
  · push_cast
    rfl

/-- The sign by itself is right exactly if the amount is no zero with a minus. -/
theorem signAgrees_iff (raw : String) (s : Spelling) (h : trim raw.toList = s.text) :
    SignAgrees raw s ↔ ¬ (s.negative ∧ ∀ c ∈ s.whole ++ s.fraction, c = '0') := by
  have hzeros : s.units = 0 ↔ ∀ c ∈ s.whole ++ s.fraction, c = '0' := value_eq_zero_iff s.digits
  have hvalue : s.value < 0 ↔ s.negative ∧ s.units ≠ 0 := by
    have hmagnitude : 0 < s.magnitude ↔ s.units ≠ 0 := by
      rw [Spelling.magnitude, ← Nat.pos_iff_ne_zero]
      constructor
      · intro hlt
        by_contra hzero
        simp [Nat.eq_zero_of_not_pos hzero] at hlt
      · intro hpos
        have hcast : (0 : ℚ) < s.units := by exact_mod_cast hpos
        positivity
    rw [Spelling.value]
    split_ifs with hnegative
    · simpa [hnegative] using hmagnitude
    · simpa [hnegative] using s.magnitude_nonneg
  have hshown (options : FormatMoneyOptions) (hown : options.decimals = s.fraction.length) :
      (formatMoney (some raw) options).toList.head? = some '-' ↔ s.value < 0 := by
    rw [formatMoney_minus_iff s h, hown, quantize_own_precision]
  rw [SignAgrees, isNegativeMoney_eq s h, ← hzeros]
  constructor
  · rintro ⟨hsign, -⟩ ⟨hnegative, hzero⟩
    exact (hvalue.mp (hsign.mp hnegative)).2 hzero
  · intro hnot
    have hsign : s.negative ↔ s.value < 0 := by
      rw [hvalue]
      exact ⟨fun hnegative => ⟨hnegative, fun hzero => hnot ⟨hnegative, hzero⟩⟩, And.left⟩
    exact ⟨hsign, fun options hown => hsign.trans (hshown options hown).symm⟩

/-- One and a half below zero. -/
private def spelled : Spelling := ⟨true, ['1'], ['5'], by simp, by decide⟩

/-- Zero with a minus. -/
private def negativeZero : Spelling := ⟨true, ['0'], ['0', '0'], by simp, by decide⟩

theorem signAgrees_iff_loss : trim "-1.5".toList = spelled.text ∧
    (SignAgrees "-1.5" spelled ↔
      ¬ (spelled.negative ∧ ∀ c ∈ spelled.whole ++ spelled.fraction, c = '0')) :=
  ⟨by decide +kernel, signAgrees_iff "-1.5" spelled (by decide +kernel)⟩

/-- `-0.00` is shown without a minus and counts as negative. -/
theorem not_signAgrees_negativeZero : ¬ ∀ (raw : String) (s : Spelling),
    trim raw.toList = s.text → SignAgrees raw s := by
  intro h
  have hagrees := h "-0.00" negativeZero (by decide +kernel)
  have hnegative : isNegativeMoney (some "-0.00") = true := by decide +kernel
  have hlt := hagrees.1.mp hnegative
  norm_num [Spelling.value, Spelling.magnitude, Spelling.units, negativeZero, DigitStrings.value,
    digit] at hlt

end CrossPilot.Frontend.Money
