import CrossPilot.Lib.Decimals

/-!
# Strings of digits

Decimal digits as they are written, with what is done to them sign by sign: adding one with carries
(`value_increment`), and cutting digits off behind a place, where the first of them says whether one
is added (`floor_value`).
-/

namespace DigitStrings

/-- Signs that are all digits. -/
def IsDigits (cs : List Char) : Prop := ∀ c ∈ cs, c.isDigit

instance : DecidablePred IsDigits := fun cs => List.decidableBAll (fun c : Char => c.isDigit = true) cs

/-- The digit that a sign is. -/
def digit (c : Char) : ℕ := c.toNat - 48

/-- The number that digits spell. -/
def value (cs : List Char) : ℕ := cs.foldl (fun n c => n * 10 + digit c) 0

variable {cs ds : List Char} {c : Char}

lemma isDigits_append : IsDigits (cs ++ ds) ↔ IsDigits cs ∧ IsDigits ds :=
  List.forall_mem_append

lemma isDigits_cons : IsDigits (c :: cs) ↔ c.isDigit ∧ IsDigits cs :=
  List.forall_mem_cons

lemma IsDigits.take (h : IsDigits cs) (n : ℕ) : IsDigits (cs.take n) :=
  fun c hc => h c (List.mem_of_mem_take hc)

lemma isDigits_zeros (n : ℕ) : IsDigits (List.replicate n '0') := by
  intro c hc
  rw [List.eq_of_mem_replicate hc]
  rfl

lemma isDigit_iff : c.isDigit = true ↔ 48 ≤ c.toNat ∧ c.toNat ≤ 57 := by
  simp only [Char.isDigit, Bool.and_eq_true, decide_eq_true_eq]
  rfl

lemma digit_lt (h : c.isDigit = true) : digit c < 10 := by
  have hbounds := isDigit_iff.mp h
  rw [digit]
  omega

/-! ### Numbers -/

@[simp] lemma value_nil : value [] = 0 := rfl

lemma foldl_eq (n : ℕ) (cs : List Char) :
    cs.foldl (fun n c => n * 10 + digit c) n = n * 10 ^ cs.length + value cs := by
  induction cs generalizing n with
  | nil => simp
  | cons c cs ih =>
    rw [value, List.foldl_cons, List.foldl_cons, ih, ih, List.length_cons, pow_succ]
    ring

lemma value_append (cs ds : List Char) : value (cs ++ ds) = value cs * 10 ^ ds.length + value ds := by
  rw [value, List.foldl_append, foldl_eq]
  rfl

lemma value_cons (c : Char) (cs : List Char) : value (c :: cs) = digit c * 10 ^ cs.length + value cs := by
  rw [value, List.foldl_cons, foldl_eq]
  simp

@[simp] lemma value_zeros (n : ℕ) : value (List.replicate n '0') = 0 := by
  induction n with
  | zero => rfl
  | succ n ih =>
    have hzero : digit '0' = 0 := rfl
    rw [List.replicate_succ, value_cons, ih, hzero, zero_mul]

lemma value_lt (h : IsDigits cs) : value cs < 10 ^ cs.length := by
  induction cs with
  | nil => simp
  | cons c cs ih =>
    obtain ⟨hc, hcs⟩ := isDigits_cons.mp h
    have hdigit := digit_lt hc
    have hrest := ih hcs
    rw [value_cons, List.length_cons, pow_succ]
    nlinarith

/-- Only zeros spell zero. -/
lemma value_eq_zero_iff (h : IsDigits cs) : value cs = 0 ↔ ∀ c ∈ cs, c = '0' := by
  induction cs with
  | nil => simp
  | cons c cs ih =>
    obtain ⟨hc, hcs⟩ := isDigits_cons.mp h
    have hzero : digit c = 0 ↔ c = '0' := by
      have hbounds := isDigit_iff.mp hc
      constructor
      · intro hdigit
        apply Char.ext
        apply UInt32.toNat.inj
        rw [digit] at hdigit
        show c.toNat = 48
        omega
      · rintro rfl
        rfl
    rw [value_cons, Nat.add_eq_zero_iff, ih hcs, List.forall_mem_cons, ← hzero]
    simp

/-! ### Adding one -/

/-- The sign of the next digit. -/
def next (c : Char) : Char := Char.ofNat (c.toNat + 1)

/-- A digit with a carry from behind it. -/
def carryInto (c : Char) (behind : List Char × Bool) : List Char × Bool :=
  if behind.2 then (if c = '9' then ('0' :: behind.1, true) else (next c :: behind.1, false))
  else (c :: behind.1, false)

/-- One more, in as many digits, and what is carried out of them. -/
def increment (cs : List Char) : List Char × Bool := cs.foldr carryInto ([], true)

@[simp] lemma increment_nil : increment [] = ([], true) := rfl

@[simp] lemma increment_cons : increment (c :: cs) = carryInto c (increment cs) := rfl

lemma toNat_ofNat {n : ℕ} (hlow : 48 ≤ n) (hhigh : n ≤ 57) : (Char.ofNat n).toNat = n := by
  interval_cases n <;> rfl

/-- `0` to `8` have a next digit. -/
lemma next_spec (h : c.isDigit = true) (hne : c ≠ '9') :
    (next c).isDigit = true ∧ digit (next c) = digit c + 1 := by
  have hbounds := isDigit_iff.mp h
  have hlt : c.toNat < 57 := by
    refine lt_of_le_of_ne hbounds.2 fun heq => hne ?_
    apply Char.ext
    apply UInt32.toNat.inj
    exact heq
  have hnext : (next c).toNat = c.toNat + 1 := toNat_ofNat (by omega) (by omega)
  constructor
  · rw [isDigit_iff, hnext]
    omega
  · rw [digit, digit, hnext]
    omega

lemma length_increment (cs : List Char) : (increment cs).1.length = cs.length := by
  induction cs with
  | nil => rfl
  | cons c cs ih =>
    rw [increment_cons, carryInto]
    split_ifs <;> simp [ih]

lemma isDigits_increment (h : IsDigits cs) : IsDigits (increment cs).1 := by
  induction cs with
  | nil => exact h
  | cons c cs ih =>
    obtain ⟨hc, hcs⟩ := isDigits_cons.mp h
    rw [increment_cons, carryInto]
    split_ifs with hcarry hnine
    · exact isDigits_cons.mpr ⟨rfl, ih hcs⟩
    · exact isDigits_cons.mpr ⟨(next_spec hc hnine).1, ih hcs⟩
    · exact isDigits_cons.mpr ⟨hc, ih hcs⟩

lemma value_increment (h : IsDigits cs) :
    value (increment cs).1 + (if (increment cs).2 then 10 ^ cs.length else 0) = value cs + 1 := by
  induction cs with
  | nil => rfl
  | cons c cs ih =>
    obtain ⟨hc, hcs⟩ := isDigits_cons.mp h
    have hrest := ih hcs
    rw [increment_cons, carryInto]
    by_cases hcarry : (increment cs).2
    · simp only [hcarry, if_true] at hrest ⊢
      by_cases hnine : c = '9'
      · subst hnine
        have hdigits : digit '0' = 0 ∧ digit '9' = 9 := ⟨rfl, rfl⟩
        simp only [if_true, value_cons, hdigits, length_increment, List.length_cons, pow_succ]
        omega
      · simp only [hnine, if_false, value_cons, (next_spec hc hnine).2, length_increment,
          Bool.false_eq_true]
        linarith
    · simp only [hcarry, if_false, Bool.false_eq_true] at hrest ⊢
      rw [value_cons, value_cons, length_increment]
      omega

/-! ### Cutting digits off -/

/-- Whether one is added to what is kept, by the first digit that is cut off. -/
def roundsUp (c : Char) : Bool := 5 ≤ digit c

/-- Digits cut off behind some that are kept, rounded to the nearest number, halves up. -/
lemma floor_value {kept rest : List Char} (hc : c.isDigit = true) (hrest : IsDigits rest) :
    ⌊(value (kept ++ c :: rest) : ℚ) / 10 ^ (rest.length + 1) + 1 / 2⌋ =
      (value kept : ℤ) + if roundsUp c then 1 else 0 := by
  have hlt : (value rest : ℚ) < 10 ^ rest.length := by exact_mod_cast value_lt hrest
  have hpow : (0 : ℚ) < 10 ^ rest.length := by positivity
  have hsplit : (value (kept ++ c :: rest) : ℚ) / 10 ^ (rest.length + 1) =
      value kept + (digit c + value rest / 10 ^ rest.length) / 10 := by
    rw [value_append, value_cons, List.length_cons]
    push_cast
    rw [pow_succ]
    field_simp
  have hfraction : 0 ≤ (value rest : ℚ) / 10 ^ rest.length ∧
      (value rest : ℚ) / 10 ^ rest.length < 1 :=
    ⟨by positivity, (div_lt_one hpow).mpr hlt⟩
  have hdigit : (digit c : ℚ) ≤ 9 := by exact_mod_cast Nat.le_of_lt_succ (digit_lt hc)
  rw [hsplit, Int.floor_eq_iff, roundsUp]
  by_cases hfive : 5 ≤ digit c
  · have hcast : (5 : ℚ) ≤ digit c := by exact_mod_cast hfive
    simp only [hfive, decide_true, if_true]
    push_cast
    constructor <;> linarith
  · have hcast : (digit c : ℚ) ≤ 4 := by exact_mod_cast (by omega : digit c ≤ 4)
    simp only [hfive, decide_false, if_false, Bool.false_eq_true]
    push_cast
    constructor <;> linarith [(Nat.cast_nonneg (digit c) : (0 : ℚ) ≤ digit c)]

end DigitStrings
