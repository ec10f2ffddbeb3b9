import CrossPilot.Lib.Text

/-!
# Times in ISO 8601

`datetime.fromisoformat` as Python reads it: dates by month or by week, times of day with or without
separators, an offset from UTC. It lets pass what it does not understand between a time of day and
the sign of the offset, if that is one character.
-/

namespace IsoTime

/-! ### The calendar -/

def isLeap (year : ℕ) : Bool := year % 4 = 0 && (year % 100 ≠ 0 || year % 400 = 0)

def daysInMonth (year month : ℕ) : ℕ :=
  if month = 2 then (if isLeap year then 29 else 28)
  else if month ∈ [4, 6, 9, 11] then 30
  else 31

def daysBeforeYear (year : ℕ) : ℕ :=
  (year - 1) * 365 + (year - 1) / 4 - (year - 1) / 100 + (year - 1) / 400

def daysBeforeMonth (year month : ℕ) : ℕ :=
  ((List.range' 1 (month - 1)).map (daysInMonth year)).sum

/-- `date.toordinal`. The first day of the year 1 has the number 1. -/
def toOrdinal (year month day : ℕ) : ℕ := daysBeforeYear year + daysBeforeMonth year month + day

/-- `date.max.toordinal()`. -/
def lastOrdinal : ℕ := 3652059

def IsDate (year month day : ℕ) : Prop :=
  1 ≤ year ∧ year ≤ 9999 ∧ 1 ≤ month ∧ month ≤ 12 ∧ 1 ≤ day ∧ day ≤ daysInMonth year month

instance (year month day : ℕ) : Decidable (IsDate year month day) :=
  inferInstanceAs (Decidable (_ ∧ _))

/-- `weekday`, from Monday. -/
def weekday (ordinal : ℕ) : ℕ := (ordinal + 6) % 7

/-- The Monday of the first week of a year. -/
def week1Monday (year : ℕ) : ℕ :=
  let first := toOrdinal year 1 1
  if 3 < weekday first then first - weekday first + 7 else first - weekday first

/-- Whether a year has a week of this number. -/
def IsWeek (year week : ℕ) : Prop :=
  let first := weekday (toOrdinal year 1 1)
  1 ≤ week ∧ (week ≤ 52 ∨ (week = 53 ∧ (first = 3 ∨ (first = 2 ∧ isLeap year))))

instance (year week : ℕ) : Decidable (IsWeek year week) := inferInstanceAs (Decidable (_ ∧ _))

/-! ### Reading a date -/

/-- The number in the next `n` digits, and what follows them. -/
def digitsFrom (acc : ℕ) : ℕ → List Char → Option (ℕ × List Char)
  | 0, cs => some (acc, cs)
  | _ + 1, [] => none
  | n + 1, c :: cs => if c.isDigit then digitsFrom (acc * 10 + (c.toNat - 48)) n cs else none

abbrev digits : ℕ → List Char → Option (ℕ × List Char) := digitsFrom 0

/-- What follows a character that has to come next. -/
def expect (c : Char) : List Char → Option (List Char)
  | d :: cs => if d = c then some cs else none
  | [] => none

/-- A day of a week, by its number. -/
def weekDate (year week day : ℕ) : Option ℕ :=
  let ordinal := week1Monday year + (week - 1) * 7 + (day - 1)
  if IsWeek year week ∧ 1 ≤ day ∧ day ≤ 7 ∧ 1 ≤ year ∧ ordinal ≤ lastOrdinal ∧ 1 ≤ ordinal then
    some ordinal
  else none

/-- A day of a week, or its Monday. -/
def readWeek (year : ℕ) (separated : Bool) (cs : List Char) : Option ℕ := do
  let (week, cs) ← digits 2 cs
  if cs = [] then weekDate year week 1
  else
    let cs ← if separated then expect '-' cs else some cs
    let (day, cs) ← digits 1 cs
    if cs = [] then weekDate year week day else none

/-- A day of a month. -/
def readDay (year : ℕ) (separated : Bool) (cs : List Char) : Option ℕ := do
  let (month, cs) ← digits 2 cs
  let cs ← if separated then expect '-' cs else some cs
  let (day, cs) ← digits 2 cs
  if cs = [] ∧ IsDate year month day then some (toOrdinal year month day) else none

/-- `parse_isoformat_date`. -/
def readDate (cs : List Char) : Option ℕ := do
  let (year, cs) ← digits 4 cs
  let separated := cs.head? = some '-'
  let cs := if separated then cs.tail else cs
  if cs.head? = some 'W' then readWeek year separated cs.tail else readDay year separated cs

/-- Where the date ends. -/
def separatorLocation (cs : List Char) : Option ℕ :=
  if cs.length = 7 then some 7
  else if cs[4]? = some '-' then
    if cs[5]? = some 'W' then
      if cs[8]? = some '-' then
        if cs.length = 9 then none
        else if (cs[10]?.map Char.isDigit).getD false then some 8
        else some 10
      else some 8
    else some 10
  else if cs[4]? = some 'W' then
    let stop := 7 + ((cs.drop 7).takeWhile Char.isDigit).length
    if stop < 9 then some stop
    else if stop % 2 = 0 then some 7
    else some 8
  else some 8

/-! ### Reading a time of day -/

/-- The character that ends a text in C. -/
def nul : Char := Char.ofNat 0

/-- A time of day, and whether something was left that has not been read. -/
structure Clock where
  hour : ℕ
  minute : ℕ := 0
  second : ℕ := 0
  micro : ℕ := 0
  leftover : Bool
  deriving DecidableEq

/-- What can follow two digits of a time. -/
inductive Follow
  | stop (leftover : Bool)
  | more (cs : List Char)
  | fraction (cs : List Char)
  | malformed

/-- What follows two digits. The part being read ends in front of `next`. -/
def follow (separated : Bool) (next : Char) : List Char → Follow
  | [] => .stop (next ≠ nul)
  | [c] => if c.toNat < 128 then .stop (c ≠ nul) else .malformed
  | c :: cs =>
    if separated ∧ c = ':' then .more cs
    else if c = '.' ∨ c = ',' then .fraction cs
    else if !separated then .more (c :: cs)
    else .malformed

/-- A fraction of a second, in microseconds. Digits after the sixth are passed over. -/
def readFraction (next : Char) (cs : List Char) : Option (ℕ × Bool) :=
  let places := min 6 cs.length
  (digits places cs).map fun (n, rest) =>
    (n * 10 ^ (6 - places), (rest.dropWhile Char.isDigit).head?.getD next ≠ nul)

/-- The end of a time of day, from its fraction on. -/
def withFraction (next : Char) (hour minute second : ℕ) (cs : List Char) : Option Clock :=
  (readFraction next cs).map fun (micro, leftover) => { hour, minute, second, micro, leftover }

/-- `parse_hh_mm_ss_ff`. -/
def readClock (next : Char) (cs : List Char) : Option Clock := do
  let (hour, cs) ← digits 2 cs
  let separated := cs.head?.getD next = ':'
  match follow separated next cs with
  | .stop leftover => some { hour, leftover }
  | .fraction cs => withFraction next hour 0 0 cs
  | .malformed => none
  | .more cs => do
    let (minute, cs) ← digits 2 cs
    match follow separated next cs with
    | .stop leftover => some { hour, minute, leftover }
    | .fraction cs => withFraction next hour minute 0 cs
    | .malformed => none
    | .more cs => do
      let (second, cs) ← digits 2 cs
      match follow separated next cs with
      | .stop leftover => some { hour, minute, second, leftover }
      | .fraction cs | .more cs => withFraction next hour minute second cs
      | .malformed => none

namespace Clock

def seconds (c : Clock) : ℕ := c.hour * 3600 + c.minute * 60 + c.second

def micros (c : Clock) : ℤ := c.seconds * 1000000 + c.micro

def IsTimeOfDay (c : Clock) : Prop := c.hour < 24 ∧ c.minute < 60 ∧ c.second < 60

instance (c : Clock) : Decidable c.IsTimeOfDay := inferInstanceAs (Decidable (_ ∧ _))

/-- An offset from UTC, in microseconds. A fraction alone counts as none. -/
def offset (c : Clock) (negative : Bool) : Option ℤ :=
  let size : ℤ := if c.seconds = 0 then 0 else c.micros
  if size < 86400000000 then some (if negative then -size else size) else none

end Clock

/-- A clock, with its offset from UTC if it has one, both in microseconds. -/
structure Moment where
  clock : ℤ
  offset : Option ℤ
  deriving DecidableEq

def startsZone (c : Char) : Bool := c = '+' || c = '-' || c = 'Z'

/-- The offset after a time of day, from its sign on. -/
def readZone : List Char → Option (Option ℤ)
  | [] => some none
  | c :: cs =>
    if c = 'Z' then (if cs.head?.getD nul = nul then some (some 0) else none)
    else (readClock nul cs).bind fun zone =>
      if zone.leftover then none else (zone.offset (c = '-')).map some

/-- `parse_isoformat_time`: what remains unread does no harm in front of an offset. -/
def readTime (day : ℤ) (cs : List Char) : Option Moment := do
  let zone := cs.dropWhile fun c => !startsZone c
  let clock ← readClock (zone.head?.getD nul) (cs.takeWhile fun c => !startsZone c)
  let offset ← readZone zone
  if clock.IsTimeOfDay ∧ ¬ (clock.leftover ∧ zone = []) then
    some { clock := day + clock.micros, offset }
  else none

/-- The first moment of a day, in microseconds from the first day of the year 1 on. -/
def midnight (ordinal : ℕ) : ℤ := (ordinal - 1 : ℤ) * 86400000000

/-- `datetime.fromisoformat`. -/
def fromIsoFormat (s : String) : Option Moment := do
  let cs := s.toList
  if cs.length < 7 then none
  else
    let location ← separatorLocation cs
    let ordinal ← readDate (cs.take location)
    match cs.drop location with
    | [] => some { clock := midnight ordinal, offset := none }
    | _ :: rest => readTime (midnight ordinal) rest

/-! ### Writing -/

def two (n : ℕ) : List Char := [Nat.digitChar (n / 10), Nat.digitChar (n % 10)]

def four (n : ℕ) : List Char := two (n / 100) ++ two (n % 100)

/-- A date with a time of day, in whole seconds. -/
structure Stamp where
  year : ℕ
  month : ℕ
  day : ℕ
  hour : ℕ
  minute : ℕ
  second : ℕ
  isDate : IsDate year month day
  isTimeOfDay : hour < 24 ∧ minute < 60 ∧ second < 60

namespace Stamp

/-- What the clock shows, in microseconds. -/
def clock (s : Stamp) : ℤ :=
  midnight (toOrdinal s.year s.month s.day) +
    ((s.hour * 3600 + s.minute * 60 + s.second : ℕ) : ℤ) * 1000000

/-- `YYYY-MM-DD`. -/
def date (s : Stamp) : List Char := four s.year ++ '-' :: (two s.month ++ '-' :: two s.day)

/-- `HH:MM:SS`. -/
def time (s : Stamp) : List Char := two s.hour ++ ':' :: (two s.minute ++ ':' :: two s.second)

end Stamp

/-- An offset from UTC of less than a day, in whole minutes. -/
structure Zone where
  negative : Bool
  minutes : ℕ
  lt_day : minutes < 1440

namespace Zone

def sign (z : Zone) : Char := if z.negative then '-' else '+'

/-- `hhmm`. -/
def digits (z : Zone) : List Char := two (z.minutes / 60) ++ two (z.minutes % 60)

/-- In microseconds. -/
def offset (z : Zone) : ℤ :=
  let size : ℤ := z.minutes * 60000000
  if z.negative then -size else size

end Zone

section digits

variable {a n k : ℕ} {cs : List Char}

lemma digitChar_spec (h : n < 10) :
    (Nat.digitChar n).isDigit = true ∧ (Nat.digitChar n).toNat - 48 = n := by
  have hall : ∀ n < 10, (Nat.digitChar n).isDigit = true ∧ (Nat.digitChar n).toNat - 48 = n := by
    decide
  exact hall n h

lemma digitsFrom_two (h : n < 100) :
    digitsFrom a (k + 2) (two n ++ cs) = digitsFrom (a * 100 + n) k cs := by
  obtain ⟨htens, htens'⟩ := digitChar_spec (show n / 10 < 10 by omega)
  obtain ⟨hones, hones'⟩ := digitChar_spec (show n % 10 < 10 by omega)
  simp only [two, List.cons_append, List.nil_append, digitsFrom, htens, htens', hones, hones',
    if_true]
  congr 1
  omega

lemma digits_two (h : n < 100) : digits 2 (two n ++ cs) = some (n, cs) := by
  rw [digits, digitsFrom_two h, digitsFrom, zero_mul, zero_add]

lemma digits_four (h : n < 10000) : digits 4 (four n ++ cs) = some (n, cs) := by
  rw [four, List.append_assoc, digits, digitsFrom_two (by omega), digitsFrom_two (by omega),
    digitsFrom]
  congr 2
  omega

/-- A number of two digits has no character but digits. -/
lemma isDigit_of_mem_two (h : n < 100) {c : Char} (hc : c ∈ two n) : c.isDigit = true := by
  simp only [two, List.mem_cons, List.not_mem_nil, or_false] at hc
  obtain rfl | rfl := hc
  · exact (digitChar_spec (by omega)).1
  · exact (digitChar_spec (by omega)).1

lemma head?_two_append (h : n < 100) {c : Char} (hc : c.isDigit = false) :
    (two n ++ cs).head? ≠ some c := by
  rintro hhead
  have hdigit := (digitChar_spec (show n / 10 < 10 by omega)).1
  simp only [two, List.cons_append, List.head?_cons, Option.some.injEq] at hhead
  rw [hhead, hc] at hdigit
  exact absurd hdigit (by decide)

end digits

lemma daysInMonth_le (year month : ℕ) : daysInMonth year month ≤ 31 := by
  simp only [daysInMonth]
  split_ifs <;> decide

/-! ### Every day has a date -/

section calendar

variable {year month day n : ℕ}

lemma daysBeforeMonth_succ (hmonth : 1 ≤ month) :
    daysBeforeMonth year (month + 1) = daysBeforeMonth year month + daysInMonth year month := by
  have hsplit : month = month - 1 + 1 := by omega
  rw [daysBeforeMonth, daysBeforeMonth, Nat.add_sub_cancel]
  conv_lhs => rw [hsplit, List.range'_concat]
  rw [List.map_append, List.sum_append, List.map_singleton, List.sum_singleton, one_mul,
    Nat.add_sub_cancel' hmonth]

lemma daysBeforeYear_succ (hyear : 1 ≤ year) :
    daysBeforeYear (year + 1) = daysBeforeYear year + if isLeap year then 366 else 365 := by
  obtain ⟨y, rfl⟩ : ∃ y, year = y + 1 := ⟨year - 1, by omega⟩
  have hle : y / 100 ≤ y / 4 := Nat.div_le_div_left (by decide) (by decide)
  have hleap : isLeap (y + 1) = true ↔ 4 ∣ y + 1 ∧ (¬ 100 ∣ y + 1 ∨ 400 ∣ y + 1) := by
    simp [isLeap, Nat.dvd_iff_mod_eq_zero]
  have h100 : 100 ∣ y + 1 → 4 ∣ y + 1 := (by decide : 4 ∣ 100).trans
  have h400 : 400 ∣ y + 1 → 100 ∣ y + 1 := (by decide : 100 ∣ 400).trans
  simp only [daysBeforeYear, Nat.add_sub_cancel, Nat.succ_div, hleap]
  generalize y / 4 = a at *
  generalize y / 100 = b at *
  generalize y / 400 = c at *
  split_ifs <;> simp_all <;> omega

lemma daysBeforeMonth_december :
    daysBeforeMonth year 12 + 31 = if isLeap year then 366 else 365 := by
  cases hleap : isLeap year <;> simp [daysBeforeMonth, List.range', daysInMonth, hleap]

/-- The day after a date. -/
lemma exists_next (h : IsDate year month day) (hlast : toOrdinal year month day < lastOrdinal) :
    ∃ y m d, IsDate y m d ∧ toOrdinal y m d = toOrdinal year month day + 1 := by
  obtain ⟨hy, hy', hm, hm', hd, hd'⟩ := h
  by_cases hday : day < daysInMonth year month
  · exact ⟨year, month, day + 1, ⟨hy, hy', hm, hm', by omega, hday⟩, rfl⟩
  · have hlength : day = daysInMonth year month := by omega
    by_cases hmonth : month < 12
    · refine ⟨year, month + 1, 1, ⟨hy, hy', by omega, hmonth, le_rfl, ?_⟩, ?_⟩
      · simp only [daysInMonth]
        split_ifs <;> decide
      · rw [toOrdinal, toOrdinal, daysBeforeMonth_succ hm, hlength]
        omega
    · have hdecember : month = 12 := by omega
      have hend : toOrdinal year month day =
          daysBeforeYear year + if isLeap year then 366 else 365 := by
        rw [toOrdinal, hlength, hdecember, add_assoc]
        congr 1
        exact daysBeforeMonth_december
      have hyear : year < 9999 := by
        by_contra hge
        have h9999 : year = 9999 := by omega
        rw [hend, h9999] at hlast
        exact absurd hlast (by decide)
      refine ⟨year + 1, 1, 1, ⟨by omega, hyear, by omega, by omega, le_rfl, by simp [daysInMonth]⟩, ?_⟩
      rw [hend, toOrdinal, daysBeforeYear_succ hy]
      rfl

lemma exists_date (hn : 1 ≤ n) (hlast : n ≤ lastOrdinal) :
    ∃ y m d, IsDate y m d ∧ toOrdinal y m d = n := by
  induction n, hn using Nat.le_induction with
  | base => exact ⟨1, 1, 1, by decide, by decide⟩
  | succ n _ ih =>
    obtain ⟨y, m, d, hdate, rfl⟩ := ih (by omega)
    exact exists_next hdate hlast

/-- Every second of the years from 1 to 9999 is shown by some clock. -/
lemma exists_stamp {seconds : ℕ} (h : seconds < lastOrdinal * 86400) :
    ∃ s : Stamp, s.clock = (seconds : ℤ) * 1000000 := by
  have hday : seconds / 86400 + 1 ≤ lastOrdinal := Nat.div_lt_of_lt_mul (by rwa [mul_comm] at h)
  obtain ⟨y, m, d, hdate, hordinal⟩ := exists_date (by omega) hday
  refine ⟨⟨y, m, d, seconds % 86400 / 3600, seconds % 3600 / 60, seconds % 60, hdate, ?_⟩, ?_⟩
  · omega
  · simp only [Stamp.clock, hordinal, midnight]
    push_cast
    omega

end calendar

/-! ### Reading what was written -/

section reading

variable {next : Char} {rest junk : List Char} {leftover : Bool} (s : Stamp) (z : Zone)

lemma length_date : s.date.length = 10 := by
  simp [Stamp.date, four, two]

lemma readDate_date : readDate s.date = some (toOrdinal s.year s.month s.day) := by
  obtain ⟨-, hyear, -, hmonth, -, hday⟩ := s.isDate
  have hday' := hday.trans (daysInMonth_le s.year s.month)
  have hweek : (two s.month ++ '-' :: two s.day).head? ≠ some 'W' :=
    head?_two_append (by omega) rfl
  have hdigits : digits 2 (two s.day ++ []) = some (s.day, []) := digits_two (by omega)
  rw [List.append_nil] at hdigits
  simp only [readDate, Stamp.date, digits_four (show s.year < 10000 by omega),
    Option.bind_eq_bind, Option.bind_some, List.head?_cons, List.tail_cons, decide_true, if_true,
    if_neg hweek]
  simp only [readDay, digits_two (show s.month < 100 by omega), Option.bind_eq_bind,
    Option.bind_some, if_true, expect, hdigits, true_and, if_pos s.isDate]

/-- A date by month is followed by the time after ten characters. -/
lemma separatorLocation_date :
    separatorLocation (s.date ++ rest) = some 10 := by
  have hlength : (s.date ++ rest).length ≠ 7 := by
    rw [List.length_append, length_date]
    omega
  have hmonth : Nat.digitChar (s.month / 10) ≠ 'W' := by
    intro h
    have hle := s.isDate.2.2.2.1
    have hdigit := (digitChar_spec (show s.month / 10 < 10 by omega)).1
    rw [h] at hdigit
    exact absurd hdigit (by decide)
  rw [separatorLocation, if_neg hlength]
  simp [Stamp.date, four, two, hmonth]

/-- A time of day, with something after it that stops the reading. -/
lemma readClock_time (hstop : follow true next junk = .stop leftover) :
    readClock next (s.time ++ junk) =
      some { hour := s.hour, minute := s.minute, second := s.second, leftover } := by
  obtain ⟨hhour, hminute, hsecond⟩ := s.isTimeOfDay
  have hmore : ∀ n rest, follow true next (':' :: (two n ++ rest)) = .more (two n ++ rest) := by
    intro n rest
    simp [follow, two]
  simp only [readClock, Stamp.time, List.append_assoc, List.cons_append,
    digits_two (show s.hour < 100 by omega), Option.bind_eq_bind, Option.bind_some,
    List.head?_cons, Option.getD_some, decide_true, hmore,
    digits_two (show s.minute < 100 by omega), digits_two (show s.second < 100 by omega), hstop]

section characters

variable {c : Char} (hc : c.isDigit = false)

include hc

lemma notMem_two {n : ℕ} (hn : n < 100) : c ∉ two n := by
  intro hmem
  have hdigit := isDigit_of_mem_two hn hmem
  rw [hc] at hdigit
  exact absurd hdigit (by decide)

lemma notMem_date (hdash : c ≠ '-') : c ∉ s.date := by
  obtain ⟨-, hyear, -, hmonth, -, hday⟩ := s.isDate
  have hday' := hday.trans (daysInMonth_le s.year s.month)
  simp only [Stamp.date, four, List.mem_append, List.mem_cons, not_or]
  exact ⟨⟨notMem_two hc (by omega), notMem_two hc (by omega)⟩, hdash, notMem_two hc (by omega),
    hdash, notMem_two hc (by omega)⟩

lemma notMem_time (hcolon : c ≠ ':') : c ∉ s.time := by
  obtain ⟨hhour, hminute, hsecond⟩ := s.isTimeOfDay
  simp only [Stamp.time, List.mem_append, List.mem_cons, not_or]
  exact ⟨notMem_two hc (by omega), hcolon, notMem_two hc (by omega), hcolon,
    notMem_two hc (by omega)⟩

lemma notMem_digits : c ∉ z.digits := by
  have hlt := z.lt_day
  simp only [Zone.digits, List.mem_append, not_or]
  exact ⟨notMem_two hc (by omega), notMem_two hc (by omega)⟩

end characters

lemma isDigit_eq_false {c : Char} (h : startsZone c = true) : c.isDigit = false := by
  simp only [startsZone, Bool.or_eq_true, decide_eq_true_eq] at h
  obtain (rfl | rfl) | rfl := h <;> rfl

/-- Nothing in a time of day looks like an offset. -/
lemma startsZone_of_mem_time {c : Char} (hc : c ∈ s.time) : startsZone c = false := by
  by_contra hzone
  rw [Bool.not_eq_false] at hzone
  refine notMem_time s (isDigit_eq_false hzone) ?_ hc
  rintro rfl
  exact absurd hzone (by decide)

lemma startsZone_sign : startsZone z.sign = true := by
  rw [Zone.sign]
  split_ifs <;> rfl

/-- An offset without colon. -/
lemma readZone_digits : readZone (z.sign :: z.digits) = some (some z.offset) := by
  have hlt := z.lt_day
  have hminutes := Nat.div_add_mod z.minutes 60
  have hdigits : digits 2 (two (z.minutes % 60) ++ []) = some (z.minutes % 60, []) :=
    digits_two (by omega)
  rw [List.append_nil] at hdigits
  have hne : ∀ c : Char, c.isDigit = false → Nat.digitChar (z.minutes % 60 / 10) ≠ c := by
    intro c hc heq
    have hdigit := (digitChar_spec (show z.minutes % 60 / 10 < 10 by omega)).1
    rw [heq, hc] at hdigit
    exact absurd hdigit (by decide)
  have hcolon : (two (z.minutes % 60)).head?.getD nul ≠ ':' := hne ':' rfl
  have hmore : follow false nul (two (z.minutes % 60)) = .more (two (z.minutes % 60)) := by
    simp [follow, two, hne '.' rfl, hne ',' rfl]
  have hclock : readClock nul z.digits =
      some { hour := z.minutes / 60, minute := z.minutes % 60, leftover := false } := by
    simp only [readClock, Zone.digits, digits_two (show z.minutes / 60 < 100 by omega),
      Option.bind_eq_bind, Option.bind_some, decide_eq_false hcolon, hmore, hdigits]
    rfl
  have hsign : z.sign ≠ 'Z' := by
    rw [Zone.sign]
    split_ifs <;> decide
  have hnegative : decide (z.sign = '-') = z.negative := by
    rw [Zone.sign]
    cases z.negative <;> rfl
  have hseconds : Clock.seconds
      { hour := z.minutes / 60, minute := z.minutes % 60, leftover := false } = z.minutes * 60 := by
    simp only [Clock.seconds]
    omega
  have hoffset : Clock.offset
      { hour := z.minutes / 60, minute := z.minutes % 60, leftover := false } z.negative =
        some z.offset := by
    simp only [Clock.offset, Clock.micros, hseconds, Zone.offset]
    have hsize : (if z.minutes * 60 = 0 then (0 : ℤ)
        else ((z.minutes * 60 : ℕ) : ℤ) * 1000000 + ((0 : ℕ) : ℤ)) = z.minutes * 60000000 := by
      split_ifs <;> omega
    rw [hsize, if_pos (by omega)]
  rw [readZone, if_neg hsign, hclock, Option.bind_some, if_neg Bool.false_ne_true, hnegative,
    hoffset, Option.map_some]

section zoned

variable {c : Char} {zs : List Char} {o : ℤ}

/-- A time of day that has been read, with an offset behind it. -/
lemma readTime_clock {body : List Char} {clock : Clock} (hc : startsZone c = true)
    (hbody : ∀ d ∈ body, startsZone d = false) (hclock : readClock c body = some clock)
    (htime : clock.IsTimeOfDay) (hzone : readZone (c :: zs) = some (some o)) (day : ℤ) :
    readTime day (body ++ c :: zs) = some { clock := day + clock.micros, offset := some o } := by
  have hbefore : ∀ d ∈ body, (!startsZone d) = true := fun d hd => by rw [hbody d hd, Bool.not_false]
  have hdrop : (c :: zs).dropWhile (fun d => !startsZone d) = c :: zs := by
    simp [hc]
  have htake : (c :: zs).takeWhile (fun d => !startsZone d) = [] := by
    simp [hc]
  simp only [readTime, List.dropWhile_append_of_pos hbefore, List.takeWhile_append_of_pos hbefore,
    hdrop, htake, List.append_nil, List.head?_cons, Option.getD_some, hclock, hzone,
    Option.bind_eq_bind, Option.bind_some]
  rw [if_pos ⟨htime, fun h => List.cons_ne_nil c zs h.2⟩]

/-- A date by month, with a time of day behind it. -/
lemma fromIsoFormat_date (rest : List Char) :
    fromIsoFormat (String.ofList (s.date ++ 'T' :: rest)) =
      readTime (midnight (toOrdinal s.year s.month s.day)) rest := by
  have hlength := length_date s
  have hlong : ¬ (s.date ++ 'T' :: rest).length < 7 := by
    rw [List.length_append]
    omega
  simp only [fromIsoFormat, String.toList_ofList, if_neg hlong, separatorLocation_date,
    Option.bind_eq_bind, Option.bind_some, List.take_left' hlength, List.drop_left' hlength,
    readDate_date]

/-- What is between the time of day and the offset is passed over. -/
theorem fromIsoFormat_stamp (hc : startsZone c = true) (hjunk : ∀ d ∈ junk, startsZone d = false)
    (hstop : follow true c junk = .stop leftover) (hzone : readZone (c :: zs) = some (some o)) :
    fromIsoFormat (String.ofList (s.date ++ 'T' :: (s.time ++ junk ++ c :: zs))) =
      some { clock := s.clock, offset := some o } := by
  have hbody : ∀ d ∈ s.time ++ junk, startsZone d = false := by
    intro d hd
    obtain hmem | hmem := List.mem_append.mp hd
    · exact startsZone_of_mem_time s hmem
    · exact hjunk d hmem
  rw [fromIsoFormat_date, readTime_clock hc hbody (readClock_time s hstop) s.isTimeOfDay hzone]
  simp only [Clock.micros, Clock.seconds, Nat.cast_zero, add_zero, Stamp.clock]

end zoned

end reading

end IsoTime
