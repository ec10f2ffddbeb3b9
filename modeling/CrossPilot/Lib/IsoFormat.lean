import CrossPilot.Lib.IsoTime

/-!
# Writing times in ISO 8601

`datetime.isoformat` of a time in UTC: the date of a day is found by counting years and months, and
a fraction of a second is written if there is one. What has been written is read as it was
(`fromIsoFormat_isoFormat`).
-/

namespace IsoTime

/-- The last of the periods 1 to `k` that begins before the day with a number. -/
def lastBefore (before : ℕ → ℕ) (k n : ℕ) : ℕ :=
  ((List.range' 1 k).takeWhile fun period => before period < n).length

/-- The year of a day, by its number. -/
def yearOf (ordinal : ℕ) : ℕ := lastBefore daysBeforeYear 9999 ordinal

/-- The month of a day, by its number in the year. -/
def monthOf (year ordinal : ℕ) : ℕ := lastBefore (daysBeforeMonth year) 12 ordinal

/-- A number of six digits. -/
def six (n : ℕ) : List Char := two (n / 10000) ++ (two (n / 100 % 100) ++ two (n % 100))

/-- A fraction of a second, in microseconds. -/
def fraction (micro : ℕ) : List Char := if micro = 0 then [] else '.' :: six micro

/-- `datetime.isoformat` of a time in UTC, in microseconds from the first day of the year 1 on. -/
def isoFormat (micros : ℕ) : String :=
  let seconds := micros / 1000000
  let ordinal := seconds / 86400 + 1
  let year := yearOf ordinal
  let month := monthOf year (ordinal - daysBeforeYear year)
  let day := ordinal - daysBeforeYear year - daysBeforeMonth year month
  String.ofList (four year ++ '-' :: (two month ++ '-' :: two day) ++
    'T' :: (two (seconds % 86400 / 3600) ++ ':' :: (two (seconds % 3600 / 60) ++
      ':' :: two (seconds % 60)) ++ fraction (micros % 1000000) ++ ['+', '0', '0', ':', '0', '0']))

section counting

/-- Where the counting stops. -/
lemma takeWhile_range' {p : ℕ → Bool} (a k : ℕ) :
    let n := ((List.range' a k).takeWhile p).length
    n ≤ k ∧ (∀ i < n, p (a + i) = true) ∧ (n < k → p (a + n) = false) := by
  induction k generalizing a with
  | zero => simp
  | succ k ih =>
    rw [List.range'_succ, List.takeWhile_cons]
    cases hp : p a with
    | false => simp [hp]
    | true =>
      obtain ⟨hle, hall, hstop⟩ := ih (a + 1)
      set n := ((List.range' (a + 1) k).takeWhile p).length with hn
      simp only [if_true, List.length_cons, ← hn]
      refine ⟨by omega, fun i hi => ?_, fun hlt => ?_⟩
      · cases i with
        | zero => exact hp
        | succ i =>
          have := hall i (by omega)
          rwa [add_assoc, add_comm 1 i] at this
      · have := hstop (by omega)
        rwa [add_assoc, add_comm 1 n] at this

/-- The period that has been found begins before the day, and the next one does not. -/
lemma lastBefore_spec (before : ℕ → ℕ) {k n : ℕ} (hk : 1 ≤ k) (h : before 1 < n) :
    1 ≤ lastBefore before k n ∧ lastBefore before k n ≤ k ∧ before (lastBefore before k n) < n ∧
      (lastBefore before k n < k → n ≤ before (lastBefore before k n + 1)) := by
  obtain ⟨hle, hall, hstop⟩ := takeWhile_range' (p := fun period => before period < n) 1 k
  rw [← lastBefore] at hle hall hstop
  set last := lastBefore before k n
  have hone : 1 ≤ last := by
    by_contra hzero
    have hnone := hstop (by omega)
    rw [show last = 0 by omega, decide_eq_false_iff_not] at hnone
    exact hnone h
  have hbefore := hall (last - 1) (by omega)
  rw [Nat.add_sub_cancel' hone, decide_eq_true_eq] at hbefore
  refine ⟨hone, hle, hbefore, fun hlt => ?_⟩
  have hnext := hstop hlt
  rw [decide_eq_false_iff_not, not_lt, add_comm] at hnext
  exact hnext

variable {ordinal year : ℕ}

lemma yearOf_spec (h : 1 ≤ ordinal) (hlast : ordinal ≤ lastOrdinal) :
    1 ≤ yearOf ordinal ∧ yearOf ordinal ≤ 9999 ∧ daysBeforeYear (yearOf ordinal) < ordinal ∧
      ordinal ≤ daysBeforeYear (yearOf ordinal) +
        if isLeap (yearOf ordinal) then 366 else 365 := by
  have hfirst : daysBeforeYear 1 = 0 := by decide
  obtain ⟨hone, hle, hbefore, hnext⟩ :=
    lastBefore_spec daysBeforeYear (show 1 ≤ 9999 by decide) (show _ < ordinal by omega)
  refine ⟨hone, hle, hbefore, ?_⟩
  rw [← yearOf] at hone hle hbefore hnext
  rcases hle.eq_or_lt with hend | hlt
  · rw [hend]
    exact hlast.trans (by decide)
  · rw [← daysBeforeYear_succ hone]
    exact hnext hlt

lemma monthOf_spec (h : 1 ≤ ordinal) (hlast : ordinal ≤ if isLeap year then 366 else 365) :
    1 ≤ monthOf year ordinal ∧ monthOf year ordinal ≤ 12 ∧
      daysBeforeMonth year (monthOf year ordinal) < ordinal ∧
      ordinal ≤ daysBeforeMonth year (monthOf year ordinal) +
        daysInMonth year (monthOf year ordinal) := by
  have hfirst : daysBeforeMonth year 1 = 0 := rfl
  obtain ⟨hone, hle, hbefore, hnext⟩ :=
    lastBefore_spec (daysBeforeMonth year) (show 1 ≤ 12 by decide) (show _ < ordinal by omega)
  refine ⟨hone, hle, hbefore, ?_⟩
  rw [← monthOf] at hone hle hbefore hnext
  rcases hle.eq_or_lt with hend | hlt
  · rw [hend, show daysInMonth year 12 = 31 from rfl, daysBeforeMonth_december]
    exact hlast
  · rw [← daysBeforeMonth_succ hone]
    exact hnext hlt

/-- Every day has the date that is found. -/
lemma date_spec (h : 1 ≤ ordinal) (hlast : ordinal ≤ lastOrdinal) :
    let year := yearOf ordinal
    let month := monthOf year (ordinal - daysBeforeYear year)
    let day := ordinal - daysBeforeYear year - daysBeforeMonth year month
    IsDate year month day ∧ toOrdinal year month day = ordinal := by
  intro year month day
  obtain ⟨hyear, hyear', hbefore, hwithin⟩ : 1 ≤ year ∧ year ≤ 9999 ∧
      daysBeforeYear year < ordinal ∧
      ordinal ≤ daysBeforeYear year + if isLeap year then 366 else 365 := yearOf_spec h hlast
  obtain ⟨hmonth, hmonth', hbefore', hwithin'⟩ : 1 ≤ month ∧ month ≤ 12 ∧
      daysBeforeMonth year month < ordinal - daysBeforeYear year ∧
      ordinal - daysBeforeYear year ≤ daysBeforeMonth year month + daysInMonth year month :=
    monthOf_spec (by omega) (by omega)
  refine ⟨⟨hyear, hyear', hmonth, hmonth', by omega, by omega⟩, ?_⟩
  rw [toOrdinal]
  omega

end counting

/-! ### Reading what was written -/

section reading

variable (s : Stamp) {micro : ℕ}

lemma digits_six (h : micro < 1000000) : digits 6 (six micro) = some (micro, []) := by
  rw [six, digits, digitsFrom_two (by omega), digitsFrom_two (by omega)]
  have hlast : digitsFrom ((0 * 100 + micro / 10000) * 100 + micro / 100 % 100) (0 + 2)
      (two (micro % 100) ++ []) = _ := digitsFrom_two (by omega)
  rw [List.append_nil] at hlast
  rw [hlast, digitsFrom]
  congr 2
  omega

/-- A time of day with its fraction, in front of an offset. -/
lemma readClock_fraction (h : micro < 1000000) :
    readClock '+' (s.time ++ fraction micro) = some
      { hour := s.hour, minute := s.minute, second := s.second, micro, leftover := true } := by
  rw [fraction]
  split_ifs with hzero
  · have hstop : follow true '+' [] = .stop true := by
      simp [follow, nul]
    rw [readClock_time s hstop, hzero]
  · obtain ⟨hhour, hminute, hsecond⟩ := s.isTimeOfDay
    have hmore : ∀ n rest, follow true '+' (':' :: (two n ++ rest)) = .more (two n ++ rest) := by
      intro n rest
      simp [follow, two]
    have hfraction : follow true '+' ('.' :: six micro) = .fraction (six micro) := by
      simp [follow, six, two]
    have hread : readFraction '+' (six micro) = some (micro, true) := by
      have hlength : min 6 (six micro).length = 6 := rfl
      rw [readFraction, hlength, digits_six h]
      simp [nul]
    simp only [readClock, Stamp.time, List.append_assoc, List.cons_append,
      digits_two (show s.hour < 100 by omega), Option.bind_eq_bind, Option.bind_some,
      List.head?_cons, Option.getD_some, decide_true, hmore,
      digits_two (show s.minute < 100 by omega), digits_two (show s.second < 100 by omega),
      hfraction, withFraction, hread, Option.map_some]

lemma startsZone_of_mem_fraction {c : Char} (h : micro < 1000000) (hc : c ∈ fraction micro) :
    startsZone c = false := by
  rw [fraction] at hc
  split_ifs at hc with hzero
  · cases hc
  · obtain rfl | hc := List.mem_cons.mp hc
    · rfl
    · have hdigit : c.isDigit = true := by
        simp only [six, List.mem_append] at hc
        obtain hc | hc | hc := hc
        · exact isDigit_of_mem_two (by omega) hc
        · exact isDigit_of_mem_two (by omega) hc
        · exact isDigit_of_mem_two (by omega) hc
      by_contra hzone
      rw [Bool.not_eq_false] at hzone
      rw [isDigit_eq_false hzone] at hdigit
      cases hdigit

/-- What has been written for a time in UTC is read as that time. -/
theorem fromIsoFormat_isoFormat {micros : ℕ} (h : micros < lastOrdinal * 86400000000) :
    fromIsoFormat (isoFormat micros) = some { clock := micros, offset := some 0 } := by
  have hlast : lastOrdinal = 3652059 := rfl
  obtain ⟨hdate, hordinal⟩ := date_spec (show 1 ≤ micros / 1000000 / 86400 + 1 by omega) (by omega)
  let s : Stamp := ⟨_, _, _, micros / 1000000 % 86400 / 3600, micros / 1000000 % 3600 / 60,
    micros / 1000000 % 60, hdate, by omega⟩
  have hwritten : isoFormat micros = String.ofList (s.date ++ 'T' ::
      (s.time ++ fraction (micros % 1000000) ++ '+' :: ['0', '0', ':', '0', '0'])) := rfl
  have hbody : ∀ c ∈ s.time ++ fraction (micros % 1000000), startsZone c = false := by
    intro c hc
    obtain hmem | hmem := List.mem_append.mp hc
    · exact startsZone_of_mem_time s hmem
    · exact startsZone_of_mem_fraction (by omega) hmem
  have hzone : readZone ('+' :: ['0', '0', ':', '0', '0']) = some (some 0) := by
    decide
  rw [hwritten, fromIsoFormat_date, readTime_clock rfl hbody (readClock_fraction s (by omega))
    s.isTimeOfDay hzone]
  have hclock : midnight (toOrdinal s.year s.month s.day) = (micros / 1000000 / 86400 : ℕ) *
      86400000000 := by
    rw [hordinal, midnight]
    push_cast
    ring
  rw [hclock]
  simp only [Clock.micros, Clock.seconds, s, Option.some.injEq, Moment.mk.injEq, and_true]
  push_cast
  omega

end reading

end IsoTime
