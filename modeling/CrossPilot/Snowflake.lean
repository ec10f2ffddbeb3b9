import Mathlib.Tactic
import Mathlib.Data.Int.Bitwise

/-!
# Snowflake ids

`SnowflakeGenerator` packs the millisecond it assigns, its worker id and a
sequence number into one integer. The clock is the list of readings that the
calls consume, in any order and with any sign: a reading behind the last
millisecond is replaced by it, and a call that overflows the sequence keeps
reading until the next millisecond.
-/

namespace CrossPilot

/-! ### Bit fields -/

/-- A low field under a shifted one: the bitwise or is the sum. -/
theorem lor_shiftLeft (a : ℤ) (k : ℕ) {b : ℤ} (h₀ : 0 ≤ b) (h : b < 2 ^ k) :
    Int.lor (a <<< k) b = a * 2 ^ k + b := by
  rw [Int.shiftLeft_eq]
  induction k generalizing b with
  | zero =>
    obtain rfl : b = 0 := by omega
    cases a <;> simp [Int.lor, Nat.ldiff]
  | succ k ih =>
    have hb : Int.bit b.bodd b.div2 = b := Int.bit_decomp b
    have hdiv : b.div2 = b / 2 := Int.div2_val b
    have ha : a * 2 ^ (k + 1) = Int.bit false (a * 2 ^ k) := by
      rw [Int.bit_val, pow_succ]
      simp
      ring
    have hlt : b / 2 < 2 ^ k := by
      rw [pow_succ] at h
      omega
    calc
      Int.lor (a * 2 ^ (k + 1)) b
          = Int.lor (Int.bit false (a * 2 ^ k)) (Int.bit b.bodd b.div2) := by rw [ha, hb]
      _ = Int.bit b.bodd (Int.lor (a * 2 ^ k) (b / 2)) := by rw [Int.lor_bit, hdiv, Bool.false_or]
      _ = Int.bit b.bodd (a * 2 ^ k + b / 2) := by rw [ih (by omega) hlt]
      _ = a * 2 ^ (k + 1) + b := by
        rw [← hdiv, Int.bit_val]
        rw [Int.bit_val] at hb
        rw [pow_succ]
        linarith

/-- Masking with the ones of a field keeps a value that fits it. -/
theorem land_ones {w : ℤ} {k : ℕ} (h₀ : 0 ≤ w) (h : w < 2 ^ k) : Int.land w (2 ^ k - 1) = w := by
  obtain ⟨n, rfl⟩ := Int.eq_ofNat_of_zero_le h₀
  have hn : n < 2 ^ k := by exact_mod_cast h
  have hones : ((2 : ℤ) ^ k - 1) = ((2 ^ k - 1 : ℕ) : ℤ) := by
    rw [Nat.cast_sub Nat.one_le_two_pow]
    norm_cast
  rw [hones]
  change ((n &&& (2 ^ k - 1) : ℕ) : ℤ) = n
  rw [Nat.and_two_pow_sub_one_eq_mod, Nat.mod_eq_of_lt hn]

/-! ### The generator -/

/-- 2025-01-01T00:00:00Z in milliseconds. -/
def epochMs : ℤ := 1735689600000

def workerBits : ℕ := 10
def seqBits : ℕ := 12
def maxWorker : ℤ := 2 ^ workerBits - 1
def maxSeq : ℤ := 2 ^ seqBits - 1

structure SnowflakeGenerator where
  workerId : ℤ
  lastMs : ℤ
  seq : ℤ
deriving DecidableEq, Repr

namespace SnowflakeGenerator

/-- A new generator; an id out of range is masked. -/
def new (workerId : ℤ) : SnowflakeGenerator :=
  { workerId := Int.land workerId maxWorker, lastMs := -1, seq := 0 }

/-- Keep reading until the clock reaches `targetMs`; `none` when the readings
end before. -/
def blockUntil (targetMs : ℤ) : List ℤ → Option (ℤ × List ℤ)
  | [] => none
  | current :: clock =>
    if current < targetMs then blockUntil targetMs clock else some (current, clock)

/-- The state after the time and the sequence of a call are known. -/
def assigned (g : SnowflakeGenerator) (now seq : ℤ) : SnowflakeGenerator :=
  { g with lastMs := now, seq := seq }

/-- The id that a generator returns after a call has stored its fields. -/
def pack (g : SnowflakeGenerator) : ℤ :=
  Int.lor (Int.lor ((g.lastMs - epochMs) <<< (workerBits + seqBits)) (g.workerId <<< seqBits)) g.seq

/-- One call: the generator afterwards and the readings left over. -/
def advance (g : SnowflakeGenerator) : List ℤ → Option (SnowflakeGenerator × List ℤ)
  | [] => none
  | reading :: clock =>
    let now := if reading < g.lastMs then g.lastMs else reading
    if now = g.lastMs then
      if g.seq + 1 > maxSeq then
        (blockUntil (g.lastMs + 1) clock).map fun (later, rest) => (g.assigned later 0, rest)
      else some (g.assigned now (g.seq + 1), clock)
    else some (g.assigned now 0, clock)

/-- `next_id`: the id, the generator afterwards and the readings left over. -/
def nextId (g : SnowflakeGenerator) (clock : List ℤ) :
    Option (ℤ × SnowflakeGenerator × List ℤ) :=
  (g.advance clock).map fun (g', rest) => (g'.pack, g', rest)

end SnowflakeGenerator

def parseSnowflakeTimestamp (snowflakeId : ℤ) : ℤ :=
  snowflakeId >>> (workerBits + seqBits) + epochMs

/-- An id as it was returned, with the millisecond that the generator stored. -/
structure Issued where
  id : ℤ
  ms : ℤ
deriving DecidableEq, Repr

/-- The ids of `n` calls, one after the other under the lock, as far as the
readings last. -/
def issued : ℕ → SnowflakeGenerator → List ℤ → List Issued
  | 0, _, _ => []
  | n + 1, g, clock =>
    match g.nextId clock with
    | none => []
    | some (id, g', rest) => { id := id, ms := g'.lastMs } :: issued n g' rest

namespace SnowflakeGenerator

/-! ### One call -/

/-- Worker id and sequence fit their fields. -/
structure InFields (g : SnowflakeGenerator) : Prop where
  worker_nonneg : 0 ≤ g.workerId
  worker_le : g.workerId ≤ maxWorker
  seq_nonneg : 0 ≤ g.seq
  seq_le : g.seq ≤ maxSeq

/-- The order in which a generator moves: millisecond first, then sequence. -/
def Before (g g' : SnowflakeGenerator) : Prop :=
  g.lastMs < g'.lastMs ∨ g.lastMs = g'.lastMs ∧ g.seq < g'.seq

theorem Before.trans {g₁ g₂ g₃ : SnowflakeGenerator} (h : g₁.Before g₂) (h' : g₂.Before g₃) :
    g₁.Before g₃ := by
  unfold Before at *
  omega

theorem new_workerId {w : ℤ} (h₀ : 0 ≤ w) (h : w ≤ maxWorker) : (new w).workerId = w :=
  land_ones h₀ (by simp only [maxWorker] at h; omega)

theorem new_inFields {w : ℤ} (h₀ : 0 ≤ w) (h : w ≤ maxWorker) : (new w).InFields where
  worker_nonneg := by rwa [new_workerId h₀ h]
  worker_le := by rwa [new_workerId h₀ h]
  seq_nonneg := le_refl 0
  seq_le := show (0 : ℤ) ≤ maxSeq by decide

theorem le_of_blockUntil {target later : ℤ} {clock rest : List ℤ}
    (h : blockUntil target clock = some (later, rest)) : target ≤ later := by
  induction clock with
  | nil => simp [blockUntil] at h
  | cons current clock ih =>
    by_cases hlt : current < target
    · exact ih (by simpa [blockUntil, hlt] using h)
    · simp only [blockUntil, hlt, if_false, Option.some.injEq, Prod.mk.injEq] at h
      omega

/-- What one call can store: a later millisecond with sequence zero, or the
same millisecond with the next sequence number. -/
theorem advance_cases {g g' : SnowflakeGenerator} {clock rest : List ℤ}
    (h : g.advance clock = some (g', rest)) :
    (∃ now, g.lastMs < now ∧ g' = g.assigned now 0) ∨
      (g.seq + 1 ≤ maxSeq ∧ g' = g.assigned g.lastMs (g.seq + 1)) := by
  match clock with
  | [] => simp [advance] at h
  | reading :: clock =>
    simp only [advance] at h
    split_ifs at h with hback hnow hfull hnow hfull
    · -- the reading is behind and the sequence is used up
      obtain ⟨⟨later, _⟩, hlater, heq⟩ := Option.map_eq_some_iff.mp h
      have := le_of_blockUntil hlater
      exact Or.inl ⟨later, by omega, (Prod.mk.inj heq).1.symm⟩
    · simp only [Option.some.injEq, Prod.mk.injEq] at h
      exact Or.inr ⟨by omega, h.1.symm⟩
    · exact absurd rfl hnow
    · -- the same millisecond, with the sequence used up
      obtain ⟨⟨later, _⟩, hlater, heq⟩ := Option.map_eq_some_iff.mp h
      have := le_of_blockUntil hlater
      exact Or.inl ⟨later, by omega, (Prod.mk.inj heq).1.symm⟩
    · simp only [Option.some.injEq, Prod.mk.injEq] at h
      exact Or.inr ⟨by omega, by rw [← h.1, hnow]⟩
    · simp only [Option.some.injEq, Prod.mk.injEq] at h
      exact Or.inl ⟨reading, by omega, h.1.symm⟩

theorem before_advance {g g' : SnowflakeGenerator} {clock rest : List ℤ}
    (h : g.advance clock = some (g', rest)) : g.Before g' := by
  obtain ⟨now, hlt, rfl⟩ | ⟨_, rfl⟩ := advance_cases h
  · exact Or.inl hlt
  · exact Or.inr ⟨rfl, by simp [assigned]⟩

theorem workerId_advance {g g' : SnowflakeGenerator} {clock rest : List ℤ}
    (h : g.advance clock = some (g', rest)) : g'.workerId = g.workerId := by
  obtain ⟨_, _, rfl⟩ | ⟨_, rfl⟩ := advance_cases h <;> rfl

theorem InFields.advance {g g' : SnowflakeGenerator} {clock rest : List ℤ} (hg : g.InFields)
    (h : g.advance clock = some (g', rest)) : g'.InFields := by
  obtain ⟨_, _, rfl⟩ | ⟨hfit, rfl⟩ := advance_cases h
  · exact ⟨hg.worker_nonneg, hg.worker_le, le_refl 0, show (0 : ℤ) ≤ maxSeq by decide⟩
  · have := hg.seq_nonneg
    exact ⟨hg.worker_nonneg, hg.worker_le, by simp [assigned]; omega, hfit⟩

/-! ### The packed id -/

/-- The fields do not overlap, so the id is their weighted sum. -/
theorem InFields.pack_eq {g : SnowflakeGenerator} (hg : g.InFields) :
    g.pack = (g.lastMs - epochMs) * 2 ^ 22 + g.workerId * 2 ^ 12 + g.seq := by
  obtain ⟨hw₀, hw, hs₀, hs⟩ := hg
  simp only [maxWorker, workerBits, maxSeq, seqBits] at hw hs
  have hworker : g.workerId <<< seqBits = g.workerId * 2 ^ 12 := Int.shiftLeft_eq ..
  have hhigh : Int.lor ((g.lastMs - epochMs) <<< (workerBits + seqBits)) (g.workerId <<< seqBits) =
      ((g.lastMs - epochMs) * 2 ^ 10 + g.workerId) <<< seqBits := by
    rw [hworker, lor_shiftLeft _ _ (by omega) (by simp only [workerBits, seqBits]; omega),
      Int.shiftLeft_eq]
    simp only [workerBits, seqBits]
    ring
  rw [pack, hhigh, lor_shiftLeft _ _ hs₀ (by simp only [seqBits]; omega)]
  simp only [seqBits]
  ring

theorem InFields.pack_lt {g g' : SnowflakeGenerator} (hg : g.InFields) (hg' : g'.InFields)
    (hw : g'.workerId = g.workerId) (h : g.Before g') : g.pack < g'.pack := by
  rw [hg.pack_eq, hg'.pack_eq, hw]
  obtain ⟨hw₀, hw, hs₀, hs⟩ := hg
  obtain ⟨_, _, hs₀', hs'⟩ := hg'
  simp only [maxSeq, seqBits] at hs hs'
  obtain h | ⟨h, hseq⟩ := h <;> omega

/-- The worker field can be read off an id. -/
theorem InFields.pack_ne {g g' : SnowflakeGenerator} (hg : g.InFields) (hg' : g'.InFields)
    (h : g.workerId ≠ g'.workerId) : g.pack ≠ g'.pack := by
  rw [hg.pack_eq, hg'.pack_eq]
  obtain ⟨hw₀, hw, hs₀, hs⟩ := hg
  obtain ⟨hw₀', hw', hs₀', hs'⟩ := hg'
  simp only [maxWorker, workerBits, maxSeq, seqBits] at hw hs hw' hs'
  omega

theorem InFields.parse_pack {g : SnowflakeGenerator} (hg : g.InFields) :
    parseSnowflakeTimestamp g.pack = g.lastMs := by
  rw [hg.pack_eq, parseSnowflakeTimestamp, Int.shiftRight_eq_div_pow]
  obtain ⟨hw₀, hw, hs₀, hs⟩ := hg
  simp only [maxWorker, workerBits, maxSeq, seqBits] at *
  norm_num
  omega

end SnowflakeGenerator

/-! ### Runs -/

open SnowflakeGenerator

/-- Every issued id is what some later state of the generator packs. -/
theorem issued_spec {n : ℕ} {g : SnowflakeGenerator} {clock : List ℤ} (hg : g.InFields)
    {i : Issued} (hi : i ∈ issued n g clock) :
    ∃ g' : SnowflakeGenerator, g'.InFields ∧ g'.workerId = g.workerId ∧ g.Before g' ∧
      i.id = g'.pack ∧ i.ms = g'.lastMs := by
  induction n generalizing g clock with
  | zero => simp [issued] at hi
  | succ n ih =>
    simp only [issued, nextId] at hi
    match hnext : g.advance clock with
    | none => simp [hnext] at hi
    | some (g₁, rest) =>
      simp only [hnext, Option.map_some, List.mem_cons] at hi
      have hw := workerId_advance hnext
      obtain rfl | hi := hi
      · exact ⟨g₁, hg.advance hnext, hw, before_advance hnext, rfl, rfl⟩
      · obtain ⟨g', hg', hw', hb, hid, hms⟩ := ih (hg.advance hnext) hi
        exact ⟨g', hg', hw'.trans hw, (before_advance hnext).trans hb, hid, hms⟩

theorem issued_pairwise (n : ℕ) {g : SnowflakeGenerator} (clock : List ℤ) (hg : g.InFields) :
    (issued n g clock).Pairwise (fun i j => i.id < j.id) := by
  induction n generalizing g clock with
  | zero => exact List.Pairwise.nil
  | succ n ih =>
    simp only [issued, nextId]
    match hnext : g.advance clock with
    | none => exact List.Pairwise.nil
    | some (g₁, rest) =>
      have hg₁ := hg.advance hnext
      refine List.Pairwise.cons ?_ (ih rest hg₁)
      intro j hj
      obtain ⟨g', hg', hw, hb, hid, _⟩ := issued_spec hg₁ hj
      rw [hid]
      exact hg₁.pack_lt hg' hw hb

/-- Ids of one generator increase strictly, parse back to their millisecond,
and never meet those of a generator with another worker id. -/
theorem snowflake_ids {w : ℤ} (h₀ : 0 ≤ w) (hw : w ≤ maxWorker) (n : ℕ) (clock : List ℤ) :
    let ids := issued n (SnowflakeGenerator.new w) clock
    ids.Pairwise (fun i j => i.id < j.id) ∧
    (∀ i ∈ ids, parseSnowflakeTimestamp i.id = i.ms) ∧
    ∀ w', 0 ≤ w' → w' ≤ maxWorker → w' ≠ w →
      ∀ n' clock', ∀ i ∈ ids, ∀ j ∈ issued n' (SnowflakeGenerator.new w') clock', i.id ≠ j.id := by
  have hg := new_inFields h₀ hw
  refine ⟨issued_pairwise n clock hg, ?_, ?_⟩
  · intro i hi
    obtain ⟨g', hg', _, _, hid, hms⟩ := issued_spec hg hi
    rw [hid, hms]
    exact hg'.parse_pack
  · intro w' h₀' hw' hne n' clock' i hi j hj
    obtain ⟨g₁, hg₁, hw₁, _, hid, _⟩ := issued_spec hg hi
    obtain ⟨g₂, hg₂, hw₂, _, hjd, _⟩ := issued_spec (new_inFields h₀' hw') hj
    rw [hid, hjd]
    apply hg₁.pack_ne hg₂
    rw [hw₁, hw₂, new_workerId h₀ hw, new_workerId h₀' hw']
    exact hne.symm

/-- A clock that goes back, against a generator of another worker. -/
theorem snowflake_ids_clock_back :
    let ids := issued 3 (SnowflakeGenerator.new 1) [epochMs + 5, epochMs + 3, epochMs + 6]
    ids = [⟨5 * 2 ^ 22 + 2 ^ 12, epochMs + 5⟩, ⟨5 * 2 ^ 22 + 2 ^ 12 + 1, epochMs + 5⟩,
      ⟨6 * 2 ^ 22 + 2 ^ 12, epochMs + 6⟩] ∧
    ids.Pairwise (fun i j => i.id < j.id) ∧
    (∀ i ∈ ids, parseSnowflakeTimestamp i.id = i.ms) ∧
    ∀ i ∈ ids, ∀ j ∈ issued 3 (SnowflakeGenerator.new 2) [epochMs + 5], i.id ≠ j.id := by
  have h := snowflake_ids (w := 1) (by decide) (by decide) 3
    [epochMs + 5, epochMs + 3, epochMs + 6]
  exact ⟨by decide, h.1, h.2.1, h.2.2 2 (by decide) (by decide) (by decide) 3 [epochMs + 5]⟩

end CrossPilot
