import CrossPilot.Sync.Cursor

/-!
# The token bucket

Every shop of a platform (or the whole application) draws its calls from one bucket. Tokens come
back with the time that has passed since the bucket was last drawn from; a throttled call lowers the
rate by the penalty factor, and a run of successful calls raises it again. All workers share the
bucket, and each reads its own clock.
-/

namespace CrossPilot

/-- The settings of the penalty, with the checks of `SyncPolicy`. -/
structure RatePolicy where
  slowdownRatio : ℚ := 1 / 2
  penaltyFloor : ℚ := 1 / 4
  recoverAfterSuccesses : ℕ := 20
  slowdown_range : 0 < slowdownRatio ∧ slowdownRatio ≤ 1 := by norm_num
  floor_range : 0 < penaltyFloor ∧ penaltyFloor ≤ 1 := by norm_num
  recover_pos : 1 ≤ recoverAfterSuccesses := by decide

/-- The quota of a platform. Every number in it is at least one. -/
structure RateLimitSpec where
  qps : ℕ
  burst : ℕ
  dailyQuota : Option ℕ := none
  qps_pos : 1 ≤ qps := by decide
  burst_pos : 1 ≤ burst := by decide
  quota_pos : ∀ quota ∈ dailyQuota, 1 ≤ quota := by decide

structure BucketState where
  tokens : ℚ
  updatedAt : Instant
  penalty : ℚ := 1
  consecutive429 : ℕ := 0
  consecutiveOk : ℕ := 0
  deriving DecidableEq

structure LimitDecision where
  allowed : Bool
  retryAfterSeconds : ℚ
  penalty : ℚ
  deriving DecidableEq

/-- `total_seconds` of the time from `start` to `now`. -/
def totalSeconds (start now : Instant) : ℚ := (now - start : ℤ) / 1000000

def capacity (burst : ℕ) (penalty : ℚ) : ℚ := max 1 (burst * penalty)

def freshBucket (now : Instant) (burst : ℕ) : BucketState :=
  { tokens := capacity burst 1, updatedAt := now }

/-- The tokens before the draw, at the present rate. -/
def refilled (state : BucketState) (now : Instant) (qps burst : ℕ) : ℚ :=
  min (capacity burst state.penalty)
    (state.tokens + max 0 (totalSeconds state.updatedAt now) * (qps * state.penalty))

/-- Draw one token: whether there was one, the seconds to wait, and the bucket afterwards. -/
def applyAcquire (state : Option BucketState) (now : Instant) (qps burst : ℕ) :
    Bool × ℚ × BucketState :=
  let penalty : ℚ := match state with
    | none => 1
    | some b => b.penalty
  let rate := qps * penalty
  let tokens := match state with
    | none => capacity burst penalty
    | some b => refilled b now qps burst
  let after (left : ℚ) : BucketState :=
    { tokens := left
      updatedAt := now
      penalty := penalty
      consecutive429 := match state with
        | none => 0
        | some b => b.consecutive429
      consecutiveOk := match state with
        | none => 0
        | some b => b.consecutiveOk }
  if rate ≤ 0 ∨ tokens < 1 then
    (false, if rate ≤ 0 then 1 else (1 - tokens) / rate, after (max 0 tokens))
  else (true, 0, after (tokens - 1))

def applyThrottle (policy : RatePolicy) (state : Option BucketState) (now : Instant)
    (burst : ℕ) : BucketState :=
  let base := state.getD (freshBucket now burst)
  let penalty := max policy.penaltyFloor (base.penalty * policy.slowdownRatio)
  { tokens := min base.tokens (capacity burst penalty)
    updatedAt := base.updatedAt
    penalty := penalty
    consecutive429 := base.consecutive429 + 1
    consecutiveOk := 0 }

def applySuccess (policy : RatePolicy) (state : Option BucketState) (now : Instant)
    (burst : ℕ) : BucketState :=
  let base := state.getD (freshBucket now burst)
  let recovers := policy.recoverAfterSuccesses ≤ base.consecutiveOk + 1 ∧ base.penalty < 1
  let penalty := if recovers then min 1 (base.penalty / policy.slowdownRatio) else base.penalty
  { tokens := min base.tokens (capacity burst penalty)
    updatedAt := base.updatedAt
    penalty := penalty
    consecutive429 := 0
    consecutiveOk := if recovers then 0 else base.consecutiveOk + 1 }

/-! ### One operation -/

/-- The tokens stay between zero and the capacity, the penalty between its floor and one. -/
structure BucketState.Within (policy : RatePolicy) (burst : ℕ) (b : BucketState) : Prop where
  tokens_nonneg : 0 ≤ b.tokens
  tokens_le : b.tokens ≤ capacity burst b.penalty
  floor_le : policy.penaltyFloor ≤ b.penalty
  penalty_le : b.penalty ≤ 1

namespace BucketState.Within

variable {policy : RatePolicy} {burst : ℕ} {b : BucketState}

lemma penalty_pos (h : b.Within policy burst) : 0 < b.penalty :=
  lt_of_lt_of_le policy.floor_range.1 h.floor_le

end BucketState.Within

lemma one_le_capacity (burst : ℕ) (penalty : ℚ) : 1 ≤ capacity burst penalty := le_max_left _ _

/-- A penalty only makes the bucket smaller. -/
lemma capacity_le {burst : ℕ} {penalty : ℚ} (h : penalty ≤ 1) :
    capacity burst penalty ≤ capacity burst 1 := by
  apply max_le_max (le_refl 1)
  exact mul_le_mul_of_nonneg_left h (Nat.cast_nonneg burst)

lemma within_freshBucket (policy : RatePolicy) (now : Instant) (burst : ℕ) :
    (freshBucket now burst).Within policy burst where
  tokens_nonneg := le_trans zero_le_one (one_le_capacity burst 1)
  tokens_le := le_refl _
  floor_le := policy.floor_range.2
  penalty_le := le_refl 1

lemma BucketState.Within.refilled_nonneg {policy : RatePolicy} {qps burst : ℕ} {b : BucketState}
    (h : b.Within policy burst) (now : Instant) : 0 ≤ refilled b now qps burst := by
  apply le_min
  · exact le_trans zero_le_one (one_le_capacity _ _)
  · have hrate : (0 : ℚ) ≤ qps * b.penalty :=
      mul_nonneg (Nat.cast_nonneg qps) (le_of_lt h.penalty_pos)
    have := mul_nonneg (le_max_left 0 (totalSeconds b.updatedAt now)) hrate
    linarith [h.tokens_nonneg]

/-- What a draw leaves of a bucket that is there: one token less, or what it was refilled to. -/
theorem applyAcquire_some {policy : RatePolicy} {qps burst : ℕ} {b : BucketState}
    (hqps : 1 ≤ qps) (h : b.Within policy burst) (now : Instant) :
    ∃ left wait, applyAcquire (some b) now qps burst =
        (decide (1 ≤ refilled b now qps burst), wait, { b with tokens := left, updatedAt := now }) ∧
      left = refilled b now qps burst - (if 1 ≤ refilled b now qps burst then 1 else 0) := by
  have hrate : ¬ ((qps : ℚ) * b.penalty ≤ 0) := by
    have hq : (1 : ℚ) ≤ qps := by exact_mod_cast hqps
    have := h.penalty_pos
    nlinarith
  by_cases hfull : 1 ≤ refilled b now qps burst
  · refine ⟨refilled b now qps burst - 1, 0, ?_, by simp [hfull]⟩
    simp [applyAcquire, hrate, hfull, not_lt.mpr hfull]
  · refine ⟨refilled b now qps burst, (1 - refilled b now qps burst) / (qps * b.penalty), ?_,
      by simp [hfull]⟩
    have hmax : max 0 (refilled b now qps burst) = refilled b now qps burst :=
      max_eq_right (h.refilled_nonneg now)
    simp [applyAcquire, hrate, not_le.mp hfull, hfull, hmax]

/-- The first draw finds a full bucket. -/
theorem applyAcquire_none {qps : ℕ} (hqps : 1 ≤ qps) (burst : ℕ) (now : Instant) :
    applyAcquire none now qps burst =
      (true, 0, { tokens := capacity burst 1 - 1, updatedAt := now }) := by
  have hrate : ¬ ((qps : ℚ) * 1 ≤ 0) := by
    have hq : (1 : ℚ) ≤ qps := by exact_mod_cast hqps
    linarith
  simp [applyAcquire, not_lt.mpr (one_le_capacity burst 1)]
  omega

lemma BucketState.Within.left {policy : RatePolicy} {qps burst : ℕ} {b : BucketState}
    (h : b.Within policy burst) (now : Instant) {left : ℚ}
    (hleft : left = refilled b now qps burst - (if 1 ≤ refilled b now qps burst then 1 else 0)) :
    ({ b with tokens := left, updatedAt := now } : BucketState).Within policy burst where
  tokens_nonneg := by
    have : 0 ≤ refilled b now qps burst := h.refilled_nonneg now
    change 0 ≤ left
    split_ifs at hleft <;> linarith
  tokens_le := by
    have : refilled b now qps burst ≤ capacity burst b.penalty := min_le_left _ _
    change left ≤ capacity burst b.penalty
    split_ifs at hleft <;> linarith
  floor_le := h.floor_le
  penalty_le := h.penalty_le

lemma within_applyThrottle (policy : RatePolicy) {burst : ℕ} {state : Option BucketState}
    (h : ∀ b ∈ state, b.Within policy burst) (now : Instant) :
    (applyThrottle policy state now burst).Within policy burst := by
  have hbase : (state.getD (freshBucket now burst)).Within policy burst := by
    cases state with
    | none => exact within_freshBucket policy now burst
    | some b => exact h b rfl
  have hpenalty := hbase.penalty_pos
  obtain ⟨hratio, hratio'⟩ := policy.slowdown_range
  constructor
  · exact le_min hbase.tokens_nonneg (le_trans zero_le_one (one_le_capacity _ _))
  · exact min_le_right _ _
  · exact le_max_left _ _
  · apply max_le policy.floor_range.2
    nlinarith [hbase.penalty_le]

lemma within_applySuccess (policy : RatePolicy) {burst : ℕ} {state : Option BucketState}
    (h : ∀ b ∈ state, b.Within policy burst) (now : Instant) :
    (applySuccess policy state now burst).Within policy burst := by
  have hbase : (state.getD (freshBucket now burst)).Within policy burst := by
    cases state with
    | none => exact within_freshBucket policy now burst
    | some b => exact h b rfl
  have hpenalty := hbase.penalty_pos
  obtain ⟨hratio, hratio'⟩ := policy.slowdown_range
  constructor
  · exact le_min hbase.tokens_nonneg (le_trans zero_le_one (one_le_capacity _ _))
  · exact min_le_right _ _
  · simp only [applySuccess]
    split_ifs
    · apply le_min policy.floor_range.2
      -- dividing by a ratio of at most one makes the penalty no smaller
      have : (state.getD (freshBucket now burst)).penalty ≤
          (state.getD (freshBucket now burst)).penalty / policy.slowdownRatio :=
        le_div_self (le_of_lt hpenalty) hratio hratio'
      exact le_trans hbase.floor_le this
    · exact hbase.floor_le
  · simp only [applySuccess]
    split_ifs
    · exact min_le_left _ _
    · exact hbase.penalty_le

/-! ### Runs -/

/-- An operation on the bucket, with the reading of the clock that it uses. -/
inductive BucketOp
  | acquire (now : Instant)
  | throttle (now : Instant)
  | success (now : Instant)

def BucketOp.now : BucketOp → Instant
  | acquire now => now
  | throttle now => now
  | success now => now

/-- The bucket as it is stored, and the number of draws that were granted. -/
structure Draws where
  state : Option BucketState
  granted : ℕ := 0

variable (policy : RatePolicy) (spec : RateLimitSpec)

def Draws.next (d : Draws) : BucketOp → Draws
  | .acquire now =>
    let (allowed, _, state) := applyAcquire d.state now spec.qps spec.burst
    ⟨some state, if allowed then d.granted + 1 else d.granted⟩
  | .throttle now => ⟨some (applyThrottle policy d.state now spec.burst), d.granted⟩
  | .success now => ⟨some (applySuccess policy d.state now spec.burst), d.granted⟩

def Draws.run (d : Draws) (ops : List BucketOp) : Draws := ops.foldl (Draws.next policy spec) d

/-- Every draw reads a clock that is not behind the stamp of the bucket it finds. -/
def Forward (d : Draws) : List BucketOp → Prop
  | [] => True
  | op :: ops =>
    (∀ now, op = .acquire now → ∀ b ∈ d.state, b.updatedAt ≤ now) ∧
      Forward (d.next policy spec op) ops

variable {policy spec}

lemma Draws.within_next {d : Draws} (h : ∀ b ∈ d.state, b.Within policy spec.burst)
    (op : BucketOp) : ∀ b ∈ (d.next policy spec op).state, b.Within policy spec.burst := by
  intro b hb
  cases op with
  | acquire now =>
    cases hstate : d.state with
    | none =>
      simp only [next, hstate, applyAcquire_none spec.qps_pos, Option.mem_some_iff] at hb
      subst hb
      have hcap := one_le_capacity spec.burst 1
      exact ⟨by simpa using hcap, by simp, policy.floor_range.2, le_refl 1⟩
    | some b₀ =>
      have hb₀ := h b₀ hstate
      obtain ⟨left, wait, heq, hleft⟩ := applyAcquire_some spec.qps_pos hb₀ now
      simp only [next, hstate, heq, Option.mem_some_iff] at hb
      subst hb
      exact hb₀.left now hleft
  | throttle now =>
    obtain rfl : _ = b := by simpa [next] using hb
    exact within_applyThrottle policy h now
  | success now =>
    obtain rfl : _ = b := by simpa [next] using hb
    exact within_applySuccess policy h now

theorem Draws.within_run {d : Draws} (h : ∀ b ∈ d.state, b.Within policy spec.burst)
    (ops : List BucketOp) : ∀ b ∈ (d.run policy spec ops).state, b.Within policy spec.burst := by
  induction ops generalizing d with
  | nil => exact h
  | cons op ops ih => exact ih (Draws.within_next h op)

/-! ### The number of draws -/

/-- Draws and tokens together are at most one full bucket and what came in since `lo`. Until the
first draw the stamp may be outside of `lo` and `hi`, but then nothing has been granted. -/
structure Draws.Paid (spec : RateLimitSpec) (lo hi : Instant) (d : Draws) : Prop where
  paid : ∀ b ∈ d.state, d.granted + b.tokens ≤
    capacity spec.burst 1 + spec.qps * max 0 (totalSeconds lo b.updatedAt)
  early : ∀ b ∈ d.state, b.updatedAt < lo → d.granted = 0
  late : ∀ b ∈ d.state, hi < b.updatedAt → d.granted = 0
  empty : d.state = none → d.granted = 0

lemma totalSeconds_nonneg {start now : Instant} (h : start ≤ now) : 0 ≤ totalSeconds start now := by
  have : (0 : ℚ) ≤ ((now - start : ℤ) : ℚ) := by exact_mod_cast sub_nonneg.mpr h
  exact div_nonneg this (by norm_num)

lemma totalSeconds_add (a b c : Instant) :
    totalSeconds a b + totalSeconds b c = totalSeconds a c := by
  simp only [totalSeconds]
  push_cast
  ring

lemma totalSeconds_mono {a b c : Instant} (h : b ≤ c) : totalSeconds a b ≤ totalSeconds a c := by
  have := totalSeconds_nonneg h
  have := totalSeconds_add a b c
  linarith

/-- Operations that leave the stamp alone and add no tokens. -/
lemma Draws.Paid.of_le {lo hi : Instant} {d : Draws} (h : d.Paid spec lo hi) {b b' : BucketState}
    (hstate : d.state = some b) (htokens : b'.tokens ≤ b.tokens)
    (hstamp : b'.updatedAt = b.updatedAt) : Draws.Paid spec lo hi ⟨some b', d.granted⟩ where
  paid x hx := by
    obtain rfl : b' = x := by simpa using hx
    have := h.paid b hstate
    rw [hstamp]
    change (d.granted : ℚ) + b'.tokens ≤ _
    linarith
  early x hx hlt := by
    obtain rfl : b' = x := by simpa using hx
    exact h.early b hstate (hstamp ▸ hlt)
  late x hx hlt := by
    obtain rfl : b' = x := by simpa using hx
    exact h.late b hstate (hstamp ▸ hlt)
  empty hx := by cases hx

lemma Draws.Paid.fresh {lo hi : Instant} {b : BucketState}
    (htokens : b.tokens ≤ capacity spec.burst 1) : Draws.Paid spec lo hi ⟨some b, 0⟩ where
  paid x hx := by
    obtain rfl : b = x := by simpa using hx
    have : (0 : ℚ) ≤ spec.qps * max 0 (totalSeconds lo b.updatedAt) :=
      mul_nonneg (Nat.cast_nonneg _) (le_max_left _ _)
    simpa using by linarith
  early _ _ _ := rfl
  late _ _ _ := rfl
  empty _ := rfl

/-- A draw at a clock that is not behind the stamp. -/
lemma Draws.Paid.acquire {lo hi : Instant} {d : Draws} (h : d.Paid spec lo hi)
    (hwithin : ∀ b ∈ d.state, b.Within policy spec.burst) {now : Instant} (hlo : lo ≤ now)
    (hhi : now ≤ hi) (hforward : ∀ b ∈ d.state, b.updatedAt ≤ now) :
    (d.next policy spec (.acquire now)).Paid spec lo hi := by
  have hspan := totalSeconds_nonneg hlo
  have hqps : (0 : ℚ) ≤ spec.qps := Nat.cast_nonneg _
  cases hstate : d.state with
  | none =>
    have hnext : d.next policy spec (.acquire now) =
        ⟨some { tokens := capacity spec.burst 1 - 1, updatedAt := now }, 1⟩ := by
      simp [next, hstate, applyAcquire_none spec.qps_pos, h.empty hstate]
    rw [hnext]
    refine ⟨?_, ?_, ?_, by simp⟩
    · intro x hx
      obtain rfl : _ = x := by simpa using hx
      have := mul_nonneg hqps (le_max_left 0 (totalSeconds lo now))
      change ((1 : ℕ) : ℚ) + (capacity spec.burst 1 - 1) ≤
        capacity spec.burst 1 + spec.qps * max 0 (totalSeconds lo now)
      push_cast
      linarith
    · intro x hx hlt
      obtain rfl : _ = x := by simpa using hx
      exact absurd hlo (not_le.mpr hlt)
    · intro x hx hlt
      obtain rfl : _ = x := by simpa using hx
      exact absurd hhi (not_le.mpr hlt)
  | some b =>
    have hb := hwithin b hstate
    have hle := hforward b hstate
    obtain ⟨left, wait, heq, hleft⟩ := applyAcquire_some spec.qps_pos hb now
    have hnext : d.next policy spec (.acquire now) =
        ⟨some { b with tokens := left, updatedAt := now },
          if 1 ≤ refilled b now spec.qps spec.burst then d.granted + 1 else d.granted⟩ := by
      simp [next, hstate, heq]
    -- a granted draw and the token it takes balance each other
    have hbalance : ((if 1 ≤ refilled b now spec.qps spec.burst then d.granted + 1
        else d.granted : ℕ) : ℚ) + left = d.granted + refilled b now spec.qps spec.burst := by
      rw [hleft]
      split_ifs <;> push_cast <;> ring
    have hrefill : d.granted + refilled b now spec.qps spec.burst ≤
        capacity spec.burst 1 + spec.qps * totalSeconds lo now := by
      by_cases hearly : b.updatedAt < lo
      · -- nothing was drawn before, and the bucket is at most full
        have hcap : refilled b now spec.qps spec.burst ≤ capacity spec.burst 1 :=
          le_trans (min_le_left _ _) (capacity_le hb.penalty_le)
        have := mul_nonneg hqps hspan
        rw [h.early b hstate hearly, Nat.cast_zero]
        linarith
      · have hpaid := h.paid b hstate
        rw [max_eq_right (totalSeconds_nonneg (not_lt.mp hearly))] at hpaid
        have helapsed := totalSeconds_nonneg hle
        have hin : refilled b now spec.qps spec.burst ≤
            b.tokens + totalSeconds b.updatedAt now * (spec.qps * b.penalty) := by
          rw [refilled, max_eq_right helapsed]
          exact min_le_right _ _
        have hrate : totalSeconds b.updatedAt now * (spec.qps * b.penalty) ≤
            totalSeconds b.updatedAt now * spec.qps :=
          mul_le_mul_of_nonneg_left (mul_le_of_le_one_right hqps hb.penalty_le) helapsed
        calc
          d.granted + refilled b now spec.qps spec.burst
              ≤ d.granted + b.tokens + totalSeconds b.updatedAt now * spec.qps := by linarith
          _ ≤ capacity spec.burst 1 + spec.qps * totalSeconds lo b.updatedAt +
              totalSeconds b.updatedAt now * spec.qps := by linarith
          _ = capacity spec.burst 1 + spec.qps * totalSeconds lo now := by
            rw [← totalSeconds_add lo b.updatedAt now]
            ring
    rw [hnext]
    refine ⟨?_, ?_, ?_, by simp⟩
    · intro x hx
      obtain rfl : _ = x := by simpa using hx
      rw [max_eq_right hspan]
      exact hbalance ▸ hrefill
    · intro x hx hlt
      obtain rfl : _ = x := by simpa using hx
      exact absurd hlo (not_le.mpr hlt)
    · intro x hx hlt
      obtain rfl : _ = x := by simpa using hx
      exact absurd hhi (not_le.mpr hlt)

lemma Draws.Paid.next {lo hi : Instant} {d : Draws} (h : d.Paid spec lo hi)
    (hwithin : ∀ b ∈ d.state, b.Within policy spec.burst) {op : BucketOp} (hlo : lo ≤ op.now)
    (hhi : op.now ≤ hi) (hforward : ∀ now, op = .acquire now → ∀ b ∈ d.state, b.updatedAt ≤ now) :
    (d.next policy spec op).Paid spec lo hi := by
  cases op with
  | acquire now => exact h.acquire hwithin hlo hhi (hforward now rfl)
  | throttle now =>
    cases hstate : d.state with
    | none =>
      have hfresh : (⟨some (applyThrottle policy d.state now spec.burst), 0⟩ : Draws).Paid spec lo
          hi := Draws.Paid.fresh (by
          rw [hstate]
          exact min_le_left _ _)
      simpa [Draws.next, h.empty hstate] using hfresh
    | some b => exact h.of_le hstate (by simp [hstate, applyThrottle]) (by simp [hstate, applyThrottle])
  | success now =>
    cases hstate : d.state with
    | none =>
      have hfresh : (⟨some (applySuccess policy d.state now spec.burst), 0⟩ : Draws).Paid spec lo
          hi := Draws.Paid.fresh (by
          rw [hstate]
          exact min_le_left _ _)
      simpa [Draws.next, h.empty hstate] using hfresh
    | some b => exact h.of_le hstate (by simp [hstate, applySuccess]) (by simp [hstate, applySuccess])

lemma Draws.Paid.run {lo hi : Instant} {d : Draws} (h : d.Paid spec lo hi)
    (hwithin : ∀ b ∈ d.state, b.Within policy spec.burst) {ops : List BucketOp}
    (hspan : ∀ op ∈ ops, lo ≤ op.now ∧ op.now ≤ hi) (hforward : Forward policy spec d ops) :
    (d.run policy spec ops).Paid spec lo hi := by
  induction ops generalizing d with
  | nil => exact h
  | cons op ops ih =>
    obtain ⟨hlo, hhi⟩ := hspan op List.mem_cons_self
    apply ih (h.next hwithin hlo hhi hforward.1) (Draws.within_next hwithin op)
    · intro op' hop'
      exact hspan op' (List.mem_cons_of_mem _ hop')
    · exact hforward.2

lemma Draws.Paid.granted_le {lo hi : Instant} {d : Draws} (h : d.Paid spec lo hi)
    (hwithin : ∀ b ∈ d.state, b.Within policy spec.burst) (hle : lo ≤ hi) :
    d.granted ≤ capacity spec.burst 1 + spec.qps * totalSeconds lo hi := by
  have hspan := totalSeconds_nonneg hle
  have hqps : (0 : ℚ) ≤ spec.qps := Nat.cast_nonneg _
  have hpos := mul_nonneg hqps hspan
  have hcap := one_le_capacity spec.burst 1
  cases hstate : d.state with
  | none =>
    rw [h.empty hstate, Nat.cast_zero]
    linarith
  | some b =>
    by_cases hlate : hi < b.updatedAt
    · rw [h.late b hstate hlate, Nat.cast_zero]
      linarith
    · have hpaid := h.paid b hstate
      have htokens := (hwithin b hstate).tokens_nonneg
      have hmax : max 0 (totalSeconds lo b.updatedAt) ≤ totalSeconds lo hi :=
        max_le hspan (totalSeconds_mono (not_lt.mp hlate))
      have := mul_le_mul_of_nonneg_left hmax hqps
      linarith

lemma Draws.Paid.start {d : Draws} (hwithin : ∀ b ∈ d.state, b.Within policy spec.burst)
    (hnew : d.granted = 0) (lo hi : Instant) : d.Paid spec lo hi := by
  obtain ⟨state, granted⟩ := d
  obtain rfl : granted = 0 := hnew
  cases state with
  | none => exact ⟨by simp, by simp, by simp, fun _ => rfl⟩
  | some b =>
    have hb := hwithin b rfl
    exact Draws.Paid.fresh (le_trans hb.tokens_le (capacity_le hb.penalty_le))

/-- From any bucket within its bounds, every run of operations keeps it there. When no draw reads a
clock behind the stamp of the bucket, the granted draws are at most one full bucket and what comes
in during the time that the readings span. -/
theorem granted_le_of_forward {d : Draws} (hwithin : ∀ b ∈ d.state, b.Within policy spec.burst)
    (hnew : d.granted = 0) (ops : List BucketOp) :
    (∀ b ∈ (d.run policy spec ops).state, b.Within policy spec.burst) ∧
    (Forward policy spec d ops →
      ∀ lo hi, lo ≤ hi → (∀ op ∈ ops, lo ≤ op.now ∧ op.now ≤ hi) →
        (d.run policy spec ops).granted ≤
          capacity spec.burst 1 + spec.qps * totalSeconds lo hi) := by
  constructor
  · exact Draws.within_run hwithin ops
  · intro hforward lo hi hle hspan
    have hpaid := (Draws.Paid.start hwithin hnew lo hi).run hwithin hspan hforward
    exact hpaid.granted_le (Draws.within_run hwithin ops) hle

/-- One call in a second, from a bucket for one. -/
def oneCall : RateLimitSpec := { qps := 1, burst := 1 }

/-- Two clocks in order: the second draw finds the token that came in since the first. -/
theorem granted_le_of_forward_oneCall :
    let ops := [BucketOp.acquire 0, .success 0, .acquire (seconds 1), .throttle 0]
    (Draws.run {} oneCall ⟨none, 0⟩ ops).granted = 2 ∧
    ((Draws.run {} oneCall ⟨none, 0⟩ ops).granted : ℚ) ≤
      capacity 1 1 + oneCall.qps * totalSeconds 0 (seconds 1) := by
  intro ops
  have hforward : Forward {} oneCall ⟨none, 0⟩ ops := by
    refine ⟨by simp, by simp, ?_, by simp, trivial⟩
    rintro now ⟨rfl⟩ b hb
    obtain rfl : _ = b := Option.mem_some_iff.mp hb
    decide +kernel
  refine ⟨by decide +kernel, ?_⟩
  have hnone : ∀ b ∈ (⟨none, 0⟩ : Draws).state, b.Within {} oneCall.burst := by simp
  exact (granted_le_of_forward hnone rfl ops).2 hforward 0 (seconds 1) (by decide) (by decide)

/-- A clock one second behind takes the stamp back, and the clock that is ahead refills the bucket
for the same second again: three draws within one second. -/
theorem granted_twice_for_a_second :
    let ops := [BucketOp.acquire 0, .acquire (seconds 1), .acquire 0, .acquire (seconds 1)]
    (∀ op ∈ ops, 0 ≤ op.now ∧ op.now ≤ seconds 1) ∧
    ¬ ((Draws.run {} oneCall ⟨none, 0⟩ ops).granted : ℚ) ≤
      capacity 1 1 + oneCall.qps * totalSeconds 0 (seconds 1) := by
  decide +kernel

end CrossPilot
