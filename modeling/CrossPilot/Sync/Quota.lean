import CrossPilot.Lib.Interleaving
import CrossPilot.Sync.RateLimit

/-!
# The daily quota

A platform may allow a number of calls a day. `tryAcquire` looks at the count of the day, draws a
token, and then counts the call. The three are separate accesses of the store, each of them atomic:
an update takes effect at the one write that is stored (`update_linearizable`), or it fails.

The limiter carries the history of who took a token and who was counted; no program reads it.
-/

namespace CrossPilot

open Interleaving

structure DayCount where
  count : ℤ
  deriving DecidableEq

/-- The bucket and the day counts of one key, with their history. -/
structure Limiter (ι : Type) where
  bucket : Option BucketState
  days : ℤ → Option DayCount
  taken : List ι := []
  counted : List ι := []

/-- What comes of an access: it is answered; it fails and changes nothing; it takes effect, and the
store cannot be reached for the answer. -/
inductive StoreOutcome
  | answered | refused | unheard
  deriving DecidableEq

/-- What a step meets outside: two readings of the clock, and what comes of its access. -/
structure LimiterTurn where
  now : Instant
  later : Instant
  outcome : StoreOutcome

variable {ι : Type}

/-- The calls counted on a day. A count below zero is no count. -/
def Limiter.usedOn (l : Limiter ι) (day : ℤ) : ℤ :=
  match l.days day with
  | none => 0
  | some c => if c.count < 0 then 0 else c.count

def secondsUntilNextUtcDay (now : Instant) : ℚ :=
  max 1 (totalSeconds now ((utcDay now + 1) * 86400000000))

/-- `_daily_block`: the decision that ends the call, if the quota is used up or cannot be read. -/
def dailyBlock (dayStore : Bool) (quota : ℕ) :
    Steps (Limiter ι) LimiterTurn Empty (Option LimitDecision) :=
  if dayStore then
    .act (fun _ l => l) fun turn l =>
      if turn.outcome ≠ .answered then .ret (some ⟨false, 1, 1⟩)
      else if quota ≤ l.usedOn (utcDay turn.now) then
        .ret (some ⟨false, secondsUntilNextUtcDay turn.later, 1⟩)
      else .ret none
  else .ret (some ⟨false, 1, 1⟩)

/-- The bucket after a draw. -/
def Limiter.take (l : Limiter ι) (caller : ι) (spec : RateLimitSpec) (now : Instant) : Limiter ι :=
  let (allowed, _, state) := applyAcquire l.bucket now spec.qps spec.burst
  { l with bucket := some state, taken := if allowed then caller :: l.taken else l.taken }

/-- `_take_token`. -/
def takeToken (caller : ι) (spec : RateLimitSpec) :
    Steps (Limiter ι) LimiterTurn Empty LimitDecision :=
  .act (fun turn l => if turn.outcome = .refused then l else l.take caller spec turn.now)
    fun turn l =>
      let (allowed, wait, state) := applyAcquire l.bucket turn.now spec.qps spec.burst
      if turn.outcome = .answered then .ret ⟨allowed, wait, state.penalty⟩ else .ret ⟨false, 1, 1⟩

/-- The day count after a call. -/
def Limiter.count (l : Limiter ι) (caller : ι) (day : ℤ) : Limiter ι :=
  { l with
    days := Function.update l.days day (some ⟨l.usedOn day + 1⟩)
    counted := caller :: l.counted }

/-- `_count_daily`; `false` stands for `StoreUnavailable`. -/
def countDaily (dayStore : Bool) (caller : ι) : Steps (Limiter ι) LimiterTurn Empty Bool :=
  if dayStore then
    .act (fun turn l =>
        if turn.outcome = .refused then l else l.count caller (utcDay turn.now))
      fun turn _ => .ret (decide (turn.outcome = .answered))
  else .ret false

/-- Count a call that has its token. -/
def settleDaily (dayStore : Bool) (caller : ι) (decision : LimitDecision) :
    Steps (Limiter ι) LimiterTurn Empty LimitDecision := do
  let counted ← countDaily dayStore caller
  if counted then pure decision else pure ⟨false, 1, decision.penalty⟩

/-- The part of `try_acquire` after the quota check. -/
def acquireToken (dayStore : Bool) (caller : ι) (spec : RateLimitSpec) :
    Steps (Limiter ι) LimiterTurn Empty LimitDecision := do
  let decision ← takeToken caller spec
  if decision.allowed && spec.dailyQuota.isSome then settleDaily dayStore caller decision
  else pure decision

/-- `try_acquire`. -/
def tryAcquire (dayStore : Bool) (caller : ι) (spec : RateLimitSpec) :
    Steps (Limiter ι) LimiterTurn Empty LimitDecision :=
  match spec.dailyQuota with
  | none => acquireToken dayStore caller spec
  | some quota => do
    let blocked ← dailyBlock dayStore quota
    match blocked with
    | some decision => pure decision
    | none => acquireToken dayStore caller spec

/-- Callers that share a limiter. -/
def limited (dayStore : Bool) (spec : RateLimitSpec) (bucket : Option BucketState)
    (days : ℤ → Option DayCount) :
    Config ι (Limiter ι) LimiterTurn Empty LimitDecision where
  shared := { bucket := bucket, days := days }
  party i := tryAcquire dayStore i spec

lemma Limiter.usedOn_nonneg (l : Limiter ι) (day : ℤ) : 0 ≤ l.usedOn day := by
  simp only [usedOn]
  split
  · exact le_refl 0
  · split_ifs <;> omega

@[simp] lemma Limiter.usedOn_take (l : Limiter ι) (caller : ι) (spec : RateLimitSpec)
    (now : Instant) (day : ℤ) : (l.take caller spec now).usedOn day = l.usedOn day := rfl

@[simp] lemma Limiter.usedOn_count (l : Limiter ι) (caller : ι) (day : ℤ) :
    (l.count caller day).usedOn day = l.usedOn day + 1 := by
  have := l.usedOn_nonneg day
  have hnew : (l.count caller day).days day = some ⟨l.usedOn day + 1⟩ := by simp [count]
  rw [Limiter.usedOn, hnew]
  simp only
  rw [if_neg (by omega)]

/-! ### Where a call stands -/

/-- Before the quota check, before the draw, before the count, at the end. -/
inductive Standing
  | fresh
  | drawing
  | counting (decision : LimitDecision)
  | done (decision : LimitDecision)

variable (dayStore : Bool) (spec : RateLimitSpec)

/-- What is left of the program of a call. -/
def Standing.program (i : ι) : Standing → Steps (Limiter ι) LimiterTurn Empty LimitDecision
  | fresh => tryAcquire dayStore i spec
  | drawing => acquireToken dayStore i spec
  | counting decision => settleDaily dayStore i decision
  | done decision => .ret decision

/-- What the limiter remembers of a call that stands there. -/
def Standing.Remembered (i : ι) (l : Limiter ι) (begun : Prop) : Standing → Prop
  | fresh => ¬ begun ∧ i ∉ l.taken ∧ i ∉ l.counted
  | drawing => begun ∧ dayStore ∧ i ∉ l.taken ∧ i ∉ l.counted
  | counting decision =>
    begun ∧ dayStore ∧ decision.allowed ∧ i ∈ l.taken ∧ i ∉ l.counted
  | done decision =>
    (decision.allowed → i ∈ l.counted) ∧ (decision.allowed = false → i ∉ l.taken ∧ i ∉ l.counted)

variable {dayStore spec}

/-- A call remembers only what concerns itself. -/
lemma Standing.Remembered.congr {i : ι} {l l' : Limiter ι} {begun begun' : Prop} {st : Standing}
    (h : st.Remembered dayStore i l begun) (hbegun : begun' ↔ begun)
    (htaken : i ∈ l'.taken ↔ i ∈ l.taken) (hcounted : i ∈ l'.counted ↔ i ∈ l.counted) :
    st.Remembered dayStore i l' begun' := by
  cases st <;> simpa only [Remembered, hbegun, htaken, hcounted] using h

/-- The quota check changes nothing; the call goes on only if the quota is open. -/
lemma fresh_step {quota : ℕ} (hq : spec.dailyQuota = some quota) (i : ι) (turn : LimiterTurn)
    (l : Limiter ι) :
    (Standing.fresh.program dayStore spec i).effect turn l = l ∧
    ((dayStore ∧ l.usedOn (utcDay turn.now) < quota ∧
        (Standing.fresh.program dayStore spec i).after turn l =
          Standing.drawing.program dayStore spec i) ∨
      ∃ d : LimitDecision, d.allowed = false ∧
        (Standing.fresh.program dayStore spec i).after turn l =
          (Standing.done d).program dayStore spec i) := by
  cases hstore : dayStore with
  | false =>
    refine ⟨by simp [Standing.program, tryAcquire, hq, dailyBlock], Or.inr ⟨⟨false, 1, 1⟩, rfl, ?_⟩⟩
    simp [Standing.program, tryAcquire, hq, dailyBlock]
  | true =>
    refine ⟨by simp [Standing.program, tryAcquire, hq, dailyBlock], ?_⟩
    by_cases hheard : turn.outcome = .answered
    · by_cases hused : quota ≤ l.usedOn (utcDay turn.now)
      · refine Or.inr ⟨⟨false, secondsUntilNextUtcDay turn.later, 1⟩, rfl, ?_⟩
        simp [Standing.program, tryAcquire, hq, dailyBlock, hheard, hused]
      · refine Or.inl ⟨rfl, not_le.mp hused, ?_⟩
        simp [Standing.program, tryAcquire, hq, dailyBlock, hheard, hused]
    · refine Or.inr ⟨⟨false, 1, 1⟩, rfl, ?_⟩
      simp [Standing.program, tryAcquire, hq, dailyBlock, hheard]

variable (dayStore) in
/-- The draw leaves the count alone. The call goes on with a token, or it ends without one unless
its answer is lost. -/
lemma drawing_step {quota : ℕ} (hq : spec.dailyQuota = some quota) (i : ι) (turn : LimiterTurn)
    (l : Limiter ι) :
    let l' := (Standing.drawing.program dayStore spec i).effect turn l
    l'.counted = l.counted ∧ l'.days = l.days ∧
    ((∃ d : LimitDecision, d.allowed = true ∧ l'.taken = i :: l.taken ∧
        (Standing.drawing.program dayStore spec i).after turn l =
          (Standing.counting d).program dayStore spec i) ∨
      ∃ d : LimitDecision, d.allowed = false ∧ (turn.outcome ≠ .unheard → l'.taken = l.taken) ∧
        (Standing.drawing.program dayStore spec i).after turn l =
          (Standing.done d).program dayStore spec i) := by
  rcases hdraw : applyAcquire l.bucket turn.now spec.qps spec.burst with ⟨allowed, wait, state⟩
  have htake : l.take i spec turn.now =
      { l with bucket := some state, taken := if allowed then i :: l.taken else l.taken } := by
    simp [Limiter.take, hdraw]
  intro l'
  have hl' : l' = if turn.outcome = .refused then l else l.take i spec turn.now := rfl
  have hafter : (Standing.drawing.program dayStore spec i).after turn l =
      (if turn.outcome = .answered then Steps.ret ⟨allowed, wait, state.penalty⟩
        else Steps.ret ⟨false, 1, 1⟩).bind fun decision : LimitDecision =>
          if decision.allowed && spec.dailyQuota.isSome then settleDaily dayStore i decision
          else .ret decision := by
    simp [Standing.program, acquireToken, takeToken, hdraw]
  refine ⟨?_, ?_, ?_⟩
  · rw [hl', htake]
    split_ifs <;> rfl
  · rw [hl', htake]
    split_ifs <;> rfl
  · rw [hafter]
    by_cases hheard : turn.outcome = .answered
    · cases allowed with
      | true =>
        refine Or.inl ⟨⟨true, wait, state.penalty⟩, rfl, by simp [hl', htake, hheard], ?_⟩
        simp [hheard, hq, Standing.program]
      | false =>
        refine Or.inr ⟨⟨false, wait, state.penalty⟩, rfl, by simp [hl', htake, hheard], ?_⟩
        simp [hheard, Standing.program]
    · refine Or.inr ⟨⟨false, 1, 1⟩, rfl, ?_, by simp [hheard, Standing.program]⟩
      intro hlost
      have hrefused : turn.outcome = .refused := by
        cases h : turn.outcome <;> simp_all
      simp [hl', hrefused]

/-- A count that is stored and answered ends the call with its decision. -/
lemma counting_step (i : ι) {turn : LimiterTurn} (hstored : turn.outcome = .answered)
    (l : Limiter ι) (d : LimitDecision) :
    ((Standing.counting d).program true spec i).effect turn l = l.count i (utcDay turn.now) ∧
    ((Standing.counting d).program true spec i).after turn l =
      (Standing.done d).program true spec i := by
  constructor
  · simp [Standing.program, settleDaily, countDaily, hstored]
  · simp [Standing.program, settleDaily, countDaily, hstored]

variable [DecidableEq ι]

/-- The step that comes after `sched` does not take the way that loses count: a call that finds
the quota open still finds it open with the calls under way added, a draw is not lost with its
answer, and the count of a call with a token is stored and answered. -/
structure Clear (c₀ : Config ι (Limiter ι) LimiterTurn Empty LimitDecision) (quota : ℕ) (day : ℤ)
    (sched : List (ι × LimiterTurn)) (m : ι × LimiterTurn) : Prop where
  open_quota : m.1 ∉ sched.map Prod.fst → (c₀.run sched).shared.usedOn day < quota →
    (c₀.run sched).shared.usedOn day + (c₀.underway sched).card < quota
  draw_heard : m.1 ∈ c₀.underway sched → m.1 ∉ (c₀.run sched).shared.taken →
    m.2.outcome ≠ .unheard
  count_stored : m.1 ∈ c₀.underway sched → m.1 ∈ (c₀.run sched).shared.taken →
    m.2.outcome = .answered

/-! ### All schedules -/

variable (dayStore spec) in
/-- The count of the day has grown by the calls counted, and leaves room for those under way. -/
structure Roomy (c₀ : Config ι (Limiter ι) LimiterTurn Empty LimitDecision) (quota : ℕ) (day : ℤ)
    (sched : List (ι × LimiterTurn)) : Prop where
  used : (c₀.run sched).shared.usedOn day =
    c₀.shared.usedOn day + (c₀.run sched).shared.counted.length
  once : (c₀.run sched).shared.counted.Nodup
  room : (c₀.run sched).shared.usedOn day + (c₀.underway sched).card ≤
    max (c₀.shared.usedOn day) quota
  stands : ∀ i, ∃ st : Standing, (c₀.run sched).party i = st.program dayStore spec i ∧
    st.Remembered dayStore i (c₀.run sched).shared (i ∈ sched.map Prod.fst)

lemma Roomy.initial (bucket : Option BucketState) (days : ℤ → Option DayCount) (quota : ℕ)
    (day : ℤ) : Roomy (ι := ι) dayStore spec (limited dayStore spec bucket days) quota day [] where
  used := by simp [limited]
  once := List.nodup_nil
  room := by simp
  stands i := ⟨.fresh, rfl, by simp [Standing.Remembered, limited]⟩

/-- A step of `i` from one standing to another, when the limiter remembers nothing new of the
others. -/
lemma Roomy.advance {c₀ : Config ι (Limiter ι) LimiterTurn Empty LimitDecision} {quota : ℕ}
    {day : ℤ} {sched : List (ι × LimiterTurn)} (h : Roomy dayStore spec c₀ quota day sched) {i : ι}
    {turn : LimiterTurn} {st st' : Standing} {l' : Limiter ι}
    (hst : (c₀.run sched).party i = st.program dayStore spec i)
    (heffect : (st.program dayStore spec i).effect turn (c₀.run sched).shared = l')
    (hafter : (st.program dayStore spec i).after turn (c₀.run sched).shared =
      st'.program dayStore spec i)
    (hremembered : st'.Remembered dayStore i l' True)
    (hothers : ∀ j, j ≠ i → (j ∈ l'.taken ↔ j ∈ (c₀.run sched).shared.taken) ∧
      (j ∈ l'.counted ↔ j ∈ (c₀.run sched).shared.counted))
    (hused : l'.usedOn day = c₀.shared.usedOn day + l'.counted.length) (honce : l'.counted.Nodup)
    (hroom : l'.usedOn day + (c₀.underway (sched ++ [(i, turn)])).card ≤
      max (c₀.shared.usedOn day) quota) :
    Roomy dayStore spec c₀ quota day (sched ++ [(i, turn)]) := by
  have hshared : (c₀.run (sched ++ [(i, turn)])).shared = l' := by
    rw [Config.run_concat, Config.shared_move, hst]
    exact heffect
  constructor
  · rw [hshared]
    exact hused
  · rw [hshared]
    exact honce
  · rw [hshared]
    exact hroom
  · intro j
    rw [hshared]
    by_cases hj : j = i
    · subst hj
      refine ⟨st', ?_, hremembered.congr (by simp) Iff.rfl Iff.rfl⟩
      rw [Config.run_concat, Config.party_move_self, hst, hafter]
    · obtain ⟨stj, hstj, hrem⟩ := h.stands j
      obtain ⟨htaken, hcounted⟩ := hothers j hj
      refine ⟨stj, ?_, hrem.congr (by simp [hj]) htaken hcounted⟩
      rw [Config.run_concat, Config.party_move_of_ne _ hj, hstj]

theorem Roomy.move {c₀ : Config ι (Limiter ι) LimiterTurn Empty LimitDecision} {quota : ℕ}
    {day : ℤ} {sched : List (ι × LimiterTurn)} (h : Roomy dayStore spec c₀ quota day sched)
    (hq : spec.dailyQuota = some quota) {m : ι × LimiterTurn} (hday : utcDay m.2.now = day)
    (hclear : Clear c₀ quota day sched m) :
    Roomy dayStore spec c₀ quota day (sched ++ [m]) := by
  obtain ⟨i, turn⟩ := m
  obtain ⟨st, hst, hrem⟩ := h.stands i
  obtain ⟨hused, honce, hroom, _⟩ := id h
  have hcards := c₀.underway_concat sched (i, turn)
  have hparty : (c₀.run (sched ++ [(i, turn)])).party i =
      (st.program dayStore spec i).after turn (c₀.run sched).shared := by
    rw [Config.run_concat, Config.party_move_self, hst]
  have herase := Finset.card_erase_le (s := c₀.underway sched) (a := i)
  rw [hparty] at hcards
  have hunder : i ∈ sched.map Prod.fst → (st.program dayStore spec i).ended = false →
      i ∈ c₀.underway sched := by
    intro hbegun hend
    simp only [Config.underway, Finset.mem_filter, List.mem_toFinset]
    exact ⟨hbegun, hst ▸ hend⟩
  cases st with
  | fresh =>
    obtain ⟨hnew, htaken, hcounted⟩ := hrem
    obtain ⟨heffect, ⟨hstore, hopen, hafter⟩ | ⟨d, hd, hafter⟩⟩ :=
      fresh_step hq i turn (c₀.run sched).shared
    · -- the quota is open, so it is open with one more call under way
      refine h.advance hst heffect hafter ⟨trivial, hstore, htaken, hcounted⟩
        (fun j _ => ⟨Iff.rfl, Iff.rfl⟩) hused honce ?_
      rw [hday] at hopen
      have hlt := hclear.open_quota hnew hopen
      have hend : (Standing.drawing.program dayStore spec i).ended = false := rfl
      have hcard := Finset.card_insert_le i (c₀.underway sched)
      rw [hcards, hafter, hend]
      simp only [Bool.false_eq_true, if_false]
      omega
    · refine h.advance hst heffect hafter ⟨by simp [hd], fun _ => ⟨htaken, hcounted⟩⟩
        (fun j _ => ⟨Iff.rfl, Iff.rfl⟩) hused honce ?_
      rw [hcards, hafter]
      simp only [Standing.program, Steps.ended_ret, if_true]
      omega
  | drawing =>
    obtain ⟨hbegun, hstore, htaken, hcounted⟩ := hrem
    have hin := hunder hbegun rfl
    obtain ⟨hsame, hdays, hdrawn⟩ :=
      drawing_step dayStore hq i turn (c₀.run sched).shared
    have huse : ((Standing.drawing.program dayStore spec i).effect turn
        (c₀.run sched).shared).usedOn day = (c₀.run sched).shared.usedOn day := by
      simp only [Limiter.usedOn, hdays]
    obtain ⟨d, hd, htake, hafter⟩ | ⟨d, hd, htake, hafter⟩ := hdrawn
    · refine h.advance hst rfl hafter
        ⟨trivial, hstore, hd, by rw [htake]; exact List.mem_cons_self, by rwa [hsame]⟩
        (fun j hj => ⟨by simp [htake, hj], by rw [hsame]⟩) (by rw [huse, hsame, hused])
        (by rwa [hsame]) ?_
      obtain rfl : dayStore = true := hstore
      have hend : ((Standing.counting d).program true spec i).ended = false := rfl
      rw [huse, hcards, hafter, hend, Finset.insert_eq_of_mem hin]
      simpa using hroom
    · have hheard := htake (hclear.draw_heard hin htaken)
      refine h.advance hst rfl hafter
        ⟨by simp [hd], fun _ => ⟨by rwa [hheard], by rwa [hsame]⟩⟩
        (fun j _ => ⟨by rw [hheard], by rw [hsame]⟩) (by rw [huse, hsame, hused])
        (by rwa [hsame]) ?_
      rw [huse, hcards, hafter]
      simp only [Standing.program, Steps.ended_ret, if_true]
      omega
  | counting d =>
    obtain ⟨hbegun, hstore, hd, htaken, hcounted⟩ := hrem
    obtain rfl : dayStore = true := hstore
    have hin := hunder hbegun rfl
    obtain ⟨heffect, hafter⟩ :=
      counting_step i (hclear.count_stored hin htaken) (c₀.run sched).shared d
    rw [hday] at heffect
    refine h.advance hst heffect hafter
      ⟨fun _ => List.mem_cons_self, by simp [hd]⟩
      (fun j hj => ⟨Iff.rfl, by simp [Limiter.count, hj]⟩) ?_ (List.nodup_cons.mpr ⟨hcounted, honce⟩)
      ?_
    · rw [Limiter.usedOn_count, hused]
      simp [Limiter.count, add_assoc]
    · -- the call leaves the calls under way as it enters the count
      have hcard := Finset.card_erase_add_one hin
      rw [Limiter.usedOn_count, hcards, hafter]
      simp only [Standing.program, Steps.ended_ret, if_true]
      omega
  | done d =>
    have heffect : ((Standing.done d).program dayStore spec i).effect turn
        (c₀.run sched).shared = (c₀.run sched).shared := rfl
    have hafter : ((Standing.done d).program dayStore spec i).after turn
        (c₀.run sched).shared = (Standing.done d).program dayStore spec i := rfl
    refine h.advance hst heffect hafter hrem (fun j _ => ⟨Iff.rfl, Iff.rfl⟩) hused honce ?_
    rw [hcards]
    simp only [Standing.program, Steps.after_ret, Steps.ended_ret, if_true]
    omega

/-- In every run of calls on one day whose steps are clear, no more calls are granted than the quota
allows, and a call that is denied has neither taken a token nor been counted. -/
theorem granted_le_quota (bucket : Option BucketState) (days : ℤ → Option DayCount) {quota : ℕ}
    (hq : spec.dailyQuota = some quota) {day : ℤ} (sched : List (ι × LimiterTurn))
    (hday : ∀ m ∈ sched, utcDay m.2.now = day)
    (hclear : ∀ before m after, sched = before ++ m :: after →
      Clear (limited dayStore spec bucket days) quota day before m) :
    let c := (limited dayStore spec bucket days).run sched
    (∀ granted : Finset ι, (∀ i ∈ granted, ∃ d, c.party i = .ret d ∧ d.allowed) →
      granted.card ≤ quota) ∧
    ∀ i d, c.party i = .ret d → d.allowed = false → i ∉ c.shared.taken ∧ i ∉ c.shared.counted := by
  have hroomy : Roomy dayStore spec (limited dayStore spec bucket days) quota day sched := by
    induction sched using List.reverseRecOn with
    | nil => exact Roomy.initial bucket days quota day
    | append_singleton before m ih =>
      have hbefore := ih (fun x hx => hday x (List.mem_append_left _ hx)) ?_
      · exact hbefore.move hq (hday m (by simp)) (hclear before m [] rfl)
      · rintro first x rest rfl
        exact hclear first x (rest ++ [m]) (by simp)
  intro c
  have hends : ∀ i d, c.party i = .ret d →
      (d.allowed → i ∈ c.shared.counted) ∧
      (d.allowed = false → i ∉ c.shared.taken ∧ i ∉ c.shared.counted) := by
    intro i d hd
    obtain ⟨st, hst, hrem⟩ := hroomy.stands i
    change c.party i = _ at hst
    rw [hst] at hd
    match st with
    | .fresh =>
      obtain ⟨_, htaken, hcounted⟩ := hrem
      refine ⟨?_, fun _ => ⟨htaken, hcounted⟩⟩
      cases hstore : dayStore with
      | false =>
        simp only [Standing.program, tryAcquire, hq, dailyBlock, hstore] at hd
        simp at hd
        simp [← hd]
      | true => simp [Standing.program, tryAcquire, hq, dailyBlock, hstore] at hd
    | .drawing => simp [Standing.program, acquireToken, takeToken] at hd
    | .counting d' =>
      obtain ⟨_, hstore, _⟩ := hrem
      simp [Standing.program, settleDaily, countDaily, hstore] at hd
    | .done d' =>
      obtain rfl : d' = d := by simpa [Standing.program] using hd
      exact hrem
  constructor
  · intro granted hgranted
    have hsub : granted ⊆ c.shared.counted.toFinset := by
      intro i hi
      obtain ⟨d, hd, hallowed⟩ := hgranted i hi
      exact List.mem_toFinset.mpr ((hends i d hd).1 hallowed)
    have hcard : granted.card ≤ c.shared.counted.length := by
      rw [← List.toFinset_card_of_nodup hroomy.once]
      exact Finset.card_le_card hsub
    have hused := hroomy.used
    have hroom := hroomy.room
    have hstart := (limited (ι := ι) dayStore spec bucket days).shared.usedOn_nonneg day
    change _ = _ + ((c.shared.counted.length : ℕ) : ℤ) at hused
    omega
  · intro i d hd
    exact (hends i d hd).2

/-- One call a day, from a bucket that has two. -/
def onceADay : RateLimitSpec := { qps := 2, burst := 2, dailyQuota := some 1 }

/-- An access that is answered, at the start of day zero. -/
def atZero : LimiterTurn := { now := 0, later := 0, outcome := .answered }

/-- Call 0 goes through before call 1 asks. -/
def inSuccession : List (ℕ × LimiterTurn) := [(0, atZero), (0, atZero), (0, atZero), (1, atZero)]

theorem granted_le_quota_inSuccession :
    let c := (limited true onceADay none fun _ => none).run inSuccession
    ((c.party 0).result.map LimitDecision.allowed = some true) ∧
    ((c.party 1).result.map LimitDecision.allowed = some false) ∧
    (∀ granted : Finset ℕ, (∀ i ∈ granted, ∃ d, c.party i = .ret d ∧ d.allowed) →
      granted.card ≤ 1) := by
  intro c
  have hclear : ∀ before m after, inSuccession = before ++ m :: after →
      Clear (limited true onceADay none fun _ => none) 1 0 before m := by
    intro before m after h
    simp only [inSuccession] at h
    rcases before with _ | ⟨a, _ | ⟨b, _ | ⟨x, _ | ⟨d, before⟩⟩⟩⟩ <;>
      simp only [List.nil_append, List.cons_append, List.cons.injEq] at h
    · obtain ⟨rfl, _⟩ := h
      constructor <;> decide +kernel
    · obtain ⟨rfl, rfl, _⟩ := h
      constructor <;> decide +kernel
    · obtain ⟨rfl, rfl, rfl, _⟩ := h
      constructor <;> decide +kernel
    · obtain ⟨rfl, rfl, rfl, rfl, _⟩ := h
      constructor <;> decide +kernel
    · simp at h
  have hquota : onceADay.dailyQuota = some 1 := rfl
  have h := granted_le_quota none (fun _ => none) hquota inSuccession (by decide) hclear
  exact ⟨by decide +kernel, by decide +kernel, h.1⟩

/-- Both calls look at the count before either is counted. -/
def sideBySide : List (ℕ × LimiterTurn) :=
  [(0, atZero), (1, atZero), (0, atZero), (0, atZero), (1, atZero), (1, atZero)]

/-- The count of a call with a token cannot be stored. -/
def countRefused : List (ℕ × LimiterTurn) :=
  [(0, atZero), (0, atZero), (0, { atZero with outcome := .refused })]

/-- Two calls are granted where one is allowed; a call that cannot be counted is denied, and its
token is gone. -/
theorem granted_over_quota :
    (¬ ∀ granted : Finset ℕ,
      (∀ i ∈ granted, ∃ d,
        ((limited true onceADay none fun _ => none).run sideBySide).party i = .ret d ∧ d.allowed) →
      granted.card ≤ 1) ∧
    ¬ ∀ i d, ((limited true onceADay none fun _ => none).run countRefused).party i = .ret d →
      d.allowed = false →
      i ∉ ((limited true onceADay none fun _ => none).run countRefused).shared.taken := by
  constructor
  · intro h
    have hboth : ∀ i ∈ ({0, 1} : Finset ℕ),
        (((limited true onceADay none fun _ => none).run sideBySide).party i).result =
          some ⟨true, 0, 1⟩ := by
      decide +kernel
    have := h {0, 1} fun i hi => ⟨_, Steps.result_eq_some.mp (hboth i hi), rfl⟩
    exact absurd this (by decide)
  · intro h
    have hdenied : (((limited true onceADay none fun _ => none).run countRefused).party 0).result =
        some ⟨false, 1, 1⟩ := by
      decide +kernel
    have := h 0 _ (Steps.result_eq_some.mp hdenied) rfl
    exact absurd this (by decide +kernel)

end CrossPilot
