import CrossPilot.Sync.Cursor
import CrossPilot.Sync.Retry

/-!
# The circuit breaker of a platform

A platform that fails too often is left alone for a while: its circuit opens. After that time one
fetch is let through as a probe. It takes the probe slot of the half open circuit, and what it
records of its first page closes the circuit or opens it again.

A fetch records nothing if it ends before the platform was asked, if the platform throttled it, or
if the error of the platform is no outage. A probe that ends so keeps the slot, and from then on
every fetch is turned away.
-/

namespace CrossPilot

inductive CircuitPhase
  | closed | opened | halfOpen
  deriving DecidableEq

structure CircuitState where
  phase : CircuitPhase := .closed
  outcomes : List Bool := []
  openedAt : Option Instant := none
  probeInFlight : Bool := false
  deriving DecidableEq

/-- The settings of the circuit breaker, with the checks of `SyncPolicy`. -/
structure CircuitPolicy where
  failureRatio : ℚ := 1 / 2
  minSamples : ℕ := 4
  window : ℕ := 20
  openSeconds : ℤ := 300
  stateTtlSeconds : ℤ := 3600
  ratio_range : 0 < failureRatio ∧ failureRatio < 1 := by norm_num
  samples_pos : 1 ≤ minSamples := by decide
  samples_le : minSamples ≤ window := by decide
  open_pos : 1 ≤ openSeconds := by decide
  ttl_pos : 1 ≤ stateTtlSeconds := by decide

/-- `admit` of the source: whether a fetch may start, and what it makes of the circuit. -/
def admitFetch (state : CircuitState) (now : Instant) (policy : CircuitPolicy) :
    CircuitState × Bool :=
  match state.phase with
  | .closed => (state, true)
  | .opened =>
    match state.openedAt with
    | some openedAt =>
      if seconds policy.openSeconds ≤ now - openedAt then
        (⟨.halfOpen, state.outcomes, state.openedAt, true⟩, true)
      else (state, false)
    | none => (state, false)
  | .halfOpen =>
    if state.probeInFlight then (state, false)
    else (⟨.halfOpen, state.outcomes, state.openedAt, true⟩, true)

/-- What an outcome makes of the circuit. -/
def observe (state : CircuitState) (failed : Bool) (now : Instant) (policy : CircuitPolicy) :
    CircuitState :=
  match state.phase with
  | .halfOpen => if failed then ⟨.opened, state.outcomes, some now, false⟩ else {}
  | .opened => state
  | .closed =>
    let all := state.outcomes ++ [failed]
    let outcomes := all.drop (all.length - policy.window)
    if policy.minSamples ≤ outcomes.length ∧
        policy.failureRatio < (outcomes.count true : ℚ) / outcomes.length then
      ⟨.opened, outcomes, some now, false⟩
    else { phase := .closed, outcomes := outcomes }

/-- The circuit as it is kept, and when the key runs out. -/
structure CircuitEntry where
  state : CircuitState
  expires : Instant
  deriving DecidableEq

/-- What is read of the circuit. A key that has run out is a closed circuit without outcomes. -/
def circuitAt (kv : Option CircuitEntry) (now : Instant) : CircuitState :=
  match kv with
  | none => {}
  | some entry => if now < entry.expires then entry.state else {}

/-- `JsonStateStore.update`, when the compare-and-set succeeds. The key lives on from now. -/
def keepCircuit (policy : CircuitPolicy) (now : Instant) (state : CircuitState) :
    Option CircuitEntry :=
  some ⟨state, now + seconds policy.stateTtlSeconds⟩

/-- `CircuitBreaker.allow`. -/
def breakerAllow (policy : CircuitPolicy) (now : Instant) (kv : Option CircuitEntry) :
    Option CircuitEntry × Bool :=
  let (state, allowed) := admitFetch (circuitAt kv now) now policy
  (keepCircuit policy now state, allowed)

/-- `CircuitBreaker.record`. -/
def breakerRecord (policy : CircuitPolicy) (now : Instant) (failed : Bool)
    (kv : Option CircuitEntry) : Option CircuitEntry :=
  keepCircuit policy now (observe (circuitAt kv now) failed now policy)

/-- How a fetch goes on after `allow`, one page at a time. -/
inductive PageCall
  /-- The adapter or the limits of the platform are not found: there is no page at all. -/
  | unprepared
  /-- The store of the rate limiter could not be reached. -/
  | limiterUnavailable
  /-- The rate limiter has no token left. -/
  | limiterDenied
  /-- The platform answered with an error. `recorded` is how the store takes an outcome. -/
  | adapterError (httpStatus : Option ℕ) (decision : RetryDecision) (recorded : StoreAnswer)
  /-- The call ended in an error that is not one of the adapter. -/
  | otherError
  /-- A page came. `counted` says whether the limiter could take the success, `recorded` how the
  breaker could, and `more` whether the next page is asked for. -/
  | page (counted : Bool) (recorded : StoreAnswer) (more : Bool)

/-- `counts_as_outage`. -/
def countsAsOutage (decision : RetryDecision) : Bool := decision = .retry

/-- The outcome that the body of `fetch` hands to the breaker, with the answer of the store. -/
def PageCall.outcome : PageCall → Option (Bool × StoreAnswer)
  | .adapterError httpStatus decision recorded =>
    if httpStatus = some 429 ∨ decision = .retryAfter then none
    else if countsAsOutage decision then some (true, recorded)
    else none
  | .page counted recorded _ => if counted then some (false, recorded) else none
  | _ => none

/-- Whether an outcome of the call reaches the circuit. -/
def PageCall.recorded (call : PageCall) : Bool :=
  match call.outcome with
  | some (_, answer) => answer.Written
  | none => false

/-- Whether the loop over the pages goes on after this call. -/
def PageCall.goesOn : PageCall → Bool
  | .page counted recorded more => counted && recorded = .done && more
  | _ => false

/-- What a page call makes of the circuit. -/
def PageCall.apply (policy : CircuitPolicy) (now : Instant) (call : PageCall)
    (kv : Option CircuitEntry) : Option CircuitEntry :=
  match call.outcome with
  | some (failed, answer) => if answer.Written then breakerRecord policy now failed kv else kv
  | none => kv

/-- A fetch under way: whether it has taken the probe slot, and whether it has ended a call. -/
structure Flight where
  probe : Bool
  called : Bool := false
  deriving DecidableEq

/-- The circuit of a platform and the fetches under way. -/
structure PlatformTraffic where
  kv : Option CircuitEntry := none
  inFlight : ℕ → Option Flight := fun _ => none

/-- Something that happens: a fetch asks to start, or a call of a fetch ends. -/
inductive FetchEvent
  | start (fetch : ℕ) (now : Instant) (answer : StoreAnswer)
  | call (fetch : ℕ) (now : Instant) (result : PageCall)

/-- Whether a fetch that starts now takes the probe slot. -/
def takesSlot (policy : CircuitPolicy) (now : Instant) (kv : Option CircuitEntry) : Bool :=
  let state := circuitAt kv now
  (admitFetch state now policy).2 && state.phase ≠ .closed

/-- One step of `_fetch` for one of the fetches. -/
def PlatformTraffic.next (policy : CircuitPolicy) (t : PlatformTraffic) :
    FetchEvent → PlatformTraffic
  | .start fetch now answer =>
    match t.inFlight fetch with
    | some _ => t
    | none =>
      if answer = .unreachable then t
      else
        let (kv, allowed) := breakerAllow policy now t.kv
        if allowed ∧ answer = .done then
          ⟨kv, Function.update t.inFlight fetch (some { probe := takesSlot policy now t.kv })⟩
        else ⟨kv, t.inFlight⟩
  | .call fetch now result =>
    match t.inFlight fetch with
    | none => t
    | some flight =>
      ⟨result.apply policy now t.kv,
        Function.update t.inFlight fetch
          (if result.goesOn then some { flight with called := true } else none)⟩

/-- The platform after a number of events. -/
def traffic (policy : CircuitPolicy) (events : List FetchEvent) : PlatformTraffic :=
  events.foldl (PlatformTraffic.next policy) {}

/-- The circuit after some attempts that were all turned away. -/
def afterAttempts (policy : CircuitPolicy) (kv : Option CircuitEntry) (times : ℕ → Instant) :
    ℕ → Option CircuitEntry
  | 0 => kv
  | n + 1 => (breakerAllow policy (times n) (afterAttempts policy kv times n)).1

/-- When no fetch is under way, the probe slot is free, and attempts that go on and on are not
turned away forever. -/
def Unblocked (policy : CircuitPolicy) (t : PlatformTraffic) : Prop :=
  (∀ fetch, t.inFlight fetch = none) →
    (∀ entry ∈ t.kv, entry.state.probeInFlight = false) ∧
    ∀ times : ℕ → Instant, (∀ bound, ∃ n, bound ≤ times n) →
      ∃ n, (breakerAllow policy (times n) (afterAttempts policy t.kv times n)).2 = true

/-- A probe records its first call, and the reply to `allow` is not lost when it gives out the
slot. -/
def GivesBack (policy : CircuitPolicy) (t : PlatformTraffic) : FetchEvent → Prop
  | .start _ now answer => answer = .replyLost → takesSlot policy now t.kv = false
  | .call fetch _ result =>
    ∀ flight ∈ t.inFlight fetch, flight.probe = true → flight.called = false →
      result.recorded = true

instance (policy : CircuitPolicy) (t : PlatformTraffic) (event : FetchEvent) :
    Decidable (GivesBack policy t event) :=
  match event with
  | .start _ now answer =>
    inferInstanceAs (Decidable (answer = .replyLost → takesSlot policy now t.kv = false))
  | .call fetch _ result =>
    inferInstanceAs (Decidable (∀ flight ∈ t.inFlight fetch, flight.probe = true →
      flight.called = false → result.recorded = true))

/-- Every event of a run gives the slot back. -/
def AllGiveBack (policy : CircuitPolicy) (t : PlatformTraffic) : List FetchEvent → Prop
  | [] => True
  | event :: rest => GivesBack policy t event ∧ AllGiveBack policy (t.next policy event) rest

instance decidableAllGiveBack (policy : CircuitPolicy) :
    (t : PlatformTraffic) → (events : List FetchEvent) → Decidable (AllGiveBack policy t events)
  | _, [] => isTrue trivial
  | t, event :: rest =>
    have := decidableAllGiveBack policy (t.next policy event) rest
    inferInstanceAs (Decidable (GivesBack policy t event ∧ _))

/-! ### The circuit -/

/-- The slot is taken in a half open circuit only, and an open circuit knows since when. -/
structure CircuitState.WF (state : CircuitState) : Prop where
  halfOpen : state.probeInFlight = true → state.phase = .halfOpen
  opened : state.phase = .opened → ∃ openedAt, state.openedAt = some openedAt

lemma CircuitState.wf_empty : ({} : CircuitState).WF := ⟨by simp, by simp⟩

lemma circuitAt_wf {kv : Option CircuitEntry} (h : ∀ entry ∈ kv, entry.state.WF) (now : Instant) :
    (circuitAt kv now).WF := by
  cases kv with
  | none => exact CircuitState.wf_empty
  | some entry =>
    simp only [circuitAt]
    split_ifs
    · exact h entry rfl
    · exact CircuitState.wf_empty

/-- What is read of the circuit is what is kept, or a slot that is free. -/
lemma circuitAt_probe {kv : Option CircuitEntry} {now : Instant}
    (h : (circuitAt kv now).probeInFlight = true) :
    ∃ entry ∈ kv, entry.state.probeInFlight = true := by
  cases kv with
  | none => cases h
  | some entry =>
    simp only [circuitAt] at h
    split_ifs at h
    exact ⟨entry, rfl, h⟩

variable {policy : CircuitPolicy}

/-- What `admit` of the source can do: let a fetch through, give out the slot, or turn it away. -/
lemma admitFetch_cases (state : CircuitState) (now : Instant) (policy : CircuitPolicy) :
    (state.phase = .closed ∧ admitFetch state now policy = (state, true)) ∨
    (state.phase ≠ .closed ∧
      admitFetch state now policy = (⟨.halfOpen, state.outcomes, state.openedAt, true⟩, true)) ∨
    (state.phase ≠ .closed ∧ admitFetch state now policy = (state, false)) := by
  unfold admitFetch
  cases hphase : state.phase with
  | closed => exact .inl ⟨rfl, rfl⟩
  | opened =>
    cases state.openedAt with
    | none => exact .inr (.inr ⟨by simp, rfl⟩)
    | some openedAt =>
      by_cases hlong : seconds policy.openSeconds ≤ now - openedAt
      · exact .inr (.inl ⟨by simp, if_pos hlong⟩)
      · exact .inr (.inr ⟨by simp, if_neg hlong⟩)
  | halfOpen =>
    cases state.probeInFlight with
    | true => exact .inr (.inr ⟨by simp, rfl⟩)
    | false => exact .inr (.inl ⟨by simp, rfl⟩)

lemma CircuitState.WF.admitFetch {state : CircuitState} (h : state.WF) (now : Instant) :
    (admitFetch state now policy).1.WF := by
  rcases admitFetch_cases state now policy with ⟨-, heq⟩ | ⟨-, heq⟩ | ⟨-, heq⟩
  · rw [heq]
    exact h
  · rw [heq]
    exact ⟨fun _ => rfl, by simp⟩
  · rw [heq]
    exact h

/-- A fetch is turned away without a trace. -/
lemma admitFetch_denied {state : CircuitState} {now : Instant}
    (h : (admitFetch state now policy).2 = false) : (admitFetch state now policy).1 = state := by
  rcases admitFetch_cases state now policy with ⟨-, heq⟩ | ⟨-, heq⟩ | ⟨-, heq⟩
  · rw [heq]
  · rw [heq] at h
    cases h
  · rw [heq]

/-- A circuit whose slot is free lets a fetch through, if it has been open for long enough. -/
lemma admitFetch_of_free {state : CircuitState} {now : Instant} (h : state.WF)
    (hfree : state.probeInFlight = false)
    (hlong : ∀ openedAt, state.openedAt = some openedAt →
      seconds policy.openSeconds ≤ now - openedAt) :
    (admitFetch state now policy).2 = true := by
  unfold CrossPilot.admitFetch
  cases hphase : state.phase with
  | closed => rfl
  | opened =>
    obtain ⟨openedAt, hopened⟩ := h.opened hphase
    simp only [hopened, if_pos (hlong openedAt hopened)]
  | halfOpen => simp [hfree]

lemma CircuitState.WF.observe {state : CircuitState} (h : state.WF) (failed : Bool)
    (now : Instant) : (observe state failed now policy).WF := by
  unfold CrossPilot.observe
  cases hphase : state.phase with
  | halfOpen =>
    cases failed with
    | true => exact ⟨by simp, fun _ => ⟨now, rfl⟩⟩
    | false => exact CircuitState.wf_empty
  | opened => exact h
  | closed =>
    dsimp only
    split_ifs
    · exact ⟨by simp, fun _ => ⟨now, rfl⟩⟩
    · exact ⟨by simp, by simp⟩

/-- An outcome frees the slot. -/
lemma observe_free {state : CircuitState} (h : state.WF) (failed : Bool) (now : Instant) :
    (observe state failed now policy).probeInFlight = false := by
  unfold CrossPilot.observe
  cases hphase : state.phase with
  | halfOpen => cases failed <;> rfl
  | opened =>
    cases hprobe : state.probeInFlight with
    | false => rfl
    | true =>
      rw [h.halfOpen hprobe] at hphase
      cases hphase
  | closed =>
    dsimp only
    split_ifs <;> rfl

/-! ### The fetches -/

/-- While the slot is taken, a probe that has not ended a call is under way. -/
structure SlotHeld (t : PlatformTraffic) : Prop where
  wf : ∀ entry ∈ t.kv, entry.state.WF
  slot : ∀ entry ∈ t.kv, entry.state.probeInFlight = true →
    ∃ fetch flight, t.inFlight fetch = some flight ∧ flight.probe = true ∧ flight.called = false

lemma slotHeld_empty : SlotHeld {} := ⟨by simp, by simp⟩

/-- What the start of a fetch can do. -/
lemma next_start_cases (policy : CircuitPolicy) (t : PlatformTraffic) (fetch : ℕ) (now : Instant)
    (answer : StoreAnswer) :
    t.next policy (.start fetch now answer) = t ∨
    (t.inFlight fetch = none ∧ (breakerAllow policy now t.kv).2 = true ∧ answer = .done ∧
      t.next policy (.start fetch now answer) =
        ⟨(breakerAllow policy now t.kv).1, Function.update t.inFlight fetch
          (some { probe := takesSlot policy now t.kv })⟩) ∨
    (((breakerAllow policy now t.kv).2 = false ∨ answer = .replyLost) ∧
      t.next policy (.start fetch now answer) =
        ⟨(breakerAllow policy now t.kv).1, t.inFlight⟩) := by
  cases hfetch : t.inFlight fetch with
  | some flight =>
    left
    simp only [PlatformTraffic.next, hfetch]
  | none =>
    cases answer with
    | unreachable =>
      left
      simp only [PlatformTraffic.next, hfetch, if_true]
    | replyLost =>
      right
      right
      simp [PlatformTraffic.next, hfetch]
    | done =>
      right
      cases hallowed : (breakerAllow policy now t.kv).2 with
      | true =>
        left
        simp [PlatformTraffic.next, hfetch, hallowed]
      | false =>
        right
        simp [PlatformTraffic.next, hfetch, hallowed]

/-- If the slot is taken after `allow`, it was taken before or is given out now. -/
lemma breakerAllow_probe {now : Instant} {kv : Option CircuitEntry} {entry : CircuitEntry}
    (hentry : entry ∈ (breakerAllow policy now kv).1)
    (hprobe : entry.state.probeInFlight = true) :
    (∃ old ∈ kv, old.state.probeInFlight = true) ∨
      (takesSlot policy now kv = true ∧ (breakerAllow policy now kv).2 = true) := by
  cases hentry
  have hpre : (admitFetch (circuitAt kv now) now policy).1.probeInFlight = true := hprobe
  rcases admitFetch_cases (circuitAt kv now) now policy with ⟨-, heq⟩ | ⟨hphase, heq⟩ | ⟨-, heq⟩
  · rw [heq] at hpre
    exact .inl (circuitAt_probe hpre)
  · refine .inr ⟨?_, ?_⟩
    · simp [takesSlot, heq, hphase]
    · simp [breakerAllow, heq]
  · rw [heq] at hpre
    exact .inl (circuitAt_probe hpre)

lemma breakerAllow_wf {now : Instant} {kv : Option CircuitEntry}
    (h : ∀ entry ∈ kv, entry.state.WF) :
    ∀ entry ∈ (breakerAllow policy now kv).1, entry.state.WF := by
  intro entry hentry
  cases hentry
  exact (circuitAt_wf h now).admitFetch now

/-- The start of a fetch keeps the slot in good hands. -/
lemma SlotHeld.start {t : PlatformTraffic} (h : SlotHeld t) {fetch : ℕ} {now : Instant}
    {answer : StoreAnswer} (hgives : GivesBack policy t (.start fetch now answer)) :
    SlotHeld (t.next policy (.start fetch now answer)) := by
  rcases next_start_cases policy t fetch now answer with hsame | ⟨hfree, -, -, hnext⟩ |
    ⟨hdenied, hnext⟩
  · rw [hsame]
    exact h
  · rw [hnext]
    refine ⟨breakerAllow_wf h.wf, ?_⟩
    intro entry hentry hprobe
    rcases breakerAllow_probe hentry hprobe with ⟨old, hold, hslot⟩ | ⟨htakes, -⟩
    · obtain ⟨other, flight, hother, hflight⟩ := h.slot old hold hslot
      have hne : other ≠ fetch := by
        rintro rfl
        rw [hfree] at hother
        cases hother
      exact ⟨other, flight, (Function.update_of_ne hne _ _).trans hother, hflight⟩
    · exact ⟨fetch, _, Function.update_self .., htakes, rfl⟩
  · rw [hnext]
    refine ⟨breakerAllow_wf h.wf, ?_⟩
    intro entry hentry hprobe
    rcases breakerAllow_probe hentry hprobe with ⟨old, hold, hslot⟩ | ⟨htakes, hallowed⟩
    · exact h.slot old hold hslot
    · rcases hdenied with hdenied | hlost
      · rw [hallowed] at hdenied
        cases hdenied
      · rw [hgives hlost] at htakes
        cases htakes

/-- What a page call makes of the circuit: nothing, or what an outcome makes of it. -/
lemma PageCall.apply_cases (policy : CircuitPolicy) (now : Instant) (call : PageCall)
    (kv : Option CircuitEntry) :
    (call.recorded = false ∧ call.apply policy now kv = kv) ∨
    ∃ failed, call.apply policy now kv = breakerRecord policy now failed kv := by
  unfold PageCall.apply PageCall.recorded
  cases call.outcome with
  | none => exact .inl ⟨rfl, rfl⟩
  | some pair =>
    obtain ⟨failed, answer⟩ := pair
    by_cases hwritten : answer.Written
    · exact .inr ⟨failed, if_pos hwritten⟩
    · exact .inl ⟨decide_eq_false hwritten, if_neg hwritten⟩

/-- A call that ends keeps the slot in good hands. -/
lemma SlotHeld.call {t : PlatformTraffic} (h : SlotHeld t) {fetch : ℕ} {now : Instant}
    {result : PageCall} (hgives : GivesBack policy t (.call fetch now result)) :
    SlotHeld (t.next policy (.call fetch now result)) := by
  cases hfetch : t.inFlight fetch with
  | none =>
    simp only [PlatformTraffic.next, hfetch]
    exact h
  | some flight =>
    simp only [PlatformTraffic.next, hfetch]
    rcases result.apply_cases policy now t.kv with ⟨hsilent, hkv⟩ | ⟨failed, hkv⟩
    · rw [hkv]
      refine ⟨h.wf, ?_⟩
      intro entry hentry hprobe
      obtain ⟨other, held, hother, hheld⟩ := h.slot entry hentry hprobe
      have hne : other ≠ fetch := by
        rintro rfl
        rw [hgives held hother hheld.1 hheld.2] at hsilent
        cases hsilent
      exact ⟨other, held, (Function.update_of_ne hne _ _).trans hother, hheld⟩
    · rw [hkv]
      have hwf := circuitAt_wf h.wf now
      constructor
      · rintro entry ⟨⟩
        exact hwf.observe failed now
      · rintro entry ⟨⟩ hprobe
        have hfree : (observe (circuitAt t.kv now) failed now policy).probeInFlight = false :=
          observe_free hwf failed now
        rw [hprobe] at hfree
        cases hfree

theorem SlotHeld.next {t : PlatformTraffic} (h : SlotHeld t) {event : FetchEvent}
    (hgives : GivesBack policy t event) : SlotHeld (t.next policy event) := by
  cases event with
  | start fetch now answer => exact h.start hgives
  | call fetch now result => exact h.call hgives

theorem SlotHeld.run {t : PlatformTraffic} (h : SlotHeld t) {events : List FetchEvent}
    (hgives : AllGiveBack policy t events) :
    SlotHeld (events.foldl (PlatformTraffic.next policy) t) := by
  induction events generalizing t with
  | nil => exact h
  | cons event rest ih => exact ih (h.next hgives.1) hgives.2

/-- Attempts that were turned away leave the circuit as it was. -/
lemma afterAttempts_state {kv : Option CircuitEntry} {times : ℕ → Instant}
    (hdenied : ∀ n, (breakerAllow policy (times n) (afterAttempts policy kv times n)).2 = false)
    (n : ℕ) : ∀ entry ∈ afterAttempts policy kv times n, ∃ first ∈ kv, entry.state = first.state := by
  induction n with
  | zero => exact fun entry hentry => ⟨entry, hentry, rfl⟩
  | succ n ih =>
    rintro entry ⟨⟩
    have hstate : (admitFetch (circuitAt (afterAttempts policy kv times n) (times n)) (times n)
      policy).2 = false := hdenied n
    show ∃ first ∈ kv, (admitFetch (circuitAt (afterAttempts policy kv times n) (times n)) (times n)
      policy).1 = first.state
    rw [admitFetch_denied hstate]
    cases hkv : afterAttempts policy kv times n with
    | none =>
      rw [hkv] at hstate
      cases hstate
    | some last =>
      simp only [hkv, circuitAt] at hstate ⊢
      split_ifs at hstate ⊢ with hlives
      · exact ih last hkv
      · cases hstate

/-- A circuit whose slot is free is not closed to everybody forever. -/
lemma exists_admitted {kv : Option CircuitEntry} (hwf : ∀ entry ∈ kv, entry.state.WF)
    (hfree : ∀ entry ∈ kv, entry.state.probeInFlight = false) {times : ℕ → Instant}
    (htimes : ∀ bound, ∃ n, bound ≤ times n) :
    ∃ n, (breakerAllow policy (times n) (afterAttempts policy kv times n)).2 = true := by
  by_contra hnone
  have hdenied : ∀ n,
      (breakerAllow policy (times n) (afterAttempts policy kv times n)).2 = false := by
    intro n
    by_contra hallowed
    exact hnone ⟨n, by simpa using hallowed⟩
  obtain ⟨bound, hbound⟩ : ∃ bound : Instant, ∀ entry ∈ kv, ∀ openedAt,
      entry.state.openedAt = some openedAt → openedAt + seconds policy.openSeconds ≤ bound := by
    cases kv with
    | none => exact ⟨0, by simp⟩
    | some entry =>
      cases hopened : entry.state.openedAt with
      | none =>
        refine ⟨0, ?_⟩
        rintro _ ⟨⟩ openedAt hsome
        rw [hopened] at hsome
        cases hsome
      | some since =>
        refine ⟨since + seconds policy.openSeconds, ?_⟩
        rintro _ ⟨⟩ openedAt hsome
        rw [hopened] at hsome
        cases hsome
        exact le_refl _
  obtain ⟨n, hn⟩ := htimes bound
  have hadmitted : (admitFetch (circuitAt (afterAttempts policy kv times n) (times n)) (times n)
      policy).2 = true := by
    cases hkv : afterAttempts policy kv times n with
    | none => rfl
    | some last =>
      obtain ⟨first, hfirst, hstate⟩ := afterAttempts_state hdenied n last hkv
      simp only [circuitAt]
      split_ifs
      · rw [hstate]
        apply admitFetch_of_free (hwf first hfirst) (hfree first hfirst)
        intro openedAt hopened
        have := hbound first hfirst openedAt hopened
        linarith
      · rfl
  have := hdenied n
  rw [show (breakerAllow policy (times n) (afterAttempts policy kv times n)).2 = true from
    hadmitted] at this
  cases this

/-- If every probe records its first call, the slot is free whenever no fetch is under way, and the
platform is asked again sooner or later. -/
theorem unblocked_traffic (policy : CircuitPolicy) (events : List FetchEvent)
    (h : AllGiveBack policy {} events) : Unblocked policy (traffic policy events) := by
  have hheld : SlotHeld (traffic policy events) := slotHeld_empty.run h
  intro hidle
  have hfree : ∀ entry ∈ (traffic policy events).kv, entry.state.probeInFlight = false := by
    intro entry hentry
    by_contra htaken
    obtain ⟨fetch, flight, hfetch, -⟩ := hheld.slot entry hentry (by simpa using htaken)
    rw [hidle fetch] at hfetch
    cases hfetch
  exact ⟨hfree, fun times htimes => exists_admitted hheld.wf hfree htimes⟩

/-- A slot that is not given back turns every later fetch away, as long as the fetches come before
the key runs out: each of them lets the key live on. -/
theorem turned_away {entry : CircuitEntry} {times : ℕ → Instant}
    (hphase : entry.state.phase = .halfOpen) (htaken : entry.state.probeInFlight = true)
    (hfirst : times 0 < entry.expires)
    (hoften : ∀ n, times (n + 1) < times n + seconds policy.stateTtlSeconds) (n : ℕ) :
    (breakerAllow policy (times n) (afterAttempts policy (some entry) times n)).2 = false := by
  have hdenied : ∀ now, admitFetch entry.state now policy = (entry.state, false) := by
    intro now
    simp [admitFetch, hphase, htaken]
  have hkept : ∃ last, afterAttempts policy (some entry) times n = some last ∧
      last.state = entry.state ∧ times n < last.expires := by
    induction n with
    | zero => exact ⟨entry, rfl, rfl, hfirst⟩
    | succ n ih =>
      obtain ⟨last, hlast, hstate, hlives⟩ := ih
      refine ⟨⟨entry.state, times n + seconds policy.stateTtlSeconds⟩, ?_, rfl, hoften n⟩
      simp [afterAttempts, hlast, breakerAllow, circuitAt, hlives, hstate, hdenied, keepCircuit]
  obtain ⟨last, hlast, hstate, hlives⟩ := hkept
  simp [breakerAllow, hlast, circuitAt, hlives, hstate, hdenied]

/-- The fetch that an event is about. -/
def FetchEvent.fetch : FetchEvent → ℕ
  | .start fetch _ _ => fetch
  | .call fetch _ _ => fetch

/-- An event of one fetch leaves the others alone. -/
lemma next_inFlight_of_ne (t : PlatformTraffic) {event : FetchEvent} {fetch : ℕ}
    (hne : event.fetch ≠ fetch) : (t.next policy event).inFlight fetch = t.inFlight fetch := by
  cases event with
  | start other now answer =>
    rcases next_start_cases policy t other now answer with hsame | ⟨-, -, -, hnext⟩ | ⟨-, hnext⟩
    · rw [hsame]
    · rw [hnext]
      exact Function.update_of_ne (Ne.symm hne) _ _
    · rw [hnext]
  | call other now result =>
    cases hother : t.inFlight other with
    | none => simp only [PlatformTraffic.next, hother]
    | some flight =>
      simp only [PlatformTraffic.next, hother]
      exact Function.update_of_ne (Ne.symm hne) _ _

lemma run_inFlight_of_ne (t : PlatformTraffic) {events : List FetchEvent} {fetch : ℕ}
    (hne : ∀ event ∈ events, event.fetch ≠ fetch) :
    (events.foldl (PlatformTraffic.next policy) t).inFlight fetch = t.inFlight fetch := by
  induction events generalizing t with
  | nil => rfl
  | cons event rest ih =>
    rw [List.foldl_cons, ih _ fun other hother => hne other (List.mem_cons_of_mem _ hother)]
    exact next_inFlight_of_ne t (hne event List.mem_cons_self)

/-- Four fetches in a row that meet an outage. -/
def outage : List FetchEvent :=
  (List.range 4).flatMap fun i =>
    [.start i (seconds i) .done, .call i (seconds i) (.adapterError (some 503) .retry .done)]

/-- After an outage the probe gets a page, and the circuit is closed again. -/
def recovery : List FetchEvent :=
  outage ++ [.start 4 (seconds 400) .done, .call 4 (seconds 400) (.page true .done false)]

/-- After an outage the rate limiter has no token left for the probe. -/
def throttledProbe : List FetchEvent :=
  outage ++ [.start 4 (seconds 400) .done, .call 4 (seconds 400) .limiterDenied]

theorem unblocked_recovery : AllGiveBack {} {} recovery ∧ Unblocked {} (traffic {} recovery) := by
  have hgives : AllGiveBack {} {} recovery := by decide +kernel
  exact ⟨hgives, unblocked_traffic {} recovery hgives⟩

theorem not_unblocked_throttledProbe :
    ¬∀ (policy : CircuitPolicy) (events : List FetchEvent),
      Unblocked policy (traffic policy events) := by
  intro h
  have hidle : ∀ fetch, (traffic {} throttledProbe).inFlight fetch = none := by
    intro fetch
    by_cases hnamed : fetch < 5
    · have hall : ∀ i < 5, (traffic {} throttledProbe).inFlight i = none := by decide +kernel
      exact hall fetch hnamed
    · have hnone : ∀ event ∈ throttledProbe, event.fetch < 5 := by decide
      apply run_inFlight_of_ne
      intro event hevent
      have := hnone event hevent
      omega
  have htaken : (traffic {} throttledProbe).kv.map (·.state.probeInFlight) = some true := by
    decide +kernel
  obtain ⟨entry, hentry, hprobe⟩ := Option.map_eq_some_iff.1 htaken
  have hfree := (h {} throttledProbe hidle).1 entry hentry
  rw [hprobe] at hfree
  cases hfree

end CrossPilot
