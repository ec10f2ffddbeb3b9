import CrossPilot.Sync.Breaker

/-!
# The probe of a half open circuit

The circuit does not know which fetch an outcome is from. A fetch that was let through before the
circuit opened may still be under way when the probe starts; its outcome then closes the circuit, or
opens it again, in place of the probe's. The same happens without any outcome when the key of the
circuit runs out. If the slot is only given out while no other fetch is under way, and the key is
found while it matters, the circuit leaves the half open phase on the outcome of the probe alone
(`probe_decides`).
-/

namespace CrossPilot

/-- The phase in which the circuit was left. -/
def keptPhase (kv : Option CircuitEntry) : CircuitPhase :=
  match kv with
  | none => .closed
  | some entry => entry.state.phase

/-- The circuit was opened, and the open time has not passed. -/
def StaysOpen (policy : CircuitPolicy) (now : Instant) (kv : Option CircuitEntry) : Prop :=
  ∃ entry ∈ kv, entry.state.phase = .opened ∧
    ∃ openedAt, entry.state.openedAt = some openedAt ∧ now - openedAt < seconds policy.openSeconds

/-- In the half open phase at most one fetch is under way. -/
def AtMostOne (t : PlatformTraffic) : Prop :=
  keptPhase t.kv = .halfOpen →
    ∀ fetch other, t.inFlight fetch ≠ none → t.inFlight other ≠ none → fetch = other

/-- No fetch starts during the open time, and the half open phase ends with the first outcome of a
fetch that has taken the slot. -/
structure ProbeLaw (policy : CircuitPolicy) (t : PlatformTraffic) (event : FetchEvent) : Prop where
  denied : ∀ fetch now answer, event = .start fetch now answer → StaysOpen policy now t.kv →
    (t.next policy event).inFlight = t.inFlight
  probe : keptPhase t.kv = .halfOpen → keptPhase (t.next policy event).kv ≠ .halfOpen →
    ∃ fetch now result flight, event = .call fetch now result ∧
      t.inFlight fetch = some flight ∧ flight.probe = true ∧ flight.called = false

/-- The key of the circuit has not run out, unless the circuit is closed or was open for long
enough. -/
def Lives (policy : CircuitPolicy) (now : Instant) (kv : Option CircuitEntry) : Prop :=
  ∀ entry ∈ kv, entry.expires ≤ now → entry.state.phase = .closed ∨
    entry.state.phase = .opened ∧
      ∃ openedAt ∈ entry.state.openedAt, seconds policy.openSeconds ≤ now - openedAt

instance (policy : CircuitPolicy) (now : Instant) (kv : Option CircuitEntry) :
    Decidable (Lives policy now kv) :=
  match kv with
  | none => .isTrue nofun
  | some entry =>
    decidable_of_iff (entry.expires ≤ now → entry.state.phase = .closed ∨
      entry.state.phase = .opened ∧ entry.state.openedAt.any
        (fun openedAt => seconds policy.openSeconds ≤ now - openedAt) = true) <| by
      simp [Lives, Option.any_eq_true]

/-- The key is found while it matters, and the slot is given out while no fetch is under way. -/
def InOrder (policy : CircuitPolicy) (t : PlatformTraffic) : FetchEvent → Prop
  | .start _ now _ => Lives policy now t.kv ∧
      (takesSlot policy now t.kv = true → ∀ fetch, t.inFlight fetch = none)
  | .call _ now _ => Lives policy now t.kv

/-- Every event of a run is in order. -/
def AllInOrder (policy : CircuitPolicy) (t : PlatformTraffic) : List FetchEvent → Prop
  | [] => True
  | event :: rest => InOrder policy t event ∧ AllInOrder policy (t.next policy event) rest

/-- In the half open phase only the probe is under way, and it has not ended a call. -/
def ProbeAlone (t : PlatformTraffic) : Prop :=
  keptPhase t.kv = .halfOpen → ∃ fetch, ∀ other flight, t.inFlight other = some flight →
    other = fetch ∧ flight.probe = true ∧ flight.called = false

variable {policy : CircuitPolicy} {t : PlatformTraffic} {now : Instant}

/-- What is read of a circuit that is not half open is not half open either. -/
lemma circuitAt_phase_of_ne {kv : Option CircuitEntry} (h : keptPhase kv ≠ .halfOpen) :
    (circuitAt kv now).phase ≠ .halfOpen := by
  cases kv with
  | none => exact fun hphase => by cases hphase
  | some entry =>
    simp only [circuitAt]
    split_ifs
    · exact h
    · simp

/-- A half open circuit is read as such while its key lives. -/
lemma circuitAt_phase_of_halfOpen {kv : Option CircuitEntry} (hlives : Lives policy now kv)
    (h : keptPhase kv = .halfOpen) : (circuitAt kv now).phase = .halfOpen := by
  cases kv with
  | none => cases h
  | some entry =>
    have hphase : entry.state.phase = .halfOpen := h
    have halive : now < entry.expires := by
      by_contra hexpired
      rcases hlives entry rfl (not_lt.1 hexpired) with hclosed | ⟨hopened, -⟩
      · rw [hphase] at hclosed
        cases hclosed
      · rw [hphase] at hopened
        cases hopened
    simp only [circuitAt, if_pos halive]
    exact hphase

/-- An outcome does not leave the circuit half open. -/
lemma keptPhase_breakerRecord (failed : Bool) (kv : Option CircuitEntry) :
    keptPhase (breakerRecord policy now failed kv) ≠ .halfOpen := by
  simp only [breakerRecord, keepCircuit, keptPhase, observe]
  cases hphase : (circuitAt kv now).phase with
  | halfOpen => cases failed <;> simp
  | opened =>
    dsimp only
    rw [hphase]
    simp
  | closed =>
    dsimp only
    split_ifs <;> simp

lemma keptPhase_breakerAllow (kv : Option CircuitEntry) :
    keptPhase (breakerAllow policy now kv).1 = (admitFetch (circuitAt kv now) now policy).1.phase :=
  rfl

/-- Who asks a half open circuit leaves it half open. -/
lemma admitFetch_of_halfOpen {state : CircuitState} (h : state.phase = .halfOpen) :
    (admitFetch state now policy).1.phase = .halfOpen := by
  rcases admitFetch_cases state now policy with ⟨hclosed, -⟩ | ⟨-, heq⟩ | ⟨-, heq⟩
  · rw [h] at hclosed
    cases hclosed
  · rw [heq]
  · rw [heq]
    exact h

/-- A fetch that starts becomes the only one, or comes to a circuit that is not half open. -/
lemma ProbeAlone.start (h : ProbeAlone t) {fetch : ℕ} {answer : StoreAnswer}
    (horder : InOrder policy t (.start fetch now answer)) :
    ProbeAlone (t.next policy (.start fetch now answer)) := by
  obtain ⟨-, hvacant⟩ := horder
  have hkept : (breakerAllow policy now t.kv).2 = false → keptPhase (breakerAllow policy now t.kv).1
      = .halfOpen → keptPhase t.kv = .halfOpen := by
    intro hdenied hphase
    by_contra hne
    rw [keptPhase_breakerAllow, admitFetch_denied hdenied] at hphase
    exact circuitAt_phase_of_ne hne hphase
  have hslot : (breakerAllow policy now t.kv).2 = true → keptPhase (breakerAllow policy now t.kv).1
      = .halfOpen → takesSlot policy now t.kv = true := by
    intro hallowed hphase
    rcases admitFetch_cases (circuitAt t.kv now) now policy with ⟨hclosed, heq⟩ | ⟨hne, heq⟩ |
      ⟨-, heq⟩
    · rw [keptPhase_breakerAllow, heq, hclosed] at hphase
      cases hphase
    · simp [takesSlot, heq, hne]
    · simp [breakerAllow, heq] at hallowed
  rcases next_start_cases policy t fetch now answer with hsame | ⟨-, hallowed, -, hnext⟩ |
    ⟨-, hnext⟩
  · rw [hsame]
    exact h
  · rw [hnext]
    intro hphase
    have htakes := hslot hallowed hphase
    refine ⟨fetch, fun other flight hother => ?_⟩
    dsimp only at hother
    by_cases hne : other = fetch
    · subst hne
      rw [Function.update_self] at hother
      cases hother
      exact ⟨rfl, htakes, rfl⟩
    · rw [Function.update_of_ne hne, hvacant htakes other] at hother
      cases hother
  · rw [hnext]
    intro hphase
    cases hallowed : (breakerAllow policy now t.kv).2 with
    | false => exact h (hkept hallowed hphase)
    | true =>
      refine ⟨fetch, fun other flight hother => ?_⟩
      rw [hvacant (hslot hallowed hphase) other] at hother
      cases hother

/-- A call that records nothing is the last of its fetch. -/
lemma PageCall.goesOn_of_not_recorded {result : PageCall} (h : result.recorded = false) :
    result.goesOn = false := by
  cases result with
  | page counted recorded more =>
    cases counted with
    | false => rfl
    | true =>
      cases recorded with
      | done => simp [PageCall.recorded, PageCall.outcome, StoreAnswer.Written] at h
      | replyLost => rfl
      | unreachable => rfl
  | _ => rfl

lemma ProbeAlone.call (h : ProbeAlone t) {fetch : ℕ} {result : PageCall} :
    ProbeAlone (t.next policy (.call fetch now result)) := by
  cases hfetch : t.inFlight fetch with
  | none =>
    simp only [PlatformTraffic.next, hfetch]
    exact h
  | some flight =>
    simp only [PlatformTraffic.next, hfetch]
    rcases result.apply_cases policy now t.kv with ⟨hsilent, hkv⟩ | ⟨failed, hkv⟩
    · rw [hkv, PageCall.goesOn_of_not_recorded hsilent]
      intro hphase
      obtain ⟨probe, honly⟩ := h hphase
      refine ⟨probe, fun other held hother => ?_⟩
      dsimp only at hother
      by_cases hne : other = fetch
      · subst hne
        simp at hother
      · rw [Function.update_of_ne hne] at hother
        exact honly other held hother
    · rw [hkv]
      intro hphase
      exact absurd hphase (keptPhase_breakerRecord failed t.kv)

theorem ProbeAlone.next (h : ProbeAlone t) {event : FetchEvent}
    (horder : InOrder policy t event) : ProbeAlone (t.next policy event) := by
  cases event with
  | start fetch now answer => exact h.start horder
  | call fetch now result => exact h.call

lemma ProbeAlone.atMostOne (h : ProbeAlone t) : AtMostOne t := by
  intro hphase fetch other hfetch hother
  obtain ⟨probe, honly⟩ := h hphase
  obtain ⟨flight, hflight⟩ := Option.ne_none_iff_exists'.1 hfetch
  obtain ⟨held, hheld⟩ := Option.ne_none_iff_exists'.1 hother
  exact (honly fetch flight hflight).1.trans (honly other held hheld).1.symm

/-- During the open time no fetch is let through. -/
lemma breakerAllow_of_staysOpen {kv : Option CircuitEntry} (hlives : Lives policy now kv)
    (h : StaysOpen policy now kv) : (breakerAllow policy now kv).2 = false := by
  obtain ⟨entry, rfl, hphase, openedAt, hopened, hshort⟩ := h
  have halive : now < entry.expires := by
    by_contra hexpired
    rcases hlives entry rfl (not_lt.1 hexpired) with hclosed | ⟨-, since, hsince, hlong⟩
    · rw [hphase] at hclosed
      cases hclosed
    · rw [hopened] at hsince
      obtain rfl : openedAt = since := Option.some.inj hsince
      exact not_lt.2 hlong hshort
  simp [breakerAllow, circuitAt, halive, admitFetch, hphase, hopened, not_le.2 hshort]

/-- One event obeys the law. -/
lemma ProbeAlone.law (h : ProbeAlone t) {event : FetchEvent} (horder : InOrder policy t event) :
    ProbeLaw policy t event := by
  constructor
  · rintro fetch now answer rfl hopen
    have hdenied := breakerAllow_of_staysOpen horder.1 hopen
    rcases next_start_cases policy t fetch now answer with hsame | ⟨-, hallowed, -⟩ | ⟨-, hnext⟩
    · rw [hsame]
    · rw [hdenied] at hallowed
      cases hallowed
    · rw [hnext]
  · intro hphase hleft
    cases event with
    | start fetch now answer =>
      have hstays : keptPhase (breakerAllow policy now t.kv).1 = .halfOpen :=
        admitFetch_of_halfOpen (circuitAt_phase_of_halfOpen horder.1 hphase)
      rcases next_start_cases policy t fetch now answer with hsame | ⟨-, -, -, hnext⟩ | ⟨-, hnext⟩
      · rw [hsame] at hleft
        exact absurd hphase hleft
      · rw [hnext] at hleft
        exact absurd hstays hleft
      · rw [hnext] at hleft
        exact absurd hstays hleft
    | call fetch now result =>
      cases hfetch : t.inFlight fetch with
      | none =>
        simp only [PlatformTraffic.next, hfetch] at hleft
        exact absurd hphase hleft
      | some flight =>
        obtain ⟨probe, honly⟩ := h hphase
        exact ⟨fetch, now, result, flight, rfl, hfetch, (honly fetch flight hfetch).2⟩

theorem ProbeAlone.run (h : ProbeAlone t) {events : List FetchEvent}
    (horder : AllInOrder policy t events) :
    (∀ before after, events = before ++ after →
      ProbeAlone (before.foldl (PlatformTraffic.next policy) t)) ∧
    ∀ before event after, events = before ++ event :: after →
      ProbeLaw policy (before.foldl (PlatformTraffic.next policy) t) event := by
  induction events generalizing t with
  | nil =>
    constructor
    · intro before after heq
      obtain ⟨rfl, -⟩ := List.append_eq_nil_iff.1 heq.symm
      exact h
    · intro before event after heq
      simp at heq
  | cons first rest ih =>
    obtain ⟨hafter, hlaw⟩ := ih (h.next horder.1) horder.2
    constructor
    · intro before after heq
      cases before with
      | nil => exact h
      | cons event before =>
        obtain ⟨rfl, hrest⟩ := List.cons.inj heq
        exact hafter before after hrest
    · intro before event after heq
      cases before with
      | nil =>
        obtain ⟨rfl, -⟩ := List.cons.inj heq
        exact h.law horder.1
      | cons other before =>
        obtain ⟨rfl, hrest⟩ := List.cons.inj heq
        exact hlaw before event after hrest

/-- **Who decides about a half open circuit.** In a run whose events are all in order, no fetch starts
during the open time, at most one is under way in the half open phase, and that phase ends only with
the first outcome of the probe. -/
theorem probe_decides (policy : CircuitPolicy) (events : List FetchEvent)
    (h : AllInOrder policy {} events) :
    (∀ before after, events = before ++ after → AtMostOne (traffic policy before)) ∧
    ∀ before event after, events = before ++ event :: after →
      ProbeLaw policy (traffic policy before) event := by
  have hstart : ProbeAlone ({} : PlatformTraffic) := fun h => by cases h
  obtain ⟨halone, hlaw⟩ := hstart.run h
  exact ⟨fun before after heq => (halone before after heq).atMostOne, hlaw⟩

/-! ### A probe alone, and one in company -/

/-- One failure is enough to open the circuit. -/
def strict : CircuitPolicy where
  minSamples := 1
  window := 1
  samples_pos := Nat.zero_lt_one
  samples_le := Nat.zero_lt_one

/-- A fetch meets an outage, and the probe gets a page. -/
def loneProbe : List FetchEvent :=
  [.start 0 0 .done, .call 0 0 (.adapterError (some 503) .retry .done),
    .start 1 (seconds 400) .done, .call 1 (seconds 400) (.page true .done false)]

/-- Another fetch has started before the outage and gets its page while the probe is under way. -/
def lateOutcome : List FetchEvent :=
  [.start 2 0 .done, .start 0 0 .done, .call 0 0 (.adapterError (some 503) .retry .done),
    .start 1 (seconds 400) .done, .call 2 (seconds 401) (.page true .done false)]

theorem probe_decides_loneProbe :
    (∀ before after, loneProbe = before ++ after → AtMostOne (traffic strict before)) ∧
    ∀ before event after, loneProbe = before ++ event :: after →
      ProbeLaw strict (traffic strict before) event := by
  apply probe_decides strict loneProbe
  refine ⟨⟨by decide, fun _ _ => rfl⟩, ?_, ⟨by decide +kernel, fun _ fetch => ?_⟩, ?_, trivial⟩
  · show Lives strict 0 _
    decide +kernel
  · show (traffic strict (loneProbe.take 2)).inFlight fetch = none
    by_cases hfetch : fetch = 0
    · subst hfetch
      decide +kernel
    · apply run_inFlight_of_ne
      simp [loneProbe, FetchEvent.fetch, Ne.symm hfetch]
  · show Lives strict (seconds 400) _
    decide +kernel

/-- The outcome of the older fetch closes the circuit, while the probe is under way. -/
theorem not_probe_decides_lateOutcome :
    ¬ AtMostOne (traffic strict (lateOutcome.take 4)) ∧
    ¬ ProbeLaw strict (traffic strict (lateOutcome.take 4))
      (.call 2 (seconds 401) (.page true .done false)) := by
  constructor
  · intro h
    exact absurd (h (by decide +kernel) 1 2 (by decide +kernel) (by decide +kernel)) (by decide)
  · intro h
    obtain ⟨fetch, now, result, flight, heq, hflight, hprobe, -⟩ :=
      h.probe (by decide +kernel) (by decide +kernel)
    cases heq
    have holder : (traffic strict (lateOutcome.take 4)).inFlight 2 = some { probe := false } := by
      decide +kernel
    rw [holder] at hflight
    cases hflight
    cases hprobe

end CrossPilot
