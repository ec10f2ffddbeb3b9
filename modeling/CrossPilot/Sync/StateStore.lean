import CrossPilot.Lib.Interleaving
import CrossPilot.Sync.Cursor

/-!
# States kept as JSON

The token buckets and the circuits of all workers live in a key value store. `update` reads the
text of a key, computes the new state in its own process and writes it back on the condition that
the text is still the one it read; otherwise it starts over, eight times at most.

Reading and writing are the atomic steps, and the steps of other callers come in between. The cell
of a key carries, beside its text, the history of the writes that were stored; no program reads it.
-/

namespace CrossPilot

open Interleaving

/-- `StoreUnavailable`: too many conflicts, or no connection to the store. -/
inductive StoreUnavailable
  | conflicts | unreachable
  deriving DecidableEq

/-- What comes of a request: the answer; a transaction that another client broke off; nothing, the
store being out of reach; an effect whose answer is lost. -/
inductive KvReply
  | done | overtaken | unreached | unheard
  deriving DecidableEq

namespace KvReply

def heard : KvReply → Bool
  | done => true
  | overtaken => true
  | unreached => false
  | unheard => false

def stores : KvReply → Bool
  | done => true
  | overtaken => false
  | unreached => false
  | unheard => true

end KvReply

/-- What a step meets outside: the clock, and what comes of its request. -/
structure KvTurn where
  now : Instant
  reply : KvReply

/-- A write that was stored: who wrote, what its clock had read, and what it decided with it. -/
structure Commit (ι D : Type) where
  caller : ι
  now : Instant
  decision : D

/-- One key of the store with its history. -/
structure Cell (ι D : Type) where
  value : Option String
  log : List (Commit ι D) := []

variable {ι D σ : Type}

/-- `compare_set`: whether the text was the expected one, and the cell afterwards. -/
def Cell.compareSet (c : Cell ι D) (expected : Option String) (value : String)
    (commit : Commit ι D) (reply : KvReply) : Bool × Cell ι D :=
  if c.value = expected ∧ reply.stores then (true, ⟨some value, c.log ++ [commit]⟩) else (false, c)

/-- `get`, with the reading of the clock that the mutation uses. -/
def kvGet : Steps (Cell ι D) KvTurn StoreUnavailable (Option String × Instant) :=
  .act (fun _ c => c) fun turn c =>
    if turn.reply.heard then .ret (c.value, turn.now) else .fail .unreachable

def kvCompareSet (expected : Option String) (value : String) (commit : Commit ι D) :
    Steps (Cell ι D) KvTurn StoreUnavailable Bool :=
  .act (fun turn c => (c.compareSet expected value commit turn.reply).2) fun turn c =>
    if turn.reply.heard then .ret (c.compareSet expected value commit turn.reply).1
    else .fail .unreachable

def maxAttempts : ℕ := 8

/-- The codec of a store. A text that does not decode counts as no state. -/
structure JsonStateStore (σ : Type) where
  encode : σ → String
  decode : String → Option σ

namespace JsonStateStore

/-- The state that a text stands for. -/
def stateOf (s : JsonStateStore σ) (raw : Option String) : Option σ := raw.bind s.decode

/-- The attempts of `update`. A mutation is a function of the clock and the state; what it decides
is put down for the caller at every attempt. -/
def attempts (s : JsonStateStore σ) (caller : ι) (mutator : Instant → Option σ → σ × D) :
    ℕ → List D → Steps (Cell ι D) KvTurn StoreUnavailable (σ × List D)
  | 0, _ => .fail .conflicts
  | n + 1, holder => do
    let (raw, now) ← kvGet
    let (newState, decision) := mutator now (s.stateOf raw)
    let stored ← kvCompareSet raw (s.encode newState) ⟨caller, now, decision⟩
    if stored then pure (newState, holder ++ [decision])
    else s.attempts caller mutator n (holder ++ [decision])

/-- `update`: the new state, and the decisions of the attempts in order. -/
def update (s : JsonStateStore σ) (caller : ι) (mutator : Instant → Option σ → σ × D) :
    Steps (Cell ι D) KvTurn StoreUnavailable (σ × List D) :=
  s.attempts caller mutator maxAttempts []

/-- Callers that each update one key. -/
def callers (s : JsonStateStore σ) (mutator : ι → Instant → Option σ → σ × D)
    (start : Option String) : Config ι (Cell ι D) KvTurn StoreUnavailable (σ × List D) where
  shared := { value := start }
  party i := s.update i (mutator i)

/-! ### Writes one after another -/

/-- The text after some writes, each applied to what the writes before it left. -/
def replay (s : JsonStateStore σ) (mutator : ι → Instant → Option σ → σ × D)
    (start : Option String) (log : List (Commit ι D)) : Option String :=
  log.foldl (fun raw e => some (s.encode (mutator e.caller e.now (s.stateOf raw)).1)) start

@[simp] lemma replay_nil (s : JsonStateStore σ) (mutator : ι → Instant → Option σ → σ × D)
    (start : Option String) : s.replay mutator start [] = start := rfl

lemma replay_concat (s : JsonStateStore σ) (mutator : ι → Instant → Option σ → σ × D)
    (start : Option String) (log : List (Commit ι D)) (e : Commit ι D) :
    s.replay mutator start (log ++ [e]) =
      some (s.encode (mutator e.caller e.now (s.stateOf (s.replay mutator start log))).1) := by
  simp [replay]

/-- With a codec that reads back what it writes, the states too are the mutations applied one after
another. -/
theorem stateOf_replay (s : JsonStateStore σ) (hcodec : ∀ x, s.decode (s.encode x) = some x)
    (mutator : ι → Instant → Option σ → σ × D) (start : Option String) (log : List (Commit ι D)) :
    s.stateOf (s.replay mutator start log) =
      log.foldl (fun state e => some (mutator e.caller e.now state).1) (s.stateOf start) := by
  induction log using List.reverseRecOn with
  | nil => rfl
  | append_singleton log e ih =>
    rw [replay_concat, List.foldl_append, ← ih]
    simp [stateOf, hcodec]

/-! ### Where a caller stands -/

/-- What is left of an update: before a read with `n` attempts to go, between the read and the
write, or its end. -/
inductive Stage (σ D : Type)
  | reading (n : ℕ) (holder : List D)
  | writing (n : ℕ) (holder : List D) (raw : Option String) (now : Instant)
  | returned (state : σ) (holder : List D)
  | failed (e : StoreUnavailable)

variable (s : JsonStateStore σ) (mutator : ι → Instant → Option σ → σ × D)

/-- The rest of the program of caller `i`. -/
def rest (i : ι) : Stage σ D → Steps (Cell ι D) KvTurn StoreUnavailable (σ × List D)
  | .reading n holder => s.attempts i (mutator i) n holder
  | .writing n holder raw now =>
    let (newState, decision) := mutator i now (s.stateOf raw)
    (kvCompareSet raw (s.encode newState) ⟨i, now, decision⟩).bind fun stored =>
      if stored then .ret (newState, holder ++ [decision])
      else s.attempts i (mutator i) n (holder ++ [decision])
  | .returned state holder => .ret (state, holder)
  | .failed e => .fail e

/-- Caller `i` has not written. -/
def Unwritten (i : ι) (log : List (Commit ι D)) : Prop := ∀ e ∈ log, e.caller ≠ i

/-- Caller `i` has one write in the log, which gave it `state` and the last decision of `holder`. -/
def Written (start : Option String) (i : ι) (log : List (Commit ι D)) (state : σ)
    (holder : List D) : Prop :=
  ∃ before e after, log = before ++ e :: after ∧ e.caller = i ∧
    mutator i e.now (s.stateOf (s.replay mutator start before)) = (state, e.decision) ∧
    holder.getLast? = some e.decision

/-- What the log says about a caller. A caller that lost the connection may have written or not. -/
def Logged (start : Option String) (i : ι) (log : List (Commit ι D)) : Stage σ D → Prop
  | .reading _ _ => Unwritten i log
  | .writing _ _ _ _ => Unwritten i log
  | .returned state holder => s.Written mutator start i log state holder
  | .failed .conflicts => Unwritten i log
  | .failed .unreachable => True

variable {s mutator}

lemma Unwritten.concat {i : ι} {log : List (Commit ι D)} (h : Unwritten i log) {e : Commit ι D}
    (he : e.caller ≠ i) : Unwritten i (log ++ [e]) := by
  intro x hx
  obtain hx | hx := List.mem_append.mp hx
  · exact h x hx
  · rw [List.mem_singleton.mp hx]
    exact he

/-- The write of another caller does not change what the log says about `i`. -/
lemma Logged.concat {start : Option String} {i : ι} {log : List (Commit ι D)} {st : Stage σ D}
    (h : s.Logged mutator start i log st) {e : Commit ι D} (he : e.caller ≠ i) :
    s.Logged mutator start i (log ++ [e]) st := by
  match st with
  | .reading _ _ => exact Unwritten.concat h he
  | .writing _ _ _ _ => exact Unwritten.concat h he
  | .returned _ _ =>
    obtain ⟨before, x, after, rfl, hx⟩ := h
    exact ⟨before, x, after ++ [e], by simp, hx⟩
  | .failed .conflicts => exact Unwritten.concat h he
  | .failed .unreachable => trivial

/-- One step of a caller: it leaves the cell as it is and moves on to a stage that says the same
about the log, or it stores a write over the very text it had read. -/
theorem rest_step (start : Option String) (i : ι) (st : Stage σ D) (turn : KvTurn)
    (c : Cell ι D) (h : s.Logged mutator start i c.log st) :
    (((s.rest mutator i st).effect turn c = c) ∧
      ∃ st', (s.rest mutator i st).after turn c = s.rest mutator i st' ∧
        s.Logged mutator start i c.log st') ∨
    (∃ n holder now state decision, st = .writing n holder c.value now ∧
      mutator i now (s.stateOf c.value) = (state, decision) ∧
      (s.rest mutator i st).effect turn c =
        ⟨some (s.encode state), c.log ++ [⟨i, now, decision⟩]⟩ ∧
      ((s.rest mutator i st).after turn c =
          s.rest mutator i (.returned state (holder ++ [decision])) ∨
        (s.rest mutator i st).after turn c = s.rest mutator i (.failed .unreachable))) := by
  match st with
  | .returned state holder => exact Or.inl ⟨rfl, .returned state holder, rfl, h⟩
  | .failed e => exact Or.inl ⟨rfl, .failed e, rfl, h⟩
  | .reading 0 holder => exact Or.inl ⟨rfl, .failed .conflicts, rfl, h⟩
  | .reading (n + 1) holder =>
    refine Or.inl ⟨rfl, ?_⟩
    by_cases hheard : turn.reply.heard
    · refine ⟨.writing n holder c.value turn.now, ?_, h⟩
      simp [rest, attempts, kvGet, hheard]
    · refine ⟨.failed .unreachable, ?_, trivial⟩
      simp [rest, attempts, kvGet, hheard]
  | .writing n holder raw now =>
    by_cases hstored : c.value = raw ∧ turn.reply.stores
    · -- the text is still the one that was read
      obtain ⟨rfl, hstores⟩ := hstored
      refine Or.inr ⟨n, holder, now, _, _, rfl, rfl, ?_, ?_⟩
      · simp [rest, kvCompareSet, Cell.compareSet, hstores]
      · by_cases hheard : turn.reply.heard
        · left
          simp [rest, kvCompareSet, Cell.compareSet, hstores, hheard]
        · right
          simp [rest, kvCompareSet, hheard]
    · refine Or.inl ⟨by simp [rest, kvCompareSet, Cell.compareSet, hstored], ?_⟩
      by_cases hheard : turn.reply.heard
      · refine ⟨.reading n (holder ++ [(mutator i now (s.stateOf raw)).2]), ?_, h⟩
        simp [rest, kvCompareSet, Cell.compareSet, hstored, hheard]
      · refine ⟨.failed .unreachable, ?_, trivial⟩
        simp [rest, kvCompareSet, hheard]

/-! ### All schedules -/

variable (s mutator) in
/-- The text is the replay of the log, nobody wrote twice, and every caller stands where the log
says. -/
structure Linear (start : Option String)
    (c : Config ι (Cell ι D) KvTurn StoreUnavailable (σ × List D)) : Prop where
  value : c.shared.value = s.replay mutator start c.shared.log
  once : (c.shared.log.map Commit.caller).Nodup
  logged : ∀ i, ∃ st, c.party i = s.rest mutator i st ∧
    s.Logged mutator start i c.shared.log st

lemma Linear.initial (start : Option String) : s.Linear mutator start (s.callers mutator start) where
  value := rfl
  once := List.nodup_nil
  logged i := ⟨.reading maxAttempts [], rfl, by simp [Logged, Unwritten, callers]⟩

variable [DecidableEq ι]

theorem Linear.move {start : Option String}
    {c : Config ι (Cell ι D) KvTurn StoreUnavailable (σ × List D)}
    (h : s.Linear mutator start c) (m : ι × KvTurn) : s.Linear mutator start (c.move m) := by
  obtain ⟨i, turn⟩ := m
  obtain ⟨st, hst, hlog⟩ := h.logged i
  obtain ⟨heffect, st', hafter, hlog'⟩ |
      ⟨n, holder, now, state, decision, rfl, hmut, heffect, hafter⟩ :=
    rest_step start i st turn c.shared hlog
  · -- the cell stays as it is
    have hshared : (c.move (i, turn)).shared = c.shared := by
      rw [Config.shared_move, hst]
      exact heffect
    constructor
    · rw [hshared]
      exact h.value
    · rw [hshared]
      exact h.once
    · intro j
      rw [hshared]
      by_cases hj : j = i
      · subst hj
        exact ⟨st', by rw [Config.party_move_self, hst, hafter], hlog'⟩
      · rw [Config.party_move_of_ne c hj]
        exact h.logged j
  · -- the write of `i` is stored
    have hshared : (c.move (i, turn)).shared =
        ⟨some (s.encode state), c.shared.log ++ [⟨i, now, decision⟩]⟩ := by
      rw [Config.shared_move, hst]
      exact heffect
    have hstate : mutator i now (s.stateOf (s.replay mutator start c.shared.log)) =
        (state, decision) := by
      rw [← h.value]
      exact hmut
    have hunwritten : Unwritten i c.shared.log := hlog
    constructor
    · rw [hshared, replay_concat, hstate]
    · rw [hshared, List.map_append, List.nodup_append]
      refine ⟨h.once, by simp, ?_⟩
      intro a ha b hb hab
      obtain ⟨e, he, rfl⟩ := List.mem_map.mp ha
      obtain rfl : b = i := by simpa using hb
      exact hunwritten e he hab
    · intro j
      rw [hshared]
      by_cases hj : j = i
      · subst hj
        obtain hafter | hafter := hafter
        · refine ⟨.returned state (holder ++ [decision]), ?_, ?_⟩
          · rw [Config.party_move_self, hst, hafter]
          · exact ⟨c.shared.log, ⟨j, now, decision⟩, [], rfl, rfl, hstate, by simp⟩
        · exact ⟨.failed .unreachable, by rw [Config.party_move_self, hst, hafter], trivial⟩
      · rw [Config.party_move_of_ne c hj]
        obtain ⟨st'', hst'', hlog''⟩ := h.logged j
        exact ⟨st'', hst'', hlog''.concat (Ne.symm hj)⟩

/-- Only the caller whose turn it is adds to the log. -/
lemma Linear.log_move {start : Option String}
    {c : Config ι (Cell ι D) KvTurn StoreUnavailable (σ × List D)}
    (h : s.Linear mutator start c) (m : ι × KvTurn) :
    ∃ new, (c.move m).shared.log = c.shared.log ++ new ∧ ∀ e ∈ new, e.caller = m.1 := by
  obtain ⟨i, turn⟩ := m
  obtain ⟨st, hst, hlog⟩ := h.logged i
  rw [Config.shared_move, hst]
  obtain ⟨heffect, _⟩ | ⟨n, holder, now, state, decision, rfl, _, heffect, _⟩ :=
    rest_step start i st turn c.shared hlog
  · rw [heffect]
    exact ⟨[], by simp⟩
  · rw [heffect]
    exact ⟨[⟨i, now, decision⟩], rfl, by simp⟩

lemma Linear.log_run {start : Option String}
    {c : Config ι (Cell ι D) KvTurn StoreUnavailable (σ × List D)}
    (h : s.Linear mutator start c) (more : List (ι × KvTurn)) :
    ∃ new, (c.run more).shared.log = c.shared.log ++ new ∧
      ∀ e ∈ new, e.caller ∈ more.map Prod.fst := by
  induction more generalizing c with
  | nil => exact ⟨[], by simp⟩
  | cons m more ih =>
    obtain ⟨first, hfirst, hmem⟩ := h.log_move m
    obtain ⟨new, hnew, hmem'⟩ := ih (h.move m)
    refine ⟨first ++ new, by rw [Config.run_cons, hnew, hfirst, List.append_assoc], ?_⟩
    intro e he
    obtain he | he := List.mem_append.mp he
    · simp [hmem e he]
    · exact List.mem_cons_of_mem _ (hmem' e he)

omit [DecidableEq ι] in
/-- A caller that has returned has its write in the log. -/
lemma Linear.written {start : Option String}
    {c : Config ι (Cell ι D) KvTurn StoreUnavailable (σ × List D)}
    (h : s.Linear mutator start c) {i : ι} {state : σ} {holder : List D}
    (hret : c.party i = .ret (state, holder)) :
    s.Written mutator start i c.shared.log state holder := by
  obtain ⟨st, hst, hlog⟩ := h.logged i
  rw [hst] at hret
  match st with
  | .returned state' holder' =>
    simp only [rest, Steps.ret.injEq, Prod.mk.injEq] at hret
    obtain ⟨rfl, rfl⟩ := hret
    exact hlog
  | .failed e => simp [rest] at hret
  | .reading 0 holder => simp [rest, attempts] at hret
  | .reading (n + 1) holder => simp [rest, attempts, kvGet] at hret
  | .writing n holder raw now => simp [rest, kvCompareSet] at hret

omit [DecidableEq ι] in
/-- A caller that has used up its attempts has written nothing. -/
lemma Linear.unwritten {start : Option String}
    {c : Config ι (Cell ι D) KvTurn StoreUnavailable (σ × List D)}
    (h : s.Linear mutator start c) {i : ι} (hfail : c.party i = .fail .conflicts) :
    Unwritten i c.shared.log := by
  obtain ⟨st, hst, hlog⟩ := h.logged i
  rw [hst] at hfail
  match st with
  | .returned state holder => simp [rest] at hfail
  | .failed .conflicts => exact hlog
  | .failed .unreachable => simp [rest] at hfail
  | .reading 0 holder => exact hlog
  | .reading (n + 1) holder => simp [rest, attempts, kvGet] at hfail
  | .writing n holder raw now => simp [rest, kvCompareSet] at hfail

lemma linear_run (s : JsonStateStore σ) (mutator : ι → Instant → Option σ → σ × D)
    (start : Option String) (sched : List (ι × KvTurn)) :
    s.Linear mutator start ((s.callers mutator start).run sched) := by
  apply Config.run_induction (P := fun _ c => s.Linear mutator start c)
  · exact Linear.initial start
  · intro _ m h
    exact h.move m

/-- Under every schedule the text is what the stored mutations give one after another, no caller
is among them twice, a caller that returns has the state and the decision of its own write, a caller
that gives up after its attempts has written nothing, and writes of later turns come later. -/
theorem update_linearizable (s : JsonStateStore σ) (mutator : ι → Instant → Option σ → σ × D)
    (start : Option String) (sched : List (ι × KvTurn)) :
    let c := (s.callers mutator start).run sched
    c.shared.value = s.replay mutator start c.shared.log ∧
    (c.shared.log.map Commit.caller).Nodup ∧
    (∀ i state holder, c.party i = .ret (state, holder) →
      ∃ before e after, c.shared.log = before ++ e :: after ∧ e.caller = i ∧
        mutator i e.now (s.stateOf (s.replay mutator start before)) = (state, e.decision) ∧
        holder.getLast? = some e.decision) ∧
    (∀ i, c.party i = .fail .conflicts → ∀ e ∈ c.shared.log, e.caller ≠ i) ∧
    ∀ more, ∃ new, (c.run more).shared.log = c.shared.log ++ new ∧
      ∀ e ∈ new, e.caller ∈ more.map Prod.fst := by
  intro c
  have h := linear_run s mutator start sched
  refine ⟨h.value, h.once, ?_, ?_, ?_⟩
  · intro i state holder hret
    exact h.written hret
  · intro i hfail
    exact h.unwritten hfail
  · intro more
    exact h.log_run more

end JsonStateStore

end CrossPilot
