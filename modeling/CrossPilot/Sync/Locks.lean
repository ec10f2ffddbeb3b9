import CrossPilot.Sync.Cursor

/-!
# The lock of the scheduled scans

Several schedulers start the same scan and only the one that gets the lock of the scan runs it. A
lock is a random token with an expiry, so that a scheduler that dies does not hold it for ever; the
release gives the token back and is ignored when another one is stored.

The state keeps, beside the store, the tokens that were drawn and the answers that the schedulers
got. A token is drawn before the store is asked, so the steps of other schedulers may come between.
-/

namespace CrossPilot.BeatLock

/-- A lock as the store keeps it. -/
structure Hold where
  token : String
  expiresAt : Instant
  deriving DecidableEq

/-- The locks by name. A hold whose time is over stays until somebody overwrites or releases it. -/
abbrev MemoryLockStore := String → Option Hold

namespace MemoryLockStore

def acquire (held : MemoryLockStore) (now : Instant) (name token : String) (ttlSeconds : ℤ) :
    Bool × MemoryLockStore :=
  match held name with
  | some current =>
    if now < current.expiresAt then (false, held)
    else (true, Function.update held name (some ⟨token, now + seconds ttlSeconds⟩))
  | none => (true, Function.update held name (some ⟨token, now + seconds ttlSeconds⟩))

def release (held : MemoryLockStore) (name token : String) : MemoryLockStore :=
  match held name with
  | some current => if current.token = token then Function.update held name none else held
  | none => held

/-- The hold of a name, if its time is not over. -/
def liveAt (held : MemoryLockStore) (now : Instant) (name : String) : Option Hold :=
  (held name).filter fun hold => decide (now < hold.expiresAt)

/-- The store gives a lock out exactly when no hold of that name is live. -/
theorem acquire_eq (held : MemoryLockStore) (now : Instant) (name token : String) (ttl : ℤ) :
    held.acquire now name token ttl =
      if (held.liveAt now name).isSome then (false, held)
      else (true, Function.update held name (some ⟨token, now + seconds ttl⟩)) := by
  cases h : held name with
  | none => simp [acquire, liveAt, h]
  | some current =>
    by_cases hlive : now < current.expiresAt
    · simp [acquire, liveAt, h, hlive]
    · simp [acquire, liveAt, h, hlive]

/-- A release leaves a hold of another token where it is. -/
theorem release_eq_self {held : MemoryLockStore} {name token : String} {hold : Hold}
    (h : held name = some hold) (hne : hold.token ≠ token) : held.release name token = held := by
  simp [release, h, hne]

theorem release_of_ne (held : MemoryLockStore) {name other : String} (token : String)
    (h : other ≠ name) : held.release name token other = held other := by
  cases hold : held name with
  | none => simp [release, hold]
  | some current =>
    by_cases ht : current.token = token
    · simp [release, hold, ht, h]
    · simp [release, hold, ht]

end MemoryLockStore

/-- A lock that a party was told it has. -/
structure Grant (Party : Type) where
  party : Party
  name : String
  hold : Hold

variable {Party : Type}

/-- The schedulers and their store. -/
structure Schedulers (Party : Type) where
  held : MemoryLockStore := fun _ => none
  now : Instant
  /-- Every token with the party that drew it. -/
  drawn : List (Party × String) := []
  /-- The tokens whose call has not reached the store. -/
  waiting : List (Party × String) := []
  /-- The locks that were told to a party and that it has not given back. -/
  grants : List (Grant Party) := []

namespace Schedulers

/-- The tokens a party may give back are not those of the others: it knows what it drew itself. -/
def Presents (s : Schedulers Party) (p : Party) (token : String) : Prop :=
  ∀ q, (q, token) ∈ s.drawn → q = p

variable [DecidableEq Party]

/-- The store handles the call of `p` at `now`; `heard` tells whether the answer comes back. -/
def answer (s : Schedulers Party) (p : Party) (name token : String) (ttl : ℤ) (now : Instant)
    (heard : Bool) : Schedulers Party :=
  let (got, held) := s.held.acquire now name token ttl
  { s with
    held := held
    now := now
    waiting := s.waiting.erase (p, token)
    grants :=
      if got && heard then ⟨p, name, token, now + seconds ttl⟩ :: s.grants else s.grants }

/-- `p` gives `token` back; from then on it does not count on the lock. -/
def giveBack (s : Schedulers Party) (p : Party) (name token : String) : Schedulers Party :=
  { s with
    held := s.held.release name token
    grants := s.grants.filter fun g =>
      !(decide (g.party = p) && decide (g.name = name) && decide (g.hold.token = token)) }

/-- One step of some party, or of the clock. -/
inductive Step (s : Schedulers Party) : Schedulers Party → Prop
  | tick (now : Instant) (h : s.now ≤ now) : Step s { s with now := now }
  /-- `secrets.token_hex` returns a token that was not drawn before. -/
  | draw (p : Party) (token : String) (fresh : ∀ q, (q, token) ∉ s.drawn) :
      Step s { s with drawn := (p, token) :: s.drawn, waiting := (p, token) :: s.waiting }
  | acquire (p : Party) (name token : String) (ttl : ℤ) (now : Instant) (heard : Bool)
      (asked : (p, token) ∈ s.waiting) (h : s.now ≤ now) :
      Step s (s.answer p name token ttl now heard)
  | release (p : Party) (name token : String) (own : s.Presents p token) :
      Step s (s.giveBack p name token)

/-- What any schedule of steps can reach from an empty store. -/
def Reachable (s : Schedulers Party) : Prop :=
  ∃ start : Instant, Relation.ReflTransGen Step { now := start } s

/-- What holds between the store and the answers. -/
structure Consistent (s : Schedulers Party) : Prop where
  /-- A lock that somebody counts on and whose time is not over is the one in the store. -/
  stored : ∀ g ∈ s.grants, s.now < g.hold.expiresAt → s.held g.name = some g.hold
  granted : ∀ g ∈ s.grants, (g.party, g.hold.token) ∈ s.drawn
  kept : ∀ name hold, s.held name = some hold → ∃ q, (q, hold.token) ∈ s.drawn
  asking : ∀ x ∈ s.waiting, x ∈ s.drawn
  single : ∀ p q token, (p, token) ∈ s.drawn → (q, token) ∈ s.drawn → p = q

omit [DecidableEq Party] in
theorem Consistent.initial (start : Instant) :
    Consistent ({ now := start } : Schedulers Party) where
  stored := by simp
  granted := by simp
  kept := by simp
  asking := by simp
  single := by simp

omit [DecidableEq Party] in
theorem Consistent.tick {s : Schedulers Party} (hs : s.Consistent) {now : Instant}
    (h : s.now ≤ now) : Consistent { s with now := now } :=
  { hs with stored := fun g hg hlive => hs.stored g hg (lt_of_le_of_lt h hlive) }

omit [DecidableEq Party] in
theorem Consistent.draw {s : Schedulers Party} (hs : s.Consistent) (p : Party) {token : String}
    (fresh : ∀ q, (q, token) ∉ s.drawn) :
    Consistent { s with drawn := (p, token) :: s.drawn, waiting := (p, token) :: s.waiting } where
  stored := hs.stored
  granted g hg := List.mem_cons_of_mem _ (hs.granted g hg)
  kept name hold h := by
    obtain ⟨q, hq⟩ := hs.kept name hold h
    exact ⟨q, List.mem_cons_of_mem _ hq⟩
  asking x hx := by
    obtain rfl | hx := List.mem_cons.mp hx
    · exact List.mem_cons_self
    · exact List.mem_cons_of_mem _ (hs.asking x hx)
  single q r t hq hr := by
    simp only [List.mem_cons, Prod.mk.injEq] at hq hr
    obtain ⟨rfl, rfl⟩ | hq := hq
    · obtain ⟨rfl, _⟩ | hr := hr
      · rfl
      · exact absurd hr (fresh r)
    · obtain ⟨rfl, rfl⟩ | hr := hr
      · exact absurd hq (fresh q)
      · exact hs.single q r t hq hr

/-- A live lock in the store keeps every other call out; without one, nobody counts on the name, so
the new hold takes nothing from anybody. -/
theorem Consistent.answer {s : Schedulers Party} (hs : s.Consistent) {p : Party}
    {name token : String} {ttl : ℤ} {now : Instant} {heard : Bool}
    (asked : (p, token) ∈ s.waiting) (h : s.now ≤ now) :
    (s.answer p name token ttl now heard).Consistent := by
  have hlater := hs.tick h
  have hdrawn := hs.asking _ asked
  by_cases hlive : (s.held.liveAt now name).isSome
  · -- turned away
    have heq : s.answer p name token ttl now heard =
        { s with now := now, waiting := s.waiting.erase (p, token) } := by
      simp [Schedulers.answer, MemoryLockStore.acquire_eq, hlive]
    rw [heq]
    exact { hlater with asking := fun x hx => hs.asking x (List.mem_of_mem_erase hx) }
  · have hfree : ∀ g ∈ s.grants, now < g.hold.expiresAt → g.name ≠ name := by
      rintro g hg hg' rfl
      have hheld : s.held g.name = some g.hold := hlater.stored g hg hg'
      exact hlive (by simpa [MemoryLockStore.liveAt, hheld] using hg')
    have heq : s.answer p name token ttl now heard =
        { s with
          held := Function.update s.held name (some ⟨token, now + seconds ttl⟩)
          now := now
          waiting := s.waiting.erase (p, token)
          grants :=
            if heard then ⟨p, name, token, now + seconds ttl⟩ :: s.grants else s.grants } := by
      simp [Schedulers.answer, MemoryLockStore.acquire_eq, hlive]
    have hmem : ∀ g ∈ (s.answer p name token ttl now heard).grants,
        g = ⟨p, name, token, now + seconds ttl⟩ ∨ g ∈ s.grants := by
      intro g hg
      rw [heq] at hg
      cases heard with
      | true => exact List.mem_cons.mp hg
      | false => exact Or.inr hg
    constructor
    · intro g hg hg'
      rw [heq] at hg' ⊢
      obtain rfl | hold := hmem g hg
      · simp
      · simp only [Function.update_of_ne (hfree g hold hg')]
        exact hlater.stored g hold hg'
    · intro g hg
      rw [heq]
      obtain rfl | hold := hmem g hg
      · exact hdrawn
      · exact hs.granted g hold
    · intro other hold hother
      rw [heq] at hother ⊢
      by_cases hname : other = name
      · subst hname
        simp only [Function.update_self, Option.some.injEq] at hother
        subst hother
        exact ⟨p, hdrawn⟩
      · simp only [Function.update_of_ne hname] at hother
        exact hs.kept other hold hother
    · intro x hx
      rw [heq] at hx ⊢
      exact hs.asking x (List.mem_of_mem_erase hx)
    · rw [heq]
      exact hs.single

omit [DecidableEq Party] in
/-- The hold of another party survives a release: its token is not among those `p` can present. -/
theorem Presents.release_other {s : Schedulers Party} {p q : Party} {name token : String}
    (own : s.Presents p token) (hq : q ≠ p) {hold : Hold} (hheld : s.held name = some hold)
    (howner : (q, hold.token) ∈ s.drawn) : s.held.release name token = s.held := by
  apply MemoryLockStore.release_eq_self hheld
  rintro rfl
  exact hq (own q howner)

theorem Consistent.giveBack {s : Schedulers Party} (hs : s.Consistent) {p : Party}
    {name token : String} (own : s.Presents p token) : (s.giveBack p name token).Consistent := by
  constructor
  · intro g hg hlive
    obtain ⟨hin, hnot⟩ := List.mem_filter.mp hg
    have hheld := hs.stored g hin hlive
    by_cases hname : g.name = name
    · subst hname
      -- the grant stays, so its token is not the one given back
      have hne : g.hold.token ≠ token := by
        rintro rfl
        have hparty := own g.party (hs.granted g hin)
        simp [hparty] at hnot
      change s.held.release g.name token g.name = _
      rw [MemoryLockStore.release_eq_self hheld hne]
      exact hheld
    · change s.held.release name token g.name = _
      rw [MemoryLockStore.release_of_ne _ _ hname]
      exact hheld
  · intro g hg
    exact hs.granted g (List.mem_filter.mp hg).1
  · intro other hold hother
    by_cases hname : other = name
    · subst hname
      cases hheld : s.held other with
      | none => simp [Schedulers.giveBack, MemoryLockStore.release, hheld] at hother
      | some current =>
        obtain ⟨q, hq⟩ := hs.kept other current hheld
        by_cases ht : current.token = token
        · simp [Schedulers.giveBack, MemoryLockStore.release, hheld, ht] at hother
        · simp only [Schedulers.giveBack, MemoryLockStore.release, hheld, if_neg ht,
            Option.some.injEq] at hother
          exact ⟨q, hother ▸ hq⟩
    · change s.held.release name token other = _ at hother
      rw [MemoryLockStore.release_of_ne _ _ hname] at hother
      exact hs.kept other hold hother
  · exact hs.asking
  · exact hs.single

theorem Consistent.step {s s' : Schedulers Party} (hs : s.Consistent) (h : s.Step s') :
    s'.Consistent := by
  cases h with
  | tick now h => exact hs.tick h
  | draw p token fresh => exact hs.draw p fresh
  | acquire p name token ttl now heard asked h => exact hs.answer asked h
  | release p name token own => exact hs.giveBack own

theorem Reachable.consistent {s : Schedulers Party} (h : s.Reachable) : s.Consistent := by
  obtain ⟨start, hrun⟩ := h
  induction hrun with
  | refl => exact Consistent.initial start
  | tail _ hstep ih => exact ih.step hstep

omit [DecidableEq Party] in
/-- Two grants of one name whose time is not over are the same grant. -/
theorem Consistent.eq_of_live {s : Schedulers Party} (hs : s.Consistent) {g g' : Grant Party}
    (hg : g ∈ s.grants) (hg' : g' ∈ s.grants) (hname : g.name = g'.name)
    (hlive : s.now < g.hold.expiresAt) (hlive' : s.now < g'.hold.expiresAt) : g = g' := by
  have hhold : g.hold = g'.hold := by
    have h₁ := hs.stored g hg hlive
    have h₂ := hs.stored g' hg' hlive'
    rw [hname, h₂] at h₁
    exact (Option.some.inj h₁).symm
  have hparty : g.party = g'.party := by
    apply hs.single _ _ _ (hs.granted g hg)
    rw [hhold]
    exact hs.granted g' hg'
  obtain ⟨p, name, hold⟩ := g
  obtain ⟨p', name', hold'⟩ := g'
  simp only at hname hhold hparty
  rw [hname, hhold, hparty]

end Schedulers

open Schedulers

variable [DecidableEq Party]

/-- At most one party counts on an unexpired lock of a name, and no release of another party takes
a lock out of the store. -/
theorem lock_exclusive {s : Schedulers Party} (h : s.Reachable) :
    (∀ g ∈ s.grants, ∀ g' ∈ s.grants, g.name = g'.name → s.now < g.hold.expiresAt →
      s.now < g'.hold.expiresAt → g = g') ∧
    (∀ name hold, s.held name = some hold → ∃ q, (q, hold.token) ∈ s.drawn ∧
      ∀ p token, p ≠ q → s.Presents p token →
        (s.giveBack p name token).held name = some hold) := by
  have hs := h.consistent
  constructor
  · intro g hg g' hg' hname hlive hlive'
    exact hs.eq_of_live hg hg' hname hlive hlive'
  · intro name hold hheld
    obtain ⟨q, hq⟩ := hs.kept name hold hheld
    refine ⟨q, hq, ?_⟩
    intro p token hp own
    have hsame : s.held.release name token = s.held := own.release_other hp.symm hheld hq
    change s.held.release name token name = some hold
    rw [hsame]
    exact hheld

/-- The lock of party 1 runs out, party 2 takes it over, and the late release of party 1 does not
touch it. -/
def takenOver : Schedulers ℕ where
  held := Function.update (fun _ => none) "scan" (some ⟨"b", seconds 12 + seconds 10⟩)
  now := seconds 12
  drawn := [(2, "b"), (1, "a")]
  grants := [⟨2, "scan", "b", seconds 12 + seconds 10⟩, ⟨1, "scan", "a", 0 + seconds 10⟩]

theorem takenOver_reachable : takenOver.Reachable := by
  refine ⟨0, ?_⟩
  have h₁ := Relation.ReflTransGen.single
    (Step.draw (s := { now := 0 }) 1 "a" (by simp))
  have h₂ := h₁.tail (Step.acquire 1 "scan" "a" 10 0 true (by simp) (by simp))
  have h₃ := h₂.tail (Step.draw 2 "b" (by simp [answer]))
  have h₄ := h₃.tail (Step.acquire 2 "scan" "b" 10 (seconds 12) true (by simp) (by decide))
  convert h₄ using 1
  simp [takenOver, answer, MemoryLockStore.acquire, seconds]

theorem lock_exclusive_takenOver :
    takenOver.Reachable ∧ takenOver.Presents 1 "a" ∧
    (takenOver.giveBack 1 "scan" "a").held "scan" = some ⟨"b", seconds 22⟩ := by
  have hpresents : takenOver.Presents 1 "a" := by
    intro q hq
    simpa [takenOver] using hq
  obtain ⟨q, hq, hkept⟩ := (lock_exclusive takenOver_reachable).2 "scan"
    ⟨"b", seconds 12 + seconds 10⟩ (by simp [takenOver])
  obtain rfl : q = 2 := by simpa [takenOver] using hq
  exact ⟨takenOver_reachable, hpresents, hkept 1 "a" (by decide) hpresents⟩

end CrossPilot.BeatLock
