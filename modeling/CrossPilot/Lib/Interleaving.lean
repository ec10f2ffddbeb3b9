import Mathlib.Tactic

/-!
# Interleaved programs with a shared state

Programs whose steps are atomic: a step reads and changes a state that everybody shares, and also
depends on an event that comes with it (a clock, an answer from outside). A configuration is the
shared state together with what is left of the program of each party; a schedule says who takes the
next step, and with which event.

What has become of one party is a function of what it has seen: the events and the shared states
at its own turns (`party_run`). Everything else that holds of a run goes by induction on the
schedule, from its end (`run_induction`).
-/

namespace Interleaving

/-- A program of atomic steps. Each changes the shared state and goes on from what it found. -/
inductive Steps (S E ε α : Type) : Type
  | ret (a : α)
  | fail (e : ε)
  | act (f : E → S → S) (k : E → S → Steps S E ε α)

variable {S E ε α β ι : Type}

namespace Steps

/-- Sequencing: `f` goes on from the result of `p`, an error skips it. -/
protected def bind : Steps S E ε α → (α → Steps S E ε β) → Steps S E ε β
  | ret a, f => f a
  | fail e, _ => fail e
  | act g k, f => act g fun e s => (k e s).bind f

instance : Monad (Steps S E ε) where
  pure := ret
  bind := Steps.bind

@[simp] lemma pure_eq (a : α) : (pure a : Steps S E ε α) = ret a := rfl

@[simp] lemma bind_eq (p : Steps S E ε α) (f : α → Steps S E ε β) : p >>= f = p.bind f := rfl

@[simp] lemma bind_ret (a : α) (f : α → Steps S E ε β) : (ret a).bind f = f a := rfl

@[simp] lemma bind_fail (e : ε) (f : α → Steps S E ε β) : (fail e).bind f = fail e := rfl

@[simp] lemma bind_act (g : E → S → S) (k : E → S → Steps S E ε α) (f : α → Steps S E ε β) :
    (act g k).bind f = act g fun e s => (k e s).bind f := rfl

/-- One step, with its result. -/
def access (f : E → S → β × S) : Steps S E ε β := act (fun e s => (f e s).2) fun e s => ret (f e s).1

/-- A result of a pure function. -/
def ofExcept : Except ε α → Steps S E ε α
  | .ok a => ret a
  | .error e => fail e

@[simp] lemma ofExcept_ok (a : α) : (ofExcept (.ok a) : Steps S E ε α) = ret a := rfl

@[simp] lemma ofExcept_error (e : ε) : (ofExcept (.error e) : Steps S E ε α) = fail e := rfl

/-- The shared state after the next step. -/
def effect : Steps S E ε α → E → S → S
  | ret _, _, s => s
  | fail _, _, s => s
  | act f _, e, s => f e s

/-- What is left after the next step. -/
def after : Steps S E ε α → E → S → Steps S E ε α
  | ret a, _, _ => ret a
  | fail e, _, _ => fail e
  | act _ k, e, s => k e s

@[simp] lemma effect_ret (a : α) (e : E) (s : S) : (ret a : Steps S E ε α).effect e s = s := rfl

@[simp] lemma effect_fail (x : ε) (e : E) (s : S) : (fail x : Steps S E ε α).effect e s = s := rfl

@[simp] lemma effect_act (f : E → S → S) (k : E → S → Steps S E ε α) (e : E) (s : S) :
    (act f k).effect e s = f e s := rfl

@[simp] lemma after_ret (a : α) (e : E) (s : S) : (ret a : Steps S E ε α).after e s = ret a := rfl

@[simp] lemma after_fail (x : ε) (e : E) (s : S) :
    (fail x : Steps S E ε α).after e s = fail x := rfl

@[simp] lemma after_act (f : E → S → S) (k : E → S → Steps S E ε α) (e : E) (s : S) :
    (act f k).after e s = k e s := rfl

/-- Whether a program has come to its end. -/
def ended : Steps S E ε α → Bool
  | ret _ => true
  | fail _ => true
  | act _ _ => false

@[simp] lemma ended_ret (a : α) : (ret a : Steps S E ε α).ended = true := rfl

@[simp] lemma ended_fail (x : ε) : (fail x : Steps S E ε α).ended = true := rfl

@[simp] lemma ended_act (f : E → S → S) (k : E → S → Steps S E ε α) : (act f k).ended = false := rfl

/-- The result of a program that has one. -/
def result : Steps S E ε α → Option α
  | ret a => some a
  | fail _ => none
  | act _ _ => none

lemma result_eq_some {p : Steps S E ε α} {a : α} : p.result = some a ↔ p = ret a := by
  cases p <;> simp [result]

/-- What is left of a program after what it has seen at its turns. -/
def follow (p : Steps S E ε α) (seen : List (E × S)) : Steps S E ε α :=
  seen.foldl (fun p v => p.after v.1 v.2) p

@[simp] lemma follow_nil (p : Steps S E ε α) : p.follow [] = p := rfl

@[simp] lemma follow_cons (p : Steps S E ε α) (v : E × S) (seen : List (E × S)) :
    p.follow (v :: seen) = (p.after v.1 v.2).follow seen := rfl

@[simp] lemma follow_ret (a : α) (seen : List (E × S)) :
    (ret a : Steps S E ε α).follow seen = ret a := by
  induction seen with
  | nil => rfl
  | cons v rest ih => exact ih

@[simp] lemma follow_fail (x : ε) (seen : List (E × S)) :
    (fail x : Steps S E ε α).follow seen = fail x := by
  induction seen with
  | nil => rfl
  | cons v rest ih => exact ih

end Steps

/-- The shared state, and what is left of each program. -/
structure Config (ι S E ε α : Type) where
  shared : S
  party : ι → Steps S E ε α

namespace Config

variable [DecidableEq ι]

/-- Party `m.1` takes its next step. -/
def move (c : Config ι S E ε α) (m : ι × E) : Config ι S E ε α :=
  ⟨(c.party m.1).effect m.2 c.shared,
    Function.update c.party m.1 ((c.party m.1).after m.2 c.shared)⟩

/-- The parties take steps in the order of the schedule. -/
def run (c : Config ι S E ε α) (sched : List (ι × E)) : Config ι S E ε α := sched.foldl move c

@[simp] lemma run_nil (c : Config ι S E ε α) : c.run [] = c := rfl

@[simp] lemma run_cons (c : Config ι S E ε α) (m : ι × E) (sched : List (ι × E)) :
    c.run (m :: sched) = (c.move m).run sched := rfl

lemma run_append (c : Config ι S E ε α) (sched sched' : List (ι × E)) :
    c.run (sched ++ sched') = (c.run sched).run sched' := by
  simp [run]

lemma run_concat (c : Config ι S E ε α) (sched : List (ι × E)) (m : ι × E) :
    c.run (sched ++ [m]) = (c.run sched).move m := by
  simp [run]

@[simp] lemma shared_move (c : Config ι S E ε α) (m : ι × E) :
    (c.move m).shared = (c.party m.1).effect m.2 c.shared := rfl

lemma party_move_self (c : Config ι S E ε α) (i : ι) (e : E) :
    (c.move (i, e)).party i = (c.party i).after e c.shared := by
  simp [move]

lemma party_move_of_ne (c : Config ι S E ε α) {m : ι × E} {i : ι} (h : i ≠ m.1) :
    (c.move m).party i = c.party i := by
  simp [move, Function.update_of_ne h]

/-- What holds at the start and is kept by every step holds along every schedule. -/
theorem run_induction {c : Config ι S E ε α} {P : List (ι × E) → Config ι S E ε α → Prop}
    (start : P [] c)
    (step : ∀ sched m, P sched (c.run sched) → P (sched ++ [m]) ((c.run sched).move m))
    (sched : List (ι × E)) : P sched (c.run sched) := by
  induction sched using List.reverseRecOn with
  | nil => exact start
  | append_singleton sched m ih =>
    rw [run_concat]
    exact step sched m ih

/-- The events of party `i`. -/
def events (i : ι) (sched : List (ι × E)) : List E := (sched.filter (·.1 = i)).map Prod.snd

/-- What party `i` sees at its turns: the events, and the shared state it meets. -/
def views (c : Config ι S E ε α) (i : ι) : List (ι × E) → List (E × S)
  | [] => []
  | m :: sched =>
    if m.1 = i then (m.2, c.shared) :: (c.move m).views i sched else (c.move m).views i sched

@[simp] lemma events_nil (i : ι) : events i ([] : List (ι × E)) = [] := rfl

lemma events_append (i : ι) (sched sched' : List (ι × E)) :
    events i (sched ++ sched') = events i sched ++ events i sched' := by
  simp [events]

@[simp] lemma events_cons_self (i : ι) (e : E) (sched : List (ι × E)) :
    events i ((i, e) :: sched) = e :: events i sched := by
  simp [events]

lemma events_cons_of_ne {i : ι} {m : ι × E} (h : i ≠ m.1) (sched : List (ι × E)) :
    events i (m :: sched) = events i sched := by
  simp [events, h.symm]

lemma map_fst_views (c : Config ι S E ε α) (i : ι) (sched : List (ι × E)) :
    (c.views i sched).map Prod.fst = events i sched := by
  induction sched generalizing c with
  | nil => rfl
  | cons m rest ih =>
    obtain ⟨j, e⟩ := m
    by_cases hj : j = i
    · subst hj
      simp only [views, if_pos, List.map_cons, ih, events_cons_self]
    · rw [events_cons_of_ne (Ne.symm hj), ← ih (c.move (j, e))]
      simp only [views, if_neg hj]

/-- What is left of a program is what its views leave of it. -/
theorem party_run (c : Config ι S E ε α) (i : ι) (sched : List (ι × E)) :
    (c.run sched).party i = (c.party i).follow (c.views i sched) := by
  induction sched generalizing c with
  | nil => rfl
  | cons m rest ih =>
    obtain ⟨j, e⟩ := m
    rw [run_cons, ih]
    by_cases hj : j = i
    · subst hj
      rw [party_move_self]
      simp only [views, if_pos, Steps.follow_cons]
    · rw [party_move_of_ne c (Ne.symm hj)]
      simp only [views, if_neg hj]

/-- The parties that have had a turn and have not come to their end. -/
def underway (c : Config ι S E ε α) (sched : List (ι × E)) : Finset ι :=
  (sched.map Prod.fst).toFinset.filter fun i => ((c.run sched).party i).ended = false

@[simp] lemma underway_nil (c : Config ι S E ε α) : c.underway [] = ∅ := rfl

/-- A turn only decides about the party that takes it. -/
lemma underway_concat (c : Config ι S E ε α) (sched : List (ι × E)) (m : ι × E) :
    c.underway (sched ++ [m]) =
      if ((c.run (sched ++ [m])).party m.1).ended then (c.underway sched).erase m.1
      else insert m.1 (c.underway sched) := by
  ext j
  by_cases hj : j = m.1
  · subst hj
    cases hend : ((c.run (sched ++ [m])).party m.1).ended <;> simp [underway, hend]
  · have hparty : (c.run (sched ++ [m])).party j = (c.run sched).party j := by
      rw [run_concat, party_move_of_ne _ hj]
    cases hend : ((c.run (sched ++ [m])).party m.1).ended <;> simp [underway, hparty, hj]

/-- A party that has not had a turn has its program still before it. -/
lemma party_run_of_events_nil (c : Config ι S E ε α) {i : ι} {sched : List (ι × E)}
    (h : events i sched = []) : (c.run sched).party i = c.party i := by
  have hviews : c.views i sched = [] := by
    rw [← map_fst_views c, List.map_eq_nil_iff] at h
    exact h
  rw [party_run, hviews, Steps.follow_nil]

/-- A schedule is cut where a party has its first turn. -/
lemma exists_first_turn {i : ι} {sched : List (ι × E)} {e : E} {rest : List E}
    (h : events i sched = e :: rest) :
    ∃ before after, sched = before ++ (i, e) :: after ∧ events i before = [] ∧
      events i after = rest := by
  induction sched with
  | nil => cases h
  | cons m sched ih =>
    obtain ⟨j, e'⟩ := m
    by_cases hj : j = i
    · subst hj
      rw [events_cons_self, List.cons.injEq] at h
      obtain ⟨rfl, hrest⟩ := h
      exact ⟨[], sched, rfl, rfl, hrest⟩
    · rw [events_cons_of_ne (Ne.symm hj)] at h
      obtain ⟨before, after, rfl, hbefore, hafter⟩ := ih h
      refine ⟨(j, e') :: before, after, rfl, ?_, hafter⟩
      rw [events_cons_of_ne (Ne.symm hj), hbefore]

end Config

end Interleaving
