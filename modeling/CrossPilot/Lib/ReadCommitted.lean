import CrossPilot.Lib.Transaction

/-!
# Interleaved transactions under READ COMMITTED

Several programs of `Transaction.Prog` run at once. Each statement sees what is committed when it
starts, together with the changes of its own transaction. A statement that changes rows picks its
targets in such a snapshot; before it changes them it waits until no other transaction has locked
one of them, and then acts on the rows as they are by that time. Locks are kept until the
transaction ends or goes back to a savepoint taken before them. The changes of a transaction are a
function on databases, applied to whatever is committed: the rows it changed are locked, so nobody
else has changed them in between.

The two results are about a pair of transactions. If one starts only after the other has finished,
they run one after the other. If both must hold one common lock in order to commit any change,
then one of them runs as if it were alone, and the other runs up to some point before it takes that
lock, and from there on what the first has left.
-/

namespace Transaction

/-- Where a transaction is: before a statement, inside one whose targets are chosen, or at its
end. -/
inductive Point (L D K ε α : Type) : Type
  | run (p : Prog L D K ε α)
  | wait (ts : List K) (eff : List K → D → D) (k : List K → D → Prog L D K ε α)
  | done (r : Except ε α)

/-- A transaction in progress. A savepoint keeps the changes and the number of locks so far. -/
structure Tx (L D K ε α : Type) where
  point : Point L D K ε α
  session : L
  changes : D → D := id
  locks : List K := []
  marks : List ((D → D) × ℕ) := []

variable {L D K ε α : Type}

namespace Tx

/-- The transaction that is about to run `p` in the session `l`. -/
def start (p : Prog L D K ε α) (l : L) : Tx L D K ε α := { point := .run p, session := l }

/-- The transaction has committed or was rolled back. -/
def finished (x : Tx L D K ε α) : Bool :=
  match x.point with
  | .done _ => true
  | _ => false

/-- The transaction as a lone program would find itself on the committed data `d`. -/
def st (d : D) (x : Tx L D K ε α) : St L D :=
  ⟨x.session, x.changes d, x.marks.map fun m => m.1 d⟩

/-- The next step of a transaction that nothing blocks, on the committed data `d`. -/
def next (d : D) (x : Tx L D K ε α) : Tx L D K ε α :=
  match x.point with
  | .run (.ret a) => { x with point := .done (.ok a), locks := [] }
  | .run (.fail e) => { x with point := .done (.error e), locks := [] }
  | .run (.read k) => { x with point := .run (k x.session (x.changes d)) }
  | .run (.keep f k) => { x with point := .run k, session := f x.session }
  | .run (.write t eff k) => { x with point := .wait (t (x.changes d)) eff k }
  | .run (.mark k) => { x with point := .run k, marks := (x.changes, x.locks.length) :: x.marks }
  | .run (.forget k) => { x with point := .run k, marks := x.marks.tail }
  | .run (.rewind k) => { x with
      point := .run k
      changes := (x.marks.map Prod.fst).headD x.changes
      locks := x.locks.drop (x.locks.length - (x.marks.map Prod.snd).headD x.locks.length)
      marks := x.marks.tail }
  | .wait ts eff k => { x with
      point := .run (k ts (x.changes d))
      changes := eff ts ∘ x.changes
      locks := ts ++ x.locks }
  | .done _ => x

/-- What the committed data become with the step `next`. -/
def publish (d : D) (x : Tx L D K ε α) : D :=
  match x.point with
  | .run (.ret _) => x.changes d
  | _ => d

/-- How the transaction ends if it goes on alone on `d`. -/
def outcome (d : D) (x : Tx L D K ε α) : Except ε α × St L D :=
  match x.point with
  | .run p => p.exec (x.st d)
  | .wait ts eff k => (k ts (x.changes d)).exec { x.st d with data := eff ts (x.changes d) }
  | .done r => (r, x.st d)

/-- The committed data after a transaction that ended so on `d`. -/
def settle (d : D) : Except ε α × St L D → D
  | (.ok _, s) => s.data
  | (.error _, _) => d

/-- The states `x` passes through on `d` if nothing else commits and nothing blocks it. -/
inductive Reach (d : D) (x : Tx L D K ε α) : Tx L D K ε α → Prop
  | refl : Reach d x x
  | step {y : Tx L D K ε α} : Reach d x y → Reach d x (y.next d)

@[simp] lemma outcome_start (d : D) (p : Prog L D K ε α) (l : L) :
    (start p l).outcome d = p.exec ⟨l, d, []⟩ := rfl

/-- Every step of a transaction leads towards the same end. -/
theorem outcome_next (d : D) (x : Tx L D K ε α) : (x.next d).outcome d = x.outcome d := by
  obtain ⟨p, l, c, ls, ms⟩ := x
  cases p with
  | wait ts eff k => rfl
  | done r => rfl
  | run p =>
    cases p with
    | rewind k => cases ms <;> rfl
    | forget k => cases ms <;> rfl
    | _ => rfl

lemma Reach.outcome_eq {d : D} {x y : Tx L D K ε α} (h : Reach d x y) :
    y.outcome d = x.outcome d := by
  induction h with
  | refl => rfl
  | step _ ih => rw [outcome_next, ih]

/-- A step gains no locks but those of the statement it completes. -/
lemma mem_locks_next {d : D} {x : Tx L D K ε α} {κ : K} (h : κ ∈ (x.next d).locks) :
    κ ∈ x.locks ∨ ∃ ts eff k, x.point = .wait ts eff k ∧ κ ∈ ts := by
  obtain ⟨p, l, c, ls, ms⟩ := x
  cases p with
  | wait ts eff k =>
    rcases List.mem_append.mp h with h | h
    · exact .inr ⟨ts, eff, k, rfl, h⟩
    · exact .inl h
  | done r => exact .inl h
  | run p =>
    cases p with
    | ret a => cases h
    | fail e => cases h
    | rewind k => exact .inl (List.mem_of_mem_drop h)
    | _ => exact .inl h

lemma next_of_finished {d : D} {x : Tx L D K ε α} (h : x.finished) : x.next d = x := by
  obtain ⟨p, l, c, ls, ms⟩ := x
  cases p with
  | done r => rfl
  | wait ts eff k => cases h
  | run p => cases h

lemma publish_of_finished {d : D} {x : Tx L D K ε α} (h : x.finished) : x.publish d = d := by
  obtain ⟨p, l, c, ls, ms⟩ := x
  cases p with
  | done r => rfl
  | wait ts eff k => cases h
  | run p => cases h

/-- A step that does not end the transaction publishes nothing. -/
lemma publish_of_not_finished_next {d : D} {x : Tx L D K ε α} (h : (x.next d).finished = false) :
    x.publish d = d := by
  obtain ⟨p, l, c, ls, ms⟩ := x
  cases p with
  | done r => rfl
  | wait ts eff k => rfl
  | run p =>
    cases p with
    | ret a => cases h
    | _ => rfl

/-- The step that ends the transaction publishes its outcome. -/
lemma publish_of_finished_next {d : D} {x : Tx L D K ε α} (hx : x.finished = false)
    (h : (x.next d).finished) : x.publish d = settle d (x.outcome d) := by
  obtain ⟨p, l, c, ls, ms⟩ := x
  cases p with
  | done r => cases hx
  | wait ts eff k => cases h
  | run p =>
    cases p with
    | ret a => rfl
    | fail e => rfl
    | _ => cases h

/-- A transaction that ends has nothing to publish, or is about to commit its changes. -/
lemma publish_eq_or_changes (d : D) (x : Tx L D K ε α) :
    x.publish d = d ∨ (∃ a, x.point = .run (.ret a)) ∧ x.publish d = x.changes d := by
  obtain ⟨p, l, c, ls, ms⟩ := x
  cases p with
  | done r => exact .inl rfl
  | wait ts eff k => exact .inl rfl
  | run p =>
    cases p with
    | ret a => exact .inr ⟨⟨a, rfl⟩, rfl⟩
    | _ => exact .inl rfl

end Tx

/-! ### Interleavings -/

/-- Committed data and the transactions running on them. -/
structure World (ι L D K ε α : Type) where
  committed : D
  tx : ι → Tx L D K ε α

namespace World

variable {ι : Type} [Fintype ι] [DecidableEq ι] [DecidableEq K]

/-- The statement that `i` has started needs a row that another transaction has locked. -/
def blocked (w : World ι L D K ε α) (i : ι) : Bool :=
  match (w.tx i).point with
  | .wait ts _ _ => decide (∃ j, j ≠ i ∧ ∃ t ∈ ts, t ∈ (w.tx j).locks)
  | _ => false

/-- Transaction `i` takes its next step, or waits. -/
def step (w : World ι L D K ε α) (i : ι) : World ι L D K ε α :=
  if w.blocked i then w
  else ⟨(w.tx i).publish w.committed, Function.update w.tx i ((w.tx i).next w.committed)⟩

/-- The transactions take steps in the order of the schedule. -/
def run : World ι L D K ε α → List ι → World ι L D K ε α
  | w, [] => w
  | w, i :: sched => (w.step i).run sched

/-- Along the schedule, a transaction takes steps only while every other one has not started yet
or has finished. -/
def Exclusive (x₀ : ι → Tx L D K ε α) : World ι L D K ε α → List ι → Prop
  | _, [] => True
  | w, i :: sched =>
    (∀ j, j ≠ i → w.tx j = x₀ j ∨ (w.tx j).finished) ∧ Exclusive x₀ (w.step i) sched

lemma step_of_blocked {w : World ι L D K ε α} {i : ι} (h : w.blocked i) : w.step i = w := by
  simp [step, h]

lemma step_of_not_blocked {w : World ι L D K ε α} {i : ι} (h : w.blocked i = false) :
    w.step i =
      ⟨(w.tx i).publish w.committed, Function.update w.tx i ((w.tx i).next w.committed)⟩ := by
  simp [step, h]

lemma step_of_finished {w : World ι L D K ε α} {i : ι} (h : (w.tx i).finished) :
    w.step i = w := by
  unfold step
  split
  · rfl
  · rw [Tx.next_of_finished h, Tx.publish_of_finished h, Function.update_eq_self]

end World

/-! ### Results

A world does not care for the results of its transactions. -/

section results

variable {β ι : Type}

/-- The same point on the way to another result. -/
def Point.map (f : α → β) : Point L D K ε α → Point L D K ε β
  | .run p => .run (p.map f)
  | .wait ts eff k => .wait ts eff fun ts d => (k ts d).map f
  | .done r => .done (r.map f)

/-- The same transaction with another result. -/
def Tx.map (f : α → β) (x : Tx L D K ε α) : Tx L D K ε β :=
  ⟨x.point.map f, x.session, x.changes, x.locks, x.marks⟩

/-- The same transactions with other results. -/
def World.map (f : α → β) (w : World ι L D K ε α) : World ι L D K ε β :=
  ⟨w.committed, fun i => (w.tx i).map f⟩

@[simp] lemma Tx.map_start (f : α → β) (p : Prog L D K ε α) (l : L) :
    (start p l).map f = start (p.map f) l := rfl

lemma Tx.next_map (f : α → β) (d : D) (x : Tx L D K ε α) : (x.map f).next d = (x.next d).map f := by
  obtain ⟨p, l, c, ls, ms⟩ := x
  cases p with
  | wait ts eff k => rfl
  | done r => rfl
  | run p => cases p <;> rfl

lemma Tx.publish_map (f : α → β) (d : D) (x : Tx L D K ε α) :
    (x.map f).publish d = x.publish d := by
  obtain ⟨p, l, c, ls, ms⟩ := x
  cases p with
  | wait ts eff k => rfl
  | done r => rfl
  | run p => cases p <;> rfl

variable [Fintype ι] [DecidableEq ι] [DecidableEq K]

lemma World.blocked_map (f : α → β) (w : World ι L D K ε α) (i : ι) :
    (w.map f).blocked i = w.blocked i := by
  cases h : (w.tx i).point with
  | run p => simp [blocked, map, Tx.map, Point.map, h]
  | done r => simp [blocked, map, Tx.map, Point.map, h]
  | wait ts eff k =>
    have h' : ((w.map f).tx i).point = .wait ts eff fun ts d => (k ts d).map f := by
      simp [map, Tx.map, Point.map, h]
    rw [Bool.eq_iff_iff]
    simp only [blocked, h, h', decide_eq_true_eq]
    rfl

lemma World.step_map (f : α → β) (w : World ι L D K ε α) (i : ι) :
    (w.map f).step i = (w.step i).map f := by
  cases hb : w.blocked i with
  | true => rw [step_of_blocked hb, step_of_blocked ((blocked_map f w i).trans hb)]
  | false =>
    rw [step_of_not_blocked hb, step_of_not_blocked ((blocked_map f w i).trans hb)]
    simp only [map, Tx.publish_map, Tx.next_map, mk.injEq, true_and]
    funext j
    by_cases hj : j = i
    · subst hj
      simp
    · simp [hj]

theorem World.run_map (f : α → β) (w : World ι L D K ε α) (sched : List ι) :
    (w.map f).run sched = (w.run sched).map f := by
  induction sched generalizing w with
  | nil => rfl
  | cons i rest ih =>
    rw [run, run, step_map]
    exact ih (w.step i)

end results

/-! ### Two transactions -/

namespace World

open Tx

variable [DecidableEq K] {d₀ : D} {x₀ : Bool → Tx L D K ε α} {κ : K}

/-- No two transactions hold `κ`. -/
def Excludes (κ : K) (w : World Bool L D K ε α) : Prop :=
  ∀ i, κ ∈ (w.tx i).locks → κ ∉ (w.tx (!i)).locks

/-- Transaction `i` has ended as if alone on `d₀`. The other had come to `x` on `d₀`, and has gone
on from there on what `i` left. -/
def Second (d₀ : D) (x₀ : Bool → Tx L D K ε α) (i : Bool) (x : Tx L D K ε α)
    (w : World Bool L D K ε α) : Prop :=
  let d₁ := settle d₀ ((x₀ i).outcome d₀)
  (w.tx i).finished ∧ Reach d₁ x (w.tx !i) ∧
    w.committed = if (w.tx !i).finished then settle d₁ (x.outcome d₁) else d₁

omit [DecidableEq K] in
private lemma not_eq_not (i : Bool) : (!i) ≠ i := by cases i <;> decide

lemma Excludes.step {w : World Bool L D K ε α} (h : Excludes κ w) (i : Bool) :
    Excludes κ (w.step i) := by
  by_cases hb : w.blocked i
  · rw [step_of_blocked hb]
    exact h
  · rw [step_of_not_blocked (by simpa using hb)]
    have hnew : κ ∈ ((w.tx i).next w.committed).locks → κ ∉ (w.tx !i).locks := by
      intro hm
      rcases mem_locks_next hm with hm | ⟨ts, eff, k, hp, hm⟩
      · exact h i hm
      · intro hother
        apply hb
        simp only [blocked, hp, decide_eq_true_eq]
        exact ⟨!i, not_eq_not i, κ, hm, hother⟩
    intro j
    by_cases hj : j = i
    · subst hj
      simpa [Function.update_of_ne (not_eq_not j)] using hnew
    · obtain rfl : j = !i := by cases i <;> cases j <;> simp_all
      intro hm
      simp only [Function.update_of_ne (not_eq_not i), Bool.not_not, Function.update_self] at hm ⊢
      exact fun hi => hnew hi hm

/-- Once one transaction has finished, the other is the only one to take steps. -/
lemma Second.step {i : Bool} {x : Tx L D K ε α} {w : World Bool L D K ε α}
    (h : Second d₀ x₀ i x w) (j : Bool) : Second d₀ x₀ i x (w.step j) := by
  obtain ⟨hfin, hreach, hdata⟩ := h
  by_cases hj : j = i
  · rw [hj, step_of_finished hfin]
    exact ⟨hfin, hreach, hdata⟩
  obtain rfl : j = !i := by cases i <;> cases j <;> simp_all
  by_cases hdone : (w.tx !i).finished
  · rw [step_of_finished hdone]
    exact ⟨hfin, hreach, hdata⟩
  by_cases hb : w.blocked (!i)
  · rw [step_of_blocked hb]
    exact ⟨hfin, hreach, hdata⟩
  rw [step_of_not_blocked (by simpa using hb)]
  rw [if_neg hdone] at hdata
  refine ⟨?_, ?_, ?_⟩
  · simpa [Function.update_of_ne (not_eq_not i).symm] using hfin
  · simp only [Function.update_self, hdata]
    exact hreach.step
  · simp only [Function.update_self, hdata]
    split
    · rename_i hnext
      rw [publish_of_finished_next (by simpa using hdone) hnext, hreach.outcome_eq]
    · rename_i hnext
      exact publish_of_not_finished_next (by simpa using hnext)

/-- The state of a pair before any of the two has finished, and after. -/
private def Paired (d₀ : D) (x₀ : Bool → Tx L D K ε α) (κ : K) (w : World Bool L D K ε α) : Prop :=
  (w.committed = d₀ ∧ ∀ i, Reach d₀ (x₀ i) (w.tx i) ∧ (w.tx i).finished = false) ∨
    ∃ i x, Reach d₀ (x₀ !i) x ∧ κ ∉ x.locks ∧ Second d₀ x₀ i x w

private lemma Paired.step (h0 : ∀ i, (x₀ i).locks = [])
    (hκ : ∀ i y a, Reach d₀ (x₀ i) y → y.point = .run (.ret a) → y.changes = id ∨ κ ∈ y.locks)
    {w : World Bool L D K ε α} (h : Paired d₀ x₀ κ w) (hex : Excludes κ w) (i : Bool) :
    Paired d₀ x₀ κ (w.step i) := by
  rcases h with ⟨hd, hr⟩ | ⟨j, x, hx, hκx, hs⟩
  swap
  · exact .inr ⟨j, x, hx, hκx, hs.step i⟩
  by_cases hb : w.blocked i
  · rw [step_of_blocked hb]
    exact .inl ⟨hd, hr⟩
  rw [step_of_not_blocked (by simpa using hb), hd]
  have hne := Function.update_of_ne (not_eq_not i) ((w.tx i).next d₀) w.tx
  by_cases hnext : ((w.tx i).next d₀).finished
  · -- `i` is the first to finish; it holds the lock, or leaves the data as they were
    right
    have hpub := publish_of_finished_next (hr i).2 hnext
    rw [(hr i).1.outcome_eq] at hpub
    rcases publish_eq_or_changes d₀ (w.tx i) with hsame | ⟨⟨a, ha⟩, hch⟩
    · refine ⟨i, x₀ !i, .refl, by simp [h0], by simpa using hnext, ?_, ?_⟩
      · rw [← hpub, hsame]
        simpa only [hne] using (hr !i).1
      · simp [(hr !i).2, hpub]
    · rcases hκ i _ a (hr i).1 ha with hid | hmem
      · refine ⟨i, x₀ !i, .refl, by simp [h0], by simpa using hnext, ?_, ?_⟩
        · rw [← hpub, hch, hid]
          simpa only [hne, id] using (hr !i).1
        · simp [(hr !i).2, hpub]
      · refine ⟨i, w.tx !i, (hr !i).1, hex i hmem, by simpa using hnext, ?_, ?_⟩
        · simp only [hne]
          exact .refl
        · simp [(hr !i).2, hpub]
  · refine .inl ⟨publish_of_not_finished_next (by simpa using hnext), fun j => ?_⟩
    by_cases hj : j = i
    · subst hj
      simpa using ⟨(hr j).1.step, by simpa using hnext⟩
    · simpa only [Function.update_of_ne hj] using hr j

/-- Two transactions that can commit changes only with the lock `κ` are serialised by it: one of
them runs alone on `d₀`; the other reaches some state `x` on `d₀` before it takes the lock, and
goes on from `x` on what the first has left. -/
theorem two_serialised (h0 : ∀ i, (x₀ i).locks = []) (hrun : ∀ i, (x₀ i).finished = false)
    (hκ : ∀ i y a, Reach d₀ (x₀ i) y → y.point = .run (.ret a) → y.changes = id ∨ κ ∈ y.locks)
    (sched : List Bool) (hfin : ∀ i, (((World.mk d₀ x₀).run sched).tx i).finished) :
    ∃ i x, Reach d₀ (x₀ !i) x ∧ κ ∉ x.locks ∧
      ((World.mk d₀ x₀).run sched).committed =
        settle (settle d₀ ((x₀ i).outcome d₀))
          (x.outcome (settle d₀ ((x₀ i).outcome d₀))) := by
  have key : ∀ (sched : List Bool) (w : World Bool L D K ε α),
      Paired d₀ x₀ κ w → Excludes κ w → Paired d₀ x₀ κ (w.run sched) := by
    intro sched
    induction sched with
    | nil => exact fun w h _ => h
    | cons i rest ih => exact fun w h hex => ih _ (h.step h0 hκ hex i) (hex.step i)
  have hstart : Paired d₀ x₀ κ ⟨d₀, x₀⟩ := .inl ⟨rfl, fun i => ⟨.refl, hrun i⟩⟩
  have hexcl : Excludes κ (World.mk d₀ x₀) := by
    intro i hi
    simp [h0] at hi
  rcases key sched _ hstart hexcl with ⟨-, hr⟩ | ⟨i, x, hx, hκx, -, -, hd⟩
  · have := (hr true).2
    simp [hfin] at this
  · rw [if_pos (hfin _)] at hd
    exact ⟨i, x, hx, hκx, hd⟩

/-- A pair under an exclusive schedule, before the first has finished, and after. -/
private def Alone (d₀ : D) (x₀ : Bool → Tx L D K ε α) (w : World Bool L D K ε α) : Prop :=
  (w.committed = d₀ ∧ ∃ i, Reach d₀ (x₀ i) (w.tx i) ∧ (w.tx i).finished = false ∧
      w.tx (!i) = x₀ !i) ∨
    ∃ i, Second d₀ x₀ i (x₀ !i) w

private lemma Alone.step (hrun : ∀ i, (x₀ i).finished = false) {w : World Bool L D K ε α}
    (h : Alone d₀ x₀ w) {i : Bool} (hi : ∀ j, j ≠ i → w.tx j = x₀ j ∨ (w.tx j).finished) :
    Alone d₀ x₀ (w.step i) := by
  rcases h with ⟨hd, j, hr, hnf, hother⟩ | ⟨j, hs⟩
  swap
  · exact .inr ⟨j, hs.step i⟩
  -- whoever takes the step is the one that has started
  obtain ⟨hr, hnf, hother⟩ : Reach d₀ (x₀ i) (w.tx i) ∧ (w.tx i).finished = false ∧
      w.tx (!i) = x₀ !i := by
    by_cases hj : j = i
    · subst hj
      exact ⟨hr, hnf, hother⟩
    · obtain rfl : j = !i := by cases i <;> cases j <;> simp_all
      rw [Bool.not_not] at hother
      rcases hi (!i) (not_eq_not i) with heq | hfin
      · exact ⟨hother ▸ .refl, hother ▸ hrun i, heq⟩
      · rw [hfin] at hnf
        cases hnf
  by_cases hb : w.blocked i
  · rw [step_of_blocked hb]
    exact .inl ⟨hd, i, hr, hnf, hother⟩
  rw [step_of_not_blocked (by simpa using hb), hd]
  have hne := Function.update_of_ne (not_eq_not i) ((w.tx i).next d₀) w.tx
  by_cases hnext : ((w.tx i).next d₀).finished
  · have hpub := publish_of_finished_next hnf hnext
    rw [hr.outcome_eq] at hpub
    refine .inr ⟨i, by simpa using hnext, ?_, ?_⟩
    · simp only [hne, hother]
      exact .refl
    · simp [hother, hrun, hpub]
  · refine .inl ⟨publish_of_not_finished_next (by simpa using hnext), i, ?_, ?_, ?_⟩
    · simpa using hr.step
    · simpa using hnext
    · simpa only [hne] using hother

/-- Two transactions that never overlap run one after the other. -/
theorem two_exclusive (hrun : ∀ i, (x₀ i).finished = false) (sched : List Bool)
    (hex : Exclusive x₀ (World.mk d₀ x₀) sched)
    (hfin : ∀ i, (((World.mk d₀ x₀).run sched).tx i).finished) :
    ∃ i, ((World.mk d₀ x₀).run sched).committed =
      settle (settle d₀ ((x₀ i).outcome d₀))
        ((x₀ !i).outcome (settle d₀ ((x₀ i).outcome d₀))) := by
  have key : ∀ (sched : List Bool) (w : World Bool L D K ε α),
      Alone d₀ x₀ w → Exclusive x₀ w sched → Alone d₀ x₀ (w.run sched) := by
    intro sched
    induction sched with
    | nil => exact fun w h _ => h
    | cons i rest ih => exact fun w h hex => ih _ (h.step hrun hex.1) hex.2
  have hstart : Alone d₀ x₀ ⟨d₀, x₀⟩ := .inl ⟨rfl, true, .refl, hrun true, rfl⟩
  rcases key sched _ hstart hex with ⟨-, i, -, hnf, -⟩ | ⟨i, -, -, hd⟩
  · simp [hfin] at hnf
  · rw [if_pos (hfin _)] at hd
    exact ⟨i, hd⟩

end World

/-! ### Transactions that begin with a lock -/

section opening

open Tx

variable {κ : K} {P : L → D → Prop} {R : D → D → Prop}

/-- The program only reads, in whatever states others leave behind, until its first change. That
one takes the lock `κ`, and where the program gets to alone from there on is within `R`. `P` holds
of its session and of the committed data up to then. -/
def Opens (κ : K) (P : L → D → Prop) (R : D → D → Prop) : L → Prog L D K ε α → Prop
  | _, .ret _ => True
  | _, .fail _ => True
  | l, .read k => ∀ d, P l d → Opens κ P R l (k l d)
  | l, .keep f k => (∀ d, P l d → P (f l) d) ∧ Opens κ P R (f l) k
  | l, .write t eff k => ∀ d₁, P l d₁ →
      (κ ∈ t d₁ → ∀ d, P l d → (k (t d₁) d).Plain (fun _ _ => True) ∧
        R d (settle d ((k (t d₁) d).exec ⟨l, eff (t d₁) d, []⟩))) ∧
      (κ ∉ t d₁ → (∀ d, eff (t d₁) d = d) ∧ ∀ d, P l d → Opens κ P R l (k (t d₁) d))
  | _, .mark _ => False
  | _, .forget _ => False
  | _, .rewind _ => False

section rules

variable {β : Type} {l : L}

lemma Opens.select {f : D → β} {k : β → Prog L D K ε α}
    (h : ∀ d, P l d → Opens κ P R l (k (f d))) : Opens κ P R l ((Prog.select f).bind k) := h

lemma Opens.update {t : D → List K} {eff : List K → D → D} {r : List K → D → β}
    {k : β → Prog L D K ε α}
    (hlock : ∀ d₁, P l d₁ → κ ∈ t d₁ → ∀ d, P l d → (k (r (t d₁) d)).Plain (fun _ _ => True) ∧
      R d (settle d ((k (r (t d₁) d)).exec ⟨l, eff (t d₁) d, []⟩)))
    (hnone : ∀ d₁, P l d₁ → κ ∉ t d₁ → (∀ d, eff (t d₁) d = d) ∧
      ∀ d, P l d → Opens κ P R l (k (r (t d₁) d))) :
    Opens κ P R l ((Prog.update t eff r).bind k) :=
  fun d₁ hd₁ => ⟨hlock d₁ hd₁, hnone d₁ hd₁⟩

end rules

/-- What a run leaves, if it goes on alone. -/
lemma Tx.settle_of_wp {p : Prog L D K ε α} {d : D} {s : St L D} {R : D → Prop}
    (h : p.wp (fun _ s' => R s'.data) (fun _ _ => R d) s) : R (settle d (p.exec s)) := by
  unfold Prog.wp at h
  unfold settle
  cases hp : p.exec s with
  | mk r s' =>
    rw [hp] at h
    cases r with
    | ok a => exact h
    | error e => exact h

/-- A transaction before its first change. -/
structure Opening (κ : K) (P : L → D → Prop) (R : D → D → Prop) (x : Tx L D K ε α) : Prop where
  changes : x.changes = id
  marks : x.marks = []
  locks : κ ∉ x.locks
  point : match x.point with
    | .run p => Opens κ P R x.session p
    | .wait ts eff k =>
      (κ ∈ ts → ∀ d, P x.session d → (k ts d).Plain (fun _ _ => True) ∧
        R d (settle d ((k ts d).exec ⟨x.session, eff ts d, []⟩))) ∧
      (κ ∉ ts → (∀ d, eff ts d = d) ∧ ∀ d, P x.session d → Opens κ P R x.session (k ts d))
    | .done _ => True

/-- A transaction on the committed data `d` that has the lock and will end within `R`. -/
structure Holding (κ : K) (R : D → D → Prop) (d : D) (x : Tx L D K ε α) : Prop where
  finished : x.finished = false
  locks : κ ∈ x.locks
  point : match x.point with
    | .run p => p.Plain fun _ _ => True
    | .wait ts _ k => ∀ d, (k ts d).Plain fun _ _ => True
    | .done _ => True
  ends : R d (settle d (x.outcome d))

lemma Opening.start {p : Prog L D K ε α} {l : L} (h : Opens κ P R l p) :
    Opening κ P R (Tx.start p l) := ⟨rfl, rfl, List.not_mem_nil, h⟩

/-- Where a transaction that begins with the lock can be. -/
def Standing (κ : K) (P : L → D → Prop) (R : D → D → Prop) (d : D) (x : Tx L D K ε α) : Prop :=
  x.finished ∧ x.locks = [] ∨ x.finished = false ∧ Opening κ P R x ∧ P x.session d ∨
    Holding κ R d x

/-- A step of a transaction before its first change publishes nothing. -/
lemma Opening.next {x : Tx L D K ε α} (h : Opening κ P R x) {d : D} (hP : P x.session d)
    (hfin : x.finished = false) : x.publish d = d ∧ Standing κ P R d (x.next d) := by
  obtain ⟨p, l, c, ls, ms⟩ := x
  obtain ⟨rfl, rfl, hlocks, hpoint⟩ := h
  cases p with
  | done r => cases hfin
  | wait ts eff k =>
    refine ⟨rfl, ?_⟩
    by_cases hκ : κ ∈ ts
    · obtain ⟨hplain, hends⟩ := hpoint.1 hκ d hP
      exact .inr (.inr ⟨rfl, List.mem_append_left _ hκ, hplain, hends⟩)
    · obtain ⟨hsame, hk⟩ := hpoint.2 hκ
      refine .inr (.inl ⟨rfl, ⟨funext fun d => hsame d, rfl, fun hmem => ?_, hk d hP⟩, hP⟩)
      rcases List.mem_append.mp hmem with hmem | hmem
      · exact hκ hmem
      · exact hlocks hmem
  | run p =>
    cases p with
    | ret a => exact ⟨rfl, .inl ⟨rfl, rfl⟩⟩
    | fail e => exact ⟨rfl, .inl ⟨rfl, rfl⟩⟩
    | read k => exact ⟨rfl, .inr (.inl ⟨rfl, ⟨rfl, rfl, hlocks, hpoint d hP⟩, hP⟩)⟩
    | keep f k => exact ⟨rfl, .inr (.inl ⟨rfl, ⟨rfl, rfl, hlocks, hpoint.2⟩, hpoint.1 d hP⟩)⟩
    | write t eff k => exact ⟨rfl, .inr (.inl ⟨rfl, ⟨rfl, rfl, hlocks, hpoint d hP⟩, hP⟩)⟩
    | mark k => exact hpoint.elim
    | forget k => exact hpoint.elim
    | rewind k => exact hpoint.elim

/-- A step of the transaction that has the lock: it keeps it, or publishes what it was to end
with. -/
lemma Holding.next {x : Tx L D K ε α} {d : D} (h : Holding κ R d x) :
    x.publish d = d ∧ Holding κ R d (x.next d) ∨
      R d (x.publish d) ∧ (x.next d).finished ∧ (x.next d).locks = [] := by
  by_cases hnext : (x.next d).finished
  · right
    rw [publish_of_finished_next h.finished hnext]
    refine ⟨h.ends, hnext, ?_⟩
    obtain ⟨p, l, c, ls, ms⟩ := x
    cases p with
    | done r =>
      have hfin := h.finished
      cases hfin
    | wait ts eff k => cases hnext
    | run p =>
      cases p with
      | ret a => rfl
      | fail e => rfl
      | _ => cases hnext
  · rw [Bool.not_eq_true] at hnext
    have hends : R d (settle d ((x.next d).outcome d)) := by
      rw [outcome_next]
      exact h.ends
    refine .inl ⟨publish_of_not_finished_next hnext, hnext, ?_, ?_, hends⟩
    · obtain ⟨hfin, hlocks, hpoint, -⟩ := h
      obtain ⟨p, l, c, ls, ms⟩ := x
      cases p with
      | done r => cases hfin
      | wait ts eff k => exact List.mem_append_right _ hlocks
      | run p =>
        cases p with
        | ret a => cases hnext
        | fail e => cases hnext
        | rewind k => exact hpoint.elim
        | _ => exact hlocks
    · obtain ⟨hfin, hlocks, hpoint, -⟩ := h
      obtain ⟨p, l, c, ls, ms⟩ := x
      cases p with
      | done r => cases hfin
      | wait ts eff k => exact hpoint (c d)
      | run p =>
        cases p with
        | ret a => cases hnext
        | fail e => cases hnext
        | read k => exact hpoint l (c d)
        | keep f k => exact hpoint.2
        | write t eff k => exact fun d' => hpoint _ d'
        | mark k => exact hpoint.elim
        | forget k => exact hpoint.elim
        | rewind k => exact hpoint.elim

/-- What is kept of transactions that all begin with the lock `κ`. -/
structure Queued {ι : Type} (κ : K) (P : ι → L → D → Prop) (R : ι → D → D → Prop)
    (w : World ι L D K ε α) : Prop where
  standing : ∀ i, Standing κ (P i) (R i) w.committed (w.tx i)
  exclusive : ∀ i j, i ≠ j → κ ∈ (w.tx i).locks → κ ∉ (w.tx j).locks

variable {ι : Type} [Fintype ι] [DecidableEq ι] [DecidableEq K] {Pᵢ : ι → L → D → Prop}
  {Rᵢ : ι → D → D → Prop}

/-- A turn takes the lock from nobody. -/
private lemma Queued.exclusive_step {w : World ι L D K ε α} (h : Queued κ Pᵢ Rᵢ w) {i : ι}
    (hb : w.blocked i = false) (a b : ι) (hab : a ≠ b)
    (hκ : κ ∈ (Function.update w.tx i ((w.tx i).next w.committed) a).locks) :
    κ ∉ (Function.update w.tx i ((w.tx i).next w.committed) b).locks := by
  have hnew : ∀ j, j ≠ i → κ ∈ ((w.tx i).next w.committed).locks → κ ∉ (w.tx j).locks := by
    intro j hj hmem hother
    rcases mem_locks_next hmem with hmem | ⟨ts, eff, k, hp, hmem⟩
    · exact h.exclusive i j hj.symm hmem hother
    · have hwait : w.blocked i = true := by
        simp only [World.blocked, hp, decide_eq_true_eq]
        exact ⟨j, hj, κ, hmem, hother⟩
      rw [hb] at hwait
      cases hwait
  by_cases ha : a = i
  · subst ha
    rw [Function.update_self] at hκ
    rw [Function.update_of_ne hab.symm]
    exact hnew b hab.symm hκ
  · rw [Function.update_of_ne ha] at hκ
    by_cases hbi : b = i
    · subst hbi
      rw [Function.update_self]
      exact fun hmem => hnew a ha hmem hκ
    · rw [Function.update_of_ne hbi]
      exact h.exclusive a b hab hκ

/-- A turn of a transaction publishes nothing, or what is within its relation. -/
lemma Queued.step {w : World ι L D K ε α} (h : Queued κ Pᵢ Rᵢ w)
    (hP : ∀ i j d d', i ≠ j → Rᵢ i d d' → ∀ l, Pᵢ j l d → Pᵢ j l d') (i : ι) :
    Queued κ Pᵢ Rᵢ (w.step i) ∧
      ((w.step i).committed = w.committed ∨ Rᵢ i w.committed (w.step i).committed) := by
  by_cases hb : w.blocked i
  · rw [World.step_of_blocked hb]
    exact ⟨h, .inl rfl⟩
  by_cases hfin : (w.tx i).finished
  · rw [World.step_of_finished hfin]
    exact ⟨h, .inl rfl⟩
  rw [Bool.not_eq_true] at hb hfin
  rw [World.step_of_not_blocked hb]
  have hexcl := h.exclusive_step hb
  -- nothing is published
  have hquiet : (w.tx i).publish w.committed = w.committed →
      Standing κ (Pᵢ i) (Rᵢ i) w.committed ((w.tx i).next w.committed) →
      Queued κ Pᵢ Rᵢ ⟨(w.tx i).publish w.committed,
        Function.update w.tx i ((w.tx i).next w.committed)⟩ := by
    intro hsame hnext
    refine ⟨fun j => ?_, hexcl⟩
    simp only [hsame]
    by_cases hj : j = i
    · subst hj
      rw [Function.update_self]
      exact hnext
    · rw [Function.update_of_ne hj]
      exact h.standing j
  rcases h.standing i with ⟨hdone, -⟩ | ⟨-, hopen, hp⟩ | hhold
  · rw [hfin] at hdone
    cases hdone
  · obtain ⟨hsame, hnext⟩ := hopen.next hp hfin
    exact ⟨hquiet hsame hnext, .inl hsame⟩
  rcases hhold.next with ⟨hsame, hnext⟩ | ⟨hends, hdone, hlocks⟩
  · exact ⟨hquiet hsame (.inr (.inr hnext)), .inl hsame⟩
  · refine ⟨⟨fun j => ?_, hexcl⟩, .inr hends⟩
    by_cases hj : j = i
    · subst hj
      simp only [Function.update_self]
      exact .inl ⟨hdone, hlocks⟩
    · simp only [Function.update_of_ne hj]
      rcases h.standing j with hfinj | ⟨hfinj, hopen, hp⟩ | hother
      · exact .inl hfinj
      · exact .inr (.inl ⟨hfinj, hopen, hP i j _ _ (Ne.symm hj) hends _ hp⟩)
      · exact absurd hother.locks (h.exclusive i j (Ne.symm hj) hhold.locks)

/-- Transactions that all begin with one lock run one after the other from there on: whatever the
schedule, the committed data come about by steps within their relations. -/
theorem World.queued {p : ι → Prog L D K ε α} {l : ι → L} {d₀ : D}
    (hP : ∀ i j d d', i ≠ j → Rᵢ i d d' → ∀ l, Pᵢ j l d → Pᵢ j l d')
    (hstart : ∀ i, Pᵢ i (l i) d₀) (hopens : ∀ i, Opens κ (Pᵢ i) (Rᵢ i) (l i) (p i))
    (sched : List ι) :
    Relation.ReflTransGen (fun d d' => ∃ i, Rᵢ i d d') d₀
      ((World.mk d₀ fun i => Tx.start (p i) (l i)).run sched).committed := by
  have key : ∀ (sched : List ι) (w : World ι L D K ε α), Queued κ Pᵢ Rᵢ w →
      Relation.ReflTransGen (fun d d' => ∃ i, Rᵢ i d d') w.committed (w.run sched).committed := by
    intro sched
    induction sched with
    | nil => exact fun w _ => .refl
    | cons i rest ih =>
      intro w h
      obtain ⟨hnext, hsame | hstep⟩ := h.step hP i
      · have hrest := ih _ hnext
        rw [hsame] at hrest
        exact hrest
      · exact .head ⟨i, hstep⟩ (ih _ hnext)
  refine key sched (World.mk d₀ fun i => Tx.start (p i) (l i)) ⟨fun i => ?_, fun i j _ h => ?_⟩
  · exact .inr (.inl ⟨rfl, .start (hopens i), hstart i⟩)
  · exact absurd h List.not_mem_nil

end opening

end Transaction
