import Mathlib.Tactic

/-!
# Database transactions as programs

The work of one database transaction, written as a program of statements over a database `D`
with a session memory `L` (what the client keeps between its statements), row keys `K` for the
locks a statement takes and errors `ε`. A `select` reads a snapshot. A `write` first picks its
target rows in a snapshot and then changes them, so that an interpreter may let other
transactions run between the two (see `ReadCommitted`). Savepoints are explicit.

Here a program is run alone (`Prog.exec`), with weakest preconditions for it.
-/

namespace Transaction

/-- A transaction: a tree of statements ending in a result or an error. -/
inductive Prog (L D K ε α : Type) : Type
  | ret (a : α)
  | fail (e : ε)
  | read (k : L → D → Prog L D K ε α)
  | keep (f : L → L) (k : Prog L D K ε α)
  | write (targets : D → List K) (eff : List K → D → D) (k : List K → D → Prog L D K ε α)
  | mark (k : Prog L D K ε α)
  | forget (k : Prog L D K ε α)
  | rewind (k : Prog L D K ε α)

/-- Where a lone program runs: the session, the database and the savepoints in force. -/
structure St (L D : Type) where
  session : L
  data : D
  marks : List D := []

variable {L D K ε α β : Type}

namespace Prog

/-- Sequencing: `f` goes on from the result of `p`, an error skips it. -/
protected def bind : Prog L D K ε α → (α → Prog L D K ε β) → Prog L D K ε β
  | ret a, f => f a
  | fail e, _ => fail e
  | read k, f => read fun l d => (k l d).bind f
  | keep g k, f => keep g (k.bind f)
  | write t eff k, f => write t eff fun ts d => (k ts d).bind f
  | mark k, f => mark (k.bind f)
  | forget k, f => forget (k.bind f)
  | rewind k, f => rewind (k.bind f)

instance : Monad (Prog L D K ε) where
  pure := ret
  bind := Prog.bind

/-- Run `h` on the error of `p`. The changes made by `p` stay. -/
def attempt : Prog L D K ε α → (ε → Prog L D K ε α) → Prog L D K ε α
  | ret a, _ => ret a
  | fail e, h => h e
  | read k, h => read fun l d => (k l d).attempt h
  | keep g k, h => keep g (k.attempt h)
  | write t eff k, h => write t eff fun ts d => (k ts d).attempt h
  | mark k, h => mark (k.attempt h)
  | forget k, h => forget (k.attempt h)
  | rewind k, h => rewind (k.attempt h)

/-- Run `p` behind a savepoint: on an error its changes are undone before `h` runs. -/
def nested (p : Prog L D K ε α) (h : ε → Prog L D K ε α) : Prog L D K ε α :=
  mark ((p.bind fun a => forget (ret a)).attempt fun e => rewind (h e))

/-- A value computed from the session and a snapshot. -/
def query (f : L → D → α) : Prog L D K ε α := read fun l d => ret (f l d)

/-- A value computed from a snapshot. -/
def select (f : D → α) : Prog L D K ε α := query fun _ => f

/-- A change of the session. -/
def remember (f : L → L) : Prog L D K ε Unit := keep f (ret ())

/-- A statement that changes rows and returns `result` of its targets and the rows it found. -/
def update (targets : D → List K) (eff : List K → D → D) (result : List K → D → α) :
    Prog L D K ε α :=
  write targets eff fun ts d => ret (result ts d)

/-- A statement that only adds rows, so that it waits for nobody. -/
def insert (eff : D → D) : Prog L D K ε Unit := update (fun _ => []) (fun _ => eff) fun _ _ => ()

/-- `f` on each element in turn. -/
def forEach : List β → (β → Prog L D K ε Unit) → Prog L D K ε Unit
  | [], _ => ret ()
  | x :: xs, f => (f x).bind fun _ => forEach xs f

lemma forEach_eq_ret {f : β → Prog L D K ε Unit} {xs : List β} (h : ∀ x ∈ xs, f x = ret ()) :
    forEach xs f = ret () := by
  induction xs with
  | nil => rfl
  | cons x rest ih =>
    rw [forEach, h x (by simp)]
    exact ih fun y hy => h y (List.mem_cons_of_mem x hy)

/-- `f` on each element in turn, with what comes of each. -/
def collect : List β → (β → Prog L D K ε α) → Prog L D K ε (List α)
  | [], _ => ret []
  | x :: xs, f => (f x).bind fun a => (collect xs f).bind fun rest => ret (a :: rest)

/-- The error of a program as a value. -/
def tried (p : Prog L D K ε α) : Prog L D K ε (Except ε α) :=
  (p.bind fun a => ret (.ok a)).attempt fun e => ret (.error e)

/-- A program with another result. -/
def map (f : α → β) (p : Prog L D K ε α) : Prog L D K ε β := p.bind fun a => ret (f a)

lemma bind_assoc {γ : Type} (p : Prog L D K ε α) (f : α → Prog L D K ε β)
    (g : β → Prog L D K ε γ) : (p.bind f).bind g = p.bind fun a => (f a).bind g := by
  induction p with
  | ret a => rfl
  | fail e => rfl
  | read k ih => exact congrArg read (funext fun l => funext fun d => ih l d)
  | keep f k ih => exact congrArg (keep f) ih
  | write t eff k ih => exact congrArg (write t eff) (funext fun ts => funext fun d => ih ts d)
  | mark k ih => exact congrArg mark ih
  | forget k ih => exact congrArg forget ih
  | rewind k ih => exact congrArg rewind ih

lemma bind_ret (p : Prog L D K ε α) : p.bind ret = p := by
  induction p with
  | ret a => rfl
  | fail e => rfl
  | read k ih => exact congrArg read (funext fun l => funext fun d => ih l d)
  | keep f k ih => exact congrArg (keep f) ih
  | write t eff k ih => exact congrArg (write t eff) (funext fun ts => funext fun d => ih ts d)
  | mark k ih => exact congrArg mark ih
  | forget k ih => exact congrArg forget ih
  | rewind k ih => exact congrArg rewind ih

/-- The error raised again. -/
lemma tried_bind (p : Prog L D K ε α) :
    (p.tried.bind fun r => match r with
      | .ok a => ret a
      | .error e => fail e) = p := by
  induction p with
  | ret a => rfl
  | fail e => rfl
  | read k ih => exact congrArg read (funext fun l => funext fun d => ih l d)
  | keep f k ih => exact congrArg (keep f) ih
  | write t eff k ih => exact congrArg (write t eff) (funext fun ts => funext fun d => ih ts d)
  | mark k ih => exact congrArg mark ih
  | forget k ih => exact congrArg forget ih
  | rewind k ih => exact congrArg rewind ih

/-- Run a program with no other transaction around. -/
def exec : Prog L D K ε α → St L D → Except ε α × St L D
  | ret a, s => (.ok a, s)
  | fail e, s => (.error e, s)
  | read k, s => (k s.session s.data).exec s
  | keep f k, s => k.exec { s with session := f s.session }
  | write t eff k, s =>
    (k (t s.data) s.data).exec { s with data := eff (t s.data) s.data }
  | mark k, s => k.exec { s with marks := s.data :: s.marks }
  | forget k, s => k.exec { s with marks := s.marks.tail }
  | rewind k, s => k.exec { s with data := s.marks.headD s.data, marks := s.marks.tail }

/-- What the caller finds in the database: the changes if the program succeeds, else none. -/
def commit (p : Prog L D K ε α) (l : L) (d : D) : D :=
  match p.exec ⟨l, d, []⟩ with
  | (.ok _, s) => s.data
  | (.error _, _) => d

@[simp] lemma pure_eq (a : α) : (pure a : Prog L D K ε α) = ret a := rfl

@[simp] lemma bind_eq (p : Prog L D K ε α) (f : α → Prog L D K ε β) : p >>= f = p.bind f := rfl

@[simp] lemma exec_ret (a : α) (s : St L D) :
    (ret a : Prog L D K ε α).exec s = (.ok a, s) := rfl

@[simp] lemma exec_fail (e : ε) (s : St L D) :
    (fail e : Prog L D K ε α).exec s = (.error e, s) := rfl

/-- Running a sequence is running its parts one after the other. -/
theorem exec_bind (p : Prog L D K ε α) (f : α → Prog L D K ε β) (s : St L D) :
    (p.bind f).exec s =
      match p.exec s with
      | (.ok a, s') => (f a).exec s'
      | (.error e, s') => (.error e, s') := by
  induction p generalizing s with
  | ret a => rfl
  | fail e => rfl
  | read k ih => exact ih _ _ s
  | keep g k ih => exact ih _
  | write t eff k ih => exact ih _ _ _
  | mark k ih => exact ih _
  | forget k ih => exact ih _
  | rewind k ih => exact ih _

/-- An attempt keeps the state the error was raised in. -/
theorem exec_attempt (p : Prog L D K ε α) (h : ε → Prog L D K ε α) (s : St L D) :
    (p.attempt h).exec s =
      match p.exec s with
      | (.ok a, s') => (.ok a, s')
      | (.error e, s') => (h e).exec s' := by
  induction p generalizing s with
  | ret a => rfl
  | fail e => rfl
  | read k ih => exact ih _ _ s
  | keep g k ih => exact ih _
  | write t eff k ih => exact ih _ _ _
  | mark k ih => exact ih _
  | forget k ih => exact ih _
  | rewind k ih => exact ih _

/-! ### Weakest preconditions -/

/-- From `s` the program ends in `Q`, or fails in `E`. -/
def wp (p : Prog L D K ε α) (Q : α → St L D → Prop) (E : ε → St L D → Prop) (s : St L D) :
    Prop :=
  match p.exec s with
  | (.ok a, s') => Q a s'
  | (.error e, s') => E e s'

/-- What holds of every end of a run holds of the one it had. -/
lemma wp_of_exec {p : Prog L D K ε α} {Q : α → St L D → Prop} {E : ε → St L D → Prop}
    {s s' : St L D} {a : α} (hexec : p.exec s = (.ok a, s')) : wp p Q E s ↔ Q a s' := by
  rw [wp, hexec]

section wp

variable {Q : α → St L D → Prop} {E : ε → St L D → Prop} {s : St L D}

@[simp] lemma wp_ret {a : α} : wp (ret a : Prog L D K ε α) Q E s ↔ Q a s := Iff.rfl

@[simp] lemma wp_fail {e : ε} : wp (fail e : Prog L D K ε α) Q E s ↔ E e s := Iff.rfl

@[simp] lemma wp_query {f : L → D → α} :
    wp (query f : Prog L D K ε α) Q E s ↔ Q (f s.session s.data) s := Iff.rfl

@[simp] lemma wp_select {f : D → α} :
    wp (select f : Prog L D K ε α) Q E s ↔ Q (f s.data) s := Iff.rfl

@[simp] lemma wp_remember {f : L → L} {Q : Unit → St L D → Prop} :
    wp (remember f : Prog L D K ε Unit) Q E s ↔ Q () { s with session := f s.session } := Iff.rfl

@[simp] lemma wp_update {t : D → List K} {eff : List K → D → D} {r : List K → D → α} :
    wp (update t eff r : Prog L D K ε α) Q E s ↔
      Q (r (t s.data) s.data) { s with data := eff (t s.data) s.data } := Iff.rfl

@[simp] lemma wp_insert {eff : D → D} {Q : Unit → St L D → Prop} :
    wp (insert eff : Prog L D K ε Unit) Q E s ↔ Q () { s with data := eff s.data } := Iff.rfl

@[simp] theorem wp_bind {p : Prog L D K ε β} {f : β → Prog L D K ε α} :
    wp (p.bind f) Q E s ↔ wp p (fun b s' => wp (f b) Q E s') E s := by
  simp only [wp, exec_bind]
  cases p.exec s with
  | mk r s' => cases r <;> rfl

@[simp] theorem wp_attempt {p : Prog L D K ε α} {h : ε → Prog L D K ε α} :
    wp (p.attempt h) Q E s ↔ wp p Q (fun e s' => wp (h e) Q E s') s := by
  simp only [wp, exec_attempt]
  cases p.exec s with
  | mk r s' => cases r <;> rfl

@[simp] lemma wp_mark {p : Prog L D K ε α} :
    wp (mark p) Q E s ↔ wp p Q E { s with marks := s.data :: s.marks } := Iff.rfl

@[simp] lemma wp_forget {p : Prog L D K ε α} :
    wp (forget p) Q E s ↔ wp p Q E { s with marks := s.marks.tail } := Iff.rfl

@[simp] lemma wp_rewind {p : Prog L D K ε α} :
    wp (rewind p) Q E s ↔
      wp p Q E { s with data := s.marks.headD s.data, marks := s.marks.tail } := Iff.rfl

theorem wp_mono {p : Prog L D K ε α} {Q' : α → St L D → Prop} {E' : ε → St L D → Prop}
    (h : wp p Q E s) (hQ : ∀ a s', Q a s' → Q' a s') (hE : ∀ e s', E e s' → E' e s') :
    wp p Q' E' s := by
  unfold wp at h ⊢
  cases hp : p.exec s with
  | mk r s' =>
    rw [hp] at h
    cases r with
    | ok a => exact hQ a s' h
    | error e => exact hE e s' h

/-- A run has some end or other. -/
lemma wp_trivial (p : Prog L D K ε α) (s : St L D) : wp p (fun _ _ => True) (fun _ _ => True) s := by
  unfold wp
  split <;> trivial

/-- Two facts about the same run hold together. -/
theorem wp_and {p : Prog L D K ε α} {Q' : α → St L D → Prop} {E' : ε → St L D → Prop}
    (h : wp p Q E s) (h' : wp p Q' E' s) :
    wp p (fun a s' => Q a s' ∧ Q' a s') (fun e s' => E e s' ∧ E' e s') s := by
  unfold wp at h h' ⊢
  cases hp : p.exec s with
  | mk r s' =>
    rw [hp] at h h'
    cases r with
    | ok a => exact ⟨h, h'⟩
    | error e => exact ⟨h, h'⟩

/-- What a run leaves to its caller. -/
lemma commit_of_wp {p : Prog L D K ε α} {l : L} {d : D} {R : D → Prop}
    (h : wp p (fun _ s' => R s'.data) (fun _ _ => R d) ⟨l, d, []⟩) : R (p.commit l d) := by
  unfold wp at h
  unfold commit
  cases hp : p.exec ⟨l, d, []⟩ with
  | mk r s' =>
    rw [hp] at h
    cases r with
    | ok a => exact h
    | error e => exact h

/-- A run has failed and left nothing, or has left what holds of every success. -/
lemma commit_cases {p : Prog L D K ε α} {l : L} {d : D} {R : D → Prop}
    (h : wp p (fun _ s' => R s'.data) (fun _ _ => True) ⟨l, d, []⟩) :
    (p.exec ⟨l, d, []⟩).1.isOk = false ∧ p.commit l d = d ∨ R (p.commit l d) := by
  unfold wp at h
  unfold commit
  cases hp : p.exec ⟨l, d, []⟩ with
  | mk r s' =>
    rw [hp] at h
    cases r with
    | ok a => exact .inr h
    | error e => exact .inl ⟨rfl, rfl⟩

/-- What is known of every success is known of this one. -/
lemma commit_of_ok {p : Prog L D K ε α} {l : L} {d : D} {R : D → Prop}
    (h : wp p (fun _ s' => R s'.data) (fun _ _ => True) ⟨l, d, []⟩)
    (hok : (p.exec ⟨l, d, []⟩).1.isOk) : R (p.commit l d) := by
  rcases commit_cases h with ⟨hno, -⟩ | hR
  · rw [hno] at hok
    cases hok
  · exact hR

/-- What is known of every failure is known of this one. -/
lemma error_of_wp {p : Prog L D K ε α} {R : ε → Prop} {e : ε}
    (h : wp p (fun _ _ => True) (fun e _ => R e) s) (he : (p.exec s).1 = .error e) : R e := by
  unfold wp at h
  cases hp : p.exec s with
  | mk r s' =>
    rw [hp] at h he
    subst he
    exact h

/-- A run succeeds exactly if a condition holds. -/
lemma isOk_iff_of_wp {p : Prog L D K ε α} {P : Prop}
    (h : wp p (fun _ _ => P) (fun _ _ => ¬ P) s) : (p.exec s).1.isOk ↔ P := by
  unfold wp at h
  cases hp : p.exec s with
  | mk r s' =>
    rw [hp] at h
    cases r with
    | ok a => exact iff_of_true rfl h
    | error e => exact iff_of_false Bool.false_ne_true h

/-- A loop keeps an invariant that says what is left to do. -/
theorem wp_forEach {f : β → Prog L D K ε Unit} {I : List β → St L D → Prop} {xs : List β}
    (hs : I xs s)
    (step : ∀ x rest s, I (x :: rest) s → wp (f x) (fun _ => I rest) E s) :
    wp (forEach xs f) (fun _ => I []) E s := by
  induction xs generalizing s with
  | nil => exact hs
  | cons x rest ih =>
    rw [forEach, wp_bind]
    exact wp_mono (step x rest s hs) (fun _ _ h => ih h) fun _ _ h => h

/-- A loop keeps an invariant that says what is left to do and what has come of the rest. -/
theorem wp_collect {f : β → Prog L D K ε α} {I : List β → List α → St L D → Prop} {xs : List β}
    (hs : I xs [] s)
    (step : ∀ x rest done s, I (x :: rest) done s →
      wp (f x) (fun a => I rest (done ++ [a])) E s) :
    wp (collect xs f) (fun as => I [] as) E s := by
  suffices h : ∀ done s, I xs done s → wp (collect xs f) (fun as => I [] (done ++ as)) E s from
    h [] s hs
  clear hs
  induction xs with
  | nil =>
    intro done s h
    rw [collect, wp_ret, List.append_nil]
    exact h
  | cons x rest ih =>
    intro done s h
    rw [collect, wp_bind]
    refine wp_mono (step x rest done s h) (fun a s' h' => ?_) fun _ _ he => he
    rw [wp_bind]
    refine wp_mono (ih _ _ h') (fun as s'' h'' => ?_) fun _ _ he => he
    rwa [List.append_assoc] at h''

/-- A program that may fail anywhere maintains an invariant if all its steps do. -/
def Maintains (I : St L D → Prop) (p : Prog L D K ε α) : Prop :=
  ∀ s, I s → wp p (fun _ => I) (fun _ => I) s

variable {I : St L D → Prop}

@[simp] lemma Maintains.ret (a : α) : Maintains I (ret a : Prog L D K ε α) := fun _ h => h

@[simp] lemma Maintains.fail (e : ε) : Maintains I (fail e : Prog L D K ε α) := fun _ h => h

@[simp] lemma Maintains.select (f : D → α) : Maintains I (select f : Prog L D K ε α) :=
  fun _ h => h

@[simp] lemma Maintains.query (f : L → D → α) : Maintains I (query f : Prog L D K ε α) :=
  fun _ h => h

lemma Maintains.remember {f : L → L} (h : ∀ s, I s → I { s with session := f s.session }) :
    Maintains I (remember f : Prog L D K ε Unit) := h

lemma Maintains.bind {p : Prog L D K ε β} {f : β → Prog L D K ε α} (hp : Maintains I p)
    (hf : ∀ b, Maintains I (f b)) : Maintains I (p.bind f) := by
  intro s hs
  rw [wp_bind]
  exact wp_mono (hp s hs) (fun b s' h => hf b s' h) fun _ _ h => h

lemma Maintains.attempt {p : Prog L D K ε α} {h : ε → Prog L D K ε α} (hp : Maintains I p)
    (hh : ∀ e, Maintains I (h e)) : Maintains I (p.attempt h) := by
  intro s hs
  rw [wp_attempt]
  exact wp_mono (hp s hs) (fun _ _ h => h) fun e s' h' => hh e s' h'

lemma Maintains.forEach {f : β → Prog L D K ε Unit} {xs : List β}
    (hf : ∀ x ∈ xs, Maintains I (f x)) : Maintains I (forEach xs f) := by
  induction xs with
  | nil => exact .ret ()
  | cons x rest ih =>
    exact (hf x (by simp)).bind fun _ => ih fun y hy => hf y (List.mem_cons_of_mem x hy)

lemma Maintains.update {t : D → List K} {eff : List K → D → D} {r : List K → D → α}
    (h : ∀ s, I s → I { s with data := eff (t s.data) s.data }) :
    Maintains I (update t eff r : Prog L D K ε α) := h

lemma Maintains.insert {eff : D → D} (h : ∀ s, I s → I { s with data := eff s.data }) :
    Maintains I (insert eff : Prog L D K ε Unit) := h

end wp

/-- A nested program either succeeds or leaves the data as they were, its savepoint gone. -/
theorem wp_nested {p : Prog L D K ε α} {h : ε → Prog L D K ε α} {Q : α → St L D → Prop}
    {E : ε → St L D → Prop} {s : St L D} :
    wp (nested p h) Q E s ↔
      wp p (fun a s' => Q a { s' with marks := s'.marks.tail })
        (fun e s' => wp (h e) Q E
          { s' with data := s'.marks.headD s'.data, marks := s'.marks.tail })
        { s with marks := s.data :: s.marks } := by
  simp [nested]

/-- The data are so, now and at each savepoint. -/
def Everywhere (P : D → Prop) (s : St L D) : Prop := P s.data ∧ ∀ d ∈ s.marks, P d

lemma Maintains.nested {P : D → Prop} {p : Prog L D K ε α} {h : ε → Prog L D K ε α}
    (hp : Maintains (Everywhere P) p) (hh : ∀ e, Maintains (Everywhere P) (h e)) :
    Maintains (Everywhere P) (nested p h) := by
  have htail : ∀ s' : St L D, Everywhere P s' → ∀ d ∈ s'.marks.tail, P d := fun s' hs' d hd =>
    hs'.2 d (List.mem_of_mem_tail hd)
  intro s hs
  rw [wp_nested]
  refine wp_mono (hp _ ⟨hs.1, List.forall_mem_cons.mpr hs⟩) (fun _ s' h' => ⟨h'.1, htail s' h'⟩)
    fun e s' h' => hh e _ ⟨?_, htail s' h'⟩
  cases hmarks : s'.marks with
  | nil => exact h'.1
  | cons d ds => exact h'.2 d (hmarks ▸ List.mem_cons_self)

/-! ### Statements that fail -/

/-- The program whose connection breaks at the `n`-th statement from here. -/
def cutAt (e : ε) : ℕ → Prog L D K ε α → Prog L D K ε α
  | 0, _ => fail e
  | _ + 1, ret a => ret a
  | _ + 1, fail e' => fail e'
  | n + 1, read k => read fun l d => (k l d).cutAt e n
  | n + 1, keep f k => keep f (k.cutAt e n)
  | n + 1, write t eff k => write t eff fun ts d => (k ts d).cutAt e n
  | n + 1, mark k => mark (k.cutAt e n)
  | n + 1, forget k => forget (k.cutAt e n)
  | n + 1, rewind k => rewind (k.cutAt e n)

/-- The connection holds to the end of the run, or the run fails with its error. -/
lemma exec_cutAt (e : ε) (n : ℕ) (p : Prog L D K ε α) (s : St L D) :
    (p.cutAt e n).exec s = p.exec s ∨ ∃ s', (p.cutAt e n).exec s = (.error e, s') := by
  induction n generalizing p s with
  | zero => exact .inr ⟨s, rfl⟩
  | succ n ih =>
    cases p with
    | ret a => exact .inl rfl
    | fail e' => exact .inl rfl
    | read k => exact ih _ s
    | keep f k => exact ih _ _
    | write t eff k => exact ih _ _
    | mark k => exact ih _ _
    | forget k => exact ih _ _
    | rewind k => exact ih _ _

/-- A program without savepoints. It changes the session in steps of `R` only. -/
def Plain (R : L → L → Prop) : Prog L D K ε α → Prop
  | ret _ => True
  | fail _ => True
  | read k => ∀ l d, (k l d).Plain R
  | keep f k => (∀ l, R l (f l)) ∧ k.Plain R
  | write _ _ k => ∀ ts d, (k ts d).Plain R
  | mark _ => False
  | forget _ => False
  | rewind _ => False

section plain

variable {R : L → L → Prop} {p : Prog L D K ε α}

@[simp] lemma Plain.ret (a : α) : (ret a : Prog L D K ε α).Plain R := trivial

@[simp] lemma Plain.fail (e : ε) : (fail e : Prog L D K ε α).Plain R := trivial

@[simp] lemma Plain.query (f : L → D → α) : (query f : Prog L D K ε α).Plain R :=
  fun _ _ => trivial

@[simp] lemma Plain.select (f : D → α) : (select f : Prog L D K ε α).Plain R := fun _ _ => trivial

@[simp] lemma Plain.update (t : D → List K) (eff : List K → D → D) (r : List K → D → α) :
    (update t eff r : Prog L D K ε α).Plain R := fun _ _ => trivial

lemma Plain.remember {f : L → L} (h : ∀ l, R l (f l)) :
    (remember f : Prog L D K ε Unit).Plain R := ⟨h, trivial⟩

lemma Plain.bind {q : Prog L D K ε β} {f : β → Prog L D K ε α} (hq : q.Plain R)
    (hf : ∀ b, (f b).Plain R) : (q.bind f).Plain R := by
  induction q with
  | ret b => exact hf b
  | fail e => trivial
  | read k ih => exact fun l d => ih l d (hq l d)
  | keep g k ih => exact ⟨hq.1, ih hq.2⟩
  | write t eff k ih => exact fun ts d => ih ts d (hq ts d)
  | mark k => exact hq.elim
  | forget k => exact hq.elim
  | rewind k => exact hq.elim

/-- Fewer steps of the session are among more. -/
lemma Plain.mono {R' : L → L → Prop} (hp : p.Plain R) (h : ∀ l l', R l l' → R' l l') :
    p.Plain R' := by
  induction p with
  | ret a => trivial
  | fail e => trivial
  | read k ih => exact fun l d => ih l d (hp l d)
  | keep f k ih => exact ⟨fun l => h _ _ (hp.1 l), ih hp.2⟩
  | write t eff k ih => exact fun ts d => ih ts d (hp ts d)
  | mark k => exact hp.elim
  | forget k => exact hp.elim
  | rewind k => exact hp.elim

lemma Plain.cutAt (hp : p.Plain R) (e : ε) (n : ℕ) : (p.cutAt e n).Plain R := by
  induction n generalizing p with
  | zero => trivial
  | succ n ih =>
    cases p with
    | ret a => trivial
    | fail e' => trivial
    | read k => exact fun l d => ih (hp l d)
    | keep f k => exact ⟨hp.1, ih hp.2⟩
    | write t eff k => exact fun ts d => ih (hp ts d)
    | mark k => exact hp.elim
    | forget k => exact hp.elim
    | rewind k => exact hp.elim

/-- Wherever such a program ends, its savepoints are those that it began with. -/
theorem Plain.wp (hp : p.Plain R) (hrefl : ∀ l, R l l) (htrans : ∀ {l l' l''}, R l l' → R l' l'' →
    R l l'') (s : St L D) :
    p.wp (fun _ s' => R s.session s'.session ∧ s'.marks = s.marks)
      (fun _ s' => R s.session s'.session ∧ s'.marks = s.marks) s := by
  induction p generalizing s with
  | ret a => exact ⟨hrefl _, rfl⟩
  | fail e => exact ⟨hrefl _, rfl⟩
  | read k ih => exact ih _ _ (hp _ _) s
  | keep f k ih =>
    refine wp_mono (ih hp.2 { s with session := f s.session }) (fun _ s' h => ?_) fun _ s' h => ?_
    · exact ⟨htrans (hp.1 _) h.1, h.2⟩
    · exact ⟨htrans (hp.1 _) h.1, h.2⟩
  | write t eff k ih => exact ih _ _ (hp _ _) _
  | mark k => exact hp.elim
  | forget k => exact hp.elim
  | rewind k => exact hp.elim

/-- What holds of a run and wherever it can be cut holds of a run that is cut. -/
theorem wp_cutAt {Q : α → St L D → Prop} {E : ε → St L D → Prop} {s : St L D} {e : ε} {n : ℕ}
    (hp : p.Plain R) (hrefl : ∀ l, R l l)
    (htrans : ∀ {l l' l''}, R l l' → R l' l'' → R l l'') (h : p.wp Q E s)
    (he : ∀ s', R s.session s'.session → s'.marks = s.marks → E e s') :
    (p.cutAt e n).wp Q E s := by
  rcases exec_cutAt e n p s with hsame | ⟨s', hcut⟩
  · rw [Prog.wp, hsame]
    exact h
  · have hplain := (hp.cutAt e n).wp hrefl htrans s
    rw [Prog.wp, hcut] at hplain ⊢
    exact he s' hplain.1 hplain.2

end plain

end Prog

end Transaction
