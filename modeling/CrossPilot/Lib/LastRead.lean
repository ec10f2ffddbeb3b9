import CrossPilot.Lib.Outline

/-!
# Rows that are read and later locked

A transaction reads a row, locks it some statements later, and writes what it has computed from the
value it has read. Under READ COMMITTED somebody else may have written the row in between.

`Prog.Heeds` follows a program with what it knows of the row: the value at its last read before the
lock, and from the lock on the value that was found and what its own changes have made of it, also
at each savepoint. If a program that finds a final value when it locks the row, and has read it,
leaves it as it is, then final values stay in every interleaving in which each lock finds what was
read or a value that is not final (`World.final_stays`). One transaction may be the one that adds
the row; nothing else is asked of it.
-/

namespace Transaction

open Tx

variable {L D K V ε α β ι : Type}

/-- A row: its lock, the value that data have there, and which values are final. -/
structure Row (D K V : Type) where
  lock : K
  seen : D → V
  /-- The value where there is no such row. -/
  absent : V
  Final : V → Prop

/-- What a transaction knows of a row. -/
structure Knowledge (L V : Type) where
  session : L
  /-- The value at the last read before the lock. -/
  read : V
  /-- Under the lock: the value that was found, and what it has become. -/
  held : Option (V × V) := none
  /-- `held` at each savepoint. -/
  marks : List (Option (V × V)) := []

namespace Knowledge

variable (row : Row D K V) (σ : Knowledge L V)

/-- The data as the transaction sees them, with its own changes. -/
def Sees (d : D) : Prop := ∀ y ∈ σ.held, row.seen d = y.2

/-- A read without the lock. -/
def looked (v : V) : Knowledge L V := if σ.held = none then { σ with read := v } else σ

lemma looked_of_none (h : σ.held = none) (v : V) : σ.looked v = { σ with read := v } := if_pos h

lemma looked_of_some {y : V × V} (h : σ.held = some y) (v : V) : σ.looked v = σ :=
  if_neg (by simp [h])

@[simp] lemma session_looked (v : V) : (σ.looked v).session = σ.session := by
  unfold looked
  split <;> rfl

@[simp] lemma held_looked (v : V) : (σ.looked v).held = σ.held := by
  unfold looked
  split <;> rfl

@[simp] lemma marks_looked (v : V) : (σ.looked v).marks = σ.marks := by
  unfold looked
  split <;> rfl

/-- The value that was seen last. -/
def current : V := σ.held.elim σ.read Prod.snd

/-- What the lock may find: the value that was read, or one that is not final. -/
def Finds (y : V × V) : Prop :=
  match σ.held with
  | none => y.1 = y.2 ∧ y.1 ≠ row.absent ∧ (y.1 = σ.read ∨ ¬ row.Final y.1)
  | some held => y = held

/-- A final value that was found is as it was, and no row has vanished. -/
def Keeps : Prop := ∀ y ∈ σ.held, y.2 ≠ row.absent ∧ (row.Final y.1 → y.2 = y.1)

end Knowledge

section heeding

variable (row : Row D K V)

namespace Prog

/-- The program only locks the row when it has seen it, and ends in `Q` or fails in `E`, with what it
knows by then. -/
def Heeds : Prog L D K ε α → (α → Knowledge L V → Prop) → (ε → Knowledge L V → Prop) →
    Knowledge L V → Prop
  | .ret a, Q, _, σ => Q a σ
  | .fail e, _, E, σ => E e σ
  | .read k, Q, E, σ => ∀ d, σ.Sees row d → (k σ.session d).Heeds Q E (σ.looked (row.seen d))
  | .keep f k, Q, E, σ => k.Heeds Q E { σ with session := f σ.session }
  | .write t eff k, Q, E, σ => ∀ d, σ.Sees row d →
      (row.lock ∉ t d → (∀ d', row.seen (eff (t d) d') = row.seen d') ∧
        ∀ d', σ.Sees row d' → (k (t d) d').Heeds Q E σ) ∧
      (row.lock ∈ t d → (σ.held = none → σ.read ≠ row.absent) ∧
        ∃ g : V → V, (∀ d', row.seen (eff (t d) d') = g (row.seen d')) ∧
          ∀ y, σ.Finds row y → ∀ d', row.seen d' = y.2 →
            (k (t d) d').Heeds Q E { σ with held := some (y.1, g y.2) })
  | .mark k, Q, E, σ => k.Heeds Q E { σ with marks := σ.held :: σ.marks }
  | .forget k, Q, E, σ => k.Heeds Q E { σ with marks := σ.marks.tail }
  | .rewind k, Q, E, σ => k.Heeds Q E
      { σ with held := σ.marks.headD σ.held, marks := σ.marks.tail }

/-- A statement whose targets are chosen. -/
def HeedsWait (ts : List K) (eff : D → D) (k : D → Prog L D K ε α)
    (Q : α → Knowledge L V → Prop) (E : ε → Knowledge L V → Prop) (σ : Knowledge L V) : Prop :=
  (row.lock ∉ ts → (∀ d, row.seen (eff d) = row.seen d) ∧
    ∀ d, σ.Sees row d → (k d).Heeds row Q E σ) ∧
  (row.lock ∈ ts → (σ.held = none → σ.read ≠ row.absent) ∧
    ∃ g : V → V, (∀ d, row.seen (eff d) = g (row.seen d)) ∧
      ∀ y, σ.Finds row y → ∀ d, row.seen d = y.2 →
        (k d).Heeds row Q E { σ with held := some (y.1, g y.2) })

variable {row} {Q : α → Knowledge L V → Prop} {E : ε → Knowledge L V → Prop}
  {σ : Knowledge L V}

@[simp] lemma heeds_ret {a : α} :
    (ret a : Prog L D K ε α).Heeds row Q E σ ↔ Q a σ := Iff.rfl

@[simp] lemma heeds_fail {e : ε} :
    (fail e : Prog L D K ε α).Heeds row Q E σ ↔ E e σ := Iff.rfl

@[simp] lemma heeds_query {f : L → D → α} :
    (query f : Prog L D K ε α).Heeds row Q E σ ↔
      ∀ d, σ.Sees row d → Q (f σ.session d) (σ.looked (row.seen d)) := Iff.rfl

@[simp] lemma heeds_select {f : D → α} :
    (select f : Prog L D K ε α).Heeds row Q E σ ↔
      ∀ d, σ.Sees row d → Q (f d) (σ.looked (row.seen d)) := Iff.rfl

@[simp] lemma heeds_remember {f : L → L} {Q : Unit → Knowledge L V → Prop} :
    (remember f : Prog L D K ε Unit).Heeds row Q E σ ↔
      Q () { σ with session := f σ.session } := Iff.rfl

@[simp] theorem heeds_bind {p : Prog L D K ε β} {f : β → Prog L D K ε α} :
    (p.bind f).Heeds row Q E σ ↔
      p.Heeds row (fun b => (f b).Heeds row Q E) E σ := by
  induction p generalizing σ with
  | ret b => rfl
  | fail e => rfl
  | read k ih => simp only [Prog.bind, Heeds, ih]
  | keep g k ih => exact ih
  | write t eff k ih => simp only [Prog.bind, Heeds, ih]
  | mark k ih => exact ih
  | forget k ih => exact ih
  | rewind k ih => exact ih

@[simp] theorem heeds_attempt {p : Prog L D K ε α} {h : ε → Prog L D K ε α} :
    (p.attempt h).Heeds row Q E σ ↔
      p.Heeds row Q (fun e => (h e).Heeds row Q E) σ := by
  induction p generalizing σ with
  | ret b => rfl
  | fail e => rfl
  | read k ih => simp only [Prog.attempt, Heeds, ih]
  | keep g k ih => exact ih
  | write t eff k ih => simp only [Prog.attempt, Heeds, ih]
  | mark k ih => exact ih
  | forget k ih => exact ih
  | rewind k ih => exact ih

/-- A nested program succeeds, or what is held is as it was at the savepoint. -/
theorem heeds_nested {p : Prog L D K ε α} {h : ε → Prog L D K ε α} :
    (nested p h).Heeds row Q E σ ↔
      p.Heeds row (fun a σ' => Q a { σ' with marks := σ'.marks.tail })
        (fun e σ' => (h e).Heeds row Q E
          { σ' with held := σ'.marks.headD σ'.held, marks := σ'.marks.tail })
        { σ with marks := σ.held :: σ.marks } := by
  simp only [nested, Heeds, heeds_attempt, heeds_bind]

theorem heeds_mono {p : Prog L D K ε α} {Q' : α → Knowledge L V → Prop}
    {E' : ε → Knowledge L V → Prop} (h : p.Heeds row Q E σ)
    (hQ : ∀ a σ', Q a σ' → Q' a σ') (hE : ∀ e σ', E e σ' → E' e σ') :
    p.Heeds row Q' E' σ := by
  induction p generalizing σ with
  | ret a => exact hQ _ _ h
  | fail e => exact hE _ _ h
  | read k ih => exact fun d hd => ih _ _ (h d hd)
  | keep g k ih => exact ih h
  | write t eff k ih =>
    intro d hd
    obtain ⟨hother, hrow⟩ := h d hd
    constructor
    · intro hκ
      exact ⟨(hother hκ).1, fun d' hd' => ih _ _ ((hother hκ).2 d' hd')⟩
    · intro hκ
      obtain ⟨hread, g, hg, hk⟩ := hrow hκ
      exact ⟨hread, g, hg, fun y hy d' hd' => ih _ _ (hk y hy d' hd')⟩
  | mark k ih => exact ih h
  | forget k ih => exact ih h
  | rewind k ih => exact ih h

/-- A statement on other rows. -/
lemma heeds_update_aside {t : D → List K} {eff : List K → D → D} {r : List K → D → α}
    (ht : ∀ d, row.lock ∉ t d) (heff : ∀ ts d, row.seen (eff ts d) = row.seen d)
    (hQ : ∀ a, Q a σ) : (update t eff r : Prog L D K ε α).Heeds row Q E σ :=
  fun d _ => ⟨fun _ => ⟨heff _, fun _ _ => hQ _⟩, fun hlock => absurd hlock (ht d)⟩

/-- What a program leaves is what the next one begins with. -/
theorem Heeds.bind {p : Prog L D K ε β} {f : β → Prog L D K ε α}
    {Q' : β → Knowledge L V → Prop} (hp : p.Heeds row Q' E σ)
    (hf : ∀ b σ', Q' b σ' → (f b).Heeds row Q E σ') : (p.bind f).Heeds row Q E σ :=
  heeds_bind.mpr (heeds_mono hp hf fun _ _ h => h)

/-- What each element keeps is kept by all. -/
theorem heeds_forEach {f : β → Prog L D K ε Unit} {I : Knowledge L V → Prop} {xs : List β}
    (step : ∀ x ∈ xs, ∀ σ, I σ → (f x).Heeds row (fun _ => I) E σ) (hσ : I σ) :
    (forEach xs f).Heeds row (fun _ => I) E σ := by
  induction xs generalizing σ with
  | nil => exact hσ
  | cons x rest ih =>
    rw [forEach, heeds_bind]
    apply heeds_mono (step x (by simp) σ hσ) _ fun _ _ h => h
    intro _ σ' hσ'
    exact ih (fun y hy => step y (List.mem_cons_of_mem x hy)) hσ'

/-! ### Programs that leave the row alone -/

variable (row) in
/-- The program has no savepoints and neither locks nor changes the row. It changes the session in
steps of `R` only. -/
def Spares (R : L → L → Prop) : Prog L D K ε α → Prop
  | .ret _ => True
  | .fail _ => True
  | .read k => ∀ l d, (k l d).Spares R
  | .keep f k => (∀ l, R l (f l)) ∧ k.Spares R
  | .write t eff k => (∀ d, row.lock ∉ t d) ∧ (∀ ts d, row.seen (eff ts d) = row.seen d) ∧
      ∀ ts d, (k ts d).Spares R
  | .mark _ => False
  | .forget _ => False
  | .rewind _ => False

section spares

variable {R : L → L → Prop} {p : Prog L D K ε α}

@[simp] lemma Spares.ret (a : α) : (ret a : Prog L D K ε α).Spares row R := trivial

@[simp] lemma Spares.fail (e : ε) : (fail e : Prog L D K ε α).Spares row R := trivial

@[simp] lemma Spares.query (f : L → D → α) : (query f : Prog L D K ε α).Spares row R :=
  fun _ _ => trivial

@[simp] lemma Spares.select (f : D → α) : (select f : Prog L D K ε α).Spares row R :=
  fun _ _ => trivial

lemma Spares.remember {f : L → L} (h : ∀ l, R l (f l)) :
    (remember f : Prog L D K ε Unit).Spares row R := ⟨h, trivial⟩

lemma Spares.update {t : D → List K} {eff : List K → D → D} {r : List K → D → α}
    (ht : ∀ d, row.lock ∉ t d) (heff : ∀ ts d, row.seen (eff ts d) = row.seen d) :
    (update t eff r : Prog L D K ε α).Spares row R := ⟨ht, heff, fun _ _ => trivial⟩

lemma Spares.insert {eff : D → D} (heff : ∀ d, row.seen (eff d) = row.seen d) :
    (insert eff : Prog L D K ε Unit).Spares row R :=
  .update (fun _ => List.not_mem_nil) fun _ => heff

lemma Spares.bind {q : Prog L D K ε β} {f : β → Prog L D K ε α} (hq : q.Spares row R)
    (hf : ∀ b, (f b).Spares row R) : (q.bind f).Spares row R := by
  induction q with
  | ret b => exact hf b
  | fail e => trivial
  | read k ih => exact fun l d => ih l d (hq l d)
  | keep g k ih => exact ⟨hq.1, ih hq.2⟩
  | write t eff k ih => exact ⟨hq.1, hq.2.1, fun ts d => ih ts d (hq.2.2 ts d)⟩
  | mark k => exact hq.elim
  | forget k => exact hq.elim
  | rewind k => exact hq.elim

lemma Spares.forEach {f : β → Prog L D K ε Unit} {xs : List β}
    (hf : ∀ x ∈ xs, (f x).Spares row R) : (forEach xs f).Spares row R := by
  induction xs with
  | nil => exact .ret ()
  | cons x rest ih =>
    exact (hf x (by simp)).bind fun _ => ih fun y hy => hf y (List.mem_cons_of_mem x hy)

/-- What is held stays so. -/
theorem Spares.heeds (hp : p.Spares row R) (hrefl : ∀ l, R l l)
    (htrans : ∀ {l l' l''}, R l l' → R l' l'' → R l l'')
    (hQ : ∀ a σ', R σ.session σ'.session → σ'.held = σ.held → σ'.marks = σ.marks → Q a σ')
    (hE : ∀ e σ', R σ.session σ'.session → σ'.held = σ.held → σ'.marks = σ.marks → E e σ') :
    p.Heeds row Q E σ := by
  induction p generalizing σ with
  | ret a => exact hQ a σ (hrefl _) rfl rfl
  | fail e => exact hE e σ (hrefl _) rfl rfl
  | read k ih =>
    intro d _
    apply ih _ _ (hp _ _)
    · intro a σ' h
      simpa using hQ a σ' (by simpa using h)
    · intro e σ' h
      simpa using hE e σ' (by simpa using h)
  | keep f k ih =>
    apply ih hp.2
    · exact fun a σ' h => hQ a σ' (htrans (hp.1 _) h)
    · exact fun e σ' h => hE e σ' (htrans (hp.1 _) h)
  | write t eff k ih =>
    intro d _
    refine ⟨fun _ => ⟨hp.2.1 _, fun d' _ => ih _ _ (hp.2.2 _ _) hQ hE⟩, fun hκ => ?_⟩
    exact absurd hκ (hp.1 d)
  | mark k => exact hp.elim
  | forget k => exact hp.elim
  | rewind k => exact hp.elim

/-- Run alone, such a program ends with the row as it was. -/
theorem Spares.wp (hp : p.Spares row R) (hrefl : ∀ l, R l l)
    (htrans : ∀ {l l' l''}, R l l' → R l' l'' → R l l'') (s : St L D) :
    p.wp (fun _ s' => row.seen s'.data = row.seen s.data ∧ R s.session s'.session ∧
        s'.marks = s.marks)
      (fun _ s' => row.seen s'.data = row.seen s.data ∧ R s.session s'.session ∧
        s'.marks = s.marks) s := by
  induction p generalizing s with
  | ret a => exact ⟨rfl, hrefl _, rfl⟩
  | fail e => exact ⟨rfl, hrefl _, rfl⟩
  | read k ih => exact ih _ _ (hp _ _) s
  | keep f k ih =>
    refine wp_mono (ih hp.2 { s with session := f s.session }) (fun _ s' h => ?_) fun _ s' h => ?_
    · exact ⟨h.1, htrans (hp.1 _) h.2.1, h.2.2⟩
    · exact ⟨h.1, htrans (hp.1 _) h.2.1, h.2.2⟩
  | write t eff k ih =>
    have hseen := hp.2.1 (t s.data) s.data
    refine wp_mono (ih _ _ (hp.2.2 _ _) { s with data := eff (t s.data) s.data })
      (fun _ s' h => ?_) fun _ s' h => ?_
    · exact ⟨h.1.trans hseen, h.2⟩
    · exact ⟨h.1.trans hseen, h.2⟩
  | mark k => exact hp.elim
  | forget k => exact hp.elim
  | rewind k => exact hp.elim

lemma Spares.maintains (hp : p.Spares row R) (hrefl : ∀ l, R l l)
    (htrans : ∀ {l l' l''}, R l l' → R l' l'' → R l l'') (v : V) :
    Maintains (Everywhere fun d => row.seen d = v) p := by
  intro s hs
  refine wp_mono (hp.wp hrefl htrans s) (fun _ s' h => ?_) fun _ s' h => ?_
  · exact ⟨h.1.trans hs.1, h.2.2 ▸ hs.2⟩
  · exact ⟨h.1.trans hs.1, h.2.2 ▸ hs.2⟩

end spares

end Prog

end heeding

/-! ### Single steps -/

section transactions

variable (row : Row D K V)

/-- The changes and locks of a transaction are what it knows. -/
def Backs (changes : D → D) (locks : List K) : Option (V × V) → Prop
  | none => row.lock ∉ locks ∧ ∀ d, row.seen (changes d) = row.seen d
  | some y => row.lock ∈ locks ∧ ∀ d, row.seen d = y.1 → row.seen (changes d) = y.2

/-- So are those at each savepoint. -/
def Stacked : List ((D → D) × ℕ) → List K → List (Option (V × V)) → Prop
  | [], _, [] => True
  | m :: ms, locks, h :: hs => m.2 ≤ locks.length ∧
      Backs row m.1 (locks.drop (locks.length - m.2)) h ∧
      Stacked ms (locks.drop (locks.length - m.2)) hs
  | _, _, _ => False

variable {row}

/-- New locks do not matter to the savepoints. -/
lemma Stacked.append {ms : List ((D → D) × ℕ)} {locks : List K} {hs : List (Option (V × V))}
    (h : Stacked row ms locks hs) (ts : List K) : Stacked row ms (ts ++ locks) hs := by
  cases ms with
  | nil => cases hs with
    | nil => trivial
    | cons x hs => exact h
  | cons m ms => cases hs with
    | nil => exact h
    | cons x hs =>
      obtain ⟨hle, hrest⟩ := h
      have hdrop : (ts ++ locks).drop ((ts ++ locks).length - m.2) =
          locks.drop (locks.length - m.2) := by
        rw [List.length_append, Nat.add_sub_assoc hle, List.drop_append, List.drop_eq_nil_of_le]
        · simp
        · simp
      refine ⟨?_, ?_⟩
      · rw [List.length_append]
        exact hle.trans (Nat.le_add_left _ _)
      · rw [hdrop]
        exact hrest

/-- Where a savepoint has the lock, the transaction has it still. -/
lemma Stacked.lock_mem {ms : List ((D → D) × ℕ)} {locks : List K} {hs : List (Option (V × V))}
    (h : Stacked row ms locks hs) {y : V × V} (hy : some y ∈ hs) : row.lock ∈ locks := by
  induction ms generalizing locks hs with
  | nil => cases hs with
    | nil => cases hy
    | cons x hs => exact h.elim
  | cons m ms ih => cases hs with
    | nil => exact h.elim
    | cons x hs =>
      obtain ⟨-, hbacks, hrest⟩ := h
      rcases List.mem_cons.mp hy with rfl | hy
      · exact List.mem_of_mem_drop hbacks.1
      · exact List.mem_of_mem_drop (ih hrest hy)

variable (row)

/-- The committed data `d` and a transaction are as it knows. -/
structure Knows (d : D) (x : Tx L D K ε α) (v : V) (σ : Knowledge L V) : Prop where
  session : σ.session = x.session
  read : σ.read = v
  backs : Backs row x.changes x.locks σ.held
  stacked : Stacked row x.marks x.locks σ.marks
  found : ∀ h ∈ σ.held :: σ.marks, ∀ y ∈ h, row.seen d = y.1 ∧ y.1 ≠ row.absent
  there : v ≠ row.absent → row.seen d ≠ row.absent

/-- A transaction on its way: it ends with nothing that is final changed. -/
def Heeding (d : D) (x : Tx L D K ε α) (v : V) : Prop :=
  ∃ σ, Knows row d x v σ ∧
    match x.point with
    | .run p => p.Heeds row (fun _ σ => σ.Keeps row) (fun _ _ => True) σ
    | .wait ts eff k => Prog.HeedsWait row ts (eff ts) (k ts) (fun _ σ => σ.Keeps row)
        (fun _ _ => True) σ
    | .done _ => False

/-- What comes of the committed data when a transaction with these locks ends. -/
structure Commits (locks : List K) (d d' : D) : Prop where
  unlocked : row.lock ∉ locks → row.seen d' = row.seen d
  final : row.Final (row.seen d) → row.seen d' = row.seen d
  there : row.seen d' = row.absent ↔ row.seen d = row.absent

lemma Commits.refl (locks : List K) (d : D) : Commits row locks d d :=
  ⟨fun _ => rfl, fun _ => rfl, Iff.rfl⟩

variable {row} {d : D} {x : Tx L D K ε α} {v : V} {σ : Knowledge L V}

/-- The savepoints but the last one. -/
lemma Stacked.tail {ms : List ((D → D) × ℕ)} {locks : List K} {hs : List (Option (V × V))}
    (h : Stacked row ms locks hs) : Stacked row ms.tail locks hs.tail := by
  cases ms with
  | nil => cases hs with
    | nil => trivial
    | cons x hs => exact h.elim
  | cons m ms => cases hs with
    | nil => exact h.elim
    | cons x hs =>
      have hrest := h.2.2.append (locks.take (locks.length - m.2))
      rwa [List.take_append_drop] at hrest

/-- What is held is held under the lock. -/
lemma Knows.lock_mem (h : Knows row d x v σ) {o : Option (V × V)} (ho : o ∈ σ.held :: σ.marks)
    {y : V × V} (hy : y ∈ o) : row.lock ∈ x.locks := by
  obtain rfl := Option.mem_def.mp hy
  rcases List.mem_cons.mp ho with ho | ho
  · have hbacks := h.backs
    rw [← ho] at hbacks
    exact hbacks.1
  · exact h.stacked.lock_mem ho

lemma Knows.sees (h : Knows row d x v σ) : σ.Sees row (x.changes d) := by
  intro y hy
  have hbacks := h.backs
  rw [Option.mem_def.mp hy] at hbacks
  exact hbacks.2 d (h.found σ.held List.mem_cons_self y hy).1

/-- What a commit of others leaves a transaction. -/
lemma Heeding.mono {d' : D} (h : Heeding row d x v)
    (hlock : row.lock ∈ x.locks → row.seen d' = row.seen d)
    (hthere : row.seen d ≠ row.absent → row.seen d' ≠ row.absent) : Heeding row d' x v := by
  obtain ⟨σ, hknows, hpoint⟩ := h
  refine ⟨σ, ⟨hknows.session, hknows.read, hknows.backs, hknows.stacked, ?_, ?_⟩, hpoint⟩
  · intro o ho y hy
    rw [hlock (hknows.lock_mem ho hy)]
    exact hknows.found o ho y hy
  · exact fun hread => hthere (hknows.there hread)

/-- Nobody has the lock of a row that is not there. -/
lemma Heeding.unlocked (h : Heeding row d x v) (habsent : row.seen d = row.absent) :
    row.lock ∉ x.locks := by
  obtain ⟨σ, hknows, -⟩ := h
  cases hheld : σ.held with
  | none =>
    have hbacks := hknows.backs
    rw [hheld] at hbacks
    exact hbacks.1
  | some y =>
    obtain ⟨hfound, hne⟩ := hknows.found σ.held List.mem_cons_self y hheld
    exact absurd (hfound.symm.trans habsent) hne

section knows

variable {p p' : Point L D K ε α} {l : L} {c : D → D} {ls : List K} {ms : List ((D → D) × ℕ)}

/-- A read without the lock is remembered. -/
lemma Knows.look (h : Knows row d ⟨p, l, c, ls, ms⟩ v σ) (hheld : σ.held = none) :
    Knows row d ⟨p', l, c, ls, ms⟩ (row.seen (c d)) { σ with read := row.seen (c d) } := by
  have hbacks := h.backs
  rw [hheld] at hbacks
  refine ⟨h.session, rfl, h.backs, h.stacked, h.found, ?_⟩
  rw [hbacks.2]
  exact id

lemma Knows.mark (h : Knows row d ⟨p, l, c, ls, ms⟩ v σ) :
    Knows row d ⟨p', l, c, ls, (c, ls.length) :: ms⟩ v { σ with marks := σ.held :: σ.marks } := by
  refine ⟨h.session, h.read, h.backs, ?_, ?_, h.there⟩
  · refine ⟨le_refl _, ?_⟩
    rw [Nat.sub_self, List.drop_zero]
    exact ⟨h.backs, h.stacked⟩
  · exact List.forall_mem_cons.mpr ⟨h.found σ.held List.mem_cons_self, h.found⟩

lemma Knows.forget (h : Knows row d ⟨p, l, c, ls, ms⟩ v σ) :
    Knows row d ⟨p', l, c, ls, ms.tail⟩ v { σ with marks := σ.marks.tail } := by
  refine ⟨h.session, h.read, h.backs, h.stacked.tail, ?_, h.there⟩
  obtain ⟨hheld, hmarks⟩ := List.forall_mem_cons.mp h.found
  exact List.forall_mem_cons.mpr ⟨hheld, fun o ho => hmarks o (List.mem_of_mem_tail ho)⟩

/-- Back at a savepoint the transaction has the changes and locks that it had there. -/
lemma Knows.rewind (h : Knows row d ⟨p, l, c, ls, ms⟩ v σ) :
    Knows row d ⟨p', l, (ms.map Prod.fst).headD c,
      ls.drop (ls.length - (ms.map Prod.snd).headD ls.length), ms.tail⟩ v
      { σ with held := σ.marks.headD σ.held, marks := σ.marks.tail } := by
  obtain ⟨l', v', held, hs⟩ := σ
  obtain ⟨hsession, hread, hbacks, hstacked, hfound, hthere⟩ := h
  dsimp only at hsession hread hbacks hstacked hfound hthere ⊢
  cases ms with
  | nil => cases hs with
    | nil =>
      refine ⟨hsession, hread, ?_, trivial, hfound, hthere⟩
      simpa using hbacks
    | cons o hs => exact hstacked.elim
  | cons m ms => cases hs with
    | nil => exact hstacked.elim
    | cons o hs =>
      obtain ⟨-, hmark, hrest⟩ := hstacked
      exact ⟨hsession, hread, hmark, hrest, (List.forall_mem_cons.mp hfound).2, hthere⟩

/-- A change of other rows. -/
lemma Knows.aside (h : Knows row d ⟨p, l, c, ls, ms⟩ v σ) {ts : List K} {eff : D → D}
    (hts : row.lock ∉ ts) (hsame : ∀ d, row.seen (eff d) = row.seen d) :
    Knows row d ⟨p', l, eff ∘ c, ts ++ ls, ms⟩ v σ := by
  refine ⟨h.session, h.read, ?_, h.stacked.append ts, h.found, h.there⟩
  have hbacks := h.backs
  cases hheld : σ.held with
  | none =>
    rw [hheld] at hbacks
    refine ⟨?_, fun d' => (hsame (c d')).trans (hbacks.2 d')⟩
    exact fun hmem => (List.mem_append.mp hmem).elim hts hbacks.1
  | some y =>
    rw [hheld] at hbacks
    exact ⟨List.mem_append_right ts hbacks.1, fun d' hd' => (hsame (c d')).trans (hbacks.2 d' hd')⟩

/-- A change of the row under its lock, and of the value `y` that was found there. -/
lemma Knows.lock (h : Knows row d ⟨p, l, c, ls, ms⟩ v σ) {ts : List K} {eff : D → D}
    (hts : row.lock ∈ ts) {g : V → V} (hg : ∀ d, row.seen (eff d) = g (row.seen d)) {y : V × V}
    (hfound : row.seen d = y.1 ∧ y.1 ≠ row.absent)
    (hy : ∀ d', row.seen d' = y.1 → row.seen (c d') = y.2) :
    Knows row d ⟨p', l, eff ∘ c, ts ++ ls, ms⟩ v { σ with held := some (y.1, g y.2) } := by
  refine ⟨h.session, h.read, ?_, h.stacked.append ts, ?_, h.there⟩
  · refine ⟨List.mem_append_left ls hts, fun d' hd' => ?_⟩
    exact (hg (c d')).trans (congrArg g (hy d' hd'))
  · refine List.forall_mem_cons.mpr ⟨?_, (List.forall_mem_cons.mp h.found).2⟩
    rintro _ ⟨⟩
    exact hfound

end knows

/-- What a transaction has changed when it commits. -/
lemma Knows.commits (h : Knows row d x v σ) (hkeeps : σ.Keeps row) :
    Commits row x.locks d (x.changes d) := by
  cases hheld : σ.held with
  | none =>
    have hbacks := h.backs
    rw [hheld] at hbacks
    have hsame := hbacks.2 d
    exact ⟨fun _ => hsame, fun _ => hsame, by rw [hsame]⟩
  | some y =>
    have hbacks := h.backs
    rw [hheld] at hbacks
    obtain ⟨hfound, hne⟩ := h.found σ.held List.mem_cons_self y hheld
    obtain ⟨hthere, hfinal⟩ := hkeeps y hheld
    refine ⟨fun hunlocked => absurd hbacks.1 hunlocked, ?_, ?_⟩
    · intro hseen
      rw [hbacks.2 d hfound, hfinal (hfound ▸ hseen), hfound]
    · rw [hbacks.2 d hfound, hfound]
      exact ⟨fun habsent => absurd habsent hthere, fun habsent => absurd habsent hne⟩

variable (row) [DecidableEq K]

/-- The value at the last read before the lock, after the next step. -/
def Tx.lastRead (d : D) (x : Tx L D K ε α) (v : V) : V :=
  match x.point with
  | .run (.read _) => if row.lock ∈ x.locks then v else row.seen (x.changes d)
  | _ => v

/-- A lock that is about to be taken finds what was read, or a value that is not final. -/
def Tx.FindsRead (d : D) (x : Tx L D K ε α) (v : V) : Prop :=
  match x.point with
  | .wait ts _ _ => row.lock ∈ ts → row.lock ∉ x.locks →
      row.seen d = v ∨ ¬ row.Final (row.seen d)
  | _ => True

instance [DecidableEq V] [DecidablePred row.Final] (d : D) (x : Tx L D K ε α) (v : V) :
    Decidable (x.FindsRead row d v) :=
  match x with
  | ⟨.wait _ _ _, _, _, _, _⟩ => inferInstanceAs (Decidable (_ → _ → _ ∨ _))
  | ⟨.run _, _, _, _, _⟩ => .isTrue trivial
  | ⟨.done _, _, _, _, _⟩ => .isTrue trivial

variable {row}

/-- A step of a transaction publishes nothing, or ends it with a commit that changes nothing final. -/
lemma Heeding.next (h : Heeding row d x v) (hfinds : x.FindsRead row d v) :
    (x.publish d = d ∧ Heeding row d (x.next d) (x.lastRead row d v)) ∨
      ((x.next d).finished ∧ (x.next d).locks = [] ∧ Commits row x.locks d (x.publish d)) := by
  obtain ⟨σ, hknows, hpoint⟩ := h
  obtain ⟨p, l, c, ls, ms⟩ := x
  have hsees := hknows.sees
  have hbacks := hknows.backs
  obtain rfl := hknows.session
  cases p with
  | done r => exact hpoint.elim
  | wait ts eff k =>
    refine .inl ⟨rfl, ?_⟩
    by_cases hts : row.lock ∈ ts
    · obtain ⟨hread, g, hg, hk⟩ := hpoint.2 hts
      obtain ⟨y, hy, hfound, hchanged⟩ : ∃ y, σ.Finds row y ∧
          (row.seen d = y.1 ∧ y.1 ≠ row.absent) ∧ ∀ d', row.seen d' = y.1 → row.seen (c d') = y.2 := by
        cases hheld : σ.held with
        | none =>
          rw [hheld] at hbacks
          have hthere : row.seen d ≠ row.absent := hknows.there (hknows.read ▸ hread hheld)
          refine ⟨(row.seen d, row.seen d), ?_, ⟨rfl, hthere⟩, fun d' hd' => (hbacks.2 d').trans hd'⟩
          simp only [Knowledge.Finds, hheld]
          exact ⟨trivial, hthere, hknows.read ▸ hfinds hts hbacks.1⟩
        | some y =>
          rw [hheld] at hbacks
          refine ⟨y, ?_, hknows.found σ.held List.mem_cons_self y hheld, hbacks.2⟩
          simp only [Knowledge.Finds, hheld]
      exact ⟨_, hknows.lock hts hg hfound hchanged, hk y hy (c d) (hchanged d hfound.1)⟩
    · obtain ⟨hsame, hk⟩ := hpoint.1 hts
      exact ⟨σ, hknows.aside hts hsame, hk (c d) hsees⟩
  | run p =>
    cases p with
    | ret a => exact .inr ⟨rfl, rfl, hknows.commits hpoint⟩
    | fail e => exact .inr ⟨rfl, rfl, .refl row ls d⟩
    | read k =>
      have hk := hpoint (c d) hsees
      refine .inl ⟨rfl, σ.looked (row.seen (c d)), ?_, hk⟩
      cases hheld : σ.held with
      | none =>
        rw [hheld] at hbacks
        have hlast : lastRead row d ⟨.run (.read k), σ.session, c, ls, ms⟩ v = row.seen (c d) :=
          if_neg hbacks.1
        rw [hlast, σ.looked_of_none hheld]
        exact hknows.look hheld
      | some y =>
        rw [hheld] at hbacks
        have hlast : lastRead row d ⟨.run (.read k), σ.session, c, ls, ms⟩ v = v :=
          if_pos hbacks.1
        rw [hlast, σ.looked_of_some hheld]
        exact ⟨rfl, hknows.read, hknows.backs, hknows.stacked, hknows.found, hknows.there⟩
    | keep f k =>
      exact .inl ⟨rfl, { σ with session := f σ.session },
        ⟨rfl, hknows.read, hknows.backs, hknows.stacked, hknows.found, hknows.there⟩, hpoint⟩
    | write t eff k =>
      exact .inl ⟨rfl, σ,
        ⟨rfl, hknows.read, hknows.backs, hknows.stacked, hknows.found, hknows.there⟩,
        hpoint (c d) hsees⟩
    | mark k => exact .inl ⟨rfl, { σ with marks := σ.held :: σ.marks }, hknows.mark, hpoint⟩
    | forget k => exact .inl ⟨rfl, { σ with marks := σ.marks.tail }, hknows.forget, hpoint⟩
    | rewind k =>
      exact .inl ⟨rfl, { σ with held := σ.marks.headD σ.held, marks := σ.marks.tail },
        hknows.rewind, hpoint⟩

end transactions

/-- The transaction has ended and has no locks. -/
def Tx.Ended (x : Tx L D K ε α) : Prop := x.finished ∧ x.locks = []

lemma Tx.ended_next {d : D} {x : Tx L D K ε α} (hx : x.finished = false)
    (h : (x.next d).finished) : (x.next d).Ended := by
  obtain ⟨p, l, c, ls, ms⟩ := x
  cases p with
  | done r => cases hx
  | wait ts eff k => cases h
  | run p =>
    cases p with
    | ret a => exact ⟨rfl, rfl⟩
    | fail e => exact ⟨rfl, rfl⟩
    | _ => cases h

/-! ### Runs -/

namespace World

section worlds

variable [Fintype ι] [DecidableEq ι] [DecidableEq K] (row : Row D K V)

/-- Along the schedule, each lock of the row finds what was read, or a value that is not final. -/
def AllFindRead : World ι L D K ε α → (ι → V) → List ι → Prop
  | _, _, [] => True
  | w, v, i :: sched =>
    (w.blocked i = false → (w.tx i).FindsRead row w.committed (v i)) ∧
      AllFindRead (w.step i) (if w.blocked i then v else
        Function.update v i ((w.tx i).lastRead row w.committed (v i))) sched

instance decidableAllFindRead [DecidableEq V] [DecidablePred row.Final] :
    (w : World ι L D K ε α) → (v : ι → V) → (sched : List ι) →
      Decidable (AllFindRead row w v sched)
  | _, _, [] => .isTrue trivial
  | w, v, i :: sched =>
    have := decidableAllFindRead (w.step i) (if w.blocked i then v else
      Function.update v i ((w.tx i).lastRead row w.committed (v i))) sched
    inferInstanceAs (Decidable ((w.blocked i = false → _) ∧ _))

/-- What is kept of transactions that heed what they know of a row, but for one that adds it. -/
structure Heeded (maker : Option ι) (w : World ι L D K ε α) (v : ι → V) : Prop where
  apart : Apart w
  heeding : ∀ i, (w.tx i).Ended ∨ Heeding row w.committed (w.tx i) (v i) ∨
    ((w.tx i).finished = false ∧ maker = some i ∧ row.seen w.committed = row.absent)

variable {row} {maker : Option ι} {w : World ι L D K ε α} {v : ι → V}

omit [Fintype ι] [DecidableEq ι] [DecidableEq K] in
/-- The others after a commit. -/
lemma Heeded.others (h : Heeded row maker w v) {i j : ι} (hij : j ≠ i) {d' : D}
    (hcommits : Commits row (w.tx i).locks w.committed d' ∨
      maker = some i ∧ row.seen w.committed = row.absent) :
    (w.tx j).Ended ∨ Heeding row d' (w.tx j) (v j) ∨
      ((w.tx j).finished = false ∧ maker = some j ∧ row.seen d' = row.absent) := by
  obtain hended | hheeding | ⟨hrunning, hmaker, habsent⟩ := h.heeding j
  · exact .inl hended
  · refine .inr (.inl (hheeding.mono ?_ ?_))
    · intro hlock
      obtain hcommits | ⟨-, habsent⟩ := hcommits
      · exact hcommits.unlocked fun hother => h.apart j i hij hlock hother
      · exact absurd hlock (hheeding.unlocked habsent)
    · obtain hcommits | ⟨-, habsent⟩ := hcommits
      · exact fun hthere => mt hcommits.there.mp hthere
      · exact fun hthere => absurd habsent hthere
  · obtain hcommits | ⟨hother, -⟩ := hcommits
    · exact .inr (.inr ⟨hrunning, hmaker, hcommits.there.mpr habsent⟩)
    · exact absurd (Option.some.inj (hmaker.symm.trans hother)) hij

/-- A step of a world keeps what is final. -/
lemma Heeded.step (h : Heeded row maker w v) (habsent : ¬ row.Final row.absent) {i : ι}
    (hfinds : w.blocked i = false → (w.tx i).FindsRead row w.committed (v i)) :
    Heeded row maker (w.step i) (if w.blocked i then v else
        Function.update v i ((w.tx i).lastRead row w.committed (v i))) ∧
      (row.Final (row.seen w.committed) → row.seen (w.step i).committed = row.seen w.committed) := by
  have hapart := h.apart.step i
  cases hb : w.blocked i with
  | true =>
    rw [step_of_blocked hb]
    exact ⟨h, fun _ => rfl⟩
  | false =>
    rw [step_of_not_blocked hb] at hapart ⊢
    simp only [Bool.false_eq_true, if_false]
    -- it is enough to look at the transaction that takes the step, and at what it commits
    have hothers {d' : D} {x' : Tx L D K ε α} {v' : V} (hapart : Apart ⟨d', Function.update w.tx i x'⟩)
        (hcommits : Commits row (w.tx i).locks w.committed d' ∨
          maker = some i ∧ row.seen w.committed = row.absent)
        (hnext : x'.Ended ∨ Heeding row d' x' v' ∨
          (x'.finished = false ∧ maker = some i ∧ row.seen d' = row.absent)) :
        Heeded row maker ⟨d', Function.update w.tx i x'⟩ (Function.update v i v') := by
      refine ⟨hapart, fun j => ?_⟩
      by_cases hj : j = i
      · subst hj
        simpa using hnext
      · simpa [Function.update_of_ne hj] using h.others hj hcommits
    obtain hended | hheeding | ⟨hrunning, hmaker, hnone⟩ := h.heeding i
    · have hsame := publish_of_finished (d := w.committed) hended.1
      refine ⟨hothers hapart (.inl ?_) (.inl ?_), fun _ => by rw [hsame]⟩
      · rw [hsame]
        exact .refl row _ _
      · rwa [next_of_finished hended.1]
    · obtain ⟨hsame, hnext⟩ | ⟨hfin, hlocks, hcommits⟩ := hheeding.next (hfinds hb)
      · refine ⟨hothers hapart (.inl ?_) (.inr (.inl ?_)), fun _ => by rw [hsame]⟩
        · rw [hsame]
          exact .refl row _ _
        · rwa [hsame]
      · exact ⟨hothers hapart (.inl hcommits) (.inl ⟨hfin, hlocks⟩), hcommits.final⟩
    · refine ⟨hothers hapart (.inr ⟨hmaker, hnone⟩) ?_, fun hfinal => ?_⟩
      · by_cases hfin : ((w.tx i).next w.committed).finished
        · exact .inl (ended_next hrunning hfin)
        · rw [Bool.not_eq_true] at hfin
          rw [publish_of_not_finished_next hfin]
          exact .inr (.inr ⟨hfin, hmaker, hnone⟩)
      · exact absurd (hnone ▸ hfinal) habsent

/-- Along a run whose locks find what was read, what is final at some point stays. -/
lemma Heeded.run (h : Heeded row maker w v) (habsent : ¬ row.Final row.absent) {sched : List ι}
    (hfinds : AllFindRead row w v sched) {before after : List ι} (hsched : sched = before ++ after)
    (hfinal : row.Final (row.seen (w.run before).committed)) :
    row.seen (w.run sched).committed = row.seen (w.run before).committed := by
  induction sched generalizing w v before after with
  | nil =>
    obtain ⟨rfl, rfl⟩ := List.append_eq_nil_iff.mp hsched.symm
    rfl
  | cons i rest ih =>
    obtain ⟨hfirst, hrest⟩ := hfinds
    obtain ⟨hnext, hsame⟩ := h.step habsent hfirst
    cases before with
    | nil =>
      obtain rfl := hsched
      have hstart : row.seen (w.step i).committed = row.seen w.committed := hsame hfinal
      have hstays : row.Final (row.seen ((w.step i).run []).committed) := hstart ▸ hfinal
      exact (ih hnext hrest (List.nil_append rest).symm hstays).trans hstart
    | cons j before =>
      obtain ⟨rfl, hsplit⟩ := List.cons.inj hsched
      exact ih hnext hrest hsplit hfinal

/-- Transactions that heed what they know of a row, and perhaps one that adds it: if each lock finds
what was read or a value that is not final, then a value that is final at some point stays. -/
theorem final_stays (habsent : ¬ row.Final row.absent) {p : ι → Prog L D K ε α} {l : ι → L} {d₀ : D}
    (hp : ∀ i, maker ≠ some i → (p i).Heeds row (fun _ σ => σ.Keeps row) (fun _ _ => True)
      { session := l i, read := row.seen d₀ })
    (hmaker : ∀ i, maker = some i → row.seen d₀ = row.absent) {before after : List ι}
    (hfinds : AllFindRead row (World.mk d₀ fun i => Tx.start (p i) (l i)) (fun _ => row.seen d₀)
      (before ++ after))
    (hfinal : row.Final (row.seen
      ((World.mk d₀ fun i => Tx.start (p i) (l i)).run before).committed)) :
    row.seen ((World.mk d₀ fun i => Tx.start (p i) (l i)).run (before ++ after)).committed =
      row.seen ((World.mk d₀ fun i => Tx.start (p i) (l i)).run before).committed := by
  have hstart : Heeded row maker (World.mk d₀ fun i => Tx.start (p i) (l i))
      fun _ => row.seen d₀ := by
    refine ⟨fun i j _ => List.disjoint_nil_left _, fun i => ?_⟩
    by_cases hi : maker = some i
    · exact .inr (.inr ⟨rfl, hi, hmaker i hi⟩)
    · refine .inr (.inl ⟨{ session := l i, read := row.seen d₀ }, ?_, hp i hi⟩)
      exact ⟨rfl, rfl, ⟨List.not_mem_nil, fun _ => rfl⟩, trivial, by simp, id⟩
  exact hstart.run habsent hfinds rfl hfinal

end worlds

end World

end Transaction
