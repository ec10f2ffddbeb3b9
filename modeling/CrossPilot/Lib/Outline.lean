import CrossPilot.Lib.ReadCommitted

/-!
# Proof outlines of interleaved transactions

An outline follows a transaction from statement to statement and says at each point what is known
of the committed data. What is known has to be stable: it outlasts whatever the others commit, who
never hold a lock in common with the transaction. An outline may also rest on a condition about what
a change finds when its locks are free. If all transactions of a world have an outline, then whatever
the schedule, an invariant that their commits keep holds of the committed data as long as the changes
find what they should (`World.outlined`).

A transaction that fails leaves no trace (`World.committed_of_error`).
-/

namespace Transaction

open Tx

variable {L D K ε α ι : Type}

section outlines

variable (I : D → Prop) (G : List K → D → D → Prop) (C : L → D → Prop)

/-- What holds of the data goes on to hold while the others commit. `G` says what a transaction
with certain locks commits, and `I` holds of all that is ever committed. -/
def Stable (ls : List K) (P : D → Prop) : Prop :=
  ∀ d d' ls', I d → P d → ls.Disjoint ls' → G ls' d d' → P d'

/-- The program, with changes and locks so far, only commits what `G` allows if its changes find `C`.
`P` is known of the committed data. -/
def Outline : Prog L D K ε α → L → (D → D) → List K → (D → Prop) → Prop
  | .ret _, _, c, ls, P => ∀ d, I d → P d → G ls d (c d)
  | .fail _, _, _, _, _ => True
  | .read k, l, c, ls, P => ∀ d, I d → P d →
      ∃ P', P' d ∧ Stable I G ls P' ∧ Outline (k l (c d)) l c ls P'
  | .keep f k, l, c, ls, P => Outline k (f l) c ls P
  | .write t eff k, l, c, ls, P => ∀ d, I d → P d → ∃ P', P' d ∧ Stable I G ls P' ∧
      ∀ d', I d' → P' d' → C l d' → ∃ P'', P'' d' ∧ Stable I G (t (c d) ++ ls) P'' ∧
        Outline (k (t (c d)) (c d')) l (eff (t (c d)) ∘ c) (t (c d) ++ ls) P''
  | .mark _, _, _, _, _ => False
  | .forget _, _, _, _, _ => False
  | .rewind _, _, _, _, _ => False

/-- A transaction that is somewhere along its outline. -/
def Outlined (d : D) (x : Tx L D K ε α) : Prop :=
  ∃ P : D → Prop, P d ∧ Stable I G x.locks P ∧
    match x.point with
    | .run p => Outline I G C p x.session x.changes x.locks P
    | .wait ts eff k => ∀ d', I d' → P d' → C x.session d' →
        ∃ P', P' d' ∧ Stable I G (ts ++ x.locks) P' ∧
        Outline I G C (k ts (x.changes d')) x.session (eff ts ∘ x.changes) (ts ++ x.locks) P'
    | .done _ => True

end outlines

variable {I : D → Prop} {G : List K → D → D → Prop} {C : L → D → Prop}

lemma stable_true (ls : List K) : Stable I G ls fun _ => True := fun _ _ _ _ _ _ _ => trivial

lemma Stable.and {ls : List K} {P Q : D → Prop} (hP : Stable I G ls P) (hQ : Stable I G ls Q) :
    Stable I G ls fun d => P d ∧ Q d :=
  fun d d' ls' hI h hdisj hG => ⟨hP d d' ls' hI h.1 hdisj hG, hQ d d' ls' hI h.2 hdisj hG⟩

section rules

variable {β : Type} {l : L} {c : D → D} {ls : List K} {P : D → Prop}

lemma Outline.select {f : D → β} {k : β → Prog L D K ε α}
    (h : ∀ d, I d → P d → ∃ P', P' d ∧ Stable I G ls P' ∧ Outline I G C (k (f (c d))) l c ls P') :
    Outline I G C ((Prog.select f).bind k) l c ls P := h

lemma Outline.remember {f : L → L} {k : Unit → Prog L D K ε α}
    (h : Outline I G C (k ()) (f l) c ls P) :
    Outline I G C ((Prog.remember f).bind k) l c ls P := h

lemma Outline.update {t : D → List K} {eff : List K → D → D} {r : List K → D → β}
    {k : β → Prog L D K ε α}
    (h : ∀ d, I d → P d → ∃ P', P' d ∧ Stable I G ls P' ∧ ∀ d', I d' → P' d' → C l d' →
      ∃ P'', P'' d' ∧ Stable I G (t (c d) ++ ls) P'' ∧
        Outline I G C (k (r (t (c d)) (c d'))) l (eff (t (c d)) ∘ c) (t (c d) ++ ls) P'') :
    Outline I G C ((Prog.update t eff r).bind k) l c ls P := h

/-- A transaction that knows the committed data from some point on goes on as if alone, and commits
what it would alone. -/
lemma Outline.alone {R : L → L → Prop} {p : Prog L D K ε α} {d₀ : D} (hplain : p.Plain R)
    (hstable : ∀ ls', ls ⊆ ls' → Stable I G ls' (· = d₀))
    (h : p.wp (fun _ s' => ∀ ls', ls ⊆ ls' → G ls' d₀ s'.data) (fun _ _ => True)
      ⟨l, c d₀, []⟩) : Outline I G C p l c ls (· = d₀) := by
  induction p generalizing l c ls with
  | ret a =>
    rintro d - rfl
    exact h ls (List.Subset.refl ls)
  | fail e => trivial
  | read k ih =>
    rintro d - rfl
    exact ⟨(· = d), rfl, hstable ls (List.Subset.refl ls), ih l (c d) (hplain _ _) hstable h⟩
  | keep f k ih => exact ih hplain.2 hstable h
  | write t eff k ih =>
    rintro d - rfl
    refine ⟨(· = d), rfl, hstable ls (List.Subset.refl ls), ?_⟩
    rintro d' - rfl -
    have hmore : ∀ {ls'}, t (c d') ++ ls ⊆ ls' → ls ⊆ ls' :=
      fun hsub => List.Subset.trans (List.subset_append_right _ _) hsub
    exact ⟨(· = d'), rfl, hstable _ (List.subset_append_right _ _),
      ih _ _ (hplain _ _) (fun ls' hsub => hstable ls' (hmore hsub))
        (Prog.wp_mono h (fun _ _ hall ls' hsub => hall ls' (hmore hsub)) fun _ _ _ => trivial)⟩
  | mark k ih => exact hplain.elim
  | forget k ih => exact hplain.elim
  | rewind k ih => exact hplain.elim

end rules

/-! ### Single steps -/

/-- A change that is about to be made finds `C`. -/
def Tx.Finds (C : L → D → Prop) (d : D) (x : Tx L D K ε α) : Prop :=
  match x.point with
  | .wait _ _ _ => C x.session d
  | _ => True

instance [∀ l d, Decidable (C l d)] (d : D) (x : Tx L D K ε α) : Decidable (x.Finds C d) :=
  match x with
  | ⟨.wait _ _ _, l, _, _, _⟩ => inferInstanceAs (Decidable (C l d))
  | ⟨.run _, _, _, _, _⟩ => .isTrue trivial
  | ⟨.done _, _, _, _, _⟩ => .isTrue trivial

lemma Outlined.start {p : Prog L D K ε α} {l : L} {d : D}
    (h : Outline I G C p l id [] fun _ => True) : Outlined I G C d (Tx.start p l) :=
  ⟨fun _ => True, trivial, stable_true [], h⟩

/-- The commits of others leave a transaction on its outline. -/
lemma Outlined.mono {x : Tx L D K ε α} {d d' : D} {ls : List K} (h : Outlined I G C d x) (hI : I d)
    (hdisj : x.locks.Disjoint ls) (hG : G ls d d') : Outlined I G C d' x := by
  obtain ⟨P, hP, hstable, hpoint⟩ := h
  exact ⟨P, hstable d d' ls hI hP hdisj hG, hstable, hpoint⟩

/-- A step follows the outline, and publishes nothing or what `G` allows. -/
lemma Outlined.next {x : Tx L D K ε α} {d : D} (h : Outlined I G C d x) (hI : I d)
    (hfinds : x.Finds C d) :
    (x.publish d = d ∧ Outlined I G C d (x.next d)) ∨
      (G x.locks d (x.publish d) ∧ ∀ d', Outlined I G C d' (x.next d)) := by
  obtain ⟨p, l, c, ls, ms⟩ := x
  obtain ⟨P, hP, hstable, hpoint⟩ := h
  cases p with
  | done r => exact .inl ⟨rfl, P, hP, hstable, trivial⟩
  | wait ts eff k =>
    obtain ⟨P', hP', hstable', hk⟩ := hpoint d hI hP hfinds
    exact .inl ⟨rfl, P', hP', hstable', hk⟩
  | run p =>
    cases p with
    | ret a => exact .inr ⟨hpoint d hI hP, fun d' => ⟨fun _ => True, trivial, stable_true [], trivial⟩⟩
    | fail e => exact .inl ⟨rfl, fun _ => True, trivial, stable_true [], trivial⟩
    | read k =>
      obtain ⟨P', hP', hstable', hk⟩ := hpoint d hI hP
      exact .inl ⟨rfl, P', hP', hstable', hk⟩
    | keep f k => exact .inl ⟨rfl, P, hP, hstable, hpoint⟩
    | write t eff k =>
      obtain ⟨P', hP', hstable', hk⟩ := hpoint d hI hP
      exact .inl ⟨rfl, P', hP', hstable', hk⟩
    | mark k => exact hpoint.elim
    | forget k => exact hpoint.elim
    | rewind k => exact hpoint.elim

namespace World

variable [Fintype ι] [DecidableEq ι] [DecidableEq K]

/-- No two transactions hold a lock in common. -/
def Apart (w : World ι L D K ε α) : Prop :=
  ∀ i j, i ≠ j → (w.tx i).locks.Disjoint (w.tx j).locks

/-- A turn takes no lock from another. -/
lemma Apart.disjoint_next {w : World ι L D K ε α} (h : Apart w) {i j : ι} (hij : i ≠ j)
    (hb : w.blocked i = false) :
    ((w.tx i).next w.committed).locks.Disjoint (w.tx j).locks := by
  intro κ hmem hother
  rcases mem_locks_next hmem with hmem | ⟨ts, eff, k, hp, hmem⟩
  · exact h i j hij hmem hother
  · have hwait : w.blocked i = true := by
      simp only [blocked, hp, decide_eq_true_eq]
      exact ⟨j, hij.symm, κ, hmem, hother⟩
    rw [hb] at hwait
    cases hwait

lemma Apart.step {w : World ι L D K ε α} (h : Apart w) (i : ι) : Apart (w.step i) := by
  cases hb : w.blocked i with
  | true =>
    rw [step_of_blocked hb]
    exact h
  | false =>
    rw [step_of_not_blocked hb]
    intro a b hab
    dsimp only
    by_cases ha : a = i
    · subst ha
      rw [Function.update_self, Function.update_of_ne hab.symm]
      exact h.disjoint_next hab hb
    · rw [Function.update_of_ne ha]
      by_cases hbi : b = i
      · subst hbi
        rw [Function.update_self]
        exact (h.disjoint_next (Ne.symm ha) hb).symm
      · rw [Function.update_of_ne hbi]
        exact h a b hab

/-- Along the schedule, every change finds `C`. -/
def AllFind (C : L → D → Prop) : World ι L D K ε α → List ι → Prop
  | _, [] => True
  | w, i :: sched =>
    (w.blocked i = false → (w.tx i).Finds C w.committed) ∧ AllFind C (w.step i) sched

instance decidableAllFind [∀ l d, Decidable (C l d)] :
    (w : World ι L D K ε α) → (sched : List ι) → Decidable (AllFind C w sched)
  | _, [] => .isTrue trivial
  | w, i :: sched =>
    have := decidableAllFind (w.step i) sched
    inferInstanceAs (Decidable ((w.blocked i = false → (w.tx i).Finds C w.committed) ∧ _))

/-- What is kept of a world whose transactions have outlines. -/
structure Follows (I : D → Prop) (G : List K → D → D → Prop) (C : L → D → Prop)
    (w : World ι L D K ε α) : Prop where
  invariant : I w.committed
  apart : Apart w
  outlined : ∀ i, Outlined I G C w.committed (w.tx i)

lemma Follows.step (hG : ∀ ls d d', I d → G ls d d' → I d') {w : World ι L D K ε α}
    (h : Follows I G C w) (i : ι) (hfinds : w.blocked i = false → (w.tx i).Finds C w.committed) :
    Follows I G C (w.step i) := by
  have hapart := h.apart.step i
  cases hb : w.blocked i with
  | true =>
    rw [step_of_blocked hb]
    exact h
  | false =>
    rw [step_of_not_blocked hb] at hapart ⊢
    rcases (h.outlined i).next h.invariant (hfinds hb) with ⟨hsame, hnext⟩ | ⟨hpub, hnext⟩
    · refine ⟨?_, hapart, fun j => ?_⟩
      · show I ((w.tx i).publish w.committed)
        rw [hsame]
        exact h.invariant
      · dsimp only
        rw [hsame]
        by_cases hj : j = i
        · subst hj
          rw [Function.update_self]
          exact hnext
        · rw [Function.update_of_ne hj]
          exact h.outlined j
    · refine ⟨hG _ _ _ h.invariant hpub, hapart, fun j => ?_⟩
      dsimp only
      by_cases hj : j = i
      · subst hj
        rw [Function.update_self]
        exact hnext _
      · rw [Function.update_of_ne hj]
        exact (h.outlined j).mono h.invariant (h.apart j i hj) hpub

lemma Follows.run (hG : ∀ ls d d', I d → G ls d d' → I d') {w : World ι L D K ε α}
    (h : Follows I G C w) {sched : List ι} (hfinds : AllFind C w sched) :
    Follows I G C (w.run sched) := by
  induction sched generalizing w with
  | nil => exact h
  | cons i rest ih => exact ih (h.step hG i hfinds.1) hfinds.2

/-- Whatever is committed in turn, `G` allows. -/
lemma Follows.allowed (hG : ∀ ls d d', I d → G ls d d' → I d') {w : World ι L D K ε α}
    (h : Follows I G C w) {sched : List ι} (hfinds : AllFind C w sched) :
    Relation.ReflTransGen (fun d d' => ∃ ls, G ls d d') w.committed (w.run sched).committed := by
  induction sched generalizing w with
  | nil => exact .refl
  | cons i rest ih =>
    have hrest := ih (h.step hG i hfinds.1) hfinds.2
    cases hb : w.blocked i with
    | true =>
      rw [step_of_blocked hb] at hrest
      rw [World.run, step_of_blocked hb]
      exact hrest
    | false =>
      rw [step_of_not_blocked hb] at hrest
      rw [World.run, step_of_not_blocked hb]
      rcases (h.outlined i).next h.invariant (hfinds.1 hb) with ⟨hsame, -⟩ | ⟨hpub, -⟩
      · rw [hsame] at hrest ⊢
        exact hrest
      · exact .head ⟨_, hpub⟩ hrest

omit [Fintype ι] [DecidableEq ι] [DecidableEq K] in
lemma Follows.start {p : ι → Prog L D K ε α} {l : ι → L} {d₀ : D} (h₀ : I d₀)
    (hp : ∀ i, Outline I G C (p i) (l i) id [] fun _ => True) :
    Follows I G C (World.mk d₀ fun i => Tx.start (p i) (l i)) :=
  ⟨h₀, fun _ _ _ => List.disjoint_nil_left _, fun i => .start (hp i)⟩

/-- Transactions with outlines keep the invariant, whatever the schedule, as long as their changes
find what they should. -/
theorem outlined (hG : ∀ ls d d', I d → G ls d d' → I d') {p : ι → Prog L D K ε α} {l : ι → L}
    {d₀ : D} (h₀ : I d₀) (hp : ∀ i, Outline I G C (p i) (l i) id [] fun _ => True)
    {sched : List ι} (hfinds : AllFind C (World.mk d₀ fun i => Tx.start (p i) (l i)) sched) :
    I ((World.mk d₀ fun i => Tx.start (p i) (l i)).run sched).committed :=
  ((Follows.start h₀ hp).run hG hfinds).invariant

/-- If nothing is asked of what the changes find, every schedule will do. -/
lemma allFind_true (w : World ι L D K ε α) (sched : List ι) : AllFind (fun _ _ => True) w sched := by
  induction sched generalizing w with
  | nil => trivial
  | cons i rest ih =>
    refine ⟨fun _ => ?_, ih (w.step i)⟩
    simp only [Finds]
    split <;> trivial

/-! ### Before the first change -/

/-- Nothing has been committed yet but `d₀`: every transaction has run as if alone, and those that
have finished had nothing to change. -/
structure Untouched (d₀ : D) (x₀ : ι → Tx L D K ε α) (w : World ι L D K ε α) : Prop where
  committed : w.committed = d₀
  reach : ∀ i, Reach d₀ (x₀ i) (w.tx i)
  settled : ∀ i, (w.tx i).finished → settle d₀ ((x₀ i).outcome d₀) = d₀

lemma Untouched.step {d₀ : D} {x₀ : ι → Tx L D K ε α} {w : World ι L D K ε α}
    (h : Untouched d₀ x₀ w) (i : ι) (hsame : (w.step i).committed = d₀) :
    Untouched d₀ x₀ (w.step i) := by
  cases hb : w.blocked i with
  | true =>
    rw [step_of_blocked hb]
    exact h
  | false =>
    rw [step_of_not_blocked hb] at hsame ⊢
    refine ⟨hsame, fun j => ?_, fun j hfin => ?_⟩
    · by_cases hj : j = i
      · subst hj
        simp only [Function.update_self, h.committed]
        exact (h.reach j).step
      · simp only [Function.update_of_ne hj]
        exact h.reach j
    · by_cases hj : j = i
      · subst hj
        simp only [Function.update_self, h.committed] at hfin hsame
        by_cases hdone : (w.tx j).finished
        · exact h.settled j hdone
        · rw [publish_of_finished_next (by simpa using hdone) hfin, (h.reach j).outcome_eq] at hsame
          exact hsame
      · simp only [Function.update_of_ne hj] at hfin
        exact h.settled j hfin

/-- Either all transactions have run as if alone and had nothing to change, or there was a first
change. -/
theorem Untouched.run_or {d₀ : D} {x₀ : ι → Tx L D K ε α} {w : World ι L D K ε α}
    (h : Untouched d₀ x₀ w) (sched : List ι) : Untouched d₀ x₀ (w.run sched) ∨
      ∃ before after, sched = before ++ after ∧ (w.run before).committed ≠ d₀ := by
  induction sched generalizing w with
  | nil => exact .inl h
  | cons i rest ih =>
    by_cases hsame : (w.step i).committed = d₀
    · rcases ih (h.step i hsame) with hrest | ⟨before, after, rfl, hchange⟩
      · exact .inl hrest
      · exact .inr ⟨i :: before, after, rfl, hchange⟩
    · exact .inr ⟨[i], rest, rfl, hsame⟩

/-! ### Failures -/

/-- A transaction that has finished stays as it is. -/
lemma run_tx_of_finished {w : World ι L D K ε α} {i : ι} (h : (w.tx i).finished)
    (sched : List ι) : (w.run sched).tx i = w.tx i := by
  induction sched generalizing w with
  | nil => rfl
  | cons j rest ih =>
    have hstep : (w.step j).tx i = w.tx i := by
      by_cases hij : i = j
      · subst hij
        rw [step_of_finished h]
      · cases hb : w.blocked j with
        | true => rw [step_of_blocked hb]
        | false =>
          rw [step_of_not_blocked hb]
          exact Function.update_of_ne hij _ _
    rw [run, ih (by rw [hstep]; exact h), hstep]

/-- A step that changes the committed data is the last one of a transaction that succeeds. -/
lemma step_committed_cases (w : World ι L D K ε α) (i : ι) :
    (w.step i).committed = w.committed ∨ ∃ a, ((w.step i).tx i).point = .done (.ok a) := by
  cases hb : w.blocked i with
  | true =>
    rw [step_of_blocked hb]
    exact .inl rfl
  | false =>
    rw [step_of_not_blocked hb]
    rcases publish_eq_or_changes w.committed (w.tx i) with hsame | ⟨⟨a, ha⟩, -⟩
    · exact .inl hsame
    · refine .inr ⟨a, ?_⟩
      dsimp only
      rw [Function.update_self]
      simp only [Tx.next, ha]

/-- The steps of a transaction that fails change nothing. -/
theorem committed_of_error {w : World ι L D K ε α} {i : ι} {sched : List ι} {e : ε}
    (h : ((w.run (i :: sched)).tx i).point = .done (.error e)) :
    (w.step i).committed = w.committed := by
  rcases step_committed_cases w i with hsame | ⟨a, ha⟩
  · exact hsame
  · have hfin : ((w.step i).tx i).finished := by simp [finished, ha]
    rw [run, run_tx_of_finished hfin, ha] at h
    cases h

lemma run_append (w : World ι L D K ε α) (sched sched' : List ι) :
    w.run (sched ++ sched') = (w.run sched).run sched' := by
  induction sched generalizing w with
  | nil => rfl
  | cons i rest ih => exact ih (w.step i)

end World

end Transaction
