import CrossPilot.Lib.ReadCommitted

/-!
# A row that many transactions move

Any number of transactions add to one row, each on what it finds there. Every statement that may
change the row locks its key first. A program keeps books if, whatever it is shown of well-formed
data, each of its statements leaves the row alone or adds something that fits, and its result tells
what it has added (`Ledger.Keeps`). If all of them do, nothing is lost: at any time the committed row
is the row at the start with what the committed transactions have added, one after the other
(`World.ledger`).
-/

namespace Transaction

/-- A row of the data: how it is seen, the key of its lock, what is added to it and what fits. With
it come the data and sessions that programs are shown. -/
structure Ledger (L D K O Δ : Type) where
  view : D → O
  key : K
  add : O → Δ → O
  fits : O → Δ → Prop
  wf : D → Prop
  known : L → Prop

variable {L D K O Δ ε α β ι : Type}

namespace Ledger

/-- The row after several additions. -/
def addAll (𝓛 : Ledger L D K O Δ) : O → List Δ → O := List.foldl 𝓛.add

/-- Each addition fits the row as it is by then. -/
def FitsAll (𝓛 : Ledger L D K O Δ) : O → List Δ → Prop
  | _, [] => True
  | o, δ :: δs => 𝓛.fits o δ ∧ 𝓛.FitsAll (𝓛.add o δ) δs

variable {𝓛 : Ledger L D K O Δ}

@[simp] lemma addAll_nil (o : O) : 𝓛.addAll o [] = o := rfl

@[simp] lemma addAll_cons (o : O) (δ : Δ) (δs : List Δ) :
    𝓛.addAll o (δ :: δs) = 𝓛.addAll (𝓛.add o δ) δs := rfl

lemma addAll_append (o : O) (δs δs' : List Δ) :
    𝓛.addAll o (δs ++ δs') = 𝓛.addAll (𝓛.addAll o δs) δs' := by
  simp [addAll]

lemma fitsAll_append {o : O} {δs δs' : List Δ} :
    𝓛.FitsAll o (δs ++ δs') ↔ 𝓛.FitsAll o δs ∧ 𝓛.FitsAll (𝓛.addAll o δs) δs' := by
  induction δs generalizing o with
  | nil => simp [FitsAll]
  | cons δ rest ih => simp [FitsAll, ih, and_assoc]

/-- A change of the data keeps them well formed, treats the row by itself, and changes it only under
its lock. -/
structure Guarded (𝓛 : Ledger L D K O Δ) (eff : List K → D → D) : Prop where
  wf : ∀ ts d, 𝓛.wf d → 𝓛.wf (eff ts d)
  view_congr : ∀ ts d d', 𝓛.view d = 𝓛.view d' → 𝓛.view (eff ts d) = 𝓛.view (eff ts d')
  unlocked : ∀ ts d, 𝓛.key ∉ ts → 𝓛.view (eff ts d) = 𝓛.view d

/-- After `moved` was added to the row, `p` keeps books. Its result accounts for everything it has
added (`Q`), and so does its error (`F`). -/
def Keeps (𝓛 : Ledger L D K O Δ) (Q : List Δ → α → Prop) (F : List Δ → ε → Prop) :
    List Δ → Prog L D K ε α → Prop
  | moved, .ret a => Q moved a
  | moved, .fail e => F moved e
  | moved, .read k => ∀ l d, 𝓛.known l → 𝓛.wf d → 𝓛.Keeps Q F moved (k l d)
  | moved, .keep f k => (∀ l, 𝓛.known l → 𝓛.known (f l)) ∧ 𝓛.Keeps Q F moved k
  | moved, .write _ eff k => 𝓛.Guarded eff ∧ ∀ ts d, 𝓛.wf d →
      𝓛.view (eff ts d) = 𝓛.view d ∧ 𝓛.Keeps Q F moved (k ts d) ∨
        ∃ δ, 𝓛.key ∈ ts ∧ 𝓛.fits (𝓛.view d) δ ∧ 𝓛.view (eff ts d) = 𝓛.add (𝓛.view d) δ ∧
          𝓛.Keeps Q F (moved ++ [δ]) (k ts d)
  | _, .mark _ => False
  | _, .forget _ => False
  | _, .rewind _ => False

section rules

variable {Q Q' : List Δ → α → Prop} {F F' : List Δ → ε → Prop} {R : List Δ → β → Prop}
  {moved : List Δ}

@[simp] lemma keeps_ret {a : α} : 𝓛.Keeps Q F moved (.ret a : Prog L D K ε α) ↔ Q moved a :=
  Iff.rfl

@[simp] lemma keeps_fail {e : ε} : 𝓛.Keeps Q F moved (.fail e : Prog L D K ε α) ↔ F moved e :=
  Iff.rfl

lemma Keeps.mono {p : Prog L D K ε α} (h : 𝓛.Keeps Q F moved p) (hQ : ∀ δs a, Q δs a → Q' δs a)
    (hF : ∀ δs e, F δs e → F' δs e) : 𝓛.Keeps Q' F' moved p := by
  induction p generalizing moved with
  | ret a => exact hQ _ _ h
  | fail e => exact hF _ _ h
  | read k ih => exact fun l d hl hd => ih l d (h l d hl hd)
  | keep f k ih => exact ⟨h.1, ih h.2⟩
  | write t eff k ih =>
    refine ⟨h.1, fun ts d hd => ?_⟩
    rcases h.2 ts d hd with ⟨hsame, hk⟩ | ⟨δ, hmem, hfit, hadd, hk⟩
    · exact .inl ⟨hsame, ih ts d hk⟩
    · exact .inr ⟨δ, hmem, hfit, hadd, ih ts d hk⟩
  | mark k ih => exact h.elim
  | forget k ih => exact h.elim
  | rewind k ih => exact h.elim

/-- Two programs after each other keep books if the second goes on from those of the first. -/
lemma Keeps.bind {p : Prog L D K ε α} {f : α → Prog L D K ε β}
    (h : 𝓛.Keeps (fun δs a => 𝓛.Keeps R F δs (f a)) F moved p) :
    𝓛.Keeps R F moved (p.bind f) := by
  induction p generalizing moved with
  | ret a => exact h
  | fail e => exact h
  | read k ih => exact fun l d hl hd => ih l d (h l d hl hd)
  | keep g k ih => exact ⟨h.1, ih h.2⟩
  | write t eff k ih =>
    refine ⟨h.1, fun ts d hd => ?_⟩
    rcases h.2 ts d hd with ⟨hsame, hk⟩ | ⟨δ, hmem, hfit, hadd, hk⟩
    · exact .inl ⟨hsame, ih ts d hk⟩
    · exact .inr ⟨δ, hmem, hfit, hadd, ih ts d hk⟩
  | mark k ih => exact h.elim
  | forget k ih => exact h.elim
  | rewind k ih => exact h.elim

/-- What runs on an error goes on from the books of the program that raised it. -/
lemma Keeps.attempt {p : Prog L D K ε α} {h : ε → Prog L D K ε α}
    (hp : 𝓛.Keeps Q (fun δs e => 𝓛.Keeps Q F δs (h e)) moved p) :
    𝓛.Keeps Q F moved (p.attempt h) := by
  induction p generalizing moved with
  | ret a => exact hp
  | fail e => exact hp
  | read k ih => exact fun l d hl hd => ih l d (hp l d hl hd)
  | keep g k ih => exact ⟨hp.1, ih hp.2⟩
  | write t eff k ih =>
    refine ⟨hp.1, fun ts d hd => ?_⟩
    rcases hp.2 ts d hd with ⟨hsame, hk⟩ | ⟨δ, hmem, hfit, hadd, hk⟩
    · exact .inl ⟨hsame, ih ts d hk⟩
    · exact .inr ⟨δ, hmem, hfit, hadd, ih ts d hk⟩
  | mark k ih => exact hp.elim
  | forget k ih => exact hp.elim
  | rewind k ih => exact hp.elim

lemma Keeps.query {f : L → D → α} (h : ∀ l d, 𝓛.known l → 𝓛.wf d → Q moved (f l d)) :
    𝓛.Keeps Q F moved (Prog.query f : Prog L D K ε α) := h

lemma Keeps.select {f : D → α} (h : ∀ d, 𝓛.wf d → Q moved (f d)) :
    𝓛.Keeps Q F moved (Prog.select f : Prog L D K ε α) := fun _ d _ hd => h d hd

lemma Keeps.remember {f : L → L} {Q : List Δ → Unit → Prop} (hf : ∀ l, 𝓛.known l → 𝓛.known (f l))
    (h : Q moved ()) : 𝓛.Keeps Q F moved (Prog.remember f : Prog L D K ε Unit) := ⟨hf, h⟩

/-- A statement that has nothing to do with the row. -/
lemma Keeps.write_of_same {t : D → List K} {eff : List K → D → D}
    {k : List K → D → Prog L D K ε α} (hwf : ∀ ts d, 𝓛.wf d → 𝓛.wf (eff ts d))
    (hsame : ∀ ts d, 𝓛.view (eff ts d) = 𝓛.view d)
    (h : ∀ ts d, 𝓛.wf d → 𝓛.Keeps Q F moved (k ts d)) : 𝓛.Keeps Q F moved (.write t eff k) := by
  refine ⟨⟨hwf, fun ts d d' heq => ?_, fun ts d _ => hsame ts d⟩, fun ts d hd => ?_⟩
  · rw [hsame, hsame, heq]
  · exact .inl ⟨hsame ts d, h ts d hd⟩

end rules

end Ledger

/-! ### Runs -/

/-- The transaction has committed. -/
def Tx.Succeeded (x : Tx L D K ε α) : Prop := ∃ a, x.point = .done (.ok a)

lemma Tx.finished_of_succeeded {x : Tx L D K ε α} (h : x.Succeeded) : x.finished := by
  obtain ⟨a, ha⟩ := h
  simp [finished, ha]

/-- Only a transaction that commits publishes anything, and then it publishes its changes. -/
lemma Tx.publish_cases (d : D) {x : Tx L D K ε α} (h : x.finished = false) :
    (x.next d).Succeeded ∧ x.publish d = x.changes d ∨
      ¬ (x.next d).Succeeded ∧ x.publish d = d := by
  obtain ⟨p, l, c, ls, ms⟩ := x
  cases p with
  | done r => cases h
  | wait ts eff k => exact .inr ⟨by simp [Succeeded, next], rfl⟩
  | run p =>
    cases p with
    | ret a => exact .inl ⟨⟨a, rfl⟩, rfl⟩
    | _ => exact .inr ⟨by simp [Succeeded, next], rfl⟩

namespace Ledger

open Tx

variable {𝓛 : Ledger L D K O Δ} {Q : List Δ → α → Prop} {d d' : D} {δs : List Δ}
  {x : Tx L D K ε α}

/-- Where a transaction that has added `δs` stands. -/
def StandsAt (𝓛 : Ledger L D K O Δ) (Q : List Δ → α → Prop) (δs : List Δ) :
    Point L D K ε α → Prop
  | .run p => 𝓛.Keeps Q (fun _ _ => True) δs p
  | .wait ts eff k => 𝓛.Guarded eff ∧ ∀ d, 𝓛.wf d →
      𝓛.view (eff ts d) = 𝓛.view d ∧ 𝓛.Keeps Q (fun _ _ => True) δs (k ts d) ∨
        ∃ δ, 𝓛.key ∈ ts ∧ 𝓛.fits (𝓛.view d) δ ∧ 𝓛.view (eff ts d) = 𝓛.add (𝓛.view d) δ ∧
          𝓛.Keeps Q (fun _ _ => True) (δs ++ [δ]) (k ts d)
  | .done (.ok a) => Q δs a
  | .done (.error _) => True

/-- What holds of a transaction on the committed data `d`, when it has added `δs` to the row. -/
structure Mine (𝓛 : Ledger L D K O Δ) (Q : List Δ → α → Prop) (d : D) (δs : List Δ)
    (x : Tx L D K ε α) : Prop where
  known : 𝓛.known x.session
  wf : ∀ d, 𝓛.wf d → 𝓛.wf (x.changes d)
  view_congr : ∀ d d', 𝓛.view d = 𝓛.view d' → 𝓛.view (x.changes d) = 𝓛.view (x.changes d')
  unlocked : x.finished = false → 𝓛.key ∉ x.locks →
    δs = [] ∧ ∀ d, 𝓛.view (x.changes d) = 𝓛.view d
  moved : x.finished = false →
    𝓛.view (x.changes d) = 𝓛.addAll (𝓛.view d) δs ∧ 𝓛.FitsAll (𝓛.view d) δs
  point : 𝓛.StandsAt Q δs x.point
  locks : x.finished → x.locks = []

/-- A transaction that has not started. -/
lemma Mine.start {p : Prog L D K ε α} {l : L} (hl : 𝓛.known l)
    (hp : 𝓛.Keeps Q (fun _ _ => True) [] p) (d : D) : 𝓛.Mine Q d [] (Tx.start p l) where
  known := hl
  wf := fun _ hd => hd
  view_congr := fun _ _ heq => heq
  unlocked := fun _ _ => ⟨rfl, fun _ => rfl⟩
  moved := fun _ => ⟨rfl, trivial⟩
  point := hp
  locks := fun h => by cases h

/-- Others may commit what leaves a row alone that `x` has locked. -/
lemma Mine.of_committed (h : 𝓛.Mine Q d δs x) (hview : 𝓛.key ∈ x.locks → 𝓛.view d' = 𝓛.view d) :
    𝓛.Mine Q d' δs x := by
  refine { h with moved := fun hfin => ?_ }
  by_cases hkey : 𝓛.key ∈ x.locks
  · rw [h.view_congr d' d (hview hkey), hview hkey]
    exact h.moved hfin
  · obtain ⟨rfl, hsame⟩ := h.unlocked hfin hkey
    exact ⟨hsame d', trivial⟩

/-- A step of the transaction. It adds nothing with the step that ends it. -/
lemma Mine.next (h : 𝓛.Mine Q d δs x) (hd : 𝓛.wf d) (hfin : x.finished = false) :
    ∃ δs', 𝓛.Mine Q d δs' (x.next d) ∧ ((x.next d).Succeeded → δs' = δs) := by
  obtain ⟨hknown, hwf, hcongr, hunlocked, hmoved, hpoint, -⟩ := h
  replace hunlocked := hunlocked hfin
  replace hmoved := hmoved hfin
  obtain ⟨p, l, c, ls, ms⟩ := x
  cases p with
  | done r => cases hfin
  | run p =>
    cases p with
    | ret a =>
      refine ⟨δs, ⟨hknown, hwf, hcongr, ?_, ?_, hpoint, fun _ => rfl⟩, fun _ => rfl⟩
      · intro hnot
        cases hnot
      · intro hnot
        cases hnot
    | fail e =>
      refine ⟨δs, ⟨hknown, hwf, hcongr, ?_, ?_, trivial, fun _ => rfl⟩, fun _ => rfl⟩
      · intro hnot
        cases hnot
      · intro hnot
        cases hnot
    | read k =>
      have hk : 𝓛.Keeps Q (fun _ _ => True) δs (k l (c d)) := hpoint l (c d) hknown (hwf d hd)
      exact ⟨δs, ⟨hknown, hwf, hcongr, fun _ => hunlocked, fun _ => hmoved, hk,
        fun h => by cases h⟩, fun _ => rfl⟩
    | keep f k =>
      exact ⟨δs, ⟨hpoint.1 l hknown, hwf, hcongr, fun _ => hunlocked, fun _ => hmoved, hpoint.2,
        fun h => by cases h⟩, fun _ => rfl⟩
    | write t eff k =>
      have hwait : 𝓛.StandsAt Q δs (.wait (t (c d)) eff k) :=
        ⟨hpoint.1, fun d hd => hpoint.2 (t _) d hd⟩
      exact ⟨δs, ⟨hknown, hwf, hcongr, fun _ => hunlocked, fun _ => hmoved, hwait,
        fun h => by cases h⟩, fun _ => rfl⟩
    | mark k => exact hpoint.elim
    | forget k => exact hpoint.elim
    | rewind k => exact hpoint.elim
  | wait ts eff k =>
    obtain ⟨hguard, hstep⟩ := hpoint
    have hwf' : ∀ d, 𝓛.wf d → 𝓛.wf (eff ts (c d)) := fun d hd => hguard.wf ts _ (hwf d hd)
    have hcongr' : ∀ d d', 𝓛.view d = 𝓛.view d' →
        𝓛.view (eff ts (c d)) = 𝓛.view (eff ts (c d')) :=
      fun d d' heq => hguard.view_congr ts _ _ (hcongr d d' heq)
    rcases hstep (c d) (hwf d hd) with ⟨hsame, hk⟩ | ⟨δ, hmem, hfit, hadd, hk⟩
    · refine ⟨δs, ⟨hknown, hwf', hcongr', ?_, ?_, hk, fun h => by cases h⟩, fun _ => rfl⟩
      · intro _ hkey
        obtain ⟨hnil, hview⟩ := hunlocked fun hm => hkey (List.mem_append_right ts hm)
        refine ⟨hnil, fun d => ?_⟩
        have := hguard.unlocked ts (c d) fun hm => hkey (List.mem_append_left ls hm)
        exact this.trans (hview d)
      · intro _
        exact ⟨hsame.trans hmoved.1, hmoved.2⟩
    · refine ⟨δs ++ [δ], ⟨hknown, hwf', hcongr', ?_, ?_, hk, fun h => by cases h⟩, ?_⟩
      · intro _ hkey
        exact absurd (List.mem_append_left ls hmem) hkey
      · intro _
        have hfit' : 𝓛.fits (𝓛.addAll (𝓛.view d) δs) δ := hmoved.1 ▸ hfit
        refine ⟨?_, fitsAll_append.mpr ⟨hmoved.2, hfit', trivial⟩⟩
        rw [addAll_append, ← hmoved.1]
        exact hadd
      · rintro ⟨a, ha⟩
        cases ha

/-- The state of all transactions on a row that was `o` at the start: `δs i` is what `i` has added,
and `order` names those that have committed. -/
structure Sound (𝓛 : Ledger L D K O Δ) (Q : List Δ → α → Prop) (o : O) (δs : ι → List Δ)
    (order : List ι) (w : World ι L D K ε α) : Prop where
  wf : 𝓛.wf w.committed
  mine : ∀ i, 𝓛.Mine Q w.committed (δs i) (w.tx i)
  exclusive : ∀ i j, i ≠ j → 𝓛.key ∈ (w.tx i).locks → 𝓛.key ∉ (w.tx j).locks
  nodup : order.Nodup
  succeeded : ∀ i, i ∈ order ↔ (w.tx i).Succeeded
  view : 𝓛.view w.committed = 𝓛.addAll o (order.flatMap δs)
  fits : 𝓛.FitsAll o (order.flatMap δs)

section step

variable [Fintype ι] [DecidableEq ι] [DecidableEq K] {o : O} {δs : ι → List Δ} {order : List ι}
  {w : World ι L D K ε α}

omit [Fintype ι] [DecidableEq ι] [DecidableEq K] in
/-- Nobody who holds the lock of the row sees it change by the turn of another. -/
private lemma Sound.view_publish (h : 𝓛.Sound Q o δs order w) {i j : ι} (hij : j ≠ i)
    (hkey : 𝓛.key ∈ (w.tx j).locks) (hfin : (w.tx i).finished = false) :
    𝓛.view ((w.tx i).publish w.committed) = 𝓛.view w.committed := by
  rcases publish_cases w.committed hfin with ⟨-, hpub⟩ | ⟨-, hpub⟩
  · rw [hpub]
    exact ((h.mine i).unlocked hfin (h.exclusive j i hij hkey)).2 w.committed
  · rw [hpub]

/-- A turn takes the lock of the row from nobody. -/
private lemma Sound.exclusive_next (h : 𝓛.Sound Q o δs order w) {i j : ι} (hij : j ≠ i)
    (hb : w.blocked i = false) (hkey : 𝓛.key ∈ ((w.tx i).next w.committed).locks) :
    𝓛.key ∉ (w.tx j).locks := by
  intro hj
  rcases mem_locks_next hkey with hi | ⟨ts, eff, k, hp, hm⟩
  · exact h.exclusive j i hij hj hi
  · have : w.blocked i = true := by
      simp only [World.blocked, hp, decide_eq_true_eq]
      exact ⟨j, hij, 𝓛.key, hm, hj⟩
    rw [hb] at this
    cases this

/-- The books after a turn of any transaction. -/
lemma Sound.step (h : 𝓛.Sound Q o δs order w) (i : ι) :
    ∃ δs' order', 𝓛.Sound Q o δs' order' (w.step i) := by
  by_cases hfin : (w.tx i).finished
  · rw [World.step_of_finished hfin]
    exact ⟨δs, order, h⟩
  by_cases hb : w.blocked i
  · rw [World.step_of_blocked hb]
    exact ⟨δs, order, h⟩
  rw [Bool.not_eq_true] at hfin hb
  rw [World.step_of_not_blocked hb]
  obtain ⟨δi, hmine, hend⟩ := (h.mine i).next h.wf hfin
  have hnot : i ∉ order := by
    intro hi
    have := finished_of_succeeded ((h.succeeded i).mp hi)
    rw [hfin] at this
    cases this
  have hne : ∀ j ∈ order, j ≠ i := fun j hj heq => hnot (heq ▸ hj)
  have hflat : order.flatMap (Function.update δs i δi) = order.flatMap δs := by
    apply List.flatMap_congr
    intro j hj
    rw [Function.update_of_ne (hne j hj)]
  have hlocks : ∀ a b, a ≠ b →
      𝓛.key ∈ (Function.update w.tx i ((w.tx i).next w.committed) a).locks →
        𝓛.key ∉ (Function.update w.tx i ((w.tx i).next w.committed) b).locks := by
    intro a b hab ha hb'
    by_cases hai : a = i
    · subst hai
      rw [Function.update_self] at ha
      rw [Function.update_of_ne hab.symm] at hb'
      exact h.exclusive_next hab.symm hb ha hb'
    · rw [Function.update_of_ne hai] at ha
      by_cases hbi : b = i
      · subst hbi
        rw [Function.update_self] at hb'
        exact h.exclusive_next hai hb hb' ha
      · rw [Function.update_of_ne hbi] at hb'
        exact h.exclusive a b hab ha hb'
  -- the others, and the one whose turn it was
  have hmines : ∀ j, 𝓛.Mine Q ((w.tx i).publish w.committed) (Function.update δs i δi j)
      (Function.update w.tx i ((w.tx i).next w.committed) j) := by
    intro j
    by_cases hj : j = i
    · subst hj
      rw [Function.update_self, Function.update_self]
      refine hmine.of_committed fun hkey => ?_
      rcases publish_cases w.committed hfin with ⟨hs, -⟩ | ⟨-, hpub⟩
      · rw [hmine.locks (finished_of_succeeded hs)] at hkey
        cases hkey
      · rw [hpub]
    · rw [Function.update_of_ne hj, Function.update_of_ne hj]
      exact (h.mine j).of_committed fun hkey => h.view_publish hj hkey hfin
  rcases publish_cases w.committed hfin with ⟨hs, hpub⟩ | ⟨hs, hpub⟩
  · obtain rfl := hend hs
    rw [Function.update_eq_self] at hmines hflat
    obtain ⟨hview, hfits⟩ := (h.mine i).moved hfin
    refine ⟨δs, order ++ [i], ?_, hmines, hlocks, ?_, fun j => ?_, ?_, ?_⟩
    · rw [hpub]
      exact (h.mine i).wf _ h.wf
    · exact List.nodup_append.mpr ⟨h.nodup, List.nodup_singleton i, by simpa using hne⟩
    · by_cases hj : j = i
      · subst hj
        simpa using hs
      · simpa [hj] using h.succeeded j
    · rw [hpub, hview, h.view, List.flatMap_append, addAll_append]
      simp
    · rw [List.flatMap_append, fitsAll_append, ← h.view]
      simpa using ⟨h.fits, hfits⟩
  · refine ⟨Function.update δs i δi, order, ?_, hmines, hlocks, h.nodup, fun j => ?_, ?_, ?_⟩
    · rw [hpub]
      exact h.wf
    · by_cases hj : j = i
      · subst hj
        simpa [hnot] using hs
      · simpa [hj] using h.succeeded j
    · rw [hpub, hflat]
      exact h.view
    · rw [hflat]
      exact h.fits

end step

end Ledger

/-- Whatever the schedule, the committed row is the row at the start with what the committed
transactions have added, in the order of their commits. -/
theorem World.ledger [Fintype ι] [DecidableEq ι] [DecidableEq K] (𝓛 : Ledger L D K O Δ)
    {Q : List Δ → α → Prop} {p : ι → Prog L D K ε α} {l : ι → L} {d₀ : D} (hd : 𝓛.wf d₀)
    (hl : ∀ i, 𝓛.known (l i)) (hp : ∀ i, 𝓛.Keeps Q (fun _ _ => True) [] (p i))
    (sched : List ι) :
    ∃ δs order, 𝓛.Sound Q (𝓛.view d₀) δs order
      ((World.mk d₀ fun i => Tx.start (p i) (l i)).run sched) := by
  have hrun : ∀ (sched : List ι) (w : World ι L D K ε α),
      (∃ δs order, 𝓛.Sound Q (𝓛.view d₀) δs order w) →
        ∃ δs order, 𝓛.Sound Q (𝓛.view d₀) δs order (w.run sched) := by
    intro sched
    induction sched with
    | nil => exact fun w h => h
    | cons i rest ih =>
      rintro w ⟨δs, order, h⟩
      exact ih _ (h.step i)
  refine hrun sched _ ⟨fun _ => [], [], hd, fun i => .start (hl i) (hp i) d₀, ?_, List.nodup_nil,
    fun i => ?_, ?_, trivial⟩
  · intro i j _ hkey
    cases hkey
  · simp [Tx.Succeeded, Tx.start]
  · simp

end Transaction
