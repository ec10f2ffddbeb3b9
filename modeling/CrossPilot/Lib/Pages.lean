import Mathlib.Tactic

/-!
# Answers in pages

An answer that is too long comes page by page. Each page but the last names the cursor under which
the next one is asked for. Pages that follow one another in this way lead from the cursor of the
first to what the last one names; they can be asked for in several goes, as long as the cursor is
kept between them.

A sorted table is paged by its keys: a page holds the first rows behind the key that the cursor
names, and the next cursor names the key of its last row. While the pages are asked for, the table
may change and a row may move. It is shown exactly once as long as it does not change sides with the
cursor (`Way.countP_shows`).
-/

namespace Pages

variable {α : Type}

/-- A page. An empty cursor is none. -/
structure Page (α : Type) where
  items : List α
  nextCursor : Option String

/-- The cursor of the page after this one, if there is one. -/
def Page.next (page : Page α) : Option String :=
  if page.nextCursor = some "" then none else page.nextCursor

/-- A page and the cursor it was asked for with. -/
structure Answer (α : Type) where
  cursor : Option String
  page : Page α

/-- The items of some answers. -/
def itemsOf (answers : List (Answer α)) : List α := answers.flatMap fun a => a.page.items

/-- The answers lead from one cursor to another. -/
inductive Leads : Option String → List (Answer α) → Option String → Prop
  | last (c : Option String) (page : Page α) : Leads c [⟨c, page⟩] page.next
  | more {c d e : Option String} {page : Page α} {rest : List (Answer α)} (hd : d ≠ none)
    (hnext : page.next = d) (hrest : Leads d rest e) : Leads c (⟨c, page⟩ :: rest) e

/-- What was asked for in two goes is one sequence of pages. -/
lemma Leads.append {c d e : Option String} {xs ys : List (Answer α)} (h : Leads c xs d)
    (hd : d ≠ none) (h' : Leads d ys e) : Leads c (xs ++ ys) e := by
  induction h with
  | last c page => exact .more hd rfl h'
  | more hne hnext _ ih => exact .more hne hnext (ih hd h')

/-- There is at least one page. -/
lemma Leads.ne_nil {c d : Option String} {xs : List (Answer α)} (h : Leads c xs d) : xs ≠ [] := by
  cases h <;> simp

@[simp] lemma mem_itemsOf {x : α} {answers : List (Answer α)} :
    x ∈ itemsOf answers ↔ ∃ a ∈ answers, x ∈ a.page.items := by
  simp [itemsOf]

/-! ### Pages of a sorted table -/

section Sorted

variable {ρ K : Type} [LinearOrder K] {k : ρ → K}

/-- The beginning of a strictly sorted list is what lies up to its last row. -/
theorem mem_take_iff {rows : List ρ} (hs : rows.Pairwise fun a b => k a < k b) {n : ℕ}
    {last x : ρ} (hlast : (rows.take n).getLast? = some last) :
    x ∈ rows.take n ↔ x ∈ rows ∧ k x ≤ k last := by
  obtain ⟨front, hfront⟩ : ∃ front, rows.take n = front ++ [last] :=
    ⟨_, (List.dropLast_append_getLast? last hlast).symm⟩
  have hsplit : rows = front ++ [last] ++ rows.drop n := by
    rw [← hfront, List.take_append_drop]
  rw [hsplit, List.pairwise_append] at hs
  obtain ⟨htake, _, hdrop⟩ := hs
  rw [List.pairwise_append] at htake
  constructor
  · intro hx
    refine ⟨List.mem_of_mem_take hx, ?_⟩
    rw [hfront] at hx
    obtain hx | hx := List.mem_append.mp hx
    · exact le_of_lt (htake.2.2 x hx last (by simp))
    · rw [List.mem_singleton.mp hx]
  · rintro ⟨hx, hle⟩
    rw [hsplit] at hx
    obtain hx | hx := List.mem_append.mp hx
    · rw [hfront]
      exact hx
    · exact absurd hle (not_le.mpr (hdrop last (by simp) x hx))

/-- Rows with different keys are sorted strictly. -/
lemma pairwise_insertionSort {rows : List ρ} {r : ρ → ρ → Prop} [DecidableRel r]
    (hr : ∀ a b, r a b ↔ k a ≤ k b) (hnodup : (rows.map k).Nodup) :
    (rows.insertionSort r).Pairwise fun a b => k a < k b := by
  have : Std.Total r := ⟨fun a b => by simpa only [hr] using le_total (k a) (k b)⟩
  have : IsTrans ρ r := ⟨fun a b c hab hbc => by
    rw [hr] at *
    exact hab.trans hbc⟩
  have hsorted : (rows.insertionSort r).Pairwise r := List.pairwise_insertionSort r rows
  have hkeys : ((rows.insertionSort r).map k).Nodup :=
    ((List.perm_insertionSort r rows).map k).nodup_iff.mpr hnodup
  rw [List.Nodup, List.pairwise_map] at hkeys
  refine (hsorted.and hkeys).imp ?_
  rintro a b ⟨hle, hne⟩
  exact lt_of_le_of_ne ((hr a b).mp hle) hne

/-- A row at the time a page is asked for: the key the cursor names, the key of the row, and the
key that the next cursor names. -/
structure Stop (K : Type) where
  cursor : Option K
  place : K
  next : Option K

/-- The row lies behind the cursor. -/
def Stop.Ahead (s : Stop K) : Prop := ∀ c ∈ s.cursor, c < s.place

/-- The row is on the page. -/
def Stop.Shows (s : Stop K) : Prop := s.Ahead ∧ ∀ d ∈ s.next, s.place ≤ d

/-- The row on the way through all pages. Each page moves the cursor on, and the row stays on its
side of it. -/
inductive Way : List (Stop K) → Prop
  | last (s : Stop K) (hnext : s.next = none) : Way [s]
  | more {s s' : Stop K} {rest : List (Stop K)} (d : K) (hnext : s.next = some d)
    (hcursor : s'.cursor = some d) (hmoves : ∀ c ∈ s.cursor, c < d)
    (hpassed : s.place ≤ d → s'.place ≤ d) (hahead : d < s.place → d < s'.place)
    (hrest : Way (s' :: rest)) : Way (s :: s' :: rest)

open Classical in
/-- A row that lies ahead is shown once, and a row that was passed is not shown again. -/
theorem Way.countP_shows {s : Stop K} {rest : List (Stop K)} (h : Way (s :: rest)) :
    (s :: rest).countP (fun s => decide s.Shows) = if s.Ahead then 1 else 0 := by
  generalize hstops : s :: rest = stops at h
  induction h generalizing s rest with
  | last s' hnext =>
    obtain ⟨rfl, rfl⟩ := List.cons.inj hstops
    simp [Stop.Shows, hnext]
  | @more s₀ s' rest' d hnext hcursor hmoves hpassed hahead hrest ih =>
    obtain ⟨rfl, rfl⟩ := List.cons.inj hstops
    have hshows : s.Shows ↔ s.Ahead ∧ s.place ≤ d := by simp [Stop.Shows, hnext]
    have hahead' : s'.Ahead ↔ d < s'.place := by simp [Stop.Ahead, hcursor]
    rw [List.countP_cons, ih rfl]
    simp only [decide_eq_true_eq, hshows, hahead']
    by_cases hbehind : s.Ahead
    · by_cases hon : s.place ≤ d
      · simp [hbehind, hon, not_lt.mpr (hpassed hon)]
      · simp [hbehind, hon, hahead (not_le.mp hon)]
    · -- the cursor has moved on past a row that it had passed
      have hpast : s.place ≤ d := by
        simp only [Stop.Ahead, not_forall, not_lt] at hbehind
        obtain ⟨c, hc, hle⟩ := hbehind
        exact hle.trans (le_of_lt (hmoves c hc))
      simp [hbehind, not_lt.mpr (hpassed hpast)]

end Sorted

end Pages
