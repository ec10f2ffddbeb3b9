import CrossPilot.Database
import CrossPilot.Lib.Pages

/-!
# The cursor of the order sync

A round of the order sync asks for what changed between the high-water mark, less an overlap, and
now. It follows the pages up to a limit. If the limit is reached, the cursor of the next page is
kept with the window, and the next round goes on from there; the high-water mark moves only when a
window is done. After an error, or if some order was not stored, the cursor stays as it was.
-/

namespace CrossPilot

open Pages

/-- The settings of the order sync, with the checks of `SyncPolicy`. -/
structure OrderSyncPolicy where
  orderOverlapSeconds : ℤ := 300
  orderInitialLookbackSeconds : ℤ := 86400
  orderMaxPages : ℕ := 20
  overlap_nonneg : 0 ≤ orderOverlapSeconds := by decide
  lookback_pos : 1 ≤ orderInitialLookbackSeconds := by decide
  pages_pos : 1 ≤ orderMaxPages := by decide

/-- `timedelta(seconds=n)`. -/
def seconds (n : ℤ) : ℤ := n * 1000000

/-- What a round asks for. -/
structure OrderSyncWindow where
  since : Instant
  upTo : Instant
  pageCursor : Option String
  advance : Bool
  deriving DecidableEq

/-- How far the orders of a shop are synchronised, and where an unfinished window goes on. -/
structure ShopSyncCursor where
  cursorAt : Option Instant := none
  resumeCursor : Option String := none
  resumeSince : Option Instant := none
  resumeUntil : Option Instant := none
  deriving DecidableEq

/-- What is to be kept of a round. Without `cursorAt` the high-water mark stays. -/
structure CursorCheckpoint where
  cursorAt : Option Instant
  resumeCursor : Option String
  resumeSince : Option Instant
  resumeUntil : Option Instant
  deriving DecidableEq

/-- The window after the high-water mark. The first one looks back a fixed time from now. -/
def orderSyncWindow (cursorAt : Option Instant) (now : Instant) (overlap initialLookback : ℤ) :
    Instant × Instant :=
  let since := match cursorAt with
    | none => now - initialLookback
    | some mark => mark - overlap
  if now ≤ since then (now - (if 0 < overlap then overlap else seconds 1), now) else (since, now)

/-- What a round leaves behind. There is nothing if it failed, or if the pages went in a circle. -/
def checkpointFor (complete errored : Bool) (failed : ℕ) (upTo : Instant)
    (resumeCursor : Option String) (since : Instant) : Option CursorCheckpoint :=
  if errored ∨ failed ≠ 0 then none
  else if complete then some ⟨some upTo, none, none, none⟩
  else
    match resumeCursor with
    | none => none
    | some cursor => if cursor = "" then none else some ⟨none, some cursor, some since, some upTo⟩

/-- `ShopSyncCursorRepository.save`. The high-water mark only moves forward. -/
def saveCursor (stored : Option ShopSyncCursor) (point : CursorCheckpoint) : ShopSyncCursor :=
  match stored with
  | none => ⟨point.cursorAt, point.resumeCursor, point.resumeSince, point.resumeUntil⟩
  | some row =>
    let cursorAt := match point.cursorAt, row.cursorAt with
      | some new, some old => if old < new then some new else some old
      | some new, none => some new
      | none, old => old
    ⟨cursorAt, point.resumeCursor, point.resumeSince, point.resumeUntil⟩

/-! ### Pages -/

variable {α ε : Type}

/-- What was pulled. -/
structure PullResult (α ε : Type) where
  answers : List (Answer α)
  complete : Bool
  resumeCursor : Option String
  error : Option ε

/-- All items of the pages. -/
def PullResult.orders (result : PullResult α ε) : List α := itemsOf result.answers

/-- The loop of `pull_order_pages`. `fetch n` is the answer to the `n`th call. -/
def pullLoop (fetch : ℕ → Option String → Except ε (Page α)) :
    ℕ → Option String → List String → List (Answer α) → PullResult α ε
  | 0, cursor, _, answers => ⟨answers, false, cursor, none⟩
  | n + 1, cursor, seen, answers =>
    match fetch answers.length cursor with
    | .error e => ⟨answers, false, none, some e⟩
    | .ok page =>
      match page.next with
      | none => ⟨answers ++ [⟨cursor, page⟩], true, none, none⟩
      | some next =>
        if next ∈ seen then ⟨answers ++ [⟨cursor, page⟩], false, none, none⟩
        else pullLoop fetch n (some next) (next :: seen) (answers ++ [⟨cursor, page⟩])

/-- Pull page by page, until there is no next page, a cursor comes again, or there are enough. -/
def pullOrderPages (fetch : ℕ → Option String → Except ε (Page α)) (startCursor : Option String)
    (maxPages : ℕ) : PullResult α ε :=
  pullLoop fetch maxPages startCursor
    (startCursor.toList.filter fun cursor => cursor != "") []

section Loop

variable {fetch : ℕ → Option String → Except ε (Page α)} {n : ℕ} {cursor : Option String}
  {seen : List String} {answers : List (Answer α)} {page : Page α} {next : String}

lemma pullLoop_error {e : ε} (h : fetch answers.length cursor = .error e) :
    pullLoop fetch (n + 1) cursor seen answers = ⟨answers, false, none, some e⟩ := by
  simp only [pullLoop, h]

lemma pullLoop_last (h : fetch answers.length cursor = .ok page) (hnext : page.next = none) :
    pullLoop fetch (n + 1) cursor seen answers =
      ⟨answers ++ [⟨cursor, page⟩], true, none, none⟩ := by
  simp only [pullLoop, h, hnext]

lemma pullLoop_circle (h : fetch answers.length cursor = .ok page)
    (hnext : page.next = some next) (hseen : next ∈ seen) :
    pullLoop fetch (n + 1) cursor seen answers =
      ⟨answers ++ [⟨cursor, page⟩], false, none, none⟩ := by
  simp only [pullLoop, h, hnext, if_pos hseen]

lemma pullLoop_more (h : fetch answers.length cursor = .ok page)
    (hnext : page.next = some next) (hseen : next ∉ seen) :
    pullLoop fetch (n + 1) cursor seen answers =
      pullLoop fetch n (some next) (next :: seen) (answers ++ [⟨cursor, page⟩]) := by
  simp only [pullLoop, h, hnext, if_neg hseen]

end Loop

/-- Where the pages that a loop adds lead: to the end, or to the cursor that is kept. -/
structure Pulled (n : ℕ) (cursor : Option String) (new : List (Answer α))
    (result : PullResult α ε) : Prop where
  complete : result.complete → Leads cursor new none
  resume : ∀ c, result.resumeCursor = some c →
    n = 0 ∧ new = [] ∧ cursor = some c ∨ Leads cursor new (some c)

lemma pullLoop_spec (fetch : ℕ → Option String → Except ε (Page α)) (n : ℕ)
    (cursor : Option String) (seen : List String) (answers : List (Answer α)) :
    ∃ new, (pullLoop fetch n cursor seen answers).answers = answers ++ new ∧
      Pulled n cursor new (pullLoop fetch n cursor seen answers) := by
  induction n generalizing cursor seen answers with
  | zero => exact ⟨[], by simp [pullLoop], by simp [pullLoop], fun c hc => .inl ⟨rfl, rfl, hc⟩⟩
  | succ n ih =>
    cases hfetch : fetch answers.length cursor with
    | error e =>
      rw [pullLoop_error hfetch]
      exact ⟨[], by simp, by simp, by simp⟩
    | ok page =>
      have hlast : Leads cursor [⟨cursor, page⟩] page.next := .last cursor page
      cases hnext : page.next with
      | none =>
        rw [pullLoop_last hfetch hnext]
        exact ⟨[⟨cursor, page⟩], rfl, fun _ => hnext ▸ hlast, by simp⟩
      | some next =>
        by_cases hseen : next ∈ seen
        · rw [pullLoop_circle hfetch hnext hseen]
          exact ⟨[⟨cursor, page⟩], rfl, by simp, by simp⟩
        · rw [pullLoop_more hfetch hnext hseen]
          obtain ⟨new, hanswers, hpulled⟩ :=
            ih (some next) (next :: seen) (answers ++ [⟨cursor, page⟩])
          refine ⟨⟨cursor, page⟩ :: new, by rw [hanswers]; simp, ?_, ?_⟩
          · intro hcomplete
            exact .more (by simp) hnext (hpulled.complete hcomplete)
          · intro c hc
            right
            rcases hpulled.resume c hc with ⟨-, rfl, hcursor⟩ | hleads
            · rw [hnext, hcursor] at hlast
              exact hlast
            · exact .more (by simp) hnext hleads

/-- A pull that is complete went through all pages; one that is to be resumed led to the cursor it
is resumed with. -/
theorem pullOrderPages_spec (fetch : ℕ → Option String → Except ε (Page α))
    (startCursor : Option String) {maxPages : ℕ} (hpages : 1 ≤ maxPages) :
    ((pullOrderPages fetch startCursor maxPages).complete →
      Leads startCursor (pullOrderPages fetch startCursor maxPages).answers none) ∧
    ∀ c, (pullOrderPages fetch startCursor maxPages).resumeCursor = some c →
      Leads startCursor (pullOrderPages fetch startCursor maxPages).answers (some c) := by
  obtain ⟨new, hanswers, hpulled⟩ := pullLoop_spec fetch maxPages startCursor
    (startCursor.toList.filter fun cursor => cursor != "") []
  rw [List.nil_append] at hanswers
  unfold pullOrderPages
  rw [hanswers]
  refine ⟨hpulled.complete, fun c hc => ?_⟩
  rcases hpulled.resume c hc with ⟨hzero, -, -⟩ | hleads
  · omega
  · exact hleads

end CrossPilot
