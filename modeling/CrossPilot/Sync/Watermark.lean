import CrossPilot.Order.Upsert
import CrossPilot.Sync.Cursor

/-!
# What the high-water mark promises

The rounds of the order sync of one shop, in a row. A round may be refused by the circuit breaker,
break off with an error, leave orders unstored, stop at the page limit, go on where another has
stopped, or be rolled back. The trace keeps every page that was fetched, with the window it was
fetched for and the number of orders its round failed to store.

The high-water mark never goes back. Up to it nothing is missing, from the start of the window that
set it for the first time (`watermark`). The start of the first window of all is too early: as long
as there is no mark, every round looks back a fixed time from its own beginning.
-/

namespace CrossPilot

open Pages

/-! ### Rounds -/

/-- What a round meets. `fetch n` answers the `n`th call, and `failed` says how many orders of the
round were not stored. -/
structure OrderRound where
  now : Instant
  since : Option Instant := none
  upTo : Option Instant := none
  active : Bool := true
  hasCredential : Bool := true
  admitted : Bool := true
  fetch : ℕ → Option String → Except String (Page UnifiedOrder)
  failed : List UnifiedOrder → ℕ := fun _ => 0
  committed : Bool := true

/-- The high-water mark. -/
def markOf (stored : Option ShopSyncCursor) : Option Instant := stored.bind ShopSyncCursor.cursorAt

/-- Where an unfinished window goes on. -/
def resumption (stored : Option ShopSyncCursor) : Option OrderSyncWindow :=
  match stored with
  | none => none
  | some row =>
    match row.resumeCursor, row.resumeSince, row.resumeUntil with
    | some cursor, some since, some upTo =>
      if cursor = "" then none else some ⟨since, upTo, some cursor, true⟩
    | _, _, _ => none

/-- `_window`. -/
def windowOf (policy : OrderSyncPolicy) (stored : Option ShopSyncCursor) (r : OrderRound) :
    Except ServiceError OrderSyncWindow :=
  let overlap := seconds policy.orderOverlapSeconds
  let lookback := seconds policy.orderInitialLookbackSeconds
  if r.since = none ∧ r.upTo = none then
    match resumption stored with
    | some window => .ok window
    | none =>
      let window := orderSyncWindow (markOf stored) r.now overlap lookback
      .ok ⟨window.1, window.2, none, true⟩
  else
    let stop := r.upTo.getD r.now
    let start := r.since.getD (stop - lookback)
    if stop ≤ start then .error (.paramInvalid "同步开始时间必须早于结束时间")
    else .ok ⟨start, stop, none, false⟩

/-- `_fetch`. -/
def OrderRound.pull (policy : OrderSyncPolicy) (r : OrderRound) (window : OrderSyncWindow) :
    PullResult UnifiedOrder String :=
  if r.admitted then pullOrderPages r.fetch window.pageCursor policy.orderMaxPages
  else ⟨[], false, none, some "平台熔断中，本轮跳过"⟩

/-- A page that was fetched. -/
structure Fetched where
  since : Instant
  upTo : Instant
  answer : Answer UnifiedOrder
  failed : ℕ

/-- The stored cursor, the pages fetched so far, and the start of the window that set the
high-water mark for the first time. -/
structure SyncState where
  stored : Option ShopSyncCursor := none
  trace : List Fetched := []
  firstSince : Option Instant := none

/-- The pages of a round. -/
def fetchedIn (window : OrderSyncWindow) (batch : PullResult UnifiedOrder String) (failed : ℕ) :
    List Fetched :=
  batch.answers.map fun answer => ⟨window.since, window.upTo, answer, failed⟩

/-- What a round leaves of the cursor. -/
def storedAfter (r : OrderRound) (stored : Option ShopSyncCursor) (window : OrderSyncWindow)
    (batch : PullResult UnifiedOrder String) (failed : ℕ) : Option ShopSyncCursor :=
  if r.committed ∧ window.advance ∧ batch.error = none then
    match checkpointFor batch.complete false failed window.upTo batch.resumeCursor window.since with
    | none => stored
    | some point => some (saveCursor stored point)
  else stored

/-- The state after what was pulled has been stored. -/
def SyncState.after (s : SyncState) (r : OrderRound) (window : OrderSyncWindow)
    (batch : PullResult UnifiedOrder String) : SyncState :=
  let failed := r.failed batch.orders
  let stored := storedAfter r s.stored window batch failed
  { stored
    trace := s.trace ++ fetchedIn window batch failed
    firstSince := if markOf s.stored = none ∧ markOf stored ≠ none then some window.since
      else s.firstSince }

/-- `OrderSyncService.run`. -/
def SyncState.next (policy : OrderSyncPolicy) (s : SyncState) (r : OrderRound) : SyncState :=
  if r.active then
    match windowOf policy s.stored r with
    | .error _ => s
    | .ok window => if r.hasCredential then s.after r window (r.pull policy window) else s
  else s

/-- The rounds one after the other. -/
def syncRun (policy : OrderSyncPolicy) (rounds : List OrderRound) : SyncState :=
  rounds.foldl (SyncState.next policy) {}

/-! ### What is assumed of the platform, and what is promised -/

/-- Pages of a window that lead from the beginning to the end hold every order of the platform that
was updated in the window. They may have been asked for in several goes. -/
def Paginates (platform : Set UnifiedOrder) (trace : List Fetched) : Prop :=
  ∀ (since upTo : Instant) (pages : List Fetched), pages.Sublist trace →
    (∀ p ∈ pages, p.since = since ∧ p.upTo = upTo) → Leads none (pages.map Fetched.answer) none →
      ∀ order ∈ platform, since ≤ order.updatedAt → order.updatedAt ≤ upTo →
        ∃ p ∈ pages, order ∈ p.answer.page.items

/-- The order was on a page of a round that stored all its orders. -/
def Received (trace : List Fetched) (order : UnifiedOrder) : Prop :=
  ∃ p ∈ trace, order ∈ p.answer.page.items ∧ p.failed = 0

/-- The pages of an unfinished window that have been fetched. -/
structure Begun (trace : List Fetched) (stored : Option ShopSyncCursor)
    (window : OrderSyncWindow) (pages : List Fetched) : Prop where
  sub : pages.Sublist trace
  same : ∀ p ∈ pages, (p.since = window.since ∧ p.upTo = window.upTo) ∧ p.failed = 0
  leads : pages = [] ∧ window.pageCursor = none ∨
    window.pageCursor ≠ none ∧ Leads none (pages.map Fetched.answer) window.pageCursor
  since_le : ∀ mark, markOf stored = some mark → window.since ≤ mark

/-- What holds after any number of rounds. -/
structure Accounted (platform : Set UnifiedOrder) (s : SyncState) : Prop where
  covered : ∀ mark, markOf s.stored = some mark → ∃ first, s.firstSince = some first ∧
    ∀ order ∈ platform, first ≤ order.updatedAt → order.updatedAt ≤ mark →
      Received s.trace order
  pending : ∀ window, resumption s.stored = some window →
    ∃ pages, Begun s.trace s.stored window pages

/-! ### One round -/

lemma Paginates.of_append {platform : Set UnifiedOrder} {trace more : List Fetched}
    (h : Paginates platform (trace ++ more)) : Paginates platform trace :=
  fun since upTo pages hsub => h since upTo pages (hsub.trans (List.sublist_append_left _ _))

lemma Received.append {trace more : List Fetched} {order : UnifiedOrder}
    (h : Received trace order) : Received (trace ++ more) order := by
  obtain ⟨p, hp, hitem⟩ := h
  exact ⟨p, List.mem_append_left _ hp, hitem⟩

/-- A window after the high-water mark begins at it or before. -/
lemma orderSyncWindow_le {policy : OrderSyncPolicy} {mark now : Instant} {lookback : ℤ} :
    (orderSyncWindow (some mark) now (seconds policy.orderOverlapSeconds) lookback).1 ≤ mark := by
  have hoverlap : (0 : ℤ) ≤ seconds policy.orderOverlapSeconds :=
    mul_nonneg policy.overlap_nonneg (by decide)
  have hsecond : (0 : ℤ) ≤ seconds 1 := by decide
  generalize seconds policy.orderOverlapSeconds = overlap at hoverlap ⊢
  by_cases hnow : now ≤ mark - overlap
  · have hstart : (orderSyncWindow (some mark) now overlap lookback).1 =
        now - if 0 < overlap then overlap else seconds 1 := by
      simp only [orderSyncWindow, if_pos hnow]
    rw [hstart]
    split_ifs <;> linarith
  · have hstart : (orderSyncWindow (some mark) now overlap lookback).1 = mark - overlap := by
      simp only [orderSyncWindow, if_neg hnow]
    rw [hstart]
    linarith

/-- A round that moves the cursor goes on with an unfinished window, or starts one. -/
lemma exists_begun {policy : OrderSyncPolicy} {platform : Set UnifiedOrder} {s : SyncState}
    {r : OrderRound} {window : OrderSyncWindow} (h : Accounted platform s)
    (hwindow : windowOf policy s.stored r = .ok window) (hadvance : window.advance) :
    ∃ pages, Begun s.trace s.stored window pages := by
  simp only [windowOf] at hwindow
  split_ifs at hwindow with himplicit hrange
  · cases hresume : resumption s.stored with
    | some pending =>
      rw [hresume] at hwindow
      cases hwindow
      exact h.pending _ hresume
    | none =>
      rw [hresume] at hwindow
      cases hwindow
      refine ⟨[], List.nil_sublist _, by simp, .inl ⟨rfl, rfl⟩, fun mark hmark => ?_⟩
      rw [hmark]
      exact orderSyncWindow_le
  · cases hwindow
    cases hadvance

/-- The pages of a round continue those of the window. -/
lemma Begun.fetched {s : SyncState} {window : OrderSyncWindow} {pages : List Fetched}
    {batch : PullResult UnifiedOrder String} (h : Begun s.trace s.stored window pages)
    {c : Option String} (hleads : Leads window.pageCursor batch.answers c) :
    (pages ++ fetchedIn window batch 0).Sublist (s.trace ++ fetchedIn window batch 0) ∧
      (∀ p ∈ pages ++ fetchedIn window batch 0,
        (p.since = window.since ∧ p.upTo = window.upTo) ∧ p.failed = 0) ∧
      Leads none ((pages ++ fetchedIn window batch 0).map Fetched.answer) c := by
  refine ⟨h.sub.append (List.Sublist.refl _), ?_, ?_⟩
  · intro p hp
    rcases List.mem_append.1 hp with hp | hp
    · exact h.same p hp
    · obtain ⟨answer, -, rfl⟩ := List.mem_map.1 hp
      exact ⟨⟨rfl, rfl⟩, rfl⟩
  · have hnew : (fetchedIn window batch 0).map Fetched.answer = batch.answers := by
      rw [fetchedIn, List.map_map]
      exact List.map_id _
    rw [List.map_append, hnew]
    rcases h.leads with ⟨rfl, hcursor⟩ | ⟨hcursor, hbegun⟩
    · rw [hcursor] at hleads
      exact hleads
    · exact hbegun.append hcursor hleads

lemma Begun.append {trace more : List Fetched} {stored : Option ShopSyncCursor}
    {window : OrderSyncWindow} {pages : List Fetched} (h : Begun trace stored window pages) :
    Begun (trace ++ more) stored window pages :=
  { h with sub := h.sub.trans (List.sublist_append_left _ _) }

/-- What a pull of a round tells. -/
lemma pull_spec (policy : OrderSyncPolicy) (r : OrderRound) (window : OrderSyncWindow) :
    ((r.pull policy window).complete →
      Leads window.pageCursor (r.pull policy window).answers none) ∧
    ∀ c, (r.pull policy window).resumeCursor = some c →
      Leads window.pageCursor (r.pull policy window).answers (some c) := by
  unfold OrderRound.pull
  split_ifs
  · exact pullOrderPages_spec r.fetch window.pageCursor policy.pages_pos
  · exact ⟨by simp, by simp⟩

/-- What a round makes of the cursor: nothing, the end of the window, or a place to go on. -/
lemma storedAfter_cases (r : OrderRound) (stored : Option ShopSyncCursor)
    (window : OrderSyncWindow) (batch : PullResult UnifiedOrder String) (failed : ℕ) :
    storedAfter r stored window batch failed = stored ∨
    (window.advance ∧ failed = 0 ∧ batch.complete ∧
      storedAfter r stored window batch failed =
        some (saveCursor stored ⟨some window.upTo, none, none, none⟩)) ∨
    (window.advance ∧ failed = 0 ∧ ∃ cursor, batch.resumeCursor = some cursor ∧ cursor ≠ "" ∧
      storedAfter r stored window batch failed =
        some (saveCursor stored ⟨none, some cursor, some window.since, some window.upTo⟩)) := by
  unfold storedAfter
  split_ifs with h
  · obtain ⟨-, hadvance, -⟩ := h
    by_cases hfailed : failed = 0
    · subst hfailed
      cases hcomplete : batch.complete with
      | true => exact .inr (.inl ⟨hadvance, rfl, rfl, by simp [checkpointFor]⟩)
      | false =>
        cases hresume : batch.resumeCursor with
        | none => exact .inl (by simp [checkpointFor])
        | some cursor =>
          by_cases hempty : cursor = ""
          · exact .inl (by simp [checkpointFor, hempty])
          · exact .inr (.inr ⟨hadvance, rfl, cursor, rfl, hempty, by simp [checkpointFor, hempty]⟩)
    · exact .inl (by simp [checkpointFor, hfailed])
  · exact .inl rfl

/-- The mark after a window that is done. -/
lemma markOf_save_done (stored : Option ShopSyncCursor) (upTo : Instant) :
    markOf (some (saveCursor stored ⟨some upTo, none, none, none⟩)) =
      match markOf stored with
      | none => some upTo
      | some mark => some (max mark upTo) := by
  cases stored with
  | none => rfl
  | some row =>
    cases hmark : row.cursorAt with
    | none => simp [markOf, saveCursor, hmark]
    | some mark =>
      simp only [markOf, saveCursor, hmark, Option.bind_some]
      split_ifs with hlt
      · rw [max_eq_right hlt.le]
      · rw [max_eq_left (not_lt.1 hlt)]

/-- The mark stays while a window is not done. -/
lemma markOf_save_open (stored : Option ShopSyncCursor) (cursor : Option String)
    (since upTo : Option Instant) :
    markOf (some (saveCursor stored ⟨none, cursor, since, upTo⟩)) = markOf stored := by
  cases stored with
  | none => rfl
  | some row => rfl

lemma resumption_save (stored : Option ShopSyncCursor) (mark : Option Instant)
    (cursor : Option String) (since upTo : Option Instant) :
    resumption (some (saveCursor stored ⟨mark, cursor, since, upTo⟩)) =
      resumption (some ⟨none, cursor, since, upTo⟩) := by
  cases stored with
  | none => rfl
  | some row => rfl

lemma SyncState.next_cases (policy : OrderSyncPolicy) (s : SyncState) (r : OrderRound) :
    s.next policy r = s ∨ ∃ window, windowOf policy s.stored r = .ok window ∧
      s.next policy r = s.after r window (r.pull policy window) := by
  unfold SyncState.next
  cases hwindow : windowOf policy s.stored r with
  | error e => simp
  | ok window =>
    cases r.active with
    | false => exact .inl rfl
    | true =>
      cases r.hasCredential with
      | false => exact .inl rfl
      | true => exact .inr ⟨window, rfl, rfl⟩

/-- A round keeps the account. -/
theorem Accounted.next {policy : OrderSyncPolicy} {platform : Set UnifiedOrder} {s : SyncState}
    (h : Accounted platform s) (r : OrderRound)
    (hpaginates : Paginates platform (s.next policy r).trace) :
    Accounted platform (s.next policy r) := by
  rcases s.next_cases policy r with hidle | ⟨window, hwindow, hafter⟩
  · rw [hidle]
    exact h
  rw [hafter] at hpaginates ⊢
  obtain ⟨hends, hresumes⟩ := pull_spec policy r window
  generalize r.pull policy window = batch at hpaginates hends hresumes ⊢
  unfold SyncState.after at hpaginates ⊢
  dsimp only at hpaginates ⊢
  generalize r.failed batch.orders = failed at hpaginates ⊢
  rcases storedAfter_cases r s.stored window batch failed with
    hsame | ⟨hadvance, rfl, hcomplete, hdone⟩ | ⟨hadvance, rfl, cursor, hresume, hne, hopen⟩
  · -- nothing is kept: what was pending goes on to be
    have hfirst : ¬ (markOf s.stored = none ∧ markOf s.stored ≠ none) := fun h => h.2 h.1
    rw [hsame, if_neg hfirst]
    constructor
    · intro mark hmark
      obtain ⟨first, hsince, hreceived⟩ := h.covered mark hmark
      exact ⟨first, hsince, fun order ho hlow hhigh => (hreceived order ho hlow hhigh).append⟩
    · intro pending hpending
      obtain ⟨pages, hbegun⟩ := h.pending pending hpending
      exact ⟨pages, hbegun.append⟩
  · -- the window is done
    obtain ⟨pages, hbegun⟩ := exists_begun h hwindow hadvance
    obtain ⟨hsub, hsame, hleads⟩ := hbegun.fetched (hends hcomplete)
    have hwhole : ∀ order ∈ platform, window.since ≤ order.updatedAt →
        order.updatedAt ≤ window.upTo → Received (s.trace ++ fetchedIn window batch 0) order := by
      intro order horder hlow hhigh
      obtain ⟨p, hp, hitem⟩ := hpaginates window.since window.upTo _ hsub
        (fun p hp => (hsame p hp).1) hleads order horder hlow hhigh
      exact ⟨p, hsub.subset hp, hitem, (hsame p hp).2⟩
    rw [hdone]
    constructor
    · intro mark hmark
      rw [markOf_save_done] at hmark
      cases hold : markOf s.stored with
      | none =>
        rw [hold] at hmark
        cases hmark
        refine ⟨window.since, if_pos ⟨rfl, by simp [markOf_save_done, hold]⟩, hwhole⟩
      | some old =>
        rw [hold] at hmark
        cases hmark
        obtain ⟨first, hsince, hreceived⟩ := h.covered old hold
        refine ⟨first, ?_, fun order horder hlow hhigh => ?_⟩
        · rw [if_neg (by simp), hsince]
        · rcases le_total order.updatedAt old with hle | hle
          · exact (hreceived order horder hlow hle).append
          · have hbegins := hbegun.since_le old hold
            have hupTo : order.updatedAt ≤ window.upTo ∨ order.updatedAt ≤ old := by
              rcases le_max_iff.1 hhigh with hold | hnew
              · exact .inr hold
              · exact .inl hnew
            rcases hupTo with hnew | hold
            · exact hwhole order horder (hbegins.trans hle) hnew
            · exact (hreceived order horder hlow hold).append
    · intro pending hpending
      rw [resumption_save] at hpending
      cases hpending
  · -- the window stays open
    obtain ⟨pages, hbegun⟩ := exists_begun h hwindow hadvance
    obtain ⟨hsub, hsame, hleads⟩ := hbegun.fetched (hresumes cursor hresume)
    have hmark := markOf_save_open s.stored (some cursor) (some window.since) (some window.upTo)
    rw [hopen]
    constructor
    · intro mark hnew
      rw [hmark] at hnew
      obtain ⟨first, hsince, hreceived⟩ := h.covered mark hnew
      refine ⟨first, ?_, fun order ho hlow hhigh => (hreceived order ho hlow hhigh).append⟩
      rw [hmark, if_neg (fun h => h.2 h.1), hsince]
    · intro pending hpending
      rw [resumption_save] at hpending
      simp only [resumption, if_neg hne, Option.some.injEq] at hpending
      subst hpending
      refine ⟨_, hsub, hsame, .inr ⟨by simp, hleads⟩, fun mark hnew => ?_⟩
      rw [hmark] at hnew
      exact hbegun.since_le mark hnew

/-- A round does not move the mark back. -/
lemma SyncState.mark_le_next (policy : OrderSyncPolicy) (s : SyncState) (r : OrderRound)
    {mark : Instant} (hmark : markOf s.stored = some mark) :
    ∃ mark', markOf (s.next policy r).stored = some mark' ∧ mark ≤ mark' := by
  rcases s.next_cases policy r with hidle | ⟨window, -, hafter⟩
  · rw [hidle]
    exact ⟨mark, hmark, le_rfl⟩
  rw [hafter]
  unfold SyncState.after
  dsimp only
  generalize r.pull policy window = batch
  rcases storedAfter_cases r s.stored window batch (r.failed batch.orders) with
    hsame | ⟨-, -, -, hdone⟩ | ⟨-, -, cursor, -, -, hopen⟩
  · rw [hsame]
    exact ⟨mark, hmark, le_rfl⟩
  · rw [hdone, markOf_save_done, hmark]
    exact ⟨_, rfl, le_max_left _ _⟩
  · rw [hopen, markOf_save_open]
    exact ⟨mark, hmark, le_rfl⟩

/-! ### Any number of rounds -/

@[simp] lemma syncRun_nil (policy : OrderSyncPolicy) : syncRun policy [] = {} := rfl

@[simp] lemma syncRun_concat (policy : OrderSyncPolicy) (rounds : List OrderRound)
    (r : OrderRound) : syncRun policy (rounds ++ [r]) = (syncRun policy rounds).next policy r := by
  simp [syncRun]

lemma SyncState.exists_trace (policy : OrderSyncPolicy) (s : SyncState) (r : OrderRound) :
    ∃ more, (s.next policy r).trace = s.trace ++ more := by
  rcases s.next_cases policy r with hidle | ⟨window, -, hafter⟩
  · exact ⟨[], by rw [hidle, List.append_nil]⟩
  · exact ⟨_, by rw [hafter]; rfl⟩

/-- Every number of rounds keeps the account. -/
theorem accounted_syncRun {policy : OrderSyncPolicy} {platform : Set UnifiedOrder}
    (rounds : List OrderRound) (h : Paginates platform (syncRun policy rounds).trace) :
    Accounted platform (syncRun policy rounds) := by
  induction rounds using List.reverseRecOn with
  | nil => exact ⟨(fun _ h => by cases h), fun _ h => by cases h⟩
  | append_singleton rounds r ih =>
    rw [syncRun_concat] at h ⊢
    obtain ⟨more, hmore⟩ := (syncRun policy rounds).exists_trace policy r
    have hbefore : Paginates platform (syncRun policy rounds).trace := by
      rw [hmore] at h
      exact h.of_append
    exact (ih hbefore).next r h

lemma mark_le_syncRun (policy : OrderSyncPolicy) (earlier later : List OrderRound)
    {mark : Instant} (hmark : markOf (syncRun policy earlier).stored = some mark) :
    ∃ mark', markOf (syncRun policy (earlier ++ later)).stored = some mark' ∧ mark ≤ mark' := by
  induction later using List.reverseRecOn with
  | nil => exact ⟨mark, by simpa using hmark, le_rfl⟩
  | append_singleton later r ih =>
    obtain ⟨mark', hmark', hle⟩ := ih
    obtain ⟨mark'', hmark'', hle'⟩ :=
      (syncRun policy (earlier ++ later)).mark_le_next policy r hmark'
    rw [← List.append_assoc, syncRun_concat]
    exact ⟨mark'', hmark'', hle.trans hle'⟩

/-- The high-water mark never goes back, and every order that was updated between the start of the
window that set it for the first time and the mark was received by a round that stored all its
orders, provided the platform returns every order of a window whose pages are followed to the
end. -/
theorem watermark (policy : OrderSyncPolicy) (platform : Set UnifiedOrder)
    (rounds : List OrderRound) (h : Paginates platform (syncRun policy rounds).trace) :
    (∀ earlier later, rounds = earlier ++ later →
      ∀ mark, markOf (syncRun policy earlier).stored = some mark →
        ∃ mark', markOf (syncRun policy rounds).stored = some mark' ∧ mark ≤ mark') ∧
    ∀ mark, markOf (syncRun policy rounds).stored = some mark →
      ∃ first, (syncRun policy rounds).firstSince = some first ∧
        ∀ order ∈ platform, first ≤ order.updatedAt → order.updatedAt ≤ mark →
          Received (syncRun policy rounds).trace order := by
  constructor
  · rintro earlier later rfl mark hmark
    exact mark_le_syncRun policy earlier later hmark
  · exact (accounted_syncRun rounds h).covered

/-! ### A first round that fails -/

/-- Pages that each hold what was updated in their window. -/
lemma paginates_of_forall {platform : Set UnifiedOrder} {trace : List Fetched}
    (h : ∀ p ∈ trace, ∀ order ∈ platform, p.since ≤ order.updatedAt →
      order.updatedAt ≤ p.upTo → order ∈ p.answer.page.items) : Paginates platform trace := by
  intro since upTo pages hsub hwindow hleads order horder hlow hhigh
  obtain ⟨p, hp⟩ := List.exists_mem_of_ne_nil pages fun hnil => hleads.ne_nil (by simp [hnil])
  obtain ⟨rfl, rfl⟩ := hwindow p hp
  exact ⟨p, hp, h p (hsub.subset hp) order horder hlow hhigh⟩

/-- An order that was updated a day before the first round. -/
def oldOrder : UnifiedOrder where
  platformOrderId := "576461"
  platformStatus := "AWAITING_SHIPMENT"
  items := []
  updatedAt := -86400000000

/-- A round at a given time, with one answer to every call. -/
def roundAt (now : Instant) (answer : Except String (Page UnifiedOrder)) : OrderRound where
  now := now
  fetch := fun _ _ => answer

/-- A round that receives the order sets the mark, and the order lies in its window. -/
theorem watermark_oldOrder : ∃ first,
    (syncRun {} [roundAt 0 (.ok ⟨[oldOrder], none⟩)]).firstSince = some first ∧
      ∀ order ∈ ({oldOrder} : Set UnifiedOrder), first ≤ order.updatedAt → order.updatedAt ≤ 0 →
        Received (syncRun {} [roundAt 0 (.ok ⟨[oldOrder], none⟩)]).trace order := by
  have hpages : Paginates {oldOrder} (syncRun {} [roundAt 0 (.ok ⟨[oldOrder], none⟩)]).trace := by
    refine paginates_of_forall fun p hp order horder _ _ => ?_
    obtain rfl : order = oldOrder := horder
    obtain rfl : p = ⟨-86400000000, 0, ⟨none, ⟨[oldOrder], none⟩⟩, 0⟩ := List.mem_singleton.1 hp
    exact List.mem_singleton.2 rfl
  exact (watermark {} {oldOrder} _ hpages).2 0 (by decide)

/-- The start of the window of the first round. -/
def startOfFirstWindow (policy : OrderSyncPolicy) (rounds : List OrderRound) : Option Instant :=
  match rounds with
  | [] => none
  | r :: _ =>
    match windowOf policy none r with
    | .error _ => none
    | .ok window => some window.since

/-- A round that fails, and one a second later that finds nothing. -/
def lateRounds : List OrderRound :=
  [roundAt 0 (.error "timeout"), roundAt 1000000 (.ok ⟨[], none⟩)]

/-- The first round fails, and the second looks back from a second later: the order that was updated
at the start of the first window is not asked for again. -/
theorem not_watermark_from_first : ¬ ∀ (policy : OrderSyncPolicy) (platform : Set UnifiedOrder)
    (rounds : List OrderRound), Paginates platform (syncRun policy rounds).trace →
      ∀ first mark, startOfFirstWindow policy rounds = some first →
        markOf (syncRun policy rounds).stored = some mark → ∀ order ∈ platform,
          first ≤ order.updatedAt → order.updatedAt ≤ mark →
            Received (syncRun policy rounds).trace order := by
  intro h
  have htrace : (syncRun {} lateRounds).trace =
      [⟨-86399000000, 1000000, ⟨none, ⟨[], none⟩⟩, 0⟩] := rfl
  have hpages : Paginates {oldOrder} (syncRun {} lateRounds).trace := by
    rw [htrace]
    refine paginates_of_forall fun p hp order horder hlow _ => ?_
    obtain rfl : order = oldOrder := horder
    obtain rfl := List.mem_singleton.1 hp
    exact absurd hlow (by decide)
  obtain ⟨p, hp, hitem, -⟩ := h {} {oldOrder} lateRounds hpages (-86400000000) 1000000 (by decide)
    (by decide) oldOrder rfl (by decide) (by decide)
  rw [htrace] at hp
  obtain rfl := List.mem_singleton.1 hp
  exact absurd hitem (List.not_mem_nil)

end CrossPilot
