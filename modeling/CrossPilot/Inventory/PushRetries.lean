import CrossPilot.Inventory.PushFailures
import CrossPilot.Sync.Delivery

/-!
# The task that pushes a SKU

A push that the platform refuses is run again, and in the end it is parked among the dead letters.
Being told to slow down is not meant to count as a retry, and the plan does not count it. But the plan
is asked with the number of all runs before, which Celery counts and limits.
-/

namespace CrossPilot

open Webhook

/-- What a run of the task meets. -/
structure PushAttempt where
  calls : PushCalls
  db : Db

/-- How a run of the task ends: with its report, or it raises, or it asks to be run again. -/
inductive PushEnd
  | returned (run : PushRun)
  | raised (e : ServiceError)
  | retried (countdown : ℚ)
  deriving DecidableEq

def pushDeadLetter (tenantId skuId : ℕ) (error : String) : DeadLetter where
  taskName := "batch.push_inventory"
  tenantId := tenantId
  kwargs := [("tenant_id", toString tenantId), ("sku_id", toString skuId)]
  error := error

section task

variable (w : Webhook.Worker) (tenantId skuId : ℕ) (attempts : ℕ → PushAttempt)

/-- `_retry_or_dead`. `task.retry` raises `MaxRetriesExceededError` after the last retry. -/
def retryOrDead (run : PushRun) (retries : ℕ) (queue : List DeadLetter) :
    PushEnd × List DeadLetter :=
  let plan := planRetry w.policy w.uniform run.decision retries false run.retryAfterSeconds
  let letter := pushDeadLetter tenantId skuId run.error
  if plan.action = .deadLetter ∨ plan.action = .fail then (.returned run, queue ++ [letter])
  else if w.maxRetries < retries + 1 then (.returned run, queue ++ [letter])
  else (.retried plan.delaySeconds, queue)

/-- The report of a run. -/
def report (retries : ℕ) : Except ServiceError PushRun :=
  (pushSku (attempts retries).calls (attempts retries).db skuId false retries).2

/-- `push_inventory`. -/
def pushInventory (retries : ℕ) (queue : List DeadLetter) : PushEnd × List DeadLetter :=
  match report skuId attempts retries with
  | .error e => (.raised e, queue)
  | .ok run =>
    if run.retry then retryOrDead w tenantId skuId run retries queue
    else (.returned run, queue)

/-- Celery: the task is run again if it asks for it. Told are the number of retries, the end of the
last run and the dead letters. There is no answer if the fuel does not do. -/
def runPush : ℕ → ℕ → List DeadLetter → Option (ℕ × PushEnd × List DeadLetter)
  | 0, _, _ => none
  | fuel + 1, retries, queue =>
    match pushInventory w tenantId skuId attempts retries queue with
    | (.retried _, queue) => runPush fuel (retries + 1) queue
    | r => some (retries, r)

end task

/-! ### What the platform has answered -/

/-- The platform has asked to be left alone for a while: 429. -/
def Throttled (r : Except ServiceError PushRun) : Prop :=
  ∃ run, r = .ok run ∧ run.retry = true ∧ run.decision = .retryAfter

/-- The platform has failed, and may do better. -/
def Outage (r : Except ServiceError PushRun) : Prop :=
  ∃ run, r = .ok run ∧ run.retry = true ∧ run.decision = .retry

/-- The platform will not take the push, however often it is tried. -/
def Refused (r : Except ServiceError PushRun) : Prop :=
  ∃ run, r = .ok run ∧ run.retry = true ∧ run.decision = .deadLetter

section instances

variable (r : Except ServiceError PushRun)

/-- A property of the report of a push that has one. -/
private def decideReport (p : PushRun → Prop) [DecidablePred p] :
    Decidable (∃ run, r = .ok run ∧ p run) :=
  match r with
  | .error _ => isFalse fun ⟨_, h, _⟩ => nomatch h
  | .ok run => decidable_of_iff (p run)
      ⟨fun h => ⟨run, rfl, h⟩, fun ⟨_, h, hp⟩ => Except.ok.inj h ▸ hp⟩

instance : Decidable (Throttled r) := decideReport r _

instance : Decidable (Outage r) := decideReport r _

instance : Decidable (Refused r) := decideReport r _

end instances

/-- The failures of the platform up to a run. -/
def outages (reports : ℕ → Except ServiceError PushRun) (n : ℕ) : ℕ :=
  ((Finset.range (n + 1)).filter fun k => Outage (reports k)).card

/-- What is parked was refused for good, or has failed once more than there are waits. -/
def ParkedRightly (w : Webhook.Worker) (tenantId skuId : ℕ) (attempts : ℕ → PushAttempt) : Prop :=
  ∀ queue last ending queue',
    runPush w tenantId skuId attempts (w.maxRetries + 1) 0 queue = some (last, ending, queue') →
    queue' ≠ queue → Refused (report skuId attempts last) ∨
      outages (report skuId attempts) last = w.policy.backoffSeconds.length + 1

/-- There is a run that Celery allows, before which no failure comes after the last wait, and which
either is no matter of retrying or fails after waits for failures alone. -/
def WaitsForFailures (w : Webhook.Worker) (reports : ℕ → Except ServiceError PushRun) : Prop :=
  let waits := w.policy.backoffSeconds.length
  ∃ last ≤ w.maxRetries,
    (∀ k < last, Throttled (reports k) ∨ Outage (reports k) ∧ k < waits) ∧
    (¬ Throttled (reports last) ∧ ¬ Outage (reports last) ∨
      Outage (reports last) ∧ waits ≤ last ∧ ∀ k < waits, Outage (reports k))

section runs

variable {w : Webhook.Worker} {tenantId skuId : ℕ} {attempts : ℕ → PushAttempt} {queue : List DeadLetter}

lemma pushShops_retry {c : PushCalls} {d : Db} {sweep : Bool} {retryCount : ℕ} {free : ℤ}
    {groups : List (ℕ × List Listing)} {written : List InventoryPushLog} {zeroed : ℕ} {run : PushRun}
    (h : (pushShops c d skuId sweep retryCount free groups written zeroed).2 = .ok run)
    (hretry : run.retry = true) :
    run.decision = .retry ∨ run.decision = .retryAfter ∨ run.decision = .deadLetter := by
  induction groups generalizing written zeroed with
  | nil =>
    cases h
    cases hretry
  | cons g rest ih =>
    simp only [pushShops] at h
    split at h
    · exact ih h
    · split at h
      · cases h
      · exact ih h
      · split at h
        · cases h
          simpa [AdapterError.worthRetry, or_assoc] using hretry
        · exact ih h

/-- Only what may do better, or will not be taken at all, is not returned. -/
lemma report_cases (skuId : ℕ) (attempts : ℕ → PushAttempt) (k : ℕ) :
    Throttled (report skuId attempts k) ∨ Outage (report skuId attempts k) ∨
      Refused (report skuId attempts k) ∨
      ∀ run, report skuId attempts k = .ok run → run.retry = false := by
  cases hr : report skuId attempts k with
  | error e => exact .inr (.inr (.inr fun run h => by cases h))
  | ok run =>
    cases hretry : run.retry with
    | false =>
      right; right; right
      intro run' h
      rw [← Except.ok.inj h, hretry]
    | true =>
      have hpush : (pushSku (attempts k).calls (attempts k).db skuId false k).2 = .ok run := hr
      rw [pushSku] at hpush
      split at hpush
      · obtain h | h | h := pushShops_retry hpush hretry
        · exact .inr (.inl ⟨run, rfl, hretry, h⟩)
        · exact .inl ⟨run, rfl, hretry, h⟩
        · exact .inr (.inr (.inl ⟨run, rfl, hretry, h⟩))
      · cases hpush

/-- The runs after which the task is run again. -/
def Again (w : Webhook.Worker) (reports : ℕ → Except ServiceError PushRun) (k : ℕ) : Prop :=
  (Throttled (reports k) ∨ Outage (reports k) ∧ k < w.policy.backoffSeconds.length) ∧
    k < w.maxRetries

/-- The end of a run whose report asks for a retry that may or may not be left. -/
def LeavesTo (again : Prop) (run : PushRun) (queue : List DeadLetter)
    (r : PushEnd × List DeadLetter) : Prop :=
  (again ∧ ∃ t, r = (.retried t, queue)) ∨ ¬ again ∧ ∃ letter, r = (.returned run, queue ++ [letter])

lemma retryOrDead_throttled (w : Webhook.Worker) (tenantId skuId : ℕ) {run : PushRun} (k : ℕ)
    (queue : List DeadLetter) (h : run.decision = .retryAfter) :
    LeavesTo (k < w.maxRetries) run queue (retryOrDead w tenantId skuId run k queue) := by
  simp only [retryOrDead, planRetry, h]
  by_cases hk : k < w.maxRetries
  · refine .inl ⟨hk, ?_⟩
    simp [Nat.not_lt.mpr (Nat.succ_le_iff.mpr hk)]
  · refine .inr ⟨hk, ?_⟩
    simp [Nat.lt_succ_iff.mpr (not_lt.mp hk)]

lemma retryOrDead_outage (w : Webhook.Worker) (tenantId skuId : ℕ) {run : PushRun} (k : ℕ)
    (queue : List DeadLetter) (h : run.decision = .retry) :
    LeavesTo (k < w.policy.backoffSeconds.length ∧ k < w.maxRetries) run queue
      (retryOrDead w tenantId skuId run k queue) := by
  simp only [retryOrDead, planRetry, h]
  by_cases hn : k < w.policy.backoffSeconds.length
  · rw [List.getElem?_eq_getElem hn]
    by_cases hk : k < w.maxRetries
    · refine .inl ⟨⟨hn, hk⟩, ?_⟩
      simp [Nat.not_lt.mpr (Nat.succ_le_iff.mpr hk)]
    · refine .inr ⟨fun h => hk h.2, ?_⟩
      simp [Nat.lt_succ_iff.mpr (not_lt.mp hk)]
  · rw [List.getElem?_eq_none (not_lt.mp hn)]
    refine .inr ⟨fun h => hn h.1, ?_⟩
    simp

lemma pushInventory_of_retry {run : PushRun} {k : ℕ} (hr : report skuId attempts k = .ok run)
    (hretry : run.retry = true) : pushInventory w tenantId skuId attempts k queue =
      retryOrDead w tenantId skuId run k queue := by
  rw [pushInventory, hr]
  exact if_pos hretry

/-- Only one of the answers can be told. -/
lemma not_outage_of_throttled {r : Except ServiceError PushRun} (h : Throttled r) : ¬ Outage r := by
  obtain ⟨run, rfl, -, hthrottled⟩ := h
  rintro ⟨_, hok, -, houtage⟩
  cases hok
  rw [hthrottled] at houtage
  cases houtage

lemma not_again_of_refused {reports : ℕ → Except ServiceError PushRun} {k : ℕ}
    (h : Refused (reports k)) : ¬ Again w reports k := by
  obtain ⟨run, hr, -, hrefused⟩ := h
  rintro ⟨⟨_, hok, -, hthrottled⟩ | ⟨⟨_, hok, -, houtage⟩, -⟩, -⟩
  · cases hr.symm.trans hok
    simp [hrefused] at hthrottled
  · cases hr.symm.trans hok
    simp [hrefused] at houtage

/-- A run is followed by another, or it is the last, and what it leaves among the dead letters is the
push that did not come through. -/
lemma pushInventory_cases (w : Webhook.Worker) (tenantId skuId : ℕ) (attempts : ℕ → PushAttempt) (k : ℕ)
    (queue : List DeadLetter) :
    (Again w (report skuId attempts) k ∧
      ∃ t, pushInventory w tenantId skuId attempts k queue = (.retried t, queue)) ∨
    ¬ Again w (report skuId attempts) k ∧
      (∀ t, (pushInventory w tenantId skuId attempts k queue).1 ≠ .retried t) ∧
      ((pushInventory w tenantId skuId attempts k queue).2 ≠ queue ↔
        Throttled (report skuId attempts k) ∨ Outage (report skuId attempts k) ∨
          Refused (report skuId attempts k)) := by
  obtain h | h | h | h := report_cases skuId attempts k
  · obtain ⟨run, hr, hretry, hdecision⟩ := id h
    rw [pushInventory_of_retry hr hretry]
    obtain ⟨hk, hend⟩ | ⟨hk, letter, hend⟩ :=
      retryOrDead_throttled w tenantId skuId k queue hdecision
    · exact .inl ⟨⟨.inl h, hk⟩, hend⟩
    · exact .inr ⟨fun hagain => hk hagain.2, by simp [hend], by simp [hend, h]⟩
  · obtain ⟨run, hr, hretry, hdecision⟩ := id h
    rw [pushInventory_of_retry hr hretry]
    obtain ⟨hk, hend⟩ | ⟨hk, letter, hend⟩ :=
      retryOrDead_outage w tenantId skuId k queue hdecision
    · exact .inl ⟨⟨.inr ⟨h, hk.1⟩, hk.2⟩, hend⟩
    · refine .inr ⟨?_, by simp [hend], by simp [hend, h]⟩
      rintro ⟨hthrottled | ⟨-, hn⟩, hm⟩
      · exact not_outage_of_throttled hthrottled h
      · exact hk ⟨hn, hm⟩
  · obtain ⟨run, hr, hretry, hdecision⟩ := id h
    have hend : retryOrDead w tenantId skuId run k queue =
        (.returned run, queue ++ [pushDeadLetter tenantId skuId run.error]) := by
      simp [retryOrDead, planRetry, hdecision]
    rw [pushInventory_of_retry hr hretry, hend]
    exact .inr ⟨not_again_of_refused h, by simp, by simp [h]⟩
  · right
    have hnone : ¬ (Throttled (report skuId attempts k) ∨ Outage (report skuId attempts k) ∨
        Refused (report skuId attempts k)) := by
      rintro (⟨run, hr, hretry, -⟩ | ⟨run, hr, hretry, -⟩ | ⟨run, hr, hretry, -⟩) <;>
        simp [h run hr] at hretry
    refine ⟨?_, ?_⟩
    · rintro ⟨hthrottled | ⟨houtage, -⟩, -⟩
      · exact hnone (.inl hthrottled)
      · exact hnone (.inr (.inl houtage))
    · rw [iff_false_right hnone, pushInventory]
      split
      · simp
      · next run hr => simp [h run hr]

/-- The task is run again and again up to a last run. -/
lemma runPush_eq (tenantId : ℕ) (queue : List DeadLetter) {last : ℕ}
    (hlast : ¬ Again w (report skuId attempts) last) (fuel k : ℕ)
    (hk : k + fuel = last) (hagain : ∀ j, k ≤ j → j < last → Again w (report skuId attempts) j)
    (more : ℕ) :
    runPush w tenantId skuId attempts (fuel + 1 + more) k queue =
      some (last, pushInventory w tenantId skuId attempts last queue) := by
  induction fuel generalizing k with
  | zero =>
    obtain rfl : k = last := hk
    obtain ⟨h, -⟩ | ⟨-, hend, -⟩ := pushInventory_cases w tenantId skuId attempts k queue
    · exact absurd h hlast
    · rw [show 0 + 1 + more = more + 1 by ring, runPush]
      split
      · next t _ ht => exact absurd (congrArg Prod.fst ht) (hend t)
      · rfl
  | succ fuel ih =>
    have hhere : Again w (report skuId attempts) k := hagain k le_rfl (by omega)
    obtain ⟨-, t, ht⟩ | ⟨h, -⟩ := pushInventory_cases w tenantId skuId attempts k queue
    · rw [show fuel + 1 + 1 + more = fuel + 1 + more + 1 by ring, runPush, ht]
      exact ih (k + 1) (by omega) fun j hj => hagain j (by omega)
    · exact absurd hhere h

/-- Celery comes to a last run. -/
lemma exists_last (w : Webhook.Worker) (tenantId skuId : ℕ) (attempts : ℕ → PushAttempt) :
    ∃ last ≤ w.maxRetries, (∀ k < last, Again w (report skuId attempts) k) ∧
      ¬ Again w (report skuId attempts) last ∧
      ∀ queue, runPush w tenantId skuId attempts (w.maxRetries + 1) 0 queue =
        some (last, pushInventory w tenantId skuId attempts last queue) := by
  classical
  have hstops : ∃ k, ¬ Again w (report skuId attempts) k := ⟨w.maxRetries, fun h => lt_irrefl _ h.2⟩
  have hle : Nat.find hstops ≤ w.maxRetries := Nat.find_min' hstops fun h => lt_irrefl _ h.2
  have hagain : ∀ k < Nat.find hstops, Again w (report skuId attempts) k :=
    fun k hk => not_not.mp (Nat.find_min hstops hk)
  refine ⟨Nat.find hstops, hle, hagain, Nat.find_spec hstops, fun queue => ?_⟩
  have hrun := runPush_eq tenantId queue (Nat.find_spec hstops) (Nat.find hstops) 0 (by simp) (fun j _ hj => hagain j hj) (w.maxRetries - Nat.find hstops)
  rwa [show Nat.find hstops + 1 + (w.maxRetries - Nat.find hstops) = w.maxRetries + 1 by omega]
    at hrun

/-- Failures that each have a wait of their own, and one more, are as many as the waits and one just
when no run was spent on anything else. -/
lemma outages_eq_iff {reports : ℕ → Except ServiceError PushRun} {last n : ℕ}
    (h : ∀ k < last, Outage (reports k) → k < n) :
    outages reports last = n + 1 ↔
      Outage (reports last) ∧ n ≤ last ∧ ∀ k < n, Outage (reports k) := by
  set before := (Finset.range last).filter fun k => Outage (reports k) with hbefore
  have hsub : before ⊆ Finset.range n := by
    intro k hk
    simp only [hbefore, Finset.mem_filter, Finset.mem_range] at hk
    exact Finset.mem_range.mpr (h k hk.1 hk.2)
  have hle : before.card ≤ n := by simpa using Finset.card_le_card hsub
  have hall : before.card = n ↔ n ≤ last ∧ ∀ k < n, Outage (reports k) := by
    constructor
    · intro hcard
      have heq : before = Finset.range n := Finset.eq_of_subset_of_card_le hsub (by simp [hcard])
      have hmem : ∀ k < n, k < last ∧ Outage (reports k) := by
        intro k hk
        have hk' : k ∈ before := by rw [heq]; exact Finset.mem_range.mpr hk
        simpa [hbefore] using hk'
      refine ⟨?_, fun k hk => (hmem k hk).2⟩
      by_contra hlt
      exact lt_irrefl last (hmem last (not_le.mp hlt)).1
    · rintro ⟨hn, hfail⟩
      have heq : before = Finset.range n := by
        refine Finset.Subset.antisymm hsub fun k hk => ?_
        have hk' : k < n := Finset.mem_range.mp hk
        simp only [hbefore, Finset.mem_filter, Finset.mem_range]
        exact ⟨hk'.trans_le hn, hfail k hk'⟩
      rw [heq, Finset.card_range]
  have hcount : outages reports last = before.card + if Outage (reports last) then 1 else 0 := by
    rw [outages, Finset.range_add_one, Finset.filter_insert]
    split
    · rw [Finset.card_insert_of_notMem (by simp)]
    · rw [add_zero]
  rw [hcount]
  by_cases hlast : Outage (reports last)
  · rw [if_pos hlast, Nat.add_right_cancel_iff, hall]
    exact ⟨fun h => ⟨hlast, h⟩, fun h => h.2⟩
  · rw [if_neg hlast]
    refine ⟨fun hcard => ?_, fun h => absurd h.1 hlast⟩
    omega

/-- **What a push is parked for.** A push is parked only when it is refused for good, or after one
failure more than there are waits, just when its runs end for a reason of their own before the
retries do, or only failures have used up the waits. -/
theorem parkedRightly_iff (w : Webhook.Worker) (tenantId skuId : ℕ) (attempts : ℕ → PushAttempt) :
    ParkedRightly w tenantId skuId attempts ↔ WaitsForFailures w (report skuId attempts) := by
  obtain ⟨last, hle, hagain, hlast, hrun⟩ := exists_last w tenantId skuId attempts
  have hwaits : ∀ k < last, Outage (report skuId attempts k) →
      k < w.policy.backoffSeconds.length := by
    intro k hk houtage
    obtain ⟨hthrottled | ⟨-, hlt⟩, -⟩ := hagain k hk
    · exact absurd houtage (not_outage_of_throttled hthrottled)
    · exact hlt
  have hcount := outages_eq_iff hwaits
  have hparked : ∀ queue, (pushInventory w tenantId skuId attempts last queue).2 ≠ queue ↔
      Throttled (report skuId attempts last) ∨ Outage (report skuId attempts last) ∨
        Refused (report skuId attempts last) := by
    intro queue
    obtain ⟨h, -⟩ | ⟨-, -, h⟩ := pushInventory_cases w tenantId skuId attempts last queue
    · exact absurd h hlast
    · exact h
  constructor
  · intro h
    refine ⟨last, hle, fun k hk => (hagain k hk).1, ?_⟩
    by_cases hmatter : Throttled (report skuId attempts last) ∨ Outage (report skuId attempts last)
    · obtain hrefused | houtages := h [] last _ _ (hrun [])
          ((hparked []).mpr (hmatter.imp_right Or.inl))
      · obtain ⟨run, hr, -, hdecision⟩ := hrefused
        obtain ⟨_, hok, -, hd⟩ | ⟨_, hok, -, hd⟩ := hmatter <;>
          · cases hr.symm.trans hok
            simp [hdecision] at hd
      · exact .inr (hcount.mp houtages)
    · exact .inl (not_or.mp hmatter)
  · rintro ⟨last', hle', hbefore, hend⟩ queue l ending queue' hresult hne
    have hstops : ¬ Again w (report skuId attempts) last' := by
      rintro ⟨hgoes, -⟩
      obtain ⟨hthrottled, houtage⟩ | ⟨houtage, hwait, -⟩ := hend
      · exact hgoes.elim hthrottled fun h => houtage h.1
      · obtain hthrottled | ⟨-, hlt⟩ := hgoes
        · exact not_outage_of_throttled hthrottled houtage
        · exact hwait.not_gt hlt
    obtain rfl : last' = last := by
      obtain hlt | heq | hlt := lt_trichotomy last' last
      · exact absurd (hagain last' hlt) hstops
      · exact heq
      · exact absurd ⟨hbefore last hlt, hlt.trans_le hle'⟩ hlast
    obtain ⟨rfl, hpair⟩ := Prod.mk.inj (Option.some.inj ((hrun queue).symm.trans hresult))
    have hqueue : (pushInventory w tenantId skuId attempts last' queue).2 = queue' := by rw [hpair]
    rw [← hqueue] at hne
    obtain ⟨hthrottled, houtage⟩ | houtage := hend
    · obtain h | h | h := (hparked queue).mp hne
      · exact absurd h hthrottled
      · exact absurd h houtage
      · exact .inl h
    · exact .inr (hcount.mpr houtage)

end runs

/-! ### A platform that asks for time -/

/-- The settings of the code. -/
def pushWorker : Webhook.Worker := Webhook.someWorker

/-- The platform asks every call to wait for a second. -/
def busyAttempt : PushAttempt where
  calls := { downAt 9 with answer := fun _ _ _ => some ⟨"slow down", .retryAfter, some 1⟩ }
  db := twoShops

/-- The fourth 429 parks the push, although the platform has not failed once. -/
theorem not_parkedRightly_busyAttempt :
    runPush pushWorker 1 2 (fun _ => busyAttempt) 4 0 [] =
      some (3, (pushInventory pushWorker 1 2 (fun _ => busyAttempt) 3 []).1,
        [pushDeadLetter 1 2 "slow down"]) ∧
    outages (report 2 fun _ => busyAttempt) 3 = 0 ∧
    ¬ ParkedRightly pushWorker 1 2 fun _ => busyAttempt := by
  have hrun : runPush pushWorker 1 2 (fun _ => busyAttempt) 4 0 [] =
      some (3, (pushInventory pushWorker 1 2 (fun _ => busyAttempt) 3 []).1,
        [pushDeadLetter 1 2 "slow down"]) := by decide +kernel
  have hnone : outages (report 2 fun _ => busyAttempt) 3 = 0 := by decide +kernel
  refine ⟨hrun, hnone, fun h => ?_⟩
  obtain hrefused | houtages := h [] 3 _ _ hrun (by simp)
  · revert hrefused
    decide +kernel
  · rw [hnone] at houtages
    cases houtages

end CrossPilot
