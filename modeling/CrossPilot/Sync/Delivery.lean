import CrossPilot.Sync.Webhook

/-!
# How events end

As long as nothing raises an error that no layer knows, an event is applied, or left alone for a
reason that the code names, or parked with its body, after any number of retries
(`runTask_settled`).
-/

namespace CrossPilot.Webhook

/-! ### Errors that the worker knows -/

/-- Errors that `dispatch_webhook_body` raises as one of the handling. -/
def HandlingError.known : HandlingError → Bool
  | process _ _ => true
  | adapter _ _ => true
  | http _ => false
  | other _ => false

/-- A result with `P`, or an error that the worker knows. -/
def Known {α : Type} (P : α → Prop) : Except HandlingError α → Prop
  | .ok a => P a
  | .error e => e.known

section known

variable {α β : Type} {P Q : α → Prop} {R : β → Prop}

lemma Known.bind {r : Except HandlingError α} {f : α → Except HandlingError β} (h : Known P r)
    (hf : ∀ a, r = .ok a → P a → Known R (f a)) : Known R (r >>= f) := by
  cases r with
  | error e => exact h
  | ok a => exact hf a rfl h

lemma Known.mono {r : Except HandlingError α} (h : Known P r) (hPQ : ∀ a, r = .ok a → P a → Q a) :
    Known Q r := by
  cases r with
  | error e => exact h
  | ok a => exact hPQ a rfl h

end known

/-- Whoever an attempt asks answers, or raises an error that the worker knows. The call to a
subscription address may also raise an error of the HTTP client. -/
structure Attempt.Mild (a : Attempt) : Prop where
  parseWebhook : Known (fun _ => True) a.parseWebhook
  hostAllowed : ∀ url, Known (fun _ => True) (a.hostAllowed url)
  callSubscription : ∀ url e, a.callSubscription url = .error e → e.known ∨ ∃ m, e = .http m
  listActiveIdentities : ∀ shop, Known (fun _ => True) (a.listActiveIdentities shop)
  getShop : ∀ id, Known (fun _ => True) (a.getShop id)
  hasCredential : ∀ id, Known (fun _ => True) (a.hasCredential id)
  fetchOrder : ∀ shop order, Known (fun _ => True) (a.fetchOrder shop order)
  ingestOrder : ∀ shop order, Known (fun _ => True) (a.ingestOrder shop order)

/-! ### Reasons -/

/-- Kinds that nothing is done about. -/
def WebhookKind.leftAlone : List WebhookKind := [.ignored, .inventoryChanged, .messageCreated]

/-- The order an event is about was got from the platform and stored for the one shop that is
bound. -/
def Stored (a : Attempt) (event : WebhookEvent) (action : WriteAction) : Prop :=
  ∃ tenantId shopId shop order platformOrderId,
    event.platformOrderId = some platformOrderId ∧
    a.listActiveIdentities event.platformShopId = .ok [(tenantId, shopId)] ∧
    a.getShop shopId = .ok shop ∧ a.fetchOrder shop platformOrderId = .ok (some order) ∧
    a.ingestOrder shop order = .ok action

/-- Why an attempt may report an outcome. -/
inductive Justified (a : Attempt) (event : WebhookEvent) : Outcome → Prop
  | ignored : event.kind = .ignored → Justified a event (.ignored event.kind)
  | deferred {milestone} : event.kind ∈ WebhookKind.leftAlone →
    Justified a event (.deferred event.kind milestone)
  | notAllowed : event.kind = .subscriptionConfirm →
    a.hostAllowed (event.subscribeUrl.getD "") = .ok false → Justified a event .subscribeUrlIgnored
  | skipped : event.kind = .subscriptionConfirm → a.useFixtureTransport →
    Justified a event .subscribeSkipped
  | confirmed {status} : event.kind = .subscriptionConfirm →
    a.callSubscription (event.subscribeUrl.getD "") = .ok status → status < 400 →
    Justified a event .confirmed
  | applied {action} : Stored a event action → Justified a event (.applied event.kind (.written action))
  | unbound {identities} : a.listActiveIdentities event.platformShopId = .ok identities →
    identities.length ≠ 1 → Justified a event (.applied event.kind .shopNotFound)

variable {a : Attempt} {event : WebhookEvent}

lemma known_ingest (ha : a.Mild) (shopId : ℕ) (platformOrderId : String) :
    Known (fun action => ∃ shop order, a.getShop shopId = .ok shop ∧
      a.fetchOrder shop platformOrderId = .ok (some order) ∧
      a.ingestOrder shop order = .ok action) (ingest a shopId platformOrderId) := by
  refine (ha.getShop shopId).bind fun shop hshop _ => ?_
  refine (ha.hasCredential shop.id).bind fun found _ _ => ?_
  cases found with
  | false => exact rfl
  | true =>
    have hfetch := ha.fetchOrder shop platformOrderId
    simp only [Bool.not_true, Bool.false_eq_true, if_false]
    split
    · exact rfl
    · rename_i e _ heq
      rw [heq] at hfetch
      exact hfetch
    · exact rfl
    · rename_i order heq
      exact (ha.ingestOrder shop order).mono fun action haction _ =>
        ⟨shop, order, hshop, heq, haction⟩

lemma known_applyOrder (ha : a.Mild) {platformOrderId : String}
    (hid : event.platformOrderId = some platformOrderId) :
    Known (fun result => Justified a event (.applied event.kind result))
      (applyOrder a event.platformShopId platformOrderId) := by
  refine (ha.listActiveIdentities _).bind fun identities hids _ => ?_
  match identities with
  | [(tenantId, shopId)] =>
    refine (known_ingest ha shopId platformOrderId).bind fun action _ hstored => ?_
    obtain ⟨shop, order, hshop, hfetch, hingest⟩ := hstored
    exact .applied ⟨tenantId, shopId, shop, order, platformOrderId, hid, hids, hshop, hfetch, hingest⟩
  | [] => exact .unbound hids (by simp)
  | _ :: _ :: _ => exact .unbound hids (by simp)

lemma known_confirmSubscription (ha : a.Mild) (hkind : event.kind = .subscriptionConfirm) :
    Known (Justified a event) (confirmSubscription a (event.subscribeUrl.getD "")) := by
  refine (ha.hostAllowed _).bind fun allowed hallowed _ => ?_
  cases allowed with
  | false => exact .notAllowed hkind hallowed
  | true =>
    have hcall := ha.callSubscription (event.subscribeUrl.getD "")
    by_cases hfixture : a.useFixtureTransport
    · simp only [Bool.not_true, Bool.false_eq_true, if_false, hfixture, if_true]
      exact .skipped hkind hfixture
    · simp only [Bool.not_true, Bool.false_eq_true, if_false, hfixture]
      split
      · exact rfl
      · rename_i e hno heq
        rcases hcall e heq with hknown | ⟨m, rfl⟩
        · exact hknown
        · exact absurd rfl (hno m)
      · rename_i status heq
        by_cases hstatus : 400 ≤ status
        · rw [if_pos hstatus]
          exact rfl
        · rw [if_neg hstatus]
          exact .confirmed hkind heq (not_le.mp hstatus)

/-- An event that is read ends for a reason, or with an error that the worker knows. -/
lemma known_handle (ha : a.Mild) :
    Known (fun outcome => ∃ event, a.parseWebhook = .ok event ∧ Justified a event outcome)
      (handle a) := by
  refine ha.parseWebhook.bind fun event hevent _ => ?_
  have horder : ∀ platformOrderId, event.platformOrderId.getD "" = platformOrderId →
      Known (fun outcome => ∃ event, a.parseWebhook = .ok event ∧ Justified a event outcome)
        (if event.platformShopId = "" ∨ platformOrderId = "" then
          throw (.process "订单事件缺少店铺或订单号" false)
        else do return .applied event.kind (← applyOrder a event.platformShopId platformOrderId)) := by
    intro platformOrderId hget
    split
    · exact rfl
    · rename_i hboth
      have hid : event.platformOrderId = some platformOrderId := by
        cases hp : event.platformOrderId with
        | none =>
          rw [hp] at hget
          exact absurd (.inr hget.symm) hboth
        | some id =>
          rw [hp] at hget
          exact congrArg some hget
      exact (known_applyOrder ha hid).bind fun result _ h => ⟨event, hevent, h⟩
  cases hkind : event.kind with
  | orderStatusChanged =>
    have h := horder _ rfl
    rw [hkind] at h
    simpa only [hkind] using h
  | orderCreated =>
    have h := horder _ rfl
    rw [hkind] at h
    simpa only [hkind] using h
  | inventoryChanged =>
    dsimp only
    have hleft : event.kind ∈ WebhookKind.leftAlone := by rw [hkind]; decide
    exact ⟨event, hevent, hkind ▸ .deferred hleft⟩
  | messageCreated =>
    dsimp only
    have hleft : event.kind ∈ WebhookKind.leftAlone := by rw [hkind]; decide
    exact ⟨event, hevent, hkind ▸ .deferred hleft⟩
  | subscriptionConfirm =>
    dsimp only
    exact (known_confirmSubscription ha hkind).mono fun outcome _ h => ⟨event, hevent, h⟩
  | ignored =>
    dsimp only
    exact ⟨event, hevent, hkind ▸ .ignored hkind⟩

/-! ### The task -/

section task

variable {w : Worker} {m : Message} {queue : List DeadLetter} {attempts : ℕ → Attempt}

/-- How a task may end: with a justified report, or with the event parked. -/
def Settled (m : Message) (attempts : ℕ → Attempt) (queue : List DeadLetter)
    (r : TaskEnd × List DeadLetter) : Prop :=
  (∃ n event outcome, r = (.returned outcome, queue) ∧
      (attempts n).parseWebhook = .ok event ∧ Justified (attempts n) event outcome) ∨
    ∃ error, r = (.failed error, queue ++ [deadLetterForTask m error])

/-- One run of the task settles the event, or asks for another run that Celery allows. -/
lemma webhookEvent_cases {n : ℕ} (ha : (attempts n).Mild) (retries : ℕ) :
    Settled m attempts queue (webhookEvent w m (attempts n) retries queue) ∨
      retries < w.maxRetries ∧
        ∃ countdown, webhookEvent w m (attempts n) retries queue = (.retried countdown, queue) := by
  have hknown := known_handle ha
  have hretry : ∀ error, Settled m attempts queue (retryWebhook w m error retries queue) ∨
      retries < w.maxRetries ∧
        ∃ countdown, retryWebhook w m error retries queue = (.retried countdown, queue) := by
    intro error
    unfold retryWebhook
    dsimp only
    split
    · exact .inl (.inr ⟨error, rfl⟩)
    split
    · exact .inl (.inr ⟨error, rfl⟩)
    · exact .inr ⟨by omega, _, rfl⟩
  unfold webhookEvent dispatchWebhookBody
  cases hh : handle (attempts n) with
  | ok outcome =>
    rw [hh] at hknown
    obtain ⟨event, hevent, hwhy⟩ := hknown
    exact .inl (.inl ⟨n, event, outcome, rfl, hevent, hwhy⟩)
  | error e =>
    rw [hh] at hknown
    cases e with
    | process error retryable =>
      cases retryable with
      | true => exact hretry error
      | false => exact .inl (.inr ⟨error, rfl⟩)
    | adapter error decision =>
      by_cases hdecision : decision = .retry
      · subst hdecision
        exact hretry error
      · left
        right
        refine ⟨error, ?_⟩
        simp [hdecision, parkWebhook]
    | http message => cases hknown
    | other message => cases hknown

lemma runTask_retried {fuel retries : ℕ} {countdown : ℚ}
    (h : webhookEvent w m (attempts retries) retries queue = (.retried countdown, queue)) :
    runTask w m attempts (fuel + 1) retries queue =
      runTask w m attempts fuel (retries + 1) queue := by
  rw [runTask, h]

lemma runTask_settled_now {fuel retries : ℕ} {r : TaskEnd × List DeadLetter}
    (h : webhookEvent w m (attempts retries) retries queue = r) (hr : Settled m attempts queue r) :
    runTask w m attempts (fuel + 1) retries queue = some r := by
  rw [runTask, h]
  rcases hr with ⟨n, event, outcome, rfl, -, -⟩ | ⟨error, rfl⟩
  · rfl
  · rfl

/-- If the attempts meet only errors that the worker knows, the task ends after at most all its
retries, and the event is applied, left alone for a reason, or parked with its body. -/
theorem runTask_settled (hmild : ∀ n, (attempts n).Mild) :
    ∃ r, runTask w m attempts (w.maxRetries + 1) 0 queue = some r ∧
      Settled m attempts queue r := by
  have hrun : ∀ fuel retries, retries + fuel = w.maxRetries + 1 → retries ≤ w.maxRetries →
      ∃ r, runTask w m attempts fuel retries queue = some r ∧ Settled m attempts queue r := by
    intro fuel
    induction fuel with
    | zero =>
      intro retries hsum hle
      omega
    | succ fuel ih =>
      intro retries hsum hle
      have hcases : Settled m attempts queue (webhookEvent w m (attempts retries) retries queue) ∨
          _ := webhookEvent_cases (hmild retries) retries
      rcases hcases with hsettled | ⟨hleft, t, hretried⟩
      · exact ⟨_, runTask_settled_now rfl hsettled, hsettled⟩
      · rw [runTask_retried hretried]
        exact ih (retries + 1) (by omega) (by omega)
  exact hrun (w.maxRetries + 1) 0 (by omega) (by omega)

end task

def someWorker : Worker := { policy := {}, uniform := fun low _ => low, maxRetries := 3 }

def someMessage : Message := ⟨"tiktok", "order A has changed", "tiktok:n1", "order.status_changed"⟩

/-- Order "A" of the shop "7494" has changed. One shop is bound, and the platform does not answer. -/
def slowAttempt : Attempt where
  parseWebhook := .ok { kind := .orderStatusChanged, platformShopId := "7494", platformOrderId := "A" }
  hostAllowed _ := .ok true
  useFixtureTransport := false
  callSubscription _ := .ok 200
  listActiveIdentities _ := .ok [(1, 4)]
  getShop id := .ok { id, platformCode := "tiktok" }
  hasCredential _ := .ok true
  fetchOrder _ _ := .error (.adapter "timeout" .retry)
  ingestOrder _ _ := .ok .insert

lemma mild_slowAttempt : slowAttempt.Mild where
  parseWebhook := trivial
  hostAllowed _ := trivial
  callSubscription _ _ h := by cases h
  listActiveIdentities _ := trivial
  getShop _ := trivial
  hasCredential _ := trivial
  fetchOrder _ _ := rfl
  ingestOrder _ _ := trivial

theorem runTask_settled_slowAttempt :
    runTask someWorker someMessage (fun _ => slowAttempt) 4 0 [] =
        some (.failed "timeout", [deadLetterForTask someMessage "timeout"]) ∧
      ∃ r, runTask someWorker someMessage (fun _ => slowAttempt) 4 0 [] = some r ∧
        Settled someMessage (fun _ => slowAttempt) [] r :=
  ⟨by decide +kernel, runTask_settled fun _ => mild_slowAttempt⟩

/-- No shop is bound to "7494". -/
def unboundAttempt : Attempt := { slowAttempt with listActiveIdentities := fun _ => .ok [] }

/-- The platform answers with an order that has no id. -/
def brokenAttempt : Attempt :=
  { slowAttempt with fetchOrder := fun _ _ => .error (.other "KeyError: id") }

/-- An event of an order is neither applied nor parked. -/
theorem not_runTask_settled_unboundAttempt :
    runTask someWorker someMessage (fun _ => unboundAttempt) 4 0 [] =
        some (.returned (.applied .orderStatusChanged .shopNotFound), []) ∧
      runTask someWorker someMessage (fun _ => brokenAttempt) 4 0 [] =
        some (.raised (.other "KeyError: id"), []) := by
  constructor
  · decide +kernel
  · decide +kernel

end CrossPilot.Webhook
