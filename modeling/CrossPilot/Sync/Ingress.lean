import CrossPilot.Lib.Interleaving
import CrossPilot.Lib.Text
import CrossPilot.Sync.Webhook

/-!
# Events on their way in

A delivery of a platform is checked, and its event is claimed in a store, so that further deliveries
of the event are answered as duplicates. Who has the claim hands the event to the queue, or parks it
as a dead letter if that fails; if nothing takes it, the claim is given back and the platform is
told. The store, the queue and the dead letters may each fail at any time, and deliveries may
overlap.
-/

namespace CrossPilot.Webhook

open Interleaving

/-- What deliveries share: until when events are claimed, the messages handed to the queue, and the
dead letters. -/
structure Ingress where
  claimedUntil : String → Option Instant := fun _ => none
  published : List Message := []
  letters : List DeadLetter := []

/-- What a step is given: the time, and how the store or the queue that it asks answers. -/
structure Tick where
  now : Instant
  answer : StoreAnswer
  deriving DecidableEq

/-- What is answered to a platform instead of 200. -/
inductive Refusal
  | platformUnsupported
  | paramInvalid (message : String)
  | platformRateLimited (message : String)
  | webhookRejected (message : String)
  | internalError (message : String)
  deriving DecidableEq

structure WebhookAcceptResponse where
  accepted : Bool
  duplicate : Bool
  deriving DecidableEq

/-- Errors of `parse_webhook`: one of the adapter, or any other. -/
inductive ParseError
  | adapter | other
  deriving DecidableEq

/-- The settings, the adapters (the id and the kind of the event in a body) and the hash. -/
structure Gate where
  supportedPlatforms : List String := ["amazon", "shopee", "lazada", "tiktok"]
  webhookMaxBodyBytes : ℕ := 1048576
  webhookEventTtlSeconds : ℤ := 86400
  parseWebhook : String → ByteArray → Except ParseError (String × String)
  sha256 : ByteArray → String

/-- A delivery, with the answers of the limiter (none if its store is down), of the list of sources
and of the signature check. -/
structure Delivery where
  platform : String
  body : ByteArray
  limiter : Option Bool := some true
  ipAllowed : Bool := true
  verified : Bool := true

/-- `_text`. A body that is not UTF-8 is replaced by its hash. -/
def bodyText (g : Gate) (body : ByteArray) : String := (String.fromUTF8? body).getD (g.sha256 body)

/-- The key an event is claimed under. -/
def dedupKey (m : Message) : String := m.platform ++ ":" ++ m.eventId

/-! ### The steps -/

/-- Whether an event is claimed. -/
def Ingress.claimedAt (s : Ingress) (key : String) (now : Instant) : Bool :=
  match s.claimedUntil key with
  | none => false
  | some expiry => now < expiry

/-- The state with another claim for an event, or none. -/
def Ingress.setClaim (s : Ingress) (key : String) (expiry : Option Instant) : Ingress :=
  { s with claimedUntil := Function.update s.claimedUntil key expiry }

/-- `EventDedup.claim`. There is no result if the store raises `StoreUnavailable`. -/
def tryClaim (g : Gate) (key : String) (tick : Tick) (s : Ingress) : Option Bool × Ingress :=
  let held := s.claimedAt key tick.now
  let s' := if held then s
    else s.setClaim key (some (tick.now + max 1 g.webhookEventTtlSeconds * 1000000))
  match tick.answer with
  | .done => (some !held, s')
  | .replyLost => (none, s')
  | .unreachable => (none, s)

/-- `_claim`. -/
def claim (g : Gate) (key : String) : Steps Ingress Tick Refusal (Option Bool) :=
  Steps.access (tryClaim g key)

/-- `_publisher`, and whether it did not raise. -/
def publish (m : Message) : Steps Ingress Tick Refusal Bool :=
  Steps.access fun tick s =>
    (tick.answer = .done,
      if tick.answer.Written then { s with published := s.published ++ [m] } else s)

/-- `_push_letter`. -/
def pushLetter (m : Message) (error : String) : Steps Ingress Tick Refusal Bool :=
  Steps.access fun tick s =>
    (tick.answer = .done,
      if tick.answer.Written then { s with letters := parkWebhook m error s.letters } else s)

/-- `_release`. That the store is down is only logged. -/
def release (key : String) : Steps Ingress Tick Refusal Unit :=
  Steps.access fun tick s =>
    ((), if tick.answer.Written then s.setClaim key none else s)

/-! ### A delivery -/

/-- What is done when nothing has taken the event. -/
def giveBack (m : Message) : Steps Ingress Tick Refusal WebhookAcceptResponse := do
  release (dedupKey m)
  Steps.fail (.internalError "Webhook 入队失败")

/-- The end of `_retain`, which `accept` has as well: the event is parked, or the claim is given
back. -/
def park (m : Message) (error : String) : Steps Ingress Tick Refusal WebhookAcceptResponse := do
  if ← pushLetter m error then return ⟨true, false⟩
  else giveBack m

/-- The event is handed to the queue, or parked. -/
def enqueue (m : Message) : Steps Ingress Tick Refusal WebhookAcceptResponse := do
  if ← publish m then return ⟨true, false⟩
  else park m "enqueue_failed"

/-- `accept`. -/
def accept (g : Gate) (d : Delivery) : Steps Ingress Tick Refusal WebhookAcceptResponse :=
  let code := Text.lower (Text.strip d.platform)
  if code ∉ g.supportedPlatforms then Steps.fail .platformUnsupported
  else if g.webhookMaxBodyBytes < d.body.size then Steps.fail (.paramInvalid "Webhook 报文过大")
  else if d.limiter.getD true = false then
    Steps.fail (.platformRateLimited "Webhook 请求过于频繁")
  else if d.ipAllowed = false then Steps.fail (.webhookRejected "Webhook 来源未授权")
  else if d.verified = false then Steps.fail (.webhookRejected "Webhook 签名校验失败")
  else
    match g.parseWebhook code d.body with
    | .error .other => Steps.fail (.internalError "")
    | .error .adapter => do
      let m : Message := ⟨code, bodyText g d.body, g.sha256 d.body, "ignored"⟩
      if (← claim g (dedupKey m)).getD true then park m "parse_failed"
      else return ⟨true, true⟩
    | .ok (eventId, kind) => do
      let m : Message := ⟨code, bodyText g d.body, eventId, kind⟩
      if (← claim g (dedupKey m)).getD true then enqueue m
      else return ⟨true, true⟩

/-- The message of a delivery, if its body is not one that `accept` breaks down over. -/
def messageOf (g : Gate) (d : Delivery) : Option Message :=
  let code := Text.lower (Text.strip d.platform)
  match g.parseWebhook code d.body with
  | .error .other => none
  | .error .adapter => some ⟨code, bodyText g d.body, g.sha256 d.body, "ignored"⟩
  | .ok (eventId, kind) => some ⟨code, bodyText g d.body, eventId, kind⟩

/-! ### Runs -/

/-- No delivery has begun. -/
def arrivals (g : Gate) (d : ℕ → Delivery) :
    Config ℕ Ingress Tick Refusal WebhookAcceptResponse where
  shared := {}
  party i := accept g (d i)

/-- The message has the body as it came. -/
def Whole (m : Message) (d : Delivery) : Prop := m.body.toUTF8 = d.body

/-- Some delivery of the event was handed to the queue, or parked with its body. -/
def Kept (g : Gate) (d : ℕ → Delivery) (key : String) (s : Ingress) : Prop :=
  ∃ i m, messageOf g (d i) = some m ∧ dedupKey m = key ∧
    (m ∈ s.published ∨ ∃ error, deadLetterForTask m error ∈ s.letters ∧ Whole m (d i))

/-- Some delivery of the event is answered as accepted. -/
def Answered (g : Gate) (d : ℕ → Delivery) (key : String)
    (c : Config ℕ Ingress Tick Refusal WebhookAcceptResponse) : Prop :=
  ∃ i m a, messageOf g (d i) = some m ∧ dedupKey m = key ∧ c.party i = .ret a ∧ a.accepted = true

/-- When every delivery that has begun has ended, an event that was answered as accepted is kept. -/
def NothingLost (g : Gate) (d : ℕ → Delivery) (sched : List (ℕ × Tick)) : Prop :=
  let c := (arrivals g d).run sched
  (∀ i, Config.events i sched ≠ [] → (∃ a, c.party i = .ret a) ∨ ∃ e, c.party i = .fail e) →
    ∀ key, Answered g d key c → Kept g d key c.shared

end CrossPilot.Webhook
