import CrossPilot.Sync.Ingress

/-!
# Accepted events are kept

The claim of an event stands for the delivery that has it: as long as it stands, the event is kept,
or that delivery is still at work (`Orderly`). This breaks in three ways: a claim that could not be
given back, a duplicate that is answered just before a claim is given back, and a dead letter whose
body is not the one that came.
-/

namespace CrossPilot.Webhook

open Interleaving

/-! ### Where a delivery stands -/

/-- How far a delivery has come. -/
inductive Stage
  | waiting
  | enqueueing (m : Message)
  | parking (m : Message) (error : String)
  | givingBack (m : Message)
  | answered (a : WebhookAcceptResponse)
  | refused (e : Refusal)

namespace Stage

/-- What is left to do. -/
def program (g : Gate) (d : Delivery) :
    Stage → Steps Ingress Tick Refusal WebhookAcceptResponse
  | waiting => accept g d
  | enqueueing m => enqueue m
  | parking m error => park m error
  | givingBack m => giveBack m
  | answered a => .ret a
  | refused e => .fail e

/-- The message that a delivery is about to put somewhere. -/
def working : Stage → Option Message
  | enqueueing m | parking m _ => some m
  | _ => none

/-- The message that a delivery may have a claim for. -/
def claiming : Stage → Option Message
  | enqueueing m | parking m _ | givingBack m => some m
  | _ => none

end Stage

/-- The state with one more message. -/
def Ingress.publishing (s : Ingress) (m : Message) : Ingress :=
  { s with published := s.published ++ [m] }

/-- The state with one more dead letter. -/
def Ingress.parking (s : Ingress) (m : Message) (error : String) : Ingress :=
  { s with letters := parkWebhook m error s.letters }

/-- What one step of a delivery can do. -/
inductive Advance (g : Gate) (d : Delivery) (tick : Tick) (s : Ingress) :
    Stage → Stage → Ingress → Prop
  | refused (e : Refusal) : Advance g d tick s .waiting (.refused e) s
  | claimed {m : Message} {next : Stage} {s' : Ingress} (hm : messageOf g d = some m)
      (hnext : next.working = some m)
      (hs : s' = s ∨ ∃ expiry, s' = s.setClaim (dedupKey m) (some expiry)) :
      Advance g d tick s .waiting next s'
  | duplicate {m : Message} (hm : messageOf g d = some m)
      (hheld : s.claimedAt (dedupKey m) tick.now = true) :
      Advance g d tick s .waiting (.answered ⟨true, true⟩) s
  | published (m : Message) :
      Advance g d tick s (.enqueueing m) (.answered ⟨true, false⟩) (s.publishing m)
  | unpublished {m : Message} {s' : Ingress} (hs : s' = s ∨ s' = s.publishing m) :
      Advance g d tick s (.enqueueing m) (.parking m "enqueue_failed") s'
  | parked (m : Message) (error : String) (hdone : tick.answer = .done) :
      Advance g d tick s (.parking m error) (.answered ⟨true, false⟩) (s.parking m error)
  | unparked {m : Message} {error : String} {s' : Ingress} (hdone : tick.answer ≠ .done)
      (hs : s' = s ∨ s' = s.parking m error) :
      Advance g d tick s (.parking m error) (.givingBack m) s'
  | gaveBack (m : Message) (e : Refusal) (hwritten : tick.answer.Written) :
      Advance g d tick s (.givingBack m) (.refused e) (s.setClaim (dedupKey m) none)
  | notGivenBack (m : Message) (e : Refusal) (hwritten : ¬tick.answer.Written) :
      Advance g d tick s (.givingBack m) (.refused e) s
  | answered (a : WebhookAcceptResponse) : Advance g d tick s (.answered a) (.answered a) s
  | ended (e : Refusal) : Advance g d tick s (.refused e) (.refused e) s

variable {g : Gate}

/-- `accept` refuses, or it claims the event of the message and then enqueues or parks it. -/
lemma accept_cases (g : Gate) (d : Delivery) :
    (∃ e, accept g d = .fail e) ∨
    ∃ m next, messageOf g d = some m ∧ Stage.working next = some m ∧
      accept g d = (claim g (dedupKey m)).bind fun claimed =>
        if claimed.getD true = true then next.program g d else .ret ⟨true, true⟩ := by
  unfold accept messageOf
  dsimp only
  split_ifs
  any_goals exact .inl ⟨_, rfl⟩
  cases g.parseWebhook (Text.lower (Text.strip d.platform)) d.body with
  | error e =>
    cases e with
    | other => exact .inl ⟨_, rfl⟩
    | adapter => exact .inr ⟨_, .parking _ "parse_failed", rfl, rfl, rfl⟩
  | ok pair => exact .inr ⟨_, .enqueueing _, rfl, rfl, rfl⟩

lemma claimedAt_iff {s : Ingress} {key : String} {now : Instant} :
    s.claimedAt key now = true ↔ ∃ expiry, s.claimedUntil key = some expiry ∧ now < expiry := by
  unfold Ingress.claimedAt
  cases s.claimedUntil key <;> simp

/-- What a claim finds and does: the event is claimed already and the store says so, or nothing
speaks against going on. -/
lemma tryClaim_cases (g : Gate) (key : String) (tick : Tick) (s : Ingress) :
    (s.claimedAt key tick.now = true ∧ tryClaim g key tick s = (some false, s)) ∨
    ((tryClaim g key tick s).1.getD true = true ∧
      ((tryClaim g key tick s).2 = s ∨
        ∃ expiry, (tryClaim g key tick s).2 = s.setClaim key (some expiry))) := by
  obtain ⟨now, answer⟩ := tick
  unfold tryClaim
  dsimp only
  cases s.claimedAt key now with
  | true =>
    cases answer with
    | done => exact .inl ⟨rfl, rfl⟩
    | replyLost => exact .inr ⟨rfl, .inl rfl⟩
    | unreachable => exact .inr ⟨rfl, .inl rfl⟩
  | false =>
    right
    cases answer with
    | done => exact ⟨rfl, .inr ⟨_, rfl⟩⟩
    | replyLost => exact ⟨rfl, .inr ⟨_, rfl⟩⟩
    | unreachable => exact ⟨rfl, .inl rfl⟩

/-- Every step of a delivery is one of these. -/
lemma exists_advance (g : Gate) (d : Delivery) (tick : Tick) (s : Ingress) (stage : Stage) :
    ∃ next, (stage.program g d).after tick s = next.program g d ∧
      Advance g d tick s stage next ((stage.program g d).effect tick s) := by
  cases stage with
  | waiting =>
    have hprogram : Stage.waiting.program g d = accept g d := rfl
    rcases accept_cases g d with ⟨e, haccept⟩ | ⟨m, next, hm, hnext, haccept⟩
    · rw [hprogram, haccept]
      exact ⟨.refused e, rfl, .refused e⟩
    · rw [hprogram, haccept]
      show ∃ stage, (if (tryClaim g (dedupKey m) tick s).1.getD true = true then next.program g d
          else .ret ⟨true, true⟩) = stage.program g d ∧
        Advance g d tick s .waiting stage (tryClaim g (dedupKey m) tick s).2
      rcases tryClaim_cases g (dedupKey m) tick s with ⟨hheld, hclaim⟩ | ⟨hgoes, hclaim⟩
      · rw [hclaim]
        exact ⟨.answered ⟨true, true⟩, rfl, .duplicate hm hheld⟩
      · rw [if_pos hgoes]
        exact ⟨next, rfl, .claimed hm hnext hclaim⟩
  | enqueueing m =>
    obtain ⟨now, answer⟩ := tick
    cases answer with
    | done => exact ⟨_, rfl, .published m⟩
    | replyLost => exact ⟨_, rfl, .unpublished (.inr rfl)⟩
    | unreachable => exact ⟨_, rfl, .unpublished (.inl rfl)⟩
  | parking m error =>
    obtain ⟨now, answer⟩ := tick
    cases answer with
    | done => exact ⟨_, rfl, .parked m error rfl⟩
    | replyLost => exact ⟨_, rfl, .unparked (by simp) (.inr rfl)⟩
    | unreachable => exact ⟨_, rfl, .unparked (by simp) (.inl rfl)⟩
  | givingBack m =>
    obtain ⟨now, answer⟩ := tick
    cases answer with
    | done => exact ⟨.refused _, rfl, .gaveBack m _ fun h => by cases h⟩
    | replyLost => exact ⟨.refused _, rfl, .gaveBack m _ fun h => by cases h⟩
    | unreachable => exact ⟨.refused _, rfl, .notGivenBack m _ fun hwritten => hwritten rfl⟩
  | answered a => exact ⟨_, rfl, .answered a⟩
  | refused e => exact ⟨_, rfl, .ended e⟩

/-- A delivery that is answered has nothing left to do. -/
lemma Stage.eq_answered {d : Delivery} {stage : Stage} {a : WebhookAcceptResponse}
    (h : stage.program g d = .ret a) : stage = .answered a := by
  cases stage with
  | waiting =>
    have haccept : accept g d = .ret a := h
    rcases accept_cases g d with ⟨e, he⟩ | ⟨m, next, hm, hnext, heq⟩
    · cases he.symm.trans haccept
    · cases heq.symm.trans haccept
  | enqueueing m => cases h
  | parking m error => cases h
  | givingBack m => cases h
  | answered a' =>
    cases h
    rfl
  | refused e => cases h

/-- A delivery at work is not refused. -/
lemma Stage.program_ne_fail {d : Delivery} {stage : Stage} {m : Message} {e : Refusal}
    (h : stage.working = some m) : stage.program g d ≠ .fail e := by
  cases stage with
  | enqueueing m' => exact fun h => by cases h
  | parking m' error => exact fun h => by cases h
  | waiting => cases h
  | givingBack m' => cases h
  | answered a => cases h
  | refused e' => cases h

/-! ### Runs -/

variable {d : ℕ → Delivery}

/-- What a step must not do while the event of its delivery is not kept: park the event without its
body, give up although the event was answered as accepted, fail to give the claim back, or answer a
duplicate while the claim is about to be given back. -/
structure Careful (g : Gate) (d : ℕ → Delivery)
    (c : Config ℕ Ingress Tick Refusal WebhookAcceptResponse) (i : ℕ) (tick : Tick) (m : Message) :
    Prop where
  whole : ∀ error, c.party i = park m error → tick.answer = .done → Whole m (d i)
  alone : ∀ error, c.party i = park m error → tick.answer ≠ .done → ¬Answered g d (dedupKey m) c
  given : c.party i = giveBack m → tick.answer.Written
  apart : c.party i = accept g (d i) → c.shared.claimedAt (dedupKey m) tick.now = true →
    ∀ j m', messageOf g (d j) = some m' → dedupKey m' = dedupKey m → c.party j ≠ giveBack m'

/-- Every step of a run is careful, as long as its event is not kept. -/
def AllCareful (g : Gate) (d : ℕ → Delivery)
    (c : Config ℕ Ingress Tick Refusal WebhookAcceptResponse) : List (ℕ × Tick) → Prop
  | [] => True
  | (i, tick) :: rest =>
    (∀ m, messageOf g (d i) = some m → ¬Kept g d (dedupKey m) c.shared →
      Careful g d c i tick m) ∧ AllCareful g d (c.move (i, tick)) rest

/-- A claim stands for a kept event or for a delivery at work, and so does an answer. -/
structure Orderly (g : Gate) (d : ℕ → Delivery) (sched : List (ℕ × Tick))
    (c : Config ℕ Ingress Tick Refusal WebhookAcceptResponse) (stage : ℕ → Stage) : Prop where
  program : ∀ i, c.party i = (stage i).program g (d i)
  waiting : ∀ i, Config.events i sched = [] → stage i = .waiting
  message : ∀ i m, (stage i).claiming = some m → messageOf g (d i) = some m
  claimed : ∀ key expiry, c.shared.claimedUntil key = some expiry → Kept g d key c.shared ∨
    ∃ i m, (stage i).claiming = some m ∧ dedupKey m = key
  answered : ∀ i m a, stage i = .answered a → messageOf g (d i) = some m → a.accepted = true →
    Kept g d (dedupKey m) c.shared ∨
      ∃ j m', (stage j).working = some m' ∧ dedupKey m' = dedupKey m

lemma orderly_start : Orderly g d [] (arrivals g d) fun _ => .waiting :=
  ⟨fun _ => rfl, fun _ _ => rfl, (fun _ _ h => by cases h), (fun _ _ h => by cases h),
    fun _ _ _ h => by cases h⟩

lemma Stage.claiming_of_working {stage : Stage} {m : Message} (h : stage.working = some m) :
    stage.claiming = some m := by
  cases stage with
  | enqueueing m' => exact h
  | parking m' error => exact h
  | waiting => cases h
  | givingBack m' => cases h
  | answered a => cases h
  | refused e => cases h

lemma Stage.claiming_cases {stage : Stage} {m : Message} (h : stage.claiming = some m) :
    stage.working = some m ∨ stage = .givingBack m := by
  cases stage with
  | enqueueing m' => exact .inl h
  | parking m' error => exact .inl h
  | givingBack m' =>
    cases h
    exact .inr rfl
  | waiting => cases h
  | answered a => cases h
  | refused e => cases h

/-- Nothing that is kept is lost. -/
lemma Kept.mono {key : String} {s s' : Ingress} (h : Kept g d key s)
    (hpublished : ∀ m ∈ s.published, m ∈ s'.published)
    (hletters : ∀ letter ∈ s.letters, letter ∈ s'.letters) : Kept g d key s' := by
  obtain ⟨i, m, hm, hkey, hput | ⟨error, hletter, hwhole⟩⟩ := h
  · exact ⟨i, m, hm, hkey, .inl (hpublished m hput)⟩
  · exact ⟨i, m, hm, hkey, .inr ⟨error, hletters _ hletter, hwhole⟩⟩

lemma Advance.kept {i : ℕ} {tick : Tick} {s s' : Ingress} {stage next : Stage}
    (h : Advance g (d i) tick s stage next s') {key : String} (hkept : Kept g d key s) :
    Kept g d key s' := by
  have hpublishing : ∀ m, Kept g d key (s.publishing m) := fun m =>
    hkept.mono (fun _ hm => List.mem_append_left _ hm) fun _ hletter => hletter
  have hparking : ∀ m error, Kept g d key (s.parking m error) := fun m error =>
    hkept.mono (fun _ hm => hm) fun _ hletter => List.mem_append_left _ hletter
  have hclaim : ∀ key' expiry, Kept g d key (s.setClaim key' expiry) := fun _ _ =>
    hkept.mono (fun _ hm => hm) fun _ hletter => hletter
  cases h with
  | claimed hm hnext hs =>
    rcases hs with rfl | ⟨expiry, rfl⟩
    · exact hkept
    · exact hclaim _ _
  | published m => exact hpublishing m
  | unpublished hs =>
    rcases hs with rfl | rfl
    · exact hkept
    · exact hpublishing _
  | parked m error hdone => exact hparking m error
  | unparked hdone hs =>
    rcases hs with rfl | rfl
    · exact hkept
    · exact hparking _ _
  | gaveBack m e hwritten => exact hclaim _ _
  | refused e => exact hkept
  | duplicate hm hheld => exact hkept
  | notGivenBack m e hwritten => exact hkept
  | answered a => exact hkept
  | ended e => exact hkept

/-- A delivery at work puts its message somewhere, or goes on working, or has to give up. -/
lemma Advance.working {i : ℕ} {tick : Tick} {s s' : Ingress} {stage next : Stage} {m : Message}
    (h : Advance g (d i) tick s stage next s') (hm : messageOf g (d i) = some m)
    (hworking : stage.working = some m)
    (hwhole : ∀ error, stage = .parking m error → tick.answer = .done → Whole m (d i)) :
    Kept g d (dedupKey m) s' ∨ next.working = some m ∨
      (next = .givingBack m ∧ tick.answer ≠ .done ∧ ∃ error, stage = .parking m error) := by
  cases h with
  | published m' =>
    cases hworking
    exact .inl ⟨i, m, hm, rfl, .inl (List.mem_append_right _ List.mem_cons_self)⟩
  | unpublished hs => exact .inr (.inl hworking)
  | parked m' error hdone =>
    cases hworking
    refine .inl ⟨i, m, hm, rfl, .inr ⟨error, ?_, hwhole error rfl hdone⟩⟩
    exact List.mem_append_right _ List.mem_cons_self
  | unparked hdone hs =>
    cases hworking
    exact .inr (.inr ⟨rfl, hdone, _, rfl⟩)
  | refused e => cases hworking
  | claimed hm' hnext hs => cases hworking
  | duplicate hm' hheld => cases hworking
  | gaveBack m' e hwritten => cases hworking
  | notGivenBack m' e hwritten => cases hworking
  | answered a => cases hworking
  | ended e => cases hworking

/-- A claim after a step was there before, or the delivery now works for it. -/
lemma Advance.claimedUntil {i : ℕ} {tick : Tick} {s s' : Ingress} {stage next : Stage}
    (h : Advance g (d i) tick s stage next s') {key : String} {expiry : Instant}
    (hclaim : s'.claimedUntil key = some expiry) :
    s.claimedUntil key = some expiry ∧
        (∀ m, stage = .givingBack m → dedupKey m = key → ¬tick.answer.Written) ∨
      ∃ m, next.working = some m ∧ dedupKey m = key := by
  cases h with
  | @claimed m _ _ hm hnext hs =>
    rcases hs with rfl | ⟨later, rfl⟩
    · exact .inl ⟨hclaim, by simp⟩
    · by_cases hkey : key = dedupKey m
      · exact .inr ⟨m, hnext, hkey.symm⟩
      · left
        have hsame := Function.update_of_ne hkey (some later) s.claimedUntil
        exact ⟨hsame.symm.trans hclaim, by simp⟩
  | gaveBack m e hwritten =>
    left
    by_cases hkey : key = dedupKey m
    · have hnone : (s.setClaim (dedupKey m) none).claimedUntil key = none := by
        rw [hkey]
        exact Function.update_self ..
      rw [hnone] at hclaim
      cases hclaim
    · have hsame := Function.update_of_ne hkey none s.claimedUntil
      refine ⟨hsame.symm.trans hclaim, ?_⟩
      rintro _ ⟨⟩ rfl
      exact absurd rfl hkey
  | notGivenBack m e hwritten => exact .inl ⟨hclaim, fun _ _ _ => hwritten⟩
  | unpublished hs =>
    rcases hs with rfl | rfl
    · exact .inl ⟨hclaim, by simp⟩
    · exact .inl ⟨hclaim, by simp⟩
  | unparked hdone hs =>
    rcases hs with rfl | rfl
    · exact .inl ⟨hclaim, by simp⟩
    · exact .inl ⟨hclaim, by simp⟩
  | published m => exact .inl ⟨hclaim, by simp⟩
  | parked m error hdone => exact .inl ⟨hclaim, by simp⟩
  | refused e => exact .inl ⟨hclaim, by simp⟩
  | duplicate hm hheld => exact .inl ⟨hclaim, by simp⟩
  | answered a => exact .inl ⟨hclaim, by simp⟩
  | ended e => exact .inl ⟨hclaim, by simp⟩

/-- What a delivery may have a claim for after a step, it had before, or it is its message. -/
lemma Advance.claiming {i : ℕ} {tick : Tick} {s s' : Ingress} {stage next : Stage} {m : Message}
    (h : Advance g (d i) tick s stage next s') (hclaiming : next.claiming = some m) :
    stage.claiming = some m ∨ messageOf g (d i) = some m := by
  cases h with
  | claimed hm hnext hs =>
    rw [Stage.claiming_of_working hnext] at hclaiming
    exact .inr (hm.trans hclaiming)
  | unpublished hs => exact .inl hclaiming
  | unparked hdone hs => exact .inl hclaiming
  | published m' => cases hclaiming
  | parked m' error hdone => cases hclaiming
  | refused e => cases hclaiming
  | duplicate hm hheld => cases hclaiming
  | gaveBack m' e hwritten => cases hclaiming
  | notGivenBack m' e hwritten => cases hclaiming
  | answered a => cases hclaiming
  | ended e => cases hclaiming

/-- How a delivery comes to be answered. -/
lemma Advance.answered_cases {i : ℕ} {tick : Tick} {s s' : Ingress} {stage : Stage}
    {a : WebhookAcceptResponse} (h : Advance g (d i) tick s stage (.answered a) s') :
    stage = .answered a ∨ (∃ m, stage.working = some m) ∨
      stage = .waiting ∧ ∃ m, messageOf g (d i) = some m ∧
        s.claimedAt (dedupKey m) tick.now = true := by
  cases h with
  | claimed hm hnext hs => cases hnext
  | duplicate hm hheld => exact .inr (.inr ⟨rfl, _, hm, hheld⟩)
  | published m => exact .inr (.inl ⟨m, rfl⟩)
  | parked m error hdone => exact .inr (.inl ⟨m, rfl⟩)
  | answered a => exact .inl rfl

/-- A careful step keeps the order. -/
theorem Orderly.move {sched : List (ℕ × Tick)}
    {c : Config ℕ Ingress Tick Refusal WebhookAcceptResponse} {stage : ℕ → Stage}
    (h : Orderly g d sched c stage) {i : ℕ} {tick : Tick}
    (hcareful : ∀ m, messageOf g (d i) = some m → ¬Kept g d (dedupKey m) c.shared →
      Careful g d c i tick m) :
    ∃ stage', Orderly g d (sched ++ [(i, tick)]) (c.move (i, tick)) stage' := by
  obtain ⟨next, hafter, hadvance⟩ := exists_advance g (d i) tick c.shared (stage i)
  rw [← h.program i] at hafter hadvance
  have hself : Function.update stage i next i = next := Function.update_self ..
  have hother : ∀ j, j ≠ i → Function.update stage i next j = stage j := fun j hj =>
    Function.update_of_ne hj ..
  have hmono : ∀ key, Kept g d key c.shared → Kept g d key (c.move (i, tick)).shared :=
    fun key hkept => hadvance.kept hkept
  -- A delivery that worked for an event keeps at it, unless nothing takes the event.
  have hwork : ∀ j m, (stage j).working = some m → ¬Kept g d (dedupKey m) c.shared →
      Kept g d (dedupKey m) (c.move (i, tick)).shared ∨
      (∃ j' m', (Function.update stage i next j').working = some m' ∧ dedupKey m' = dedupKey m) ∨
      (j = i ∧ next = .givingBack m ∧ tick.answer ≠ .done ∧ ∃ error, stage i = .parking m error) := by
    intro j m hj hlost
    by_cases hji : j = i
    · subst hji
      have hm := h.message j m (Stage.claiming_of_working hj)
      have hc := hcareful m hm hlost
      rcases hadvance.working hm hj fun error hstage hdone =>
          hc.whole error (by rw [h.program, hstage]; rfl) hdone with hkept | hnext | hgiven
      · exact .inl hkept
      · exact .inr (.inl ⟨j, m, by rw [hself]; exact hnext, rfl⟩)
      · exact .inr (.inr ⟨rfl, hgiven⟩)
    · exact .inr (.inl ⟨j, m, by rw [hother j hji]; exact hj, rfl⟩)
  refine ⟨Function.update stage i next, ?_, ?_, ?_, ?_, ?_⟩
  · intro j
    by_cases hj : j = i
    · subst hj
      rw [Config.party_move_self, hself, hafter]
    · rw [Config.party_move_of_ne _ hj, hother j hj, h.program]
  · intro j hidle
    rw [Config.events_append, List.append_eq_nil_iff] at hidle
    have hj : j ≠ i := by
      rintro rfl
      simp [Config.events] at hidle
    rw [hother j hj]
    exact h.waiting j hidle.1
  · intro j m hclaiming
    by_cases hj : j = i
    · subst hj
      rw [hself] at hclaiming
      rcases hadvance.claiming hclaiming with hold | hm
      · exact h.message j m hold
      · exact hm
    · rw [hother j hj] at hclaiming
      exact h.message j m hclaiming
  · intro key expiry hclaim
    rcases hadvance.claimedUntil hclaim with ⟨hold, hgiven⟩ | ⟨m, hnext, hkey⟩
    · by_cases hlost : Kept g d key c.shared
      · exact .inl (hmono key hlost)
      obtain ⟨j, m, hj, rfl⟩ := (h.claimed key expiry hold).resolve_left hlost
      rcases Stage.claiming_cases hj with hworking | hstage
      · rcases hwork j m hworking hlost with hkept | ⟨j', m', hj', hkey⟩ | ⟨rfl, hnext, -⟩
        · exact .inl hkept
        · exact .inr ⟨j', m', Stage.claiming_of_working hj', hkey⟩
        · exact .inr ⟨j, m, by rw [hself, hnext]; rfl, rfl⟩
      · by_cases hji : j = i
        · subst hji
          have hc := hcareful m (h.message j m hj) hlost
          exact absurd (hc.given (by rw [h.program, hstage]; rfl)) (hgiven m hstage rfl)
        · exact .inr ⟨j, m, by rw [hother j hji]; exact hj, rfl⟩
    · exact .inr ⟨i, m, by rw [hself]; exact Stage.claiming_of_working hnext, hkey⟩
  · intro j m a hj hm hacc
    by_cases hlost : Kept g d (dedupKey m) c.shared
    · exact .inl (hmono _ hlost)
    by_cases hji : j = i
    · subst hji
      rw [hself] at hj
      subst hj
      rcases hadvance.answered_cases with hstage | ⟨m', hworking⟩ | ⟨hstage, m', hm', hheld⟩
      · obtain ⟨j', m', hj', hkey⟩ := (h.answered j m a hstage hm hacc).resolve_left hlost
        rw [← hkey] at hlost ⊢
        rcases hwork j' m' hj' hlost with hkept | hnext | ⟨-, hnext, -⟩
        · exact .inl hkept
        · exact .inr hnext
        · cases hnext
      · cases (h.message j m' (Stage.claiming_of_working hworking)).symm.trans hm
        rcases hwork j m hworking hlost with hkept | hnext | ⟨-, hnext, -⟩
        · exact .inl hkept
        · exact .inr hnext
        · cases hnext
      · cases hm'.symm.trans hm
        have hprogram : c.party j = accept g (d j) := by
          rw [h.program, hstage]
          rfl
        obtain ⟨expiry, hclaim, -⟩ := claimedAt_iff.1 hheld
        obtain ⟨j', m', hj', hkey⟩ := (h.claimed _ expiry hclaim).resolve_left hlost
        rcases Stage.claiming_cases hj' with hworking | hgiving
        · rw [← hkey] at hlost ⊢
          rcases hwork j' m' hworking hlost with hkept | hnext | ⟨-, hnext, -⟩
          · exact .inl hkept
          · exact .inr hnext
          · cases hnext
        · exact absurd (by rw [h.program, hgiving]; rfl)
            ((hcareful m hm hlost).apart hprogram hheld j' m' (h.message j' m' hj') hkey)
    · rw [hother j hji] at hj
      obtain ⟨j', m', hj', hkey⟩ := (h.answered j m a hj hm hacc).resolve_left hlost
      have hanswered : Answered g d (dedupKey m') c :=
        ⟨j, m, a, hm, hkey.symm, by rw [h.program, hj]; rfl, hacc⟩
      rw [← hkey] at hlost ⊢
      rcases hwork j' m' hj' hlost with hkept | hnext | ⟨rfl, -, hdone, error, hstage⟩
      · exact .inl hkept
      · exact .inr hnext
      · rw [hstage] at hj'
        cases hj'
        have hm' := h.message j' m' (by rw [hstage]; rfl)
        exact absurd hanswered
          ((hcareful m' hm' hlost).alone error (by rw [h.program, hstage]; rfl) hdone)

theorem Orderly.run {before sched : List (ℕ × Tick)}
    {c : Config ℕ Ingress Tick Refusal WebhookAcceptResponse} {stage : ℕ → Stage}
    (h : Orderly g d before c stage) (hcareful : AllCareful g d c sched) :
    ∃ stage', Orderly g d (before ++ sched) (c.run sched) stage' := by
  induction sched generalizing before c stage with
  | nil => exact ⟨stage, by rwa [List.append_nil]⟩
  | cons step rest ih =>
    obtain ⟨i, tick⟩ := step
    obtain ⟨stage', hnext⟩ := h.move hcareful.1
    obtain ⟨last, hlast⟩ := ih hnext hcareful.2
    exact ⟨last, by rwa [List.append_assoc] at hlast⟩

/-- If all steps are careful, an event that was answered as accepted is kept. -/
theorem nothingLost (g : Gate) (d : ℕ → Delivery) (sched : List (ℕ × Tick))
    (h : AllCareful g d (arrivals g d) sched) : NothingLost g d sched := by
  obtain ⟨stage, horderly⟩ := orderly_start.run h
  intro hended key hanswered
  obtain ⟨i, m, a, hm, rfl, ha, hacc⟩ := hanswered
  rw [horderly.program] at ha
  rcases horderly.answered i m a (Stage.eq_answered ha) hm hacc with hkept | ⟨j, m', hworking, -⟩
  · exact hkept
  · by_cases hidle : Config.events j sched = []
    · rw [horderly.waiting j hidle] at hworking
      cases hworking
    · rcases hended j hidle with ⟨a', ha'⟩ | ⟨e, he⟩
      · rw [horderly.program] at ha'
        rw [Stage.eq_answered ha'] at hworking
        cases hworking
      · rw [horderly.program] at he
        exact absurd he (Stage.program_ne_fail hworking)

/-- The gate, with the adapter's reading of the body of `push`. -/
def shopeeGate : Gate where
  parseWebhook _ _ := .ok ("shopee:9", "order.status_changed")
  sha256 _ := ""

/-- The same push, delivered again and again. -/
def push (_ : ℕ) : Delivery where
  platform := "shopee"
  body := "\x7b\"code\":3,\"msg_id\":9\x7d".toUTF8

def pushMessage : Message :=
  ⟨"shopee", "\x7b\"code\":3,\"msg_id\":9\x7d", "shopee:9", "order.status_changed"⟩

/-- The queue is down, the dead letters take the event, and the platform sends it again. -/
def parkedOnce : List (ℕ × Tick) :=
  [(0, ⟨0, .done⟩), (0, ⟨1, .unreachable⟩), (0, ⟨2, .done⟩), (1, ⟨3, .done⟩)]

lemma eq_pushMessage : (⟨Text.lower (Text.strip "shopee"), bodyText shopeeGate (push 0).body,
    "shopee:9", "order.status_changed"⟩ : Message) = pushMessage := by
  decide +kernel

lemma messageOf_push (i : ℕ) : messageOf shopeeGate (push i) = some pushMessage :=
  congrArg some eq_pushMessage

lemma accept_push (i : ℕ) : accept shopeeGate (push i) =
    (claim shopeeGate (dedupKey pushMessage)).bind fun claimed =>
      if claimed.getD true = true then enqueue pushMessage else .ret ⟨true, true⟩ := by
  have hcode : Text.lower (Text.strip (push i).platform) ∈ shopeeGate.supportedPlatforms := by
    show Text.lower (Text.strip "shopee") ∈ ["amazon", "shopee", "lazada", "tiktok"]
    decide +kernel
  have hsize : ¬shopeeGate.webhookMaxBodyBytes < (push i).body.size := by
    show ¬1048576 < (push 0).body.size
    decide +kernel
  have hlimiter : ¬(push i).limiter.getD true = false := fun h => by cases h
  have hallowed : ¬(push i).ipAllowed = false := fun h => by cases h
  have hverified : ¬(push i).verified = false := fun h => by cases h
  rw [accept, if_neg (not_not.2 hcode), if_neg hsize, if_neg hlimiter, if_neg hallowed,
    if_neg hverified]
  rw [← eq_pushMessage]
  rfl

lemma whole_push (i : ℕ) : Whole pushMessage (push i) := rfl

/-- The first delivery after its claim, and after the queue has failed it. -/
def claimed : Config ℕ Ingress Tick Refusal WebhookAcceptResponse :=
  (arrivals shopeeGate push).move (0, ⟨0, .done⟩)

def unqueued : Config ℕ Ingress Tick Refusal WebhookAcceptResponse :=
  claimed.move (0, ⟨1, .unreachable⟩)

lemma claimed_party : claimed.party 0 = enqueue pushMessage := by
  rw [claimed, Config.party_move_self]
  show (accept shopeeGate (push 0)).after _ _ = _
  rw [accept_push]
  rfl

lemma unqueued_party : unqueued.party 0 = park pushMessage "enqueue_failed" := by
  rw [unqueued, Config.party_move_self, claimed_party]
  rfl

/-- What the next step would publish and park tells the programs apart. -/
def puts (p : Steps Ingress Tick Refusal WebhookAcceptResponse) : List Message × List DeadLetter :=
  let s := p.effect ⟨0, .done⟩ {}
  (s.published, s.letters)

lemma puts_accept (i : ℕ) : puts (accept shopeeGate (push i)) = ([], []) := by
  rw [accept_push]
  rfl

lemma allCareful_parkedOnce : AllCareful shopeeGate push (arrivals shopeeGate push) parkedOnce := by
  have hmessage : ∀ i m, messageOf shopeeGate (push i) = some m → m = pushMessage := fun i m hm =>
    Option.some.inj (hm.symm.trans (messageOf_push i))
  refine ⟨?_, ?_, ?_, ?_, trivial⟩
  · rintro m hm -
    rw [hmessage 0 m hm]
    exact ⟨fun _ _ _ => whole_push 0, fun _ _ h => absurd rfl h, (fun _ h => by cases h),
      fun _ h => by cases h⟩
  · rintro m hm -
    rw [hmessage 0 m hm]
    have hputs : puts (claimed.party 0) = ([pushMessage], []) := by
      rw [claimed_party]
      rfl
    constructor
    · intro _ _ h
      cases h
    · intro error hpark
      rw [show claimed.party 0 = _ from hpark] at hputs
      cases hputs
    · intro hgive
      rw [show claimed.party 0 = _ from hgive] at hputs
      cases hputs
    · intro haccept
      rw [show claimed.party 0 = _ from haccept, puts_accept] at hputs
      cases hputs
  · rintro m hm -
    rw [hmessage 0 m hm]
    have hputs : puts (unqueued.party 0) =
        ([], [deadLetterForTask pushMessage "enqueue_failed"]) := by
      rw [unqueued_party]
      rfl
    constructor
    · exact fun _ _ _ => whole_push 0
    · exact fun _ _ h => absurd rfl h
    · exact fun _ h => by cases h
    · intro haccept
      rw [show unqueued.party 0 = _ from haccept, puts_accept] at hputs
      cases hputs
  · intro m hm hlost
    rw [hmessage 1 m hm] at hlost
    refine absurd ⟨0, pushMessage, messageOf_push 0, rfl, .inr ⟨"enqueue_failed", ?_, rfl⟩⟩ hlost
    show _ ∈ ((unqueued.party 0).effect ⟨2, .done⟩ unqueued.shared).letters
    rw [unqueued_party]
    exact List.mem_append_right _ List.mem_cons_self

theorem nothingLost_parkedOnce :
    AllCareful shopeeGate push (arrivals shopeeGate push) parkedOnce ∧
      NothingLost shopeeGate push parkedOnce :=
  ⟨allCareful_parkedOnce, nothingLost shopeeGate push parkedOnce allCareful_parkedOnce⟩

/-- Neither the queue nor the dead letters take the event, its claim cannot be given back, and the
platform sends it again. -/
def stuckClaim : List (ℕ × Tick) :=
  [(0, ⟨0, .done⟩), (0, ⟨1, .unreachable⟩), (0, ⟨2, .unreachable⟩), (0, ⟨3, .unreachable⟩),
    (1, ⟨4, .done⟩)]

theorem not_nothingLost_stuckClaim :
    ¬∀ (g : Gate) (d : ℕ → Delivery) (sched : List (ℕ × Tick)), NothingLost g d sched := by
  intro h
  let given := unqueued.move (0, ⟨2, .unreachable⟩)
  let failed := given.move (0, ⟨3, .unreachable⟩)
  have hgiven : given.party 0 = giveBack pushMessage := by
    rw [Config.party_move_self, unqueued_party]
    rfl
  have hfailed : failed.party 0 = .fail (.internalError "Webhook 入队失败") := by
    rw [Config.party_move_self, hgiven]
    rfl
  have hnext : failed.party 1 = accept shopeeGate (push 1) := by
    have hne : (1 : ℕ) ≠ 0 := by decide
    rw [Config.party_move_of_ne _ hne, Config.party_move_of_ne _ hne, unqueued,
      Config.party_move_of_ne _ hne, claimed, Config.party_move_of_ne _ hne]
    rfl
  have hshared : failed.shared =
      ({} : Ingress).setClaim (dedupKey pushMessage) (some 86400000000) := by
    have hclaimed : claimed.shared =
        ({} : Ingress).setClaim (dedupKey pushMessage) (some 86400000000) := by
      show (accept shopeeGate (push 0)).effect _ _ = _
      rw [accept_push]
      rfl
    rw [Config.shared_move, hgiven, Config.shared_move, unqueued_party, unqueued,
      Config.shared_move, claimed_party, hclaimed]
    rfl
  have hclaimedAt : failed.shared.claimedAt (dedupKey pushMessage) 4 = true := by
    rw [hshared]
    exact claimedAt_iff.2 ⟨86400000000, by simp [Ingress.setClaim], by decide⟩
  have hclaim : tryClaim shopeeGate (dedupKey pushMessage) ⟨4, .done⟩ failed.shared =
      (some false, failed.shared) := by
    simp [tryClaim, hclaimedAt]
  have hrun : (arrivals shopeeGate push).run stuckClaim = failed.move (1, ⟨4, .done⟩) := rfl
  have hduplicate : (failed.move (1, ⟨4, .done⟩)).party 1 = .ret ⟨true, true⟩ := by
    rw [Config.party_move_self, hnext, accept_push]
    show (if (tryClaim shopeeGate (dedupKey pushMessage) ⟨4, .done⟩ failed.shared).1.getD true = true
      then enqueue pushMessage else .ret ⟨true, true⟩) = _
    rw [hclaim]
    rfl
  have hsame : (failed.move (1, ⟨4, .done⟩)).shared = failed.shared := by
    rw [Config.shared_move, hnext, accept_push]
    show (tryClaim shopeeGate (dedupKey pushMessage) ⟨4, .done⟩ failed.shared).2 = _
    rw [hclaim]
  have hkept := h shopeeGate push stuckClaim ?_ (dedupKey pushMessage)
    ⟨1, pushMessage, ⟨true, true⟩, messageOf_push 1, rfl, by rw [hrun]; exact hduplicate, rfl⟩
  · rw [hrun, hsame, hshared] at hkept
    obtain ⟨i, m, -, -, hpublished | ⟨error, hletter, -⟩⟩ := hkept
    · cases hpublished
    · cases hletter
  · intro i hbegun
    rw [hrun]
    by_cases h0 : i = 0
    · subst h0
      right
      rw [Config.party_move_of_ne _ (by decide)]
      exact ⟨_, hfailed⟩
    · by_cases h1 : i = 1
      · subst h1
        exact .inl ⟨_, hduplicate⟩
      · refine absurd ?_ hbegun
        simp [Config.events, stuckClaim, Ne.symm h0, Ne.symm h1]

end CrossPilot.Webhook
