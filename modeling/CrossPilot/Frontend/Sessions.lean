import CrossPilot.Frontend.Client

/-!
# When a session ends

A replay that fails ends the session, whatever it failed for. So does an answer of 401 to a request
that is not renewed and carries an older token, and such an answer to any other request spends the
current refresh token. In all other steps of a run the session is kept as it should be
(`sound_iff_meets`).
-/

namespace CrossPilot.Frontend.Client

/-! ### What is claimed of a step -/

section claimed

variable {ι D : Type}

def Answer.isUnauthorized : Answer D → Bool
  | .refused status _ => status == 401
  | .ok _ _ | .network _ => false

/-- The request carries the access token that is stored. -/
def carriesLatest (s : State ι D) (config : Config) : Bool :=
  s.tokens.access.any fun token => config.headers.authorization = some (bearer token)

/-- The request carries another access token than the one that is stored. -/
def Outdated (s : State ι D) (config : Config) : Prop :=
  ∃ old token, config.headers.authorization = some (bearer old) ∧ s.tokens.access = some token ∧
    old ≠ token

variable [DecidableEq ι]

/-- The step takes the tokens away, or calls `onUnauthorized`. Whoever signs out means to. -/
def Ends (s : State ι D) (e : Event ι D) : Prop :=
  e ≠ .signOut ∧ ((step s e).unauthorized ≠ s.unauthorized ∨
    (s.tokens ≠ .cleared ∧ (step s e).tokens = .cleared))

/-- The request waited for a renewal that failed, and has not gone on since. -/
def RefreshFailed (tokens : Tokens) (events : List (Event ι D)) (i : ι) : Prop :=
  ∃ before r after config, events = before ++ .renewal r :: after ∧
    (run tokens before).refreshing ∧ (run tokens before).phase i = .waiting config ∧
    r.pair = none ∧ ∀ traceId key, .resume i traceId key ∉ after

/-- The request has been sent again. -/
def Replayed (tokens : Tokens) (events : List (Event ι D)) (i : ι) : Prop :=
  ∃ before traceId key after config newToken,
    events = before ++ .resume i traceId key :: after ∧
      (run tokens before).phase i = .renewed config newToken

/-- What the next step of a run does to the session. -/
structure Sound (tokens : Tokens) (events : List (Event ι D)) (e : Event ι D) : Prop where
  ends : Ends (run tokens events) e →
    (∃ i traceId key, e = .resume i traceId key ∧ RefreshFailed tokens events i) ∨
    truthy (run tokens events).tokens.refresh = false ∨
    ∃ i a config retried, e = .answer i a ∧ a.isUnauthorized ∧
      (run tokens events).phase i = .sent config retried ∧ carriesLatest (run tokens events) config
  replayed : ∀ i a config retried error, e = .answer i a →
    (run tokens events).phase i = .sent config retried → Replayed tokens events i →
    a.isUnauthorized = false → a.error = some error →
      (step (run tokens events) e).phase i = .rejected error ∧
      (step (run tokens events) e).tokens = (run tokens events).tokens ∧
      (step (run tokens events) e).unauthorized = (run tokens events).unauthorized
  outdated : ∀ i a config retried, e = .answer i a →
    (run tokens events).phase i = .sent config retried → a.isUnauthorized →
    Outdated (run tokens events) config →
      (step (run tokens events) e).calls = (run tokens events).calls

/-- A replay does not fail but for 401. Such an answer goes to a request with the stored token, or finds
no refresh token, or the request can wait for a renewal that is under way or that is called for. -/
def Meets (s : State ι D) (e : Event ι D) : Prop :=
  ∀ i a config retried, e = .answer i a → s.phase i = .sent config retried →
    (retried → a.isUnauthorized = false → ∃ status payload, a = .ok status payload) ∧
    (a.isUnauthorized → truthy s.tokens.refresh = false ∨ carriesLatest s config ∨
      (config.skipAuthRefresh = false ∧ retried = false ∧ (s.refreshing ∨ ¬ Outdated s config)))

/-- A property of the steps of a run, each with the steps before it. -/
def Throughout (P : List (Event ι D) → Event ι D → Prop) (events : List (Event ι D)) : Prop :=
  ∀ before e after, events = before ++ e :: after → P before e

end claimed

/-! ### Steps -/

namespace State

section plain

variable {ι D : Type} (s : State ι D) (config : Config) (message : String)

@[simp] lemma phase_lose : s.lose.phase = s.phase := rfl

@[simp] lemma tokens_lose : s.lose.tokens = .cleared := rfl

@[simp] lemma calls_lose : s.lose.calls = s.calls := rfl

@[simp] lemma unauthorized_lose : s.lose.unauthorized = s.unauthorized + 1 := rfl

@[simp] lemma phase_toast : (s.toast config message).phase = s.phase := by
  rw [toast]
  split <;> rfl

@[simp] lemma tokens_toast : (s.toast config message).tokens = s.tokens := by
  rw [toast]
  split <;> rfl

@[simp] lemma calls_toast : (s.toast config message).calls = s.calls := by
  rw [toast]
  split <;> rfl

@[simp] lemma unauthorized_toast : (s.toast config message).unauthorized = s.unauthorized := by
  rw [toast]
  split <;> rfl

end plain

variable {ι D : Type} [DecidableEq ι] (s : State ι D) (i : ι) (p : Phase D) {config : Config}

@[simp] lemma phase_put : (s.put i p).phase = Function.update s.phase i p := rfl

@[simp] lemma tokens_put : (s.put i p).tokens = s.tokens := rfl

@[simp] lemma calls_put : (s.put i p).calls = s.calls := rfl

@[simp] lemma unauthorized_put : (s.put i p).unauthorized = s.unauthorized := rfl

@[simp] lemma phase_giveUp :
    (s.giveUp i).phase = Function.update s.phase i (.rejected sessionLost) := rfl

@[simp] lemma tokens_giveUp : (s.giveUp i).tokens = .cleared := rfl

@[simp] lemma calls_giveUp : (s.giveUp i).calls = s.calls := rfl

@[simp] lemma unauthorized_giveUp : (s.giveUp i).unauthorized = s.unauthorized + 1 := rfl

variable {s i}

/-- With a refresh token the request waits, and the token is sent unless a renewal is under way. -/
lemma ensureRefreshed_spec (h : truthy s.tokens.refresh) :
    (s.ensureRefreshed i config).phase = Function.update s.phase i (.waiting config) ∧
      (s.ensureRefreshed i config).tokens = s.tokens ∧
      (s.ensureRefreshed i config).unauthorized = s.unauthorized ∧
      ((s.ensureRefreshed i config).calls = s.calls ↔ s.refreshing) := by
  rw [ensureRefreshed]
  by_cases hr : s.refreshing
  · simp [hr]
  · cases htoken : s.tokens.refresh with
    | none => simp [truthy, htoken] at h
    | some token =>
      have hne : token ≠ "" := by simpa [truthy, htoken] using h
      rw [if_neg hr]
      simp [hne, hr]

end State

section answers

variable {ι D : Type} [DecidableEq ι] {s : State ι D} {i : ι} {config : Config} {retried : Bool}
  {a : Answer D}

def canRetry (s : State ι D) (config : Config) (retried : Bool) : Bool :=
  !config.skipAuthRefresh && !retried && truthy s.tokens.refresh

/-- A request that can be sent again waits for new tokens. -/
lemma answer_of_canRetry (ha : a.isUnauthorized) (h : canRetry s config retried) :
    s.answer i config retried a = s.ensureRefreshed i config := by
  cases a with
  | ok | network => cases ha
  | refused status payload =>
    simp only [Answer.isUnauthorized, beq_iff_eq] at ha
    simp only [canRetry, Bool.and_eq_true, Bool.not_eq_true'] at h
    obtain ⟨⟨hskip, hretried⟩, hrefresh⟩ := h
    simp [State.answer, State.interceptResponse, ha, hskip, hretried, hrefresh]

/-- Any other request that is answered 401 ends the session. -/
lemma answer_of_unauthorized (ha : a.isUnauthorized) (h : canRetry s config retried = false) :
    (∃ error, (s.answer i config retried a).phase = Function.update s.phase i (.rejected error)) ∧
      (s.answer i config retried a).tokens = .cleared ∧
      (s.answer i config retried a).unauthorized ≠ s.unauthorized ∧
      (s.answer i config retried a).calls = s.calls := by
  cases a with
  | ok | network => cases ha
  | refused status payload =>
    simp only [Answer.isUnauthorized, beq_iff_eq] at ha
    cases retried with
    | false =>
      have hno : ¬ (config.skipAuthRefresh = false ∧ truthy s.tokens.refresh = true) := by
        simpa [canRetry] using h
      refine ⟨⟨Answer.refusal 401 payload, ?_⟩, ?_⟩
      · simp [State.answer, State.interceptResponse, ha, hno]
      · simp [State.answer, State.interceptResponse, ha, hno]
    | true =>
      refine ⟨⟨State.sessionLost, ?_⟩, ?_⟩
      · simp [State.answer, State.interceptResponse, ha]
      · simp [State.answer, State.interceptResponse, ha]
        omega

/-- Any other answer leaves the session, but for a replay that fails. -/
lemma answer_of_not_unauthorized (ha : a.isUnauthorized = false)
    (hkept : retried → ∃ status payload, a = .ok status payload) :
    (∃ p, (s.answer i config retried a).phase = Function.update s.phase i p ∧
        ((∃ data, p = .resolved data) ∨ ∃ error, p = .rejected error) ∧
        ∀ error, a.error = some error → p = .rejected error) ∧
      (s.answer i config retried a).tokens = s.tokens ∧
      (s.answer i config retried a).unauthorized = s.unauthorized ∧
      (s.answer i config retried a).calls = s.calls := by
  cases a with
  | ok status payload =>
    by_cases hcode : payload.code = 0
    · refine ⟨⟨.resolved payload.data, ?_⟩, ?_⟩
      · simp [State.answer, State.interceptResponse, Answer.error, hcode]
      · simp [State.answer, State.interceptResponse, hcode]
    · refine ⟨⟨.rejected (Answer.envelopeError status payload), ?_⟩, ?_⟩
      · simp [State.answer, State.interceptResponse, Answer.error, hcode]
      · simp [State.answer, State.interceptResponse, hcode]
  | network isTimeout =>
    have hretried : retried = false := by simpa using hkept
    refine ⟨⟨.rejected (Answer.networkError isTimeout), ?_⟩, ?_⟩
    · simp [State.answer, State.interceptResponse, Answer.error, hretried]
    · simp [State.answer, State.interceptResponse, hretried]
  | refused status payload =>
    have hretried : retried = false := by simpa using hkept
    have hstatus : status ≠ 401 := by simpa [Answer.isUnauthorized] using ha
    refine ⟨⟨.rejected (Answer.refusal status payload), ?_⟩, ?_⟩
    · simp [State.answer, State.interceptResponse, Answer.error, hretried, hstatus]
    · simp [State.answer, State.interceptResponse, hretried, hstatus]

/-- A replay that fails for any reason ends the session. -/
lemma answer_of_replay (h : ∀ status payload, a ≠ .ok status payload) :
    (s.answer i config true a).phase = Function.update s.phase i (.rejected State.sessionLost) := by
  cases a with
  | ok status payload => exact absurd rfl (h status payload)
  | network isTimeout => simp [State.answer, State.interceptResponse]
  | refused status payload =>
    by_cases hstatus : status = 401
    · simp [State.answer, State.interceptResponse, hstatus]
    · simp [State.answer, State.interceptResponse, hstatus]

lemma error_ne_sessionLost (ha : a.isUnauthorized = false)
    (h : ∀ status payload, a ≠ .ok status payload) : a.error ≠ some State.sessionLost := by
  cases a with
  | ok status payload => exact absurd rfl (h status payload)
  | network isTimeout => simp [Answer.error, Answer.networkError, State.sessionLost]
  | refused status payload =>
    have hstatus : status ≠ 401 := by simpa [Answer.isUnauthorized] using ha
    simp [Answer.error, Answer.refusal, State.sessionLost, hstatus]

end answers
/-! ### Runs -/

section runs

variable {ι D : Type} [DecidableEq ι] {s : State ι D} {e : Event ι D} {i : ι} {config : Config}
  {retried : Bool} {tokens : Tokens} {events : List (Event ι D)}

/-- After an answer a request waits, or is done. Only one that was not sent again waits. -/
lemma phase_answer (a : Answer D) : ∃ p, (s.answer i config retried a).phase = Function.update s.phase i p ∧
    ((p = .waiting config ∧ retried = false) ∨ (∃ data, p = .resolved data) ∨
      ∃ error, p = .rejected error) := by
  cases ha : a.isUnauthorized with
  | true =>
    cases h : canRetry s config retried with
    | true =>
      have hparts : (config.skipAuthRefresh = false ∧ retried = false) ∧
          truthy s.tokens.refresh = true := by
        simpa [canRetry] using h
      refine ⟨.waiting config, ?_, .inl ⟨rfl, hparts.1.2⟩⟩
      rw [answer_of_canRetry ha h, (State.ensureRefreshed_spec hparts.2).1]
    | false =>
      obtain ⟨⟨error, hphase⟩, -⟩ := @answer_of_unauthorized _ _ _ s i _ _ _ ha h
      exact ⟨_, hphase, .inr (.inr ⟨error, rfl⟩)⟩
  | false =>
    by_cases hkept : retried → ∃ status payload, a = .ok status payload
    · obtain ⟨⟨p, hphase, hdone, -⟩, -⟩ := @answer_of_not_unauthorized _ _ _ s i config _ _ ha hkept
      exact ⟨p, hphase, .inr hdone⟩
    · push Not at hkept
      obtain ⟨rfl, hfails⟩ := hkept
      exact ⟨_, answer_of_replay hfails, .inr (.inr ⟨_, rfl⟩)⟩

/-- How a step changes the phase of a request. -/
inductive Move (s : State ι D) (i : ι) : Event ι D → Phase D → Prop
  | send {config config' : Config} {traceId key : String} (h : s.phase i = .idle) :
      Move s i (.send i config traceId key) (.sent config' false)
  | wait {config : Config} {a : Answer D} (h : s.phase i = .sent config false) :
      Move s i (.answer i a) (.waiting config)
  | resolve {config : Config} {retried : Bool} {a : Answer D} {data : Option D}
      (h : s.phase i = .sent config retried) : Move s i (.answer i a) (.resolved data)
  | reject {config : Config} {retried : Bool} {a : Answer D} {error : ApiError D}
      (h : s.phase i = .sent config retried) : Move s i (.answer i a) (.rejected error)
  | renew {config : Config} {r : Renewal} {newToken : String} (hrefreshing : s.refreshing)
      (h : s.phase i = .waiting config) : Move s i (.renewal r) (.renewed config newToken)
  | fail {config : Config} {r : Renewal} (hrefreshing : s.refreshing)
      (h : s.phase i = .waiting config) (hr : r.pair = none) :
      Move s i (.renewal r) (.unrenewed config)
  | replay {config config' : Config} {newToken traceId key : String}
      (h : s.phase i = .renewed config newToken) :
      Move s i (.resume i traceId key) (.sent config' true)
  | giveUp {config : Config} {traceId key : String} {error : ApiError D}
      (h : s.phase i = .unrenewed config) : Move s i (.resume i traceId key) (.rejected error)

lemma move_of_phase_step (h : (step s e).phase i ≠ s.phase i) : Move s i e ((step s e).phase i) := by
  cases e with
  | send j config traceId key =>
    cases hphase : s.phase j with
    | idle =>
      simp only [step, hphase, State.phase_put] at h ⊢
      obtain rfl | hij := eq_or_ne i j
      · rw [Function.update_self]
        exact .send hphase
      · exact absurd (Function.update_of_ne hij _ _) h
    | sent | waiting | renewed | unrenewed | resolved | rejected => simp [step, hphase] at h
  | answer j a =>
    cases hphase : s.phase j with
    | sent config retried =>
      obtain ⟨p, hp, hcases⟩ := @phase_answer _ _ _ s j config retried a
      simp only [step, hphase, hp] at h ⊢
      obtain rfl | hij := eq_or_ne i j
      · rw [Function.update_self]
        obtain ⟨rfl, rfl⟩ | ⟨data, rfl⟩ | ⟨error, rfl⟩ := hcases
        · exact .wait hphase
        · exact .resolve hphase
        · exact .reject hphase
      · exact absurd (Function.update_of_ne hij _ _) h
    | idle | waiting | renewed | unrenewed | resolved | rejected => simp [step, hphase] at h
  | renewal r =>
    by_cases hr : s.refreshing
    · cases hphase : s.phase i with
      | waiting config =>
        cases hpair : r.pair with
        | none =>
          have hp : (step s (.renewal r)).phase i = .unrenewed config := by
            simp [step, hr, State.renew, hphase, hpair]
          rw [hp]
          exact .fail hr hphase hpair
        | some pair =>
          have hp : (step s (.renewal r)).phase i = .renewed config pair.accessToken := by
            simp [step, hr, State.renew, hphase, hpair]
          rw [hp]
          exact .renew hr hphase
      | idle | sent | renewed | unrenewed | resolved | rejected =>
        simp [step, hr, State.renew, hphase] at h
    · simp [step, hr] at h
  | resume j traceId key =>
    cases hphase : s.phase j with
    | renewed config newToken =>
      simp only [step, hphase, State.phase_put] at h ⊢
      obtain rfl | hij := eq_or_ne i j
      · rw [Function.update_self]
        exact .replay hphase
      · exact absurd (Function.update_of_ne hij _ _) h
    | unrenewed config =>
      simp only [step, hphase, State.phase_giveUp] at h ⊢
      obtain rfl | hij := eq_or_ne i j
      · rw [Function.update_self]
        exact .giveUp hphase
      · exact absurd (Function.update_of_ne hij _ _) h
    | idle | sent | waiting | resolved | rejected => simp [step, hphase] at h
  | signIn pair => exact absurd rfl h
  | signOut => exact absurd rfl h

/-- A request that is not renewed has not gone on yet. -/
lemma not_resume_of_unrenewed {traceId key : String}
    (h : (step s e).phase i = .unrenewed config) (hs : s.phase i = .unrenewed config) :
    e ≠ .resume i traceId key := by
  rintro rfl
  simp [step, hs] at h

lemma refreshFailed_of_unrenewed (h : (run tokens events).phase i = .unrenewed config) :
    RefreshFailed tokens events i := by
  induction events using List.reverseRecOn with
  | nil => cases h
  | append_singleton events e ih =>
    rw [run_append_singleton] at h
    by_cases hsame : (step (run tokens events) e).phase i = (run tokens events).phase i
    · have hs := hsame ▸ h
      obtain ⟨before, r, after, config', rfl, hrefreshing, hwaiting, hr, hafter⟩ := ih hs
      refine ⟨before, r, after ++ [e], config', by simp, hrefreshing, hwaiting, hr, ?_⟩
      intro traceId key hmem
      rcases List.mem_append.mp hmem with hmem | hmem
      · exact hafter traceId key hmem
      · exact not_resume_of_unrenewed h hs (List.mem_singleton.mp hmem).symm
    · have hmove := move_of_phase_step hsame
      rw [h] at hmove
      cases hmove with
      | fail hrefreshing hwaiting hr =>
        exact ⟨events, _, [], _, rfl, hrefreshing, hwaiting, hr, by simp⟩

lemma replayed_of_sent (h : (run tokens events).phase i = .sent config true) :
    Replayed tokens events i := by
  induction events using List.reverseRecOn with
  | nil => cases h
  | append_singleton events e ih =>
    rw [run_append_singleton] at h
    by_cases hsame : (step (run tokens events) e).phase i = (run tokens events).phase i
    · obtain ⟨before, traceId, key, after, config', newToken, rfl, hrenewed⟩ := ih (hsame ▸ h)
      exact ⟨before, traceId, key, after ++ [e], config', newToken, by simp, hrenewed⟩
    · have hmove := move_of_phase_step hsame
      rw [h] at hmove
      cases hmove with
      | replay hrenewed => exact ⟨events, _, _, [], _, _, rfl, hrenewed⟩

end runs

/-! ### When the session is kept -/

section kept

variable {ι D : Type} {s : State ι D} {i : ι} {config : Config} {retried : Bool} {a : Answer D}

lemma not_outdated_of_carriesLatest (h : carriesLatest s config) : ¬ Outdated s config := by
  rintro ⟨old, token, hold, htoken, hne⟩
  have hlatest : bearer old = bearer token := by simpa [carriesLatest, hold, htoken] using h
  have hlists := congrArg String.toList hlatest
  simp only [bearer, toString, String.toList_append, List.append_cancel_left_eq] at hlists
  exact hne (String.toList_inj.mp hlists)

/-- The condition for an answer to a request under way. -/
def AnswerMeets (s : State ι D) (config : Config) (retried : Bool) (a : Answer D) : Prop :=
  (retried → a.isUnauthorized = false → ∃ status payload, a = .ok status payload) ∧
    (a.isUnauthorized → truthy s.tokens.refresh = false ∨ carriesLatest s config ∨
      (config.skipAuthRefresh = false ∧ retried = false ∧ (s.refreshing ∨ ¬ Outdated s config)))

lemma meets_answer_iff (h : s.phase i = .sent config retried) :
    Meets s (.answer i a) ↔ AnswerMeets s config retried a := by
  constructor
  · intro hmeets
    exact hmeets i a config retried rfl h
  · rintro hmeets j b config' retried' heq hphase
    cases heq
    rw [h] at hphase
    cases hphase
    exact hmeets

lemma canRetry_iff : canRetry s config retried ↔
    config.skipAuthRefresh = false ∧ retried = false ∧ truthy s.tokens.refresh := by
  simp [canRetry, and_assoc]

variable [DecidableEq ι] {e : Event ι D} {tokens : Tokens} {events : List (Event ι D)}

lemma step_answer (h : s.phase i = .sent config retried) (a : Answer D) :
    step s (.answer i a) = s.answer i config retried a := by
  simp only [step, h]

lemma not_ends (htokens : (step s e).tokens = s.tokens)
    (hunauthorized : (step s e).unauthorized = s.unauthorized) : ¬ Ends s e := by
  rintro ⟨-, hne | ⟨hne, hcleared⟩⟩
  · exact hne hunauthorized
  · exact hne (htokens ▸ hcleared)

/-- Only answers and requests that go on end a session. -/
lemma ends_cases (h : Ends s e) : (∃ i a, e = .answer i a) ∨
    ∃ i traceId key config, e = .resume i traceId key ∧ s.phase i = .unrenewed config := by
  cases e with
  | answer i a => exact .inl ⟨i, a, rfl⟩
  | resume i traceId key =>
    cases hphase : s.phase i with
    | unrenewed config => exact .inr ⟨i, traceId, key, config, rfl, hphase⟩
    | idle | sent | waiting | renewed | resolved | rejected =>
      exact absurd h (not_ends (by simp [step, hphase]) (by simp [step, hphase]))
  | send i config traceId key =>
    cases hphase : s.phase i with
    | idle | sent | waiting | renewed | unrenewed | resolved | rejected =>
      exact absurd h (not_ends (by simp [step, hphase]) (by simp [step, hphase]))
  | renewal r =>
    obtain ⟨-, hne | ⟨hne, hcleared⟩⟩ := h
    · by_cases hr : s.refreshing
      · simp [step, hr, State.renew] at hne
      · simp [step, hr] at hne
    · by_cases hr : s.refreshing
      · cases hpair : r.pair with
        | none => simp [step, hr, State.renew, hpair, hne] at hcleared
        | some pair => simp [step, hr, State.renew, hpair, Tokens.ofPair, Tokens.cleared] at hcleared
      · simp [step, hr, hne] at hcleared
  | signIn pair =>
    obtain ⟨-, hne | ⟨-, hcleared⟩⟩ := h
    · exact absurd rfl hne
    · simp [step, Tokens.ofPair, Tokens.cleared] at hcleared
  | signOut => exact absurd rfl h.1

lemma answerMeets_of_sound (hphase : (run tokens events).phase i = .sent config retried)
    (h : Sound tokens events (.answer i a)) :
    AnswerMeets (run tokens events) config retried a := by
  have hstep := step_answer hphase a
  constructor
  · rintro rfl ha
    by_contra hfails
    push Not at hfails
    obtain ⟨error, herror⟩ : ∃ error, a.error = some error := by
      cases a with
      | ok status payload => exact absurd rfl (hfails status payload)
      | refused | network => exact ⟨_, rfl⟩
    obtain ⟨hrejected, -⟩ :=
      h.replayed i a config true error rfl hphase (replayed_of_sent hphase) ha herror
    rw [hstep, answer_of_replay hfails, Function.update_self] at hrejected
    cases hrejected
    exact error_ne_sessionLost ha hfails herror
  · intro ha
    by_cases hrefresh : truthy (run tokens events).tokens.refresh
    · cases hretry : canRetry (run tokens events) config retried with
      | true =>
        obtain ⟨hskip, hretried, -⟩ := canRetry_iff.mp hretry
        refine .inr (.inr ⟨hskip, hretried, ?_⟩)
        by_contra hbad
        push Not at hbad
        have hcalls := h.outdated i a config retried rfl hphase ha hbad.2
        rw [hstep, answer_of_canRetry ha hretry] at hcalls
        exact hbad.1 ((State.ensureRefreshed_spec hrefresh).2.2.2.mp hcalls)
      | false =>
        obtain ⟨-, -, hunauthorized, -⟩ := @answer_of_unauthorized _ _ _ _ i _ _ _ ha hretry
        rw [← hstep] at hunauthorized
        obtain ⟨j, traceId, key, heq, -⟩ | hnone | ⟨j, b, config', retried', heq, -, hphase', hlatest⟩ :=
          h.ends ⟨by simp, .inl hunauthorized⟩
        · cases heq
        · exact .inl hnone
        · cases heq
          rw [hphase] at hphase'
          cases hphase'
          exact .inr (.inl hlatest)
    · exact .inl (by simpa using hrefresh)

lemma sound_of_answerMeets (hphase : (run tokens events).phase i = .sent config retried)
    (h : AnswerMeets (run tokens events) config retried a) :
    Sound tokens events (.answer i a) := by
  have hstep := step_answer hphase a
  constructor
  · intro hends
    cases ha : a.isUnauthorized with
    | true =>
      obtain hnone | hlatest | ⟨hskip, hretried, -⟩ := h.2 ha
      · exact .inr (.inl hnone)
      · exact .inr (.inr ⟨i, a, config, retried, rfl, ha, hphase, hlatest⟩)
      · by_cases hrefresh : truthy (run tokens events).tokens.refresh
        · obtain ⟨-, htokens, hunauthorized, -⟩ :=
            @State.ensureRefreshed_spec _ _ _ (run tokens events) i config hrefresh
          rw [← answer_of_canRetry ha (canRetry_iff.mpr ⟨hskip, hretried, hrefresh⟩), ← hstep]
            at htokens hunauthorized
          exact absurd hends (not_ends htokens hunauthorized)
        · exact .inr (.inl (by simpa using hrefresh))
    | false =>
      obtain ⟨-, htokens, hunauthorized, -⟩ :=
        @answer_of_not_unauthorized _ _ _ (run tokens events) i config _ _ ha fun hr => h.1 hr ha
      rw [← hstep] at htokens hunauthorized
      exact absurd hends (not_ends htokens hunauthorized)
  · intro j b config' retried' error heq _ hreplayed hb herror
    cases heq
    obtain ⟨⟨p, hp, -, hrejected⟩, htokens, hunauthorized, -⟩ :=
      @answer_of_not_unauthorized _ _ _ (run tokens events) i config _ _ hb fun hr => h.1 hr hb
    rw [hstep, hp, Function.update_self]
    exact ⟨hrejected error herror, htokens, hunauthorized⟩
  · intro j b config' retried' heq hphase' hb houtdated
    cases heq
    rw [hphase] at hphase'
    cases hphase'
    rw [hstep]
    cases hretry : canRetry (run tokens events) config retried with
    | true =>
      have hrefresh := (canRetry_iff.mp hretry).2.2
      rw [answer_of_canRetry hb hretry]
      apply (State.ensureRefreshed_spec hrefresh).2.2.2.mpr
      obtain hnone | hlatest | ⟨-, -, hrefreshing | hnot⟩ := h.2 hb
      · rw [hnone] at hrefresh
        cases hrefresh
      · exact absurd houtdated (not_outdated_of_carriesLatest hlatest)
      · exact hrefreshing
      · exact absurd houtdated hnot
    | false => exact (answer_of_unauthorized hb hretry).2.2.2

/-- A step of a run treats the session as it should exactly if it meets the condition. -/
lemma sound_iff_meets_step (tokens : Tokens) (events : List (Event ι D)) (e : Event ι D) :
    Sound tokens events e ↔ Meets (run tokens events) e := by
  by_cases hanswer : ∃ i a config retried,
      e = .answer i a ∧ (run tokens events).phase i = .sent config retried
  · obtain ⟨i, a, config, retried, rfl, hphase⟩ := hanswer
    rw [meets_answer_iff hphase]
    exact ⟨answerMeets_of_sound hphase, sound_of_answerMeets hphase⟩
  · push Not at hanswer
    constructor
    · rintro - i a config retried rfl hphase
      exact absurd hphase (hanswer i a config retried rfl)
    · rintro -
      constructor
      · intro hends
        obtain ⟨i, a, rfl⟩ | ⟨i, traceId, key, config, rfl, hphase⟩ := ends_cases hends
        · have hsame : step (run tokens events) (.answer i a) = run tokens events := by
            cases hphase : (run tokens events).phase i with
            | sent config retried => exact absurd hphase (hanswer i a config retried rfl)
            | idle | waiting | renewed | unrenewed | resolved | rejected => simp only [step, hphase]
          exact absurd hends (not_ends (by rw [hsame]) (by rw [hsame]))
        · exact .inl ⟨i, traceId, key, rfl, refreshFailed_of_unrenewed hphase⟩
      · rintro i a config retried error rfl hphase
        exact absurd hphase (hanswer i a config retried rfl)
      · rintro i a config retried rfl hphase
        exact absurd hphase (hanswer i a config retried rfl)

/-- In a run of any requests the session is kept as it should be exactly if all steps meet the
condition. -/
theorem sound_iff_meets (tokens : Tokens) (events : List (Event ι D)) :
    Throughout (Sound tokens) events ↔ Throughout (fun before e => Meets (run tokens before) e) events := by
  constructor
  · intro h before e after heq
    exact (sound_iff_meets_step tokens before e).mp (h before e after heq)
  · intro h before e after heq
    exact (sound_iff_meets_step tokens before e).mpr (h before e after heq)

end kept

/-! ### Runs that lose the session, or a token -/

section lost

def stored : Tokens := ⟨some "access-1", some "refresh-1"⟩

def plainConfig : Config := ⟨⟨none, none, none⟩, false, false, false⟩

def expired : Answer Unit := .refused 401 ⟨some 20006, some "令牌已过期", none, none⟩

def renewedPair : Renewal := .answered 0 (some ⟨"access-2", "refresh-2"⟩)

/-- The token of a request has expired, it is sent again with the new one, and the server fails. -/
def replayFails : List (Event Unit Unit) :=
  [.send () plainConfig "t" "k", .answer () expired, .renewal renewedPair, .resume () "t" "k",
    .answer () (.refused 500 ⟨none, none, none, none⟩)]

theorem not_sound_replayFails : ¬ Throughout (Sound stored) replayFails := by
  intro h
  have hsound := h (replayFails.take 4) (.answer () (.refused 500 ⟨none, none, none, none⟩)) [] rfl
  have hphase : (run stored (replayFails.take 4)).phase () =
      .sent ⟨⟨some "Bearer access-2", some "t", none⟩, false, false, false⟩ true := by
    rfl
  obtain ⟨hrejected, -⟩ := hsound.replayed () _ _ _ _ rfl hphase (replayed_of_sent hphase) rfl rfl
  have hlost : (step (run stored (replayFails.take 4))
      (.answer () (.refused 500 ⟨none, none, none, none⟩))).phase () =
        .rejected State.sessionLost := rfl
  rw [hlost] at hrejected
  cases hrejected

/-- A second request was sent with the first token, and its answer comes after the renewal. -/
example : (run stored [.send true plainConfig "t" "k", .send false plainConfig "t" "k",
    .answer true expired, .renewal renewedPair, .answer false expired]).calls =
      ["refresh-1", "refresh-2"] := rfl

end lost

end CrossPilot.Frontend.Client
