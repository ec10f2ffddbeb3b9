import CrossPilot.Lib.Text
import Mathlib.Logic.Function.Basic

/-!
# The client of the web application

The interceptors of `api/client.ts` and the renewal of tokens, with any number of requests under way.
Axios is the environment here: it sends what the interceptors hand on, and answers come in any order.
A step is what runs between two awaited answers. What goes on after the renewal is a step of its own
for each request that waited for it.
-/

namespace CrossPilot.Frontend.Client

/-! ### Requests and answers -/

structure Headers where
  authorization : Option String
  traceId : Option String
  idempotencyKey : Option String
  deriving DecidableEq

structure Config where
  headers : Headers
  skipErrorToast : Bool
  skipAuthRefresh : Bool
  idempotent : Bool
  deriving DecidableEq

structure ApiError (D : Type) where
  code : ℤ
  message : String
  data : Option D
  traceId : Option String
  httpStatus : Option ℕ
  deriving DecidableEq

namespace ErrorCode

def internalError : ℤ := 10099

def unauthenticated : ℤ := 20001

end ErrorCode

/-- What an answer says that is not a success. Each part may be missing. -/
structure Payload (D : Type) where
  code : Option ℤ
  message : Option String
  data : Option D
  traceId : Option String

structure ApiResponse (D : Type) where
  code : ℤ
  message : String
  data : Option D
  traceId : Option String

/-- How a call of Axios ends. Without a response it may have taken too long. -/
inductive Answer (D : Type)
  | ok (status : ℕ) (payload : ApiResponse D)
  | refused (status : ℕ) (payload : Payload D)
  | network (isTimeout : Bool)

namespace Answer

variable {D : Type}

def status : Answer D → Option ℕ
  | ok status _ => some status
  | refused status _ => some status
  | network _ => none

def networkError (isTimeout : Bool) : ApiError D where
  code := ErrorCode.internalError
  message := if isTimeout then "请求超时，请稍后重试" else "网络异常，请检查网络连接"
  data := none
  traceId := none
  httpStatus := none

def refusal (status : ℕ) (payload : Payload D) : ApiError D where
  code := payload.code.getD ErrorCode.internalError
  message := payload.message.getD s!"请求失败（HTTP {status}）"
  data := payload.data
  traceId := payload.traceId
  httpStatus := some status

/-- What `request` throws for an envelope that reports a failure. -/
def envelopeError (status : ℕ) (payload : ApiResponse D) : ApiError D where
  code := payload.code
  message := payload.message
  data := payload.data
  traceId := payload.traceId
  httpStatus := some status

/-- The error that an answer stands for. -/
def error : Answer D → Option (ApiError D)
  | ok status payload => if payload.code ≠ 0 then some (envelopeError status payload) else none
  | refused status payload => some (refusal status payload)
  | network isTimeout => some (networkError isTimeout)

end Answer

structure TokenPair where
  accessToken : String
  refreshToken : String
  deriving DecidableEq

/-- How the call of `/auth/refresh` ends. -/
inductive Renewal
  | answered (code : ℤ) (data : Option TokenPair)
  | rejected

def Renewal.pair : Renewal → Option TokenPair
  | answered code data => if code ≠ 0 then none else data
  | rejected => none

/-! ### The state -/

/-- Where one call of `request` stands. -/
inductive Phase (D : Type)
  | idle
  | sent (config : Config) (retried : Bool)
  | waiting (config : Config)
  | renewed (config : Config) (newToken : String)
  | unrenewed (config : Config)
  | resolved (data : Option D)
  | rejected (error : ApiError D)
  deriving DecidableEq

structure Tokens where
  access : Option String
  refresh : Option String
  deriving DecidableEq

/-- `tokenStore.clear`. -/
def Tokens.cleared : Tokens := ⟨none, none⟩

/-- `tokenStore.set`. -/
def Tokens.ofPair (pair : TokenPair) : Tokens := ⟨some pair.accessToken, some pair.refreshToken⟩

/-- The client with its local storage. `calls` are the refresh tokens that were sent to
`/auth/refresh`, `shown` are the messages of errors, and `unauthorized` counts the calls of
`onUnauthorized`. -/
structure State (ι D : Type) where
  tokens : Tokens
  refreshing : Bool
  phase : ι → Phase D
  calls : List String
  shown : List String
  unauthorized : ℕ

/-- Whether JavaScript takes the text for true. -/
def truthy (text : Option String) : Bool := text.any (· ≠ "")

def bearer (token : String) : String := s!"Bearer {token}"

/-- The interceptor of requests, with two new ids. -/
def interceptRequest (tokens : Tokens) (traceId key : String) (config : Config) : Config :=
  let h := config.headers
  { config with
    headers :=
      { authorization :=
          if truthy tokens.access && !truthy h.authorization then tokens.access.map bearer
          else h.authorization
        traceId := if truthy h.traceId then h.traceId else some traceId
        idempotencyKey :=
          if config.idempotent && !truthy h.idempotencyKey then some key else h.idempotencyKey } }

namespace State

variable {ι D : Type} [DecidableEq ι]

def start (tokens : Tokens) : State ι D := ⟨tokens, false, fun _ => .idle, [], [], 0⟩

def put (s : State ι D) (i : ι) (p : Phase D) : State ι D :=
  { s with phase := Function.update s.phase i p }

def toast (s : State ι D) (config : Config) (message : String) : State ι D :=
  if config.skipErrorToast then s else { s with shown := s.shown ++ [message] }

/-- `tokenStore.clear()` and `onUnauthorized()`. -/
def lose (s : State ι D) : State ι D :=
  { s with tokens := .cleared, unauthorized := s.unauthorized + 1 }

/-- `ensureRefreshed`, and the request waits for it. -/
def ensureRefreshed (s : State ι D) (i : ι) (config : Config) : State ι D :=
  if s.refreshing then s.put i (.waiting config)
  else
    match s.tokens.refresh with
    | none => s.put i (.unrenewed config)
    | some refreshToken =>
      if refreshToken = "" then s.put i (.unrenewed config)
      else { s.put i (.waiting config) with
             refreshing := true
             calls := s.calls ++ [refreshToken] }

/-- The end of a message, by which it is found again. -/
def suffix (apiError : ApiError D) : String :=
  match apiError.traceId with
  | some traceId =>
    if traceId = "" then ""
    else s!"（追踪号 {String.ofList (traceId.toList.drop (traceId.toList.length - 6))}）"
  | none => ""

/-- The interceptor of responses, and `request` behind it. -/
def interceptResponse (s : State ι D) (i : ι) (config : Config) (retried : Bool) :
    Answer D → State ι D
  | .ok status payload =>
    if payload.code ≠ 0 then s.put i (.rejected (Answer.envelopeError status payload))
    else s.put i (.resolved payload.data)
  | .network isTimeout =>
    let apiError := Answer.networkError isTimeout
    (s.toast config apiError.message).put i (.rejected apiError)
  | .refused status payload =>
    let apiError := Answer.refusal status payload
    let canRetry := status == 401 && !config.skipAuthRefresh && !retried && truthy s.tokens.refresh
    if canRetry then s.ensureRefreshed i config
    else
      let s := if status = 401 then s.lose else s
      (s.toast config (apiError.message ++ suffix apiError)).put i (.rejected apiError)

/-- What is thrown instead of the error when a request is given up. -/
def sessionLost : ApiError D where
  code := ErrorCode.unauthenticated
  message := "登录状态已失效，请重新登录"
  data := none
  traceId := none
  httpStatus := some 401

/-- The `catch` around the renewal and the replay. -/
def giveUp (s : State ι D) (i : ι) : State ι D := s.lose.put i (.rejected sessionLost)

/-- An answer to a request. A replay is awaited inside of the `try`. -/
def answer (s : State ι D) (i : ι) (config : Config) (retried : Bool) (a : Answer D) : State ι D :=
  let s' := s.interceptResponse i config retried a
  match a with
  | .ok _ _ => s'
  | .refused _ _ | .network _ => if retried then s'.giveUp i else s'

/-- The end of the renewal, after which those who waited go on. -/
def renew (s : State ι D) (r : Renewal) : State ι D :=
  { s with
    tokens := r.pair.elim s.tokens Tokens.ofPair
    refreshing := false
    phase := fun i =>
      match s.phase i with
      | .waiting config =>
        r.pair.elim (.unrenewed config) fun pair => .renewed config pair.accessToken
      | p => p }

end State

/-! ### Steps -/

/-- What may happen next. New ids come with what needs them. Elsewhere in the application somebody
signs in or out. -/
inductive Event (ι D : Type)
  | send (i : ι) (config : Config) (traceId key : String)
  | answer (i : ι) (a : Answer D)
  | renewal (r : Renewal)
  | resume (i : ι) (traceId key : String)
  | signIn (pair : TokenPair)
  | signOut

variable {ι D : Type} [DecidableEq ι]

/-- What cannot happen changes nothing. -/
def step (s : State ι D) : Event ι D → State ι D
  | .send i config traceId key =>
    match s.phase i with
    | .idle => s.put i (.sent (interceptRequest s.tokens traceId key config) false)
    | _ => s
  | .answer i a =>
    match s.phase i with
    | .sent config retried => s.answer i config retried a
    | _ => s
  | .renewal r => if s.refreshing then s.renew r else s
  | .resume i traceId key =>
    match s.phase i with
    | .renewed config newToken =>
      let headers := { config.headers with authorization := some (bearer newToken) }
      s.put i (.sent (interceptRequest s.tokens traceId key { config with headers := headers }) true)
    | .unrenewed _ => s.giveUp i
    | _ => s
  | .signIn pair => { s with tokens := .ofPair pair }
  | .signOut => { s with tokens := .cleared }

/-- The state that a run leads to. -/
def run (tokens : Tokens) (events : List (Event ι D)) : State ι D :=
  events.foldl step (.start tokens)

@[simp] lemma run_nil (tokens : Tokens) : run tokens [] = (.start tokens : State ι D) := rfl

@[simp] lemma run_append_singleton (tokens : Tokens) (events : List (Event ι D)) (e : Event ι D) :
    run tokens (events ++ [e]) = step (run tokens events) e := by
  simp [run, List.foldl_append]

end CrossPilot.Frontend.Client
