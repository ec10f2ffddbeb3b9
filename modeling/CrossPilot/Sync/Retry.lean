import Mathlib.Tactic

/-!
# Retries and dead letters

What is done after a platform has refused a call: wait and try again, refresh the token, give up, or
keep the task with its arguments as a dead letter for somebody to look at.
-/

namespace CrossPilot

/-- What the error of a platform says about trying again. -/
inductive RetryDecision
  | retry | retryAfter | refreshToken | failFast | deadLetter
  deriving DecidableEq

/-- What is done next. -/
inductive RetryAction
  | retry | deadLetter | fail | refresh
  deriving DecidableEq

structure RetryPlan where
  action : RetryAction
  delaySeconds : ℚ
  retryAttempt : ℕ
  refreshAttempted : Bool
  deriving DecidableEq

/-- The settings of the retries. There is at least one wait, and every wait is positive. -/
structure SyncPolicy where
  backoffSeconds : List ℕ := [1, 4, 16]
  jitterRatio : ℚ := 1 / 5
  backoff_ne : backoffSeconds ≠ [] := by decide
  backoff_pos : ∀ step ∈ backoffSeconds, 0 < step := by decide

/-- `_delay`. `uniform` is the draw of a random number between its arguments. -/
def delay (step : ℕ) (policy : SyncPolicy) (uniform : ℚ → ℚ → ℚ) : ℚ :=
  let spread := step * policy.jitterRatio
  step + uniform (-spread) spread

/-- What to do after a decision. `retryAttempt` waits were made before. -/
def planRetry (policy : SyncPolicy) (uniform : ℚ → ℚ → ℚ) (decision : RetryDecision)
    (retryAttempt : ℕ) (refreshAttempted : Bool) (retryAfterSeconds : Option ℚ := none) :
    RetryPlan :=
  match decision with
  | .deadLetter => ⟨.deadLetter, 0, retryAttempt, refreshAttempted⟩
  | .failFast => ⟨.fail, 0, retryAttempt, refreshAttempted⟩
  | .retryAfter =>
    let first : ℚ := policy.backoffSeconds.head policy.backoff_ne
    let wait := match retryAfterSeconds with
      | none => first
      | some seconds => if seconds < 0 then first else seconds
    ⟨.retry, wait, retryAttempt, refreshAttempted⟩
  | .refreshToken =>
    if refreshAttempted then ⟨.fail, 0, retryAttempt, true⟩ else ⟨.refresh, 0, retryAttempt, true⟩
  | .retry =>
    match policy.backoffSeconds[retryAttempt]? with
    | none => ⟨.deadLetter, 0, retryAttempt, refreshAttempted⟩
    | some step => ⟨.retry, delay step policy uniform, retryAttempt + 1, refreshAttempted⟩

/-- A task that is kept with its arguments. -/
structure DeadLetter where
  taskName : String
  tenantId : ℕ
  kwargs : List (String × String)
  error : String
  deriving DecidableEq

/-- How a store outside answers a change: it is done, it is done and the reply is lost, or the store
could not be reached. -/
inductive StoreAnswer
  | done | replyLost | unreachable
  deriving DecidableEq

def StoreAnswer.Written (answer : StoreAnswer) : Prop := answer ≠ .unreachable

instance (answer : StoreAnswer) : Decidable answer.Written :=
  inferInstanceAs (Decidable (answer ≠ .unreachable))

end CrossPilot
