import BoxOffice.Retry.Policy
import BoxOffice.Surroundings

/-!
# Trying again

An operation is tried again after a wait while its error is worth it and the policy allows it. The
answer is the first success, the first error that is not worth another try, or the last error.
-/

namespace BoxOffice

namespace RetryPolicy

variable {I : Interface} [Offers I Surroundings] {ε α : Type}

/-- Waits before further try number `attempt`. -/
def pause (p : RetryPolicy) (attempt : Nat) : Program I Unit := do
  let scale ← if p.jitter then some <$> Surroundings.draw else pure Option.none
  Surroundings.wait (p.delay attempt scale)

/-- Answers with a success; one that took more than a single try is counted. -/
def succeed (attempt : Nat) (a : α) : Program I (Except ε α) := do
  if attempt > 0 then
    Surroundings.count .retrySuccess
    Surroundings.note .retrySucceeded
  return .ok a

/-- Tries an operation after `attempt` failures, with `remaining` further tries allowed. -/
def retryAfter (p : RetryPolicy) (isRetryable : ε → Bool) (operation : Program I (Except ε α))
    (attempt remaining : Nat) : Program I (Except ε α) := do
  match ← operation with
  | .ok a => succeed attempt a
  | .error e =>
    if !isRetryable e then
      Surroundings.note .notRetryable
      return .error e
    else match remaining with
      | 0 =>
        Surroundings.count .retryExhausted
        Surroundings.note .retriesExhausted
        return .error e
      | remaining + 1 =>
        Surroundings.count .retryAttempt
        Surroundings.note .retrying
        p.pause attempt
        retryAfter p isRetryable operation (attempt + 1) remaining

/-- Tries an operation as often as the policy allows while its errors are worth another try. -/
def retry (p : RetryPolicy) (isRetryable : ε → Bool) (operation : Program I (Except ε α)) :
    Program I (Except ε α) :=
  p.retryAfter isRetryable operation 0 p.maxRetries.toNat

end RetryPolicy

end BoxOffice
