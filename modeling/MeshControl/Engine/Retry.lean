import MeshControl.Error

/-!
Bounded retry loops. A loop makes at most `maxAttempts` calls (always at least one for the
retrying loops, none for a poll with no attempts), sleeps between calls, and grows the sleep
by a factor up to a cap. Conflict retries give up on any other error; backoff retries give up
on errors that are not retriable; polls count errors as "not yet".
-/

namespace MeshControl

/-- Limits of a retry loop; delays in milliseconds. -/
structure RetryConfig where
  maxAttempts : Nat
  initialDelay : Nat
  maxDelay : Nat
  /-- Factor applied to the delay after each failed attempt. -/
  multiplier : Nat
  deriving Inhabited, Repr

namespace RetryConfig

/-- Five attempts, from 100 ms doubling up to 5 s. -/
def standard : RetryConfig := ⟨5, 100, 5000, 2⟩

/-- A number of attempts with the standard delays. -/
def withAttempts (n : Nat) : RetryConfig := { standard with maxAttempts := n }

/-- A number of attempts at a fixed interval. -/
def fixed (n interval : Nat) : RetryConfig := ⟨n, interval, interval, 1⟩

/-- The delay after one that has just been waited. -/
def nextDelay (c : RetryConfig) (delay : Nat) : Nat := min (delay * c.multiplier) c.maxDelay

end RetryConfig

section Loops

variable {m : Type → Type} [Monad m] [MonadExceptOf Error m]

/-- Calls `op` until it succeeds or fails with an error `retry` refuses, at most
`c.maxAttempts` times (at least once), sleeping between calls. -/
def retryWhile (retry : Error → Bool) (c : RetryConfig) (sleep : Nat → m Unit) (op : m α) : m α :=
  let rec go (delay : Nat) : Nat → m α
    | 0 => op
    | left + 1 =>
      tryCatch op fun e =>
        if retry e then do
          sleep delay
          go (c.nextDelay delay) left
        else throw e
  go c.initialDelay (c.maxAttempts - 1)

/-- Retries a call that conflicts with a concurrent write. -/
def retryOnConflict (c : RetryConfig) (sleep : Nat → m Unit) (op : m α) : m α :=
  retryWhile Error.isConflict c sleep op

/-- Retries a call that fails with a retriable error. -/
def retryWithBackoff (c : RetryConfig) (sleep : Nat → m Unit) (op : m α) : m α :=
  retryWhile Error.isRetriable c sleep op

/-- Calls `check` until it reports true, at most `c.maxAttempts` times, sleeping between
calls; an error counts as not ready. Whether the check was met. -/
def pollUntil (c : RetryConfig) (sleep : Nat → m Unit) (check : m Bool) : m Bool :=
  let rec go (attempt delay : Nat) : Nat → m Bool
    | 0 => pure false
    | left + 1 => do
      let ready ← tryCatch check fun _ => pure false
      if ready then return true
      if attempt < c.maxAttempts then sleep delay
      go (attempt + 1) (c.nextDelay delay) left
  go 1 c.initialDelay c.maxAttempts

end Loops

end MeshControl
