import Telemetry.Log
import Telemetry.Number.Word
import Telemetry.Retry.Policy
/-!
Repeating an operation under a policy.

The operation is called until it succeeds, fails in a way that is not worth another attempt, asks
for a longer pause than allowed, or has used up its attempts.  The last outcome is the result.
-/

namespace Telemetry

inductive RetryEnd (ε α : Type) where
  | succeeded (value : α)
  | failed (failure : ε)
  /-- The pause after a failure did not come out as a span. -/
  | brokeDown
  deriving Repr

inductive NextStep where
  | giveUp
  | pause (length : Duration)
  | breakDown
  deriving DecidableEq, Repr

structure RetryRun (σ ε α : Type) where
  result : RetryEnd ε α
  state : σ
  calls : Nat
  pauses : List Duration
  log : List LogEvent

def nextStep (maxDelay : Duration) (backoff : Option Duration) (asked : Option Duration) :
    NextStep :=
  match backoff, asked with
  | none, _ => .breakDown
  | some computed, none => .pause computed
  | some computed, some wanted =>
      if maxDelay < wanted then .giveUp else .pause (computed.longer wanted)

def loggedMilliseconds (span : Duration) : Nat := span.milliseconds % Number.wordLimit

section Running

variable {σ ε α : Type} [Retryable ε]

def RetryRun.afterPause (attempt maxAttempts : Nat) (length : Duration) (run : RetryRun σ ε α) :
    RetryRun σ ε α :=
  { run with
    calls := run.calls + 1
    pauses := length :: run.pauses
    log := .retrying attempt maxAttempts (loggedMilliseconds length) :: run.log }

/-- Calls the operation with at most the given number of further attempts after this one.  The
pauses come from the given function of the attempt, counted from zero. -/
def retryFrom (policy : RetryPolicy) (backoff : Nat → Option Duration)
    (call : σ → Except ε α × σ) (attempt : Nat) : Nat → σ → RetryRun σ ε α
  | further, before =>
      match call before with
      | (.ok value, state) => ⟨.succeeded value, state, 1, [], []⟩
      | (.error failure, state) =>
          if !policy.shouldRetry failure then ⟨.failed failure, state, 1, [], []⟩
          else
            match further with
            | 0 =>
                ⟨.failed failure, state, 1, [], [.retriesExhausted attempt policy.attempts]⟩
            | left + 1 =>
                match nextStep policy.maxDelay (backoff (attempt - 1))
                    (Retryable.retryAfter failure) with
                | .giveUp =>
                    let asked := (Retryable.retryAfter failure).getD .zero
                    let warning := LogEvent.pauseTooLong (loggedMilliseconds asked)
                      (loggedMilliseconds policy.maxDelay)
                    ⟨.failed failure, state, 1, [], [warning]⟩
                | .breakDown => ⟨.brokeDown, state, 1, [], []⟩
                | .pause length =>
                    (retryFrom policy backoff call (attempt + 1) left state).afterPause attempt
                      policy.attempts length

def RetryPolicy.runWith (policy : RetryPolicy) (backoff : Nat → Option Duration)
    (call : σ → Except ε α × σ) (state : σ) : RetryRun σ ε α :=
  retryFrom policy backoff call 1 (policy.attempts - 1) state

def RetryPolicy.run (policy : RetryPolicy) (call : σ → Except ε α × σ) (state : σ) :
    RetryRun σ ε α :=
  policy.runWith policy.backoff? call state

end Running

def negativePauseMessage : String := "cannot convert float seconds to Duration: value is negative"

def longPauseMessage : String :=
  "cannot convert float seconds to Duration: value is either too big or NaN"

def RetryPolicy.breakdownMessage (policy : RetryPolicy) (attempt : Nat) : String :=
  if policy.backoffSeconds attempt < 0.0 then negativePauseMessage else longPauseMessage

end Telemetry
