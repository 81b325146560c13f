import Telemetry.Number.Seconds
/-!
When a failed delivery is tried again, and after what pause.

Pauses grow by a factor from attempt to attempt up to a limit.  If a failure carries a status,
the status decides whether another attempt is made; otherwise the failure itself says whether it
may pass.
-/

namespace Telemetry

class Retryable (ε : Type) where
  isTransient : ε → Bool
  status : ε → Option Nat
  retryAfter : ε → Option Duration

structure RetryPolicy where
  /-- All attempts, the first included; zero counts as one. -/
  maxAttempts : Nat := 3
  baseDelay : Duration := .ofMilliseconds 200
  /-- No pause is longer than this.  If a longer one is asked for, there is no further attempt. -/
  maxDelay : Duration := .ofSeconds 5
  factor : Float := 2.0
  jitter : Bool := true
  statuses : List Nat := [429, 408, 500, 502, 503, 504]

namespace RetryPolicy

def single : RetryPolicy := { maxAttempts := 1 }

def attempts (policy : RetryPolicy) : Nat := max policy.maxAttempts 1

def shouldRetry {ε : Type} [Retryable ε] (policy : RetryPolicy) (failure : ε) : Bool :=
  match Retryable.status failure with
  | some status => policy.statuses.contains status
  | none => Retryable.isTransient failure

/-- A power with a natural exponent, by repeated squaring. -/
def power (base : Float) (exponent : Nat) : Float := multiply 1.0 base exponent
where
  multiply (result base : Float) (exponent : Nat) : Float :=
    let next := if exponent % 2 = 1 then result * base else result
    if exponent < 2 then next else multiply next (base * base) (exponent / 2)
  termination_by exponent

def wordPower (base : Float) (exponent : Int32) : Float :=
  let whole := power base exponent.toInt.natAbs
  if exponent < 0 then 1.0 / whole else whole

/-- The seconds to wait after the failed attempt with the given number, counted from zero.  A
product that is no number counts as beyond the limit. -/
def backoffSeconds (policy : RetryPolicy) (attempt : Nat) : Float :=
  let grown := policy.baseDelay.toFloat * wordPower policy.factor (.ofNat attempt)
  let limit := policy.maxDelay.toFloat
  if grown < limit then grown else limit

/-- The pause after the failed attempt with the given number, counted from zero; none if the
factor makes it negative or longer than any span.  A spread pause is taken at the middle of its
range. -/
def backoff? (policy : RetryPolicy) (attempt : Nat) : Option Duration :=
  Duration.ofFloat? (policy.backoffSeconds attempt)

end RetryPolicy

end Telemetry
