import Telemetry.Duration
import Telemetry.Number.Shortest
/-!
Spans of time as floating point seconds.
-/

namespace Telemetry

open Telemetry.Number

/-- A quotient rounded to the nearest integer; a tie goes to the even one. -/
def roundQuotient (numerator denominator : Nat) : Nat :=
  let quotient := numerator / denominator
  let twice := 2 * (numerator % denominator)
  if denominator < twice ∨ (twice = denominator ∧ quotient % 2 = 1) then quotient + 1 else quotient

namespace Duration

def toFloat (span : Duration) : Float :=
  span.seconds.toFloat + span.fraction.toFloat / 1000000000.0

/-- The span that lasts the given seconds, rounded to the nearest nanosecond.  A negative number
of seconds is no span, and neither is one whose whole seconds are more than a 64-bit word. -/
def ofFloat? (seconds : Float) : Option Duration :=
  if seconds < 0.0 then none
  else if seconds < 18446744073709551616.0 then
    let value := Binary.ofBits seconds.toBits.toNat
    some ⟨roundQuotient (value.mantissa * 1000000000 * Nat.pow 2 value.exponent.toNat)
      (Nat.pow 2 (-value.exponent).toNat)⟩
  else none

end Duration

end Telemetry
