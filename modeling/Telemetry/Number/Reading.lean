/-!
The double nearest to a decimal.
-/

namespace Telemetry.Number

/-- Decimals of at least this many places before the point are beyond every double, and
decimals with as many zeros after the point are nearer to zero than to any other double. -/
def placeLimit : Nat := 400

/-- The double nearest to `digits * 10 ^ exponent`; infinite if the decimal is too great. -/
def nearestFloat (digits : Nat) (exponent : Int) : Float :=
  let places := (Nat.toDigits 10 digits).length + exponent
  if digits = 0 ∨ places < -placeLimit then 0.0
  else if places > placeLimit then 1.0 / 0.0
  else Float.ofScientific digits (exponent < 0) exponent.natAbs

end Telemetry.Number
