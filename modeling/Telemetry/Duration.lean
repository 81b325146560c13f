/-!
Spans of time, in whole nanoseconds.
-/

namespace Telemetry

structure Duration where
  nanoseconds : Nat
  deriving DecidableEq, Repr, Inhabited

namespace Duration

def zero : Duration := ⟨0⟩

def ofSeconds (seconds : Nat) : Duration := ⟨seconds * 1000000000⟩

def ofMilliseconds (milliseconds : Nat) : Duration := ⟨milliseconds * 1000000⟩

def seconds (span : Duration) : Nat := span.nanoseconds / 1000000000

def fraction (span : Duration) : Nat := span.nanoseconds % 1000000000

def milliseconds (span : Duration) : Nat := span.nanoseconds / 1000000

def isZero (span : Duration) : Bool := span.nanoseconds == 0

instance : LE Duration := ⟨fun first second => first.nanoseconds ≤ second.nanoseconds⟩

instance (first second : Duration) : Decidable (first ≤ second) :=
  inferInstanceAs (Decidable (first.nanoseconds ≤ second.nanoseconds))

instance : LT Duration := ⟨fun first second => first.nanoseconds < second.nanoseconds⟩

instance (first second : Duration) : Decidable (first < second) :=
  inferInstanceAs (Decidable (first.nanoseconds < second.nanoseconds))

def longer (first second : Duration) : Duration := if first < second then second else first

end Duration

end Telemetry
