/-!
The limits of 64-bit numbers.
-/

namespace Telemetry.Number

def wordLimit : Nat := 0x10000000000000000

/-- One more than the greatest number of a word with a sign, and the distance of its least number
from zero: sixty-three bits. -/
def signedLimit : Nat := 0x8000000000000000

end Telemetry.Number
