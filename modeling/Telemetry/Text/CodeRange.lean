/-!
Sets of code points given as ascending ranges.
-/

namespace Telemetry.Text

def inRanges (ranges : List (Nat × Nat)) (character : Char) : Bool :=
  ranges.any fun (first, last) => first ≤ character.toNat && character.toNat ≤ last

end Telemetry.Text
