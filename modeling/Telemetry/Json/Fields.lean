import Telemetry.Json.Basic
import Telemetry.Number.Word
/-!
Plain values inside JSON objects.

Every type has one form here, and a value of another form is not understood.  A field that is
null counts as absent.
-/

namespace Telemetry

class OfJson (α : Type) where
  ofJson? : Json → Option α

export OfJson (ofJson?)

instance : OfJson Json := ⟨some⟩

instance : OfJson String where
  ofJson?
    | .text value => some value
    | _ => none

instance : OfJson Bool where
  ofJson?
    | .boolean value => some value
    | _ => none

instance : OfJson Int where
  ofJson?
    | .integer value => if -Number.signedLimit ≤ value ∧ value < Number.signedLimit then some value else none
    | _ => none

instance : OfJson Nat where
  ofJson?
    | .integer value => if 0 ≤ value then some value.toNat else none
    | _ => none

instance {α : Type} [OfJson α] : OfJson (List α) where
  ofJson?
    | .list items => items.mapM ofJson?
    | _ => none

instance {α β : Type} [OfJson α] [OfJson β] : OfJson (α × β) where
  ofJson?
    | .list [first, second] => do return (← ofJson? first, ← ofJson? second)
    | _ => none

namespace Json

variable {α : Type} [OfJson α]

def get? (input : Json) (name : String) : Option (Option α) :=
  match input.field? name with
  | none | some .null => some none
  | some value => (ofJson? value).map some

def get (input : Json) (name : String) : Option α := do (← input.get? name)

def getD (input : Json) (name : String) (value : α) : Option α := do
  return (← input.get? name).getD value

def part (input : Json) (name : String) : Json :=
  match input.field? name with
  | none | some .null => .object []
  | some value => value

def items (input : Json) (name : String) : Option (List Json) := input.get name

def optionalItems (input : Json) (name : String) : Option (List Json) := input.getD name []

def word (input : Json) (name : String) : Option String := input.get name

end Json

end Telemetry
