/-!
JSON values.

Numbers keep apart what a reader keeps apart: integers that fit a 64-bit word, signed or not,
and all other numbers.
-/

namespace Telemetry

inductive Json where
  | null
  | boolean (value : Bool)
  | integer (value : Int)
  | decimal (value : Float)
  | text (value : String)
  | list (items : List Json)
  | object (entries : List (String × Json))
  deriving Inhabited

namespace Json

/-- Adds an entry to entries in ascending order of their names; a later entry replaces an
earlier one of the same name. -/
def insertEntry (name : String) (value : Json) : List (String × Json) → List (String × Json)
  | [] => [(name, value)]
  | (other, kept) :: rest =>
      if name = other then (name, value) :: rest
      else if name < other then (name, value) :: (other, kept) :: rest
      else (other, kept) :: insertEntry name value rest

def ofEntries (entries : List (String × Json)) : Json :=
  .object (entries.foldl (fun sorted entry => insertEntry entry.1 entry.2 sorted) [])

def ofNat (number : Nat) : Json := .integer number

def ofOption (value : Option Json) : Json := value.getD .null

def field? (name : String) : Json → Option Json
  | .object entries => (entries.find? (·.1 == name)).map (·.2)
  | _ => none

end Json

class ToJson (α : Type) where
  toJson : α → Json

export ToJson (toJson)

instance {α : Type} [ToJson α] : CoeHead α Json := ⟨toJson⟩

instance : ToJson Json := ⟨id⟩

instance : ToJson String := ⟨.text⟩

instance : ToJson Nat := ⟨.ofNat⟩

instance : ToJson Bool := ⟨.boolean⟩

instance {α : Type} [ToJson α] : ToJson (List α) := ⟨fun items => .list (items.map toJson)⟩

instance {ε α : Type} [ToJson ε] [ToJson α] : ToJson (Except ε α) where
  toJson
    | .ok value => toJson value
    | .error fault => toJson fault

instance {α : Type} [ToJson α] : ToJson (Option α) := ⟨fun value => .ofOption (value.map toJson)⟩

end Telemetry
