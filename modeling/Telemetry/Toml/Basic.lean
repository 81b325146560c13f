import Telemetry.Record
/-!
TOML values.

Numbers with a fraction and points in time are kept as they are written: nothing here computes
with them.
-/

namespace Telemetry

inductive Toml where
  | text (value : String)
  | integer (value : Int)
  | decimal (written : String)
  | boolean (value : Bool)
  | moment (written : String)
  | list (items : List Toml)
  | table (entries : List (String × Toml))
  deriving Inhabited

namespace Toml

inductive Fault where
  | malformed
  deriving DecidableEq, Repr, Inhabited

def decodeText : Toml → Except Fault String
  | .text value => .ok value
  | _ => .error .malformed

def decodeBoolean : Toml → Except Fault Bool
  | .boolean value => .ok value
  | _ => .error .malformed

/-- A signed 64-bit integer; a document holds no others. -/
def decodeInteger : Toml → Except Fault Int64
  | .integer value => .ok (Int64.ofInt value)
  | _ => .error .malformed

def decodeWord (_ : String) : Toml → Except Fault Nat
  | .integer value => if 0 ≤ value then .ok value.toNat else .error .malformed
  | _ => .error .malformed

/-- A record from a table or a list.  A point in time has none of a record's fields. -/
def decodeRecord {α : Type} (_ : String) (reader : RecordReader Toml Fault α) :
    Toml → Except Fault α
  | .table entries => reader.readEntries (fun _ => .malformed) entries
  | .list items => reader.readItems (fun _ => .malformed) items
  | .moment _ => reader.readEntries (fun _ => .malformed) []
  | _ => .error .malformed

/-- TOML as a format of records; it has no way of saying that there is no value. -/
def format : Format Toml Fault where
  present? := some
  text := decodeText
  boolean := decodeBoolean
  integer := decodeInteger
  word := decodeWord
  record := decodeRecord

end Toml

end Telemetry
