import Telemetry.Json.Basic
import Telemetry.Number.Shortest
import Telemetry.Number.Word
import Telemetry.Record
import Telemetry.Text.Quoted
/-!
Typed values from JSON.

An error says what was found and what was expected in its place.
-/

namespace Telemetry.Json

open Telemetry.Text Telemetry.Number

inductive DecodeError where
  | wrongType (found : Json) (expected : String)
  | wrongValue (found : Json) (expected : String)
  | unknownVariant (name : String) (known : List String)
  | missingField (name : String)
  | wrongLength (length : Nat) (expected : String)
  | noForm (type : String)

def describe : Json → String
  | .null => "null"
  | .boolean value => "boolean \x60" ++ (if value then "true" else "false") ++ "\x60"
  | .integer value => "integer \x60" ++ toString value ++ "\x60"
  | .decimal value => "floating point \x60" ++ floatText value ++ "\x60"
  | .text value => "string " ++ quoted value
  | .list _ => "sequence"
  | .object _ => "map"

def marked (name : String) : String := "\x60" ++ name ++ "\x60"

def DecodeError.message : DecodeError → String
  | .wrongType found expected => "invalid type: " ++ found.describe ++ ", expected " ++ expected
  | .wrongValue found expected => "invalid value: " ++ found.describe ++ ", expected " ++ expected
  | .unknownVariant name known =>
      "unknown variant " ++ marked name ++ ", expected one of " ++
        String.intercalate ", " (known.map marked)
  | .missingField name => "missing field " ++ marked name
  | .wrongLength length expected =>
      "invalid length " ++ toString length ++ ", expected " ++ expected
  | .noForm type => "data did not match any variant of untagged enum " ++ type

def elementCount (count : Nat) : String :=
  if count = 1 then "1 element" else toString count ++ " elements"

def decodeText : Json → Except DecodeError String
  | .text value => .ok value
  | found => .error (.wrongType found "a string")

def decodeBoolean : Json → Except DecodeError Bool
  | .boolean value => .ok value
  | found => .error (.wrongType found "a boolean")

/-- An integer from a range, which the name stands for in an error. -/
def decodeInteger (least most : Int) (name : String) : Json → Except DecodeError Int
  | .integer value =>
      if least ≤ value ∧ value ≤ most then .ok value else .error (.wrongValue (.integer value) name)
  | found => .error (.wrongType found name)

def decodeSigned (value : Json) : Except DecodeError Int64 :=
  (decodeInteger (-signedLimit) (signedLimit - 1) "i64" value).map Int64.ofInt

def decodeWord (name : String) (value : Json) : Except DecodeError Nat :=
  (decodeInteger 0 (wordLimit - 1) name value).map Int.toNat

/-- A record from an object or a list; the given error reports a list with more items than the
record has fields. -/
def decodeRecordWith {α : Type} (leftover : Nat → Nat → DecodeError) (name : String)
    (reader : RecordReader Json DecodeError α) : Json → Except DecodeError α
  | .object entries => reader.readEntries .missingField entries
  | .list items => do
      let count := reader.fields.length
      let shape := "struct " ++ name ++ " with " ++ elementCount count
      let record ← reader.readItems (fun index => .wrongLength index shape) items
      if count < items.length then .error (leftover items.length count)
      return record
  | found => .error (.wrongType found ("struct " ++ name))

def decodeRecord {α : Type} (name : String) (reader : RecordReader Json DecodeError α) :
    Json → Except DecodeError α :=
  decodeRecordWith (fun length _ => .wrongLength length "fewer elements in array") name reader

def decodeTaggedRecord {α : Type} (name : String) (reader : RecordReader Json DecodeError α) :
    Json → Except DecodeError α :=
  decodeRecordWith
    (fun length count => .wrongLength length (elementCount count ++ " in sequence")) name reader

/-- JSON as a format of records; null stands for no value. -/
def format : Format Json DecodeError where
  present? value := match value with | .null => none | _ => some value
  text := decodeText
  boolean := decodeBoolean
  integer := decodeSigned
  word := decodeWord
  record := decodeRecord

def decodeVariant {α : Type} (known : List (String × α)) (name : String) :
    Except DecodeError α :=
  match known.find? (·.1 == name) with
  | some variant => .ok variant.2
  | none => .error (.unknownVariant name (known.map (·.1)))

/-- A variant without contents: its name, or an object with only the name and no contents. -/
def decodeUnitVariant {α : Type} (known : List (String × α)) : Json → Except DecodeError α
  | .text name => decodeVariant known name
  | .object [(name, contents)] => do
      let variant ← decodeVariant known name
      match contents with
      | .null => return variant
      | found => .error (.wrongType found "unit")
  | .object entries => .error (.wrongValue (.object entries) "map with a single key")
  | found => .error (.wrongType found "string or map")

/-- A value of a type whose variants are told apart by a tag: the entry `type` of an object or
the first item of a list.  The rest of the value is read as the contents of the variant. -/
def decodeTagged {α β : Type} (name : String) (known : List (String × α))
    (contents : α → Json → Except DecodeError β) : Json → Except DecodeError β
  | .object entries =>
      match entries.find? (·.1 == "type") with
      | none => .error (.missingField "type")
      | some (_, .text tag) => do
          contents (← decodeVariant known tag) (.object (entries.filter (·.1 != "type")))
      | some (_, found) => .error (.wrongType found "variant identifier")
  | .list [] => .error (.missingField "type")
  | .list (.text tag :: items) => do contents (← decodeVariant known tag) (.list items)
  | .list (found :: _) => .error (.wrongType found "variant identifier")
  | found => .error (.wrongType found ("internally tagged enum " ++ name))

end Telemetry.Json
