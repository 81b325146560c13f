/-!
Records with named fields, read from values of any format.

A record reader lists the fields it knows and says how the record is built once they are
there.  A value with named entries is read in the order of the entries: the first entry that
holds a wrong value decides the error, then the first field that is missing.  A value without
names is read in the order of the fields.
-/

namespace Telemetry

variable {ν ε α β : Type}

structure Entries (ν ε : Type) where
  find? : String → Option ν
  missing : String → ε

/-- A reader of a record of type `α` from values of type `ν` with errors of type `ε`. -/
structure RecordReader (ν ε α : Type) where
  fields : List (String × (ν → Except ε Unit))
  build : Entries ν ε → Except ε α

namespace RecordReader

def constant (value : α) : RecordReader ν ε α := ⟨[], fun _ => .ok value⟩

def combine (first : RecordReader ν ε (α → β)) (second : RecordReader ν ε α) :
    RecordReader ν ε β where
  fields := first.fields ++ second.fields
  build := fun entries => do
    let make ← first.build entries
    let value ← second.build entries
    return make value

instance : Applicative (RecordReader ν ε) where
  pure := constant
  seq first second := combine first (second ())

def required (name : String) (decode : ν → Except ε α) : RecordReader ν ε α where
  fields := [(name, fun value => (decode value).map fun _ => ())]
  build := fun entries =>
    match entries.find? name with
    | some value => decode value
    | none => .error (entries.missing name)

def optional (name : String) (decode : ν → Except ε (Option α)) : RecordReader ν ε (Option α) where
  fields := [(name, fun value => (decode value).map fun _ => ())]
  build := fun entries =>
    match entries.find? name with
    | some value => decode value
    | none => .ok none

def names (reader : RecordReader ν ε α) : List String := reader.fields.map (·.1)

/-- Checks one entry; a name that is not a field's is ignored. -/
def checkEntry (reader : RecordReader ν ε α) (entry : String × ν) : Except ε Unit :=
  match reader.fields.find? (·.1 == entry.1) with
  | some field => field.2 entry.2
  | none => .ok ()

def readEntries (reader : RecordReader ν ε α) (missing : String → ε)
    (entries : List (String × ν)) : Except ε α := do
  entries.forM reader.checkEntry
  reader.build ⟨fun name => (entries.find? (·.1 == name)).map (·.2), missing⟩

/-- Reads a record from values in the order of the fields; further values are left alone. -/
def readItems (reader : RecordReader ν ε α) (missing : Nat → ε) (items : List ν) : Except ε α :=
  let entries := reader.names.zip items
  reader.build ⟨fun name => (entries.find? (·.1 == name)).map (·.2),
    fun name => missing (reader.names.idxOf name)⟩

end RecordReader

structure Format (ν ε : Type) where
  present? : ν → Option ν
  text : ν → Except ε String
  boolean : ν → Except ε Bool
  integer : ν → Except ε Int64
  /-- An unsigned 64-bit integer; the name says what it is for in an error. -/
  word : String → ν → Except ε Nat
  record : {α : Type} → String → RecordReader ν ε α → ν → Except ε α

def Format.nullable (format : Format ν ε) (decode : ν → Except ε α) (value : ν) :
    Except ε (Option α) :=
  match format.present? value with
  | some found => (decode found).map some
  | none => .ok none

end Telemetry
