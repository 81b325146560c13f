import Telemetry.Text.Blank
/-!
The headers of a message.

A header is a line: a name, a colon, and a value that may have blanks around it.
-/

namespace Telemetry

open Telemetry.Text

structure Header where
  name : List Char
  value : List Char
  deriving DecidableEq, Repr, Inhabited

def isHeaderControl (character : Char) : Bool :=
  (character.toNat < 0x20 && character != '\t') || character.toNat == 0x7F

def isHeaderText (text : String) : Bool := text.toList.all (!isHeaderControl ·)

def isPlainHeaderCharacter (character : Char) : Bool :=
  character == '\t' || (0x20 ≤ character.toNat && character.toNat < 0x7F)

def headerNameSigns : List Char :=
  ['!', '#', '$', '%', '&', '\'', '*', '+', '-', '.', '^', '_', '\x60', '|', '~']

def isHeaderNameCharacter (character : Char) : Bool :=
  character.isAlphanum || headerNameSigns.contains character

def trimSpaces (written : List Char) : List Char :=
  let isEdge := fun (character : Char) => character == ' ' || character == '\t'
  dropEndWhile isEdge (written.dropWhile isEdge)

def readHeader? (line : List Char) : Option Header := do
  let (name, value) ← splitFirst? ':' line
  if name.isEmpty || !name.all isHeaderNameCharacter || value.any isHeaderControl then none
  else some ⟨name.map Char.toLower, trimSpaces value⟩

/-- The lines of a text.  A carriage return before the end of a line belongs to that end. -/
def headLines (written : List Char) : List (List Char) :=
  match splitAll '\n' written with
  | [] => []
  | lines@(_ :: others) =>
      let ended := lines.take others.length
      let last := lines.drop others.length
      ended.map (fun line => if line.getLast? = some '\r' then line.dropLast else line) ++ last

/-- Reads headers that are written as names and values.  An empty line ends them. -/
def readHead? (headers : List (String × String)) : Option (List Header) :=
  let lines := headers.flatMap fun (name, value) =>
    headLines (name.toList ++ [':', ' '] ++ value.toList)
  (lines.takeWhile (!·.isEmpty)).mapM readHeader?

def headerValues (name : String) (headers : List Header) : List (List Char) :=
  (headers.filter (·.name == name.toList)).map (·.value)

end Telemetry
