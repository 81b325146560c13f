import Telemetry.Text.Blank
/-!
Paths of files and directories.

A path leads from the root of a disk from name to name.  It is kept as it is written: the names
`.` and `..` have their meaning only on the way, where what stands before them has to be a
directory.
-/

namespace Telemetry

open Telemetry.Text

structure Path where
  /-- The names between the slashes, without the empty ones. -/
  names : List String
  /-- A slash at the end asks for a directory. -/
  endsInSlash : Bool
  deriving DecidableEq, Repr, Inhabited

/-- Why a path leads nowhere, whatever the disk holds. -/
inductive PathFault where
  | nul
  | tooLong
  deriving DecidableEq, Repr, Inhabited

def longestName : Nat := 255

def longestPath : Nat := 4095

def isLongName (name : String) : Bool := longestName < name.utf8ByteSize

namespace Path

def ofText (text : String) : Path :=
  let names := (splitAll '/' text.toList).filter (!·.isEmpty)
  { names := names.map String.ofList, endsInSlash := text.toList.getLast? == some '/' }

def size (path : Path) : Nat :=
  path.names.foldl (fun bytes name => bytes + 1 + name.utf8ByteSize)
    (if path.endsInSlash then 1 else 0)

def fault? (path : Path) : Option PathFault :=
  if path.names.any (·.toList.contains '\x00') then some .nul
  else if longestPath < path.size then some .tooLong
  else none

/-- The last name, unless it stands for the place before it or the place above. -/
def lastName? (path : Path) : Option String :=
  path.names.getLast?.filter fun name => name != "." && name != ".."

def plainNames (path : Path) : List String := path.names.filter (· != ".")

/-- The name of the temporary file of a file: the ending after the last dot is replaced, unless the
dot stands first. -/
def temporaryName (name : String) : String :=
  let characters := name.toList
  let stem :=
    match splitFirst? '.' characters.reverse with
    | some (_, before) => if before.isEmpty then characters else before.reverse
    | none => characters
  String.ofList stem ++ ".tmp"

/-- The path of the temporary file beside a file.  A path that does not end in a name stands for
itself. -/
def temporary (path : Path) : Path :=
  let named := dropEndWhile (· == ".") path.names
  match ({ path with names := named } : Path).lastName? with
  | some name => { names := named.dropLast ++ [temporaryName name], endsInSlash := false }
  | none => path

end Path

end Telemetry
